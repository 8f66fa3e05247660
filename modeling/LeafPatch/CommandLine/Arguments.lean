/-!
# Arguments of the command line

Arguments are options, which start with a hyphen, and inputs.  Options have a
long name and some a letter as well; letters can be written together behind one
hyphen.  The value of an option is the argument after it or stands behind an
equals sign; behind a letter it can follow directly.  After two hyphens alone
everything is an input.

Arguments are read one after the other, and the first one that is wrong decides.
The request for the version or for help counts as soon as it is reached.
-/

namespace LeafPatch.CommandLine

/-- How a patch is written. -/
inductive OutputFormat where
  | json
  | strict
  | text
  deriving DecidableEq

namespace OutputFormat

/-- All formats. -/
def all : List OutputFormat :=
  [json, strict, text]

/-- The name of a format as a value. -/
def name : OutputFormat → String
  | json => "json"
  | strict => "strict"
  | text => "text"

end OutputFormat

/-- Options that have a value. -/
inductive Setting where
  | format
  | output
  | basePath
  deriving DecidableEq

/-- Options that are there or not. -/
inductive Switch where
  | color
  | escapeKeys
  | detectDates
  | yaml
  | allowPartial
  deriving DecidableEq

/-- All options. -/
inductive Flag where
  | setting (setting : Setting)
  | switch (switch : Switch)
  | verbose
  | version
  | help
  deriving DecidableEq

namespace Flag

/-- The option with a long name. -/
def ofName? : String → Option Flag
  | "format" => some (setting .format)
  | "output" => some (setting .output)
  | "base-path" => some (setting .basePath)
  | "color" => some (switch .color)
  | "escape-keys" => some (switch .escapeKeys)
  | "detect-dates" => some (switch .detectDates)
  | "yaml" => some (switch .yaml)
  | "allow-partial" => some (switch .allowPartial)
  | "verbose" => some verbose
  | "version" => some version
  | "help" => some help
  | _ => none

/-- The option with a letter. -/
def ofLetter? : Char → Option Flag
  | 'f' => some (setting .format)
  | 'o' => some (setting .output)
  | 'v' => some verbose
  | 'V' => some version
  | 'h' => some help
  | _ => none

end Flag

/-- What the arguments say. -/
structure Arguments where
  format : Option OutputFormat
  output : Option String
  basePath : Option String
  switches : List Switch
  verbosity : Nat
  /-- The names of the files, source first. -/
  inputs : List String

namespace Arguments

/-- No arguments. -/
def empty : Arguments :=
  ⟨none, none, none, [], 0, []⟩

/-- Whether a switch is there. -/
def has (arguments : Arguments) (switch : Switch) : Bool :=
  arguments.switches.contains switch

end Arguments

/-- What is wrong with arguments. -/
inductive UsageError where
  | unknownOption (argument : String)
  | unexpectedValue (argument : String)
  | missingValue (argument : String)
  | invalidValue (value : String)
  | repeated (argument : String)
  | tooManyInputs (argument : String)
  | noInput
  deriving DecidableEq

namespace UsageError

/-- The text of the error. -/
def message : UsageError → String
  | unknownOption argument => "unexpected argument: " ++ argument
  | unexpectedValue argument => "unexpected value: " ++ argument
  | missingValue argument => "missing value: " ++ argument
  | invalidValue value => "invalid value: " ++ value
  | repeated argument => "given more than once: " ++ argument
  | tooManyInputs argument => "unexpected input: " ++ argument
  | noInput => "missing input"

end UsageError

/-- What the arguments ask for. -/
inductive Request where
  | compare (arguments : Arguments)
  | version
  | help

/-- The arguments so far, and how many inputs in a row came last. -/
structure Reading where
  arguments : Arguments
  inputsInRow : Nat

/-- What an argument leads to. -/
inductive Step where
  | goOn (reading : Reading)
  /-- The value of a setting is expected next. -/
  | awaitValue (setting : Setting) (reading : Reading)
  /-- Nothing more is read. -/
  | stop (request : Request)

namespace Reading

/-- Nothing read yet. -/
def start : Reading :=
  ⟨Arguments.empty, 0⟩

/-- How many inputs may come in a row. -/
def inputLimit : Nat :=
  2

/-- Takes up an input. -/
def addInput (reading : Reading) (input : String) :
    Except UsageError Reading :=
  if reading.inputsInRow < inputLimit then
    .ok
      { arguments :=
          { reading.arguments with
            inputs := reading.arguments.inputs ++ [input] }
        inputsInRow := reading.inputsInRow + 1 }
  else
    .error (.tooManyInputs input)

/-- The arguments with a setting; a setting is given once. -/
def applySetting
    (arguments : Arguments)
    (setting : Setting)
    (value : String) :
    Except UsageError Arguments :=
  match setting with
  | .format =>
      match OutputFormat.all.find? (·.name == value) with
      | none => .error (.invalidValue value)
      | some format =>
          if arguments.format.isSome then .error (.repeated value)
          else .ok { arguments with format := some format }
  | .output =>
      if value.isEmpty then .error (.invalidValue value)
      else if arguments.output.isSome then .error (.repeated value)
      else .ok { arguments with output := some value }
  | .basePath =>
      if arguments.basePath.isSome then .error (.repeated value)
      else .ok { arguments with basePath := some value }

/-- Takes up a setting. -/
def set (reading : Reading) (setting : Setting) (value : String) :
    Except UsageError Reading := do
  let arguments ← applySetting reading.arguments setting value
  return ⟨arguments, 0⟩

/-- Takes up a switch; a switch is given once. -/
def turnOn (reading : Reading) (switch : Switch) (argument : String) :
    Except UsageError Reading :=
  if reading.arguments.has switch then
    .error (.repeated argument)
  else
    .ok
      { arguments :=
          { reading.arguments with
            switches := switch :: reading.arguments.switches }
        inputsInRow := 0 }

/-- Takes up the wish for more messages. -/
def louder (reading : Reading) : Reading :=
  { arguments :=
      { reading.arguments with
        verbosity := reading.arguments.verbosity + 1 }
    inputsInRow := 0 }

/-- Takes up an option that has no value with it. -/
def takeFlag (reading : Reading) (flag : Flag) (argument : String) :
    Except UsageError Step :=
  match flag with
  | .setting setting => .ok (.awaitValue setting reading)
  | .switch switch => (reading.turnOn switch argument).map .goOn
  | .verbose => .ok (.goOn reading.louder)
  | .version => .ok (.stop .version)
  | .help => .ok (.stop .help)

/-- Takes up an option given by its long name, perhaps with a value behind an equals sign. -/
def takeLong (reading : Reading) (argument : List Char) :
    Except UsageError Step :=
  let shown := String.ofList argument
  let name := String.ofList (argument.takeWhile (· != '='))
  match Flag.ofName? name, argument.dropWhile (· != '=') with
  | none, _ => .error (.unknownOption shown)
  | some flag, [] => reading.takeFlag flag shown
  | some (.setting setting), _ :: value =>
      (reading.set setting (String.ofList value)).map .goOn
  | some _, _ => .error (.unexpectedValue shown)

/-- The value that directly follows a letter, without the equals sign it may start with. -/
def attachedValue (text : List Char) : String :=
  match text with
  | '=' :: value => String.ofList value
  | value => String.ofList value

/-- Takes up options given by letters. -/
def takeLetters : Reading → List Char → Except UsageError Step
  | reading, [] => .ok (.goOn reading)
  | reading, letter :: rest =>
      match Flag.ofLetter? letter with
      | none => .error (.unknownOption (String.singleton letter))
      | some (.setting setting) =>
          if rest.isEmpty then
            .ok (.awaitValue setting reading)
          else
            (reading.set setting (attachedValue rest)).map .goOn
      | some .verbose => takeLetters reading.louder rest
      | some flag => reading.takeFlag flag (String.singleton letter)

/-- Whether an argument is an option and no input or value. -/
def isOption (argument : String) : Bool :=
  match argument.toList with
  | '-' :: _ :: _ => true
  | _ => false

/-- Takes up an argument other than two hyphens alone. -/
def take (reading : Reading) (argument : String) : Except UsageError Step :=
  match argument.toList with
  | '-' :: '-' :: name => reading.takeLong name
  | '-' :: letter :: rest => reading.takeLetters (letter :: rest)
  | _ => (reading.addInput argument).map .goOn

/-- What has been read asks for a comparison, which needs an input. -/
def finish (reading : Reading) : Except UsageError Request :=
  if reading.arguments.inputs.isEmpty then
    .error .noInput
  else
    .ok (.compare reading.arguments)

/-- Reads arguments, all of which are inputs. -/
def readInputs (reading : Reading) (arguments : List String) :
    Except UsageError Request := do
  let reading ← arguments.foldlM addInput reading
  reading.finish

/-- Reads arguments. -/
def read : Reading → List String → Except UsageError Request
  | reading, [] => reading.finish
  | reading, argument :: rest =>
      if argument = "--" then
        reading.readInputs rest
      else
        match reading.take argument, rest with
        | .error reason, _ => .error reason
        | .ok (.stop request), _ => .ok request
        | .ok (.goOn reading), rest => read reading rest
        | .ok (.awaitValue _ _), [] => .error (.missingValue argument)
        | .ok (.awaitValue setting reading), value :: rest =>
            if isOption value then
              .error (.missingValue argument)
            else
              match reading.set setting value with
              | .error reason => .error reason
              | .ok reading => read reading rest

end Reading

/-- Reads the arguments of the command line. -/
def Request.ofArguments (arguments : List String) :
    Except UsageError Request :=
  Reading.start.read arguments

end LeafPatch.CommandLine
