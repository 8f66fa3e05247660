import LeafPatch.CommandLine.Run

/-!
# The program

Reads what the command needs, lets it compute what to write, and writes that.
-/

namespace LeafPatch.CommandLine.Program

/-- The error that a number of the system stands for; some interfaces negate the number. -/
def fileErrorOfNumber (number : UInt32) (details : String) : FileError :=
  match min number (0 - number) with
  | 2 => .notFound
  | 20 => .notDirectory
  | 21 => .isDirectory
  | 36 => .nameTooLong
  | _ => .other details

/-- The error of a file operation. -/
def fileErrorOf (error : IO.Error) : FileError :=
  match error with
  | .noFileOrDirectory _ number details => fileErrorOfNumber number details
  | .inappropriateType _ number details => fileErrorOfNumber number details
  | .invalidArgument _ number details => fileErrorOfNumber number details
  | error => .other (toString error)

/-- The text that octets spell. -/
def textOf (octets : ByteArray) : Except FileError String :=
  match String.fromUTF8? octets with
  | some text => .ok text
  | none => .error .notText

/-- Reads the text from a source. -/
def readSource (source : Source) : IO (Except FileError String) := do
  try
    match source with
    | .file path => return textOf (← IO.FS.readBinFile path)
    | .standardInput =>
        let stream ← IO.getStdin
        let mut octets := ByteArray.empty
        let mut block ← stream.read 65536
        while !block.isEmpty do
          octets := octets ++ block
          block ← stream.read 65536
        return textOf octets
  catch error =>
    return .error (fileErrorOf error)

/-- Reads the texts from the sources that a comparison needs. -/
def readSources (arguments : Arguments) : IO Readable := do
  match arguments.sources, arguments.options with
  | .ok sources, .ok _ =>
      let stored ← readSource sources.stored
      let edited ←
        match stored with
        | .ok _ => readSource sources.edited
        | .error reason => pure (.error reason)
      return fun source => if source = sources.stored then stored else edited
  | _, _ => return fun _ => .error .notFound

/-- Writes a text to a file. -/
def writeFile (path text : String) : IO (Option FileError) := do
  try
    IO.FS.writeFile path text
    return none
  catch error =>
    return some (fileErrorOf error)

/-- Runs a comparison. -/
def compareDocuments (arguments : Arguments) : IO Outcome := do
  let readable ← readSources arguments
  match arguments.patch readable with
  | .error failure => return Outcome.ofFailure failure
  | .ok patch =>
      let writeError ←
        match arguments.output with
        | some path => writeFile path (arguments.render patch)
        | none => pure none
      return arguments.deliver patch writeError

/-- Shows an outcome. -/
def showOutcome (outcome : Outcome) : IO UInt32 := do
  IO.print outcome.standardOutput
  for message in outcome.message do
    IO.eprintln ("nodepatch: " ++ message)
  return outcome.exitCode.toUInt32

/-- Runs the program with its arguments and returns its exit code. -/
def run (arguments : List String) : IO UInt32 := do
  match Request.ofArguments arguments with
  | .error reason =>
      IO.eprintln ("error: " ++ reason.message)
      showOutcome usageOutcome
  | .ok .version => showOutcome (Outcome.ofText versionText)
  | .ok .help => showOutcome (Outcome.ofText helpText)
  | .ok (.compare arguments) => do
      showOutcome (← compareDocuments arguments)

end LeafPatch.CommandLine.Program

/-- Runs the program. -/
def main (arguments : List String) : IO UInt32 :=
  LeafPatch.CommandLine.Program.run arguments
