import LeafPatch.CommandLine.Arguments
import LeafPatch.Document.Reader
import LeafPatch.Patch.Draft
import LeafPatch.Patch.Text

/-!
# The command

The command reads two documents, the stored one and the edited one, and writes
the patch between them to a file or to the standard output.  It ends with the
code 0 if there are no operations, 1 if there are some, and 2 if something is
wrong; then nothing is written.

What the command does is a function of its arguments, of what can be read and
of whether its output can be written.
-/

namespace LeafPatch.CommandLine

/-- Why a file cannot be read or written. -/
inductive FileError where
  | notFound
  | isDirectory
  | notDirectory
  | nameTooLong
  | notText
  | other (text : String)
  deriving DecidableEq

namespace FileError

/-- The text of the error. -/
def message : FileError → String
  | notFound => "No such file or directory (os error 2)"
  | isDirectory => "Is a directory (os error 21)"
  | notDirectory => "Not a directory (os error 20)"
  | nameTooLong => "File name too long (os error 36)"
  | notText => "stream did not contain valid UTF-8"
  | other text => text

end FileError

/-- Where a document comes from. -/
inductive Source where
  | file (path : String)
  | standardInput
  deriving DecidableEq

namespace Source

/-- The name of a source in messages. -/
def name : Source → String
  | file path => path
  | standardInput => "STDIN"

end Source

/-- Why the command fails. -/
inductive Failure where
  | emptyPath
  | inputCount
  | basePath (reason : BasePathError)
  | unreadable (source : Source) (reason : FileError)
  | noDocument (source : Source) (reason : DocumentError)
  | refused (refusal : Incomplete)
  | unwritable (path : String) (reason : FileError)

namespace Failure

/-- The text of the error. -/
def message : Failure → String
  | emptyPath => "expected file path; got empty string"
  | inputCount => "expected SOURCE and optional TARGET"
  | basePath reason => "invalid --base-path: " ++ reason.message
  | unreadable source reason =>
      "failed to read " ++ source.name ++ ": " ++ reason.message
  | noDocument source reason =>
      "failed to parse " ++ source.name ++ ": " ++ reason.message
  | refused refusal => refusal.message
  | unwritable path reason =>
      "failed to write output to " ++ path ++ ": " ++ reason.message

end Failure

/-- What can be read. -/
abbrev Readable :=
  Source → Except FileError String

/-- The sources of the two documents. -/
structure Sources where
  stored : Source
  edited : Source

/-- A source with a path that is not empty. -/
def sourceOf (path : String) : Except Failure Source :=
  if path.isEmpty then .error .emptyPath else .ok (.file path)

namespace Arguments

/-- The sources of the documents; a single one is completed by the standard input. -/
def sources (arguments : Arguments) : Except Failure Sources :=
  match arguments.inputs with
  | [stored] => do
      let stored ← sourceOf stored
      return ⟨stored, .standardInput⟩
  | [stored, edited] => do
      let stored ← sourceOf stored
      let edited ← sourceOf edited
      return ⟨stored, edited⟩
  | _ => .error .inputCount

/-- The options of the comparison. -/
def options (arguments : Arguments) : Except Failure Options := do
  let options ←
    (Options.default.withBasePath (arguments.basePath.getD "")).mapError
      Failure.basePath
  let style :=
    if arguments.has .escapeKeys then Pointer.Style.escaped else .raw
  return (options.withPointerStyle style).withDateDetection
    (arguments.has .detectDates)

/-- The format of the documents. -/
def documentFormat (arguments : Arguments) : DocumentFormat :=
  if arguments.has .yaml then .yaml else .json

/-- The policy under which the patch is written. -/
def policy (arguments : Arguments) : SubmitPolicy :=
  if arguments.has .allowPartial then .allowPartial else .requireOk

/-- The patch as it is written. -/
def render (arguments : Arguments) (patch : Patch) : String :=
  match arguments.format.getD .json with
  | .json => patch.renderJson .full ++ "\n"
  | .strict => patch.renderJson .strict ++ "\n"
  | .text => patch.renderText (arguments.has .color)

/-- The text from a source. -/
def readText (readable : Readable) (source : Source) :
    Except Failure String :=
  (readable source).mapError (Failure.unreadable source)

/-- The document from the text of a source. -/
def readDocument
    (arguments : Arguments)
    (options : Options)
    (source : Source)
    (text : String) :
    Except Failure Document :=
  (Document.read arguments.documentFormat options.detectDates text).mapError
    (Failure.noDocument source)

/-- The patch between the two documents, if the policy lets it be written. -/
def patch
    (arguments : Arguments)
    (readable : Readable) :
    Except Failure Patch := do
  let sources ← arguments.sources
  let options ← arguments.options
  let storedText ← readText readable sources.stored
  let editedText ← readText readable sources.edited
  let stored ← arguments.readDocument options sources.stored storedText
  let edited ← arguments.readDocument options sources.edited editedText
  let patch := stored.patchTo edited options
  let _ ← (patch.submit arguments.policy).mapError Failure.refused
  return patch

end Arguments

/-- What the command leaves behind. -/
structure Outcome where
  exitCode : Nat
  standardOutput : String
  message : Option String
  /-- The path of the file that is written, and its content. -/
  written : Option (String × String)
  deriving DecidableEq

namespace Outcome

/-- The outcome of a failure: a message and nothing else. -/
def ofFailure (failure : Failure) : Outcome :=
  ⟨2, "", some failure.message, none⟩

/-- The outcome of writing to the standard output. -/
def ofText (text : String) : Outcome :=
  ⟨0, text, none, none⟩

/-- The code that says whether a patch has operations. -/
def codeOf (patch : Patch) : Nat :=
  if patch.isEmpty then 0 else 1

end Outcome

namespace Arguments

/-- Writes a patch; `writeError` is what goes wrong with the file for the output, if anything. -/
def deliver
    (arguments : Arguments)
    (patch : Patch)
    (writeError : Option FileError) :
    Outcome :=
  let text := arguments.render patch
  let exitCode := Outcome.codeOf patch
  match arguments.output with
  | none => ⟨exitCode, text, none, none⟩
  | some path =>
      match writeError with
      | none => ⟨exitCode, "", none, some (path, text)⟩
      | some reason => Outcome.ofFailure (.unwritable path reason)

/-- Runs a comparison; `writeError` says what goes wrong with writing to a file. -/
def run
    (arguments : Arguments)
    (readable : Readable)
    (writeError : String → Option FileError) :
    Outcome :=
  match arguments.patch readable with
  | .error failure => Outcome.ofFailure failure
  | .ok patch => arguments.deliver patch (arguments.output.bind writeError)

end Arguments

/-- The version of the program. -/
def version : String :=
  "0.1.0"

/-- What the program says about its version. -/
def versionText : String :=
  "nodepatch " ++ version ++ "\n"

/-- What the program says about its use. -/
def helpText : String :=
  "Compute patch operations between two node documents.\n\n"
    ++ "Usage: nodepatch [OPTIONS] SOURCE [TARGET]\n\n"
    ++ "Options:\n"
    ++ "  -f, --format <FORMAT>        Output format: json, strict or text\n"
    ++ "      --color                  Render text output using ANSI colors\n"
    ++ "  -o, --output <OUTPUT>        Write output to FILE instead of STDOUT\n"
    ++ "      --base-path <BASE_PATH>  Start of every emitted path\n"
    ++ "      --escape-keys            Escape ~ and / inside keys\n"
    ++ "      --detect-dates           Treat RFC 3339 timestamps as dates\n"
    ++ "      --yaml                   Read both inputs as YAML\n"
    ++ "      --allow-partial          Emit operations of incomplete patches\n"
    ++ "  -v, --verbose...             Increase log verbosity\n"
    ++ "  -h, --help                   Print help\n"
    ++ "  -V, --version                Print version\n"

/-- The outcome of wrong arguments, which is described apart from it. -/
def usageOutcome : Outcome :=
  ⟨2, "", none, none⟩

/-- The outcome of the program. -/
def outcome
    (arguments : List String)
    (readable : Readable)
    (writeError : String → Option FileError) :
    Outcome :=
  match Request.ofArguments arguments with
  | .error _ => usageOutcome
  | .ok .version => Outcome.ofText versionText
  | .ok .help => Outcome.ofText helpText
  | .ok (.compare arguments) => arguments.run readable writeError

end LeafPatch.CommandLine
