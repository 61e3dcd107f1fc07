import MessageTemplate.CommandLine.Settings
import MessageTemplate.Lint.Report
import MessageTemplate.Options.Document
import MessageTemplate.Render.Format

/-!
# Runs of the command line

* `CommandLine.Outcome`: the exit code and what is printed.
* `CommandLine.run`: the outcome of a command line, given how files are read.
-/

namespace MessageTemplate.CommandLine

/-- The exit code and what is printed. -/
structure Outcome where
  code : Nat
  stdout : String
  stderr : String
deriving DecidableEq, Repr

/-- How the program is called. -/
def usage : String := "Usage: tmplweave [OPTIONS] <TEMPLATE> [ARGS]...\n"

/-- What is printed when help is asked for. -/
def help : String :=
  "Format message templates from the command line\n\n" ++ usage ++ "\n" ++
  "Arguments:\n" ++
  "  <TEMPLATE>  Template text, e.g. \"Hello \x7bname\x7d, you have \x7bcount,3\x7d new messages\"\n" ++
  "  [ARGS]...   Arguments bound to the template holes\n\n" ++
  "Options:\n" ++
  "  -c, --config <CONFIG>          Options file (TOML format)\n" ++
  "  -f, --fallback <FALLBACK>      Text substituted for holes without a value\n" ++
  "  -m, --max-length <MAX_LENGTH>  Truncate output to this many characters\n" ++
  "      --json                     Parse arguments as JSON values\n" ++
  "  -r, --relations                Print the relation trace after the output\n" ++
  "      --check                    Lint the template; exit with status 1 when there are warnings\n" ++
  "  -v, --verbose                  Enable debug logging\n" ++
  "  -h, --help                     Print help\n"

/-- The arguments of a command line; JSON texts have to be well formed. -/
def argumentsOf (json : Bool) (words : List String) : Except JsonError (List Argument) :=
  if json then words.mapM fun word => (Json.read word).map Argument.ofJson
  else .ok (words.map Argument.infer)

/-- Options of a file. -/
def optionsOfFile (content : Except FileError String) : Except OptionsError Options :=
  match content with
  | .ok text => Options.ofToml text
  | .error cause => .error (.unreadable cause)

/-- Options of the command line win over those of the file. -/
def overrideOptions (settings : Settings) (options : Options) : Options :=
  { options with
    fallback? := settings.fallback? <|> options.fallback?
    maxLength? := settings.maxLength? <|> options.maxLength? }

/-- The name of the template in reports. -/
def sourceName : String := "template"

/-- The outcome of a check: its reports, if there are any. -/
def checkOutcome (template : String) (arguments : List Argument) : Outcome :=
  let warnings := Lint.check template (some (Argument.expand arguments).length)
  ⟨if warnings.isEmpty then 0 else 1, "",
    String.join (warnings.map fun w => w.report template sourceName)⟩

/-- The outcome of a rendering: the output and, if they are wanted, the relations. -/
def renderOutcome (settings : Settings) (options : Options) (arguments : List Argument) :
    Outcome :=
  let (text, relations) := (formatWithRelations options settings.template arguments).result
  let listing :=
    if settings.relations then relations.text :: relations.toList.map ("  " ++ ·.text) else []
  ⟨0, String.join ((text :: listing).map (· ++ "\n")), ""⟩

/-- The outcome of settings, given how files are read. -/
def runSettings (readFile : String → Except FileError String) (settings : Settings) : Outcome :=
  let loaded : Except String Options := match settings.config? with
    | none => .ok {}
    | some path => (optionsOfFile (readFile path)).mapError fun e =>
      "Error loading options '" ++ path ++ "': " ++ e.message
  match loaded with
  | .error message => ⟨1, "", message ++ "\n"⟩
  | .ok options =>
    match argumentsOf settings.json settings.arguments with
    | .error e => ⟨1, "", "Error parsing arguments: " ++ e.message ++ "\n"⟩
    | .ok arguments =>
      if settings.check then checkOutcome settings.template arguments
      else renderOutcome settings (overrideOptions settings options) arguments

/-- The outcome of a command line, given how files are read. -/
def run (readFile : String → Except FileError String) (words : List String) : Outcome :=
  match parse words with
  | .error .help => ⟨0, help, ""⟩
  | .error .misuse => ⟨2, "", usage⟩
  | .ok settings => runSettings readFile settings

end MessageTemplate.CommandLine
