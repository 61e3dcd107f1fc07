import MessageTemplate.CommandLine.Run

/-!
# The program

* `main`: reads the options file that the command line names, runs the command line, and prints.
-/

namespace MessageTemplate

/-- Why the system could not read a file. -/
def fileErrorOf : IO.Error → FileError
  | .noFileOrDirectory .. => .notFound
  | .inappropriateType .. => .isDirectory
  | e => .other (toString e)

/-- The content of a text file. -/
def readTextFile (path : String) : IO (Except FileError String) := do
  try
    let bytes ← IO.FS.readBinFile path
    match String.fromUTF8? bytes with
    | some text => return .ok text
    | none => return .error .invalidText
  catch e => return .error (fileErrorOf e)

end MessageTemplate

open MessageTemplate in
/-- The program. -/
def main (words : List String) : IO UInt32 := do
  let content ← match CommandLine.parse words with
    | .ok settings =>
      match settings.config? with
      | some path => readTextFile path
      | none => pure (.error .notFound)
    | .error _ => pure (.error .notFound)
  let outcome := CommandLine.run (fun _ => content) words
  IO.print outcome.stdout
  IO.eprint outcome.stderr
  return outcome.code.toUInt32
