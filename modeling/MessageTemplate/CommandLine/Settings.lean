import MessageTemplate.Number.Digits

/-!
# Words of a command line

Words are read from the left. A word with two hyphens names an option, a word with one hyphen names
one or more by letters; the text of an option follows it behind an equals sign, in the same word or
as the next one. After two hyphens by themselves all words are operands. The first operand is the
template, the others are its arguments.

* `CommandLine.Settings`: what a command line asks for.
* `CommandLine.parse`: the settings, a request for help, or a misuse.
-/

namespace MessageTemplate.CommandLine

/-- What a command line asks for. -/
structure Settings where
  template : String
  arguments : List String
  config? : Option String
  fallback? : Option String
  maxLength? : Option Nat
  /-- Arguments are JSON texts. -/
  json : Bool
  /-- Relations are listed after the output. -/
  relations : Bool
  /-- The template is checked and not rendered. -/
  check : Bool
  /-- More is logged. -/
  verbose : Bool
deriving DecidableEq, Repr

/-- Options that take a text. -/
inductive TextOption where
  | config
  | fallback
  | maxLength
deriving DecidableEq, Repr

/-- Options without a text. -/
inductive Flag where
  | json
  | relations
  | check
  | verbose
  | help
deriving DecidableEq, Repr

/-- An option. -/
inductive Switch where
  | text (o : TextOption)
  | flag (f : Flag)
deriving DecidableEq, Repr

/-- The option of a long name. -/
def Switch.ofName? : String → Option Switch
  | "config" => some (.text .config)
  | "fallback" => some (.text .fallback)
  | "max-length" => some (.text .maxLength)
  | "json" => some (.flag .json)
  | "relations" => some (.flag .relations)
  | "check" => some (.flag .check)
  | "verbose" => some (.flag .verbose)
  | "help" => some (.flag .help)
  | _ => none

/-- The option of a letter. -/
def Switch.ofLetter? : Char → Option Switch
  | 'c' => some (.text .config)
  | 'f' => some (.text .fallback)
  | 'm' => some (.text .maxLength)
  | 'r' => some (.flag .relations)
  | 'v' => some (.flag .verbose)
  | 'h' => some (.flag .help)
  | _ => none

/-- What has been read of a command line. -/
structure Progress where
  operands : List String := []
  config? : Option String := none
  fallback? : Option String := none
  maxLength? : Option Nat := none
  flags : List Flag := []

/-- Why reading stops before the end. -/
inductive Stop where
  /-- Help is asked for. -/
  | help
  /-- The words make no command line. -/
  | misuse
deriving DecidableEq, Repr

namespace Progress

/-- Takes a flag, which may come only once. -/
def addFlag (p : Progress) (f : Flag) : Except Stop Progress :=
  if f = .help then .error .help
  else if p.flags.contains f then .error .misuse
  else .ok { p with flags := f :: p.flags }

/-- Takes the text of an option, which may come only once. -/
def addText (p : Progress) (o : TextOption) (text : String) : Except Stop Progress :=
  match o with
  | .config =>
    if p.config?.isSome || text.isEmpty then .error .misuse else .ok { p with config? := some text }
  | .fallback =>
    if p.fallback?.isSome then .error .misuse else .ok { p with fallback? := some text }
  | .maxLength =>
    match readUInt64? text.toList with
    | some n =>
      if p.maxLength?.isSome then .error .misuse else .ok { p with maxLength? := some n.toNat }
    | none => .error .misuse

/-- Takes an operand. -/
def addOperand (p : Progress) (word : String) : Progress :=
  { p with operands := p.operands ++ [word] }

/-- The settings, if there is a template. -/
def settings (p : Progress) : Except Stop Settings :=
  match p.operands with
  | [] => .error .misuse
  | template :: arguments =>
    .ok ⟨template, arguments, p.config?, p.fallback?, p.maxLength?, p.flags.contains .json,
      p.flags.contains .relations, p.flags.contains .check, p.flags.contains .verbose⟩

end Progress

/-- Reads a word with two hyphens, which are left out here. The result may be an option whose text
is the next word. -/
def readLong (p : Progress) (body : List Char) : Except Stop (Progress × Option TextOption) :=
  let name := String.ofList (body.takeWhile (· != '='))
  let text? := match body.dropWhile (· != '=') with
    | [] => none
    | _ :: text => some (String.ofList text)
  match Switch.ofName? name, text? with
  | some (.flag f), none => (p.addFlag f).map (·, none)
  | some (.text o), some text => (p.addText o text).map (·, none)
  | some (.text o), none => .ok (p, some o)
  | _, _ => .error .misuse

/-- Reads the letters of a word with one hyphen, which is left out here. -/
def readLetters (p : Progress) : List Char → Except Stop (Progress × Option TextOption)
  | [] => .ok (p, none)
  | c :: cs =>
    match Switch.ofLetter? c with
    | some (.flag f) => do readLetters (← p.addFlag f) cs
    | some (.text o) =>
      match cs with
      | [] => .ok (p, some o)
      | '=' :: text => (p.addText o (String.ofList text)).map (·, none)
      | text => (p.addText o (String.ofList text)).map (·, none)
    | none => .error .misuse

/-- Reads one word. A hyphen by itself is an operand. -/
def readWord (p : Progress) (word : String) : Except Stop (Progress × Option TextOption) :=
  match word.toList with
  | ['-'] => .ok (p.addOperand word, none)
  | '-' :: '-' :: body => readLong p body
  | '-' :: letters => readLetters p letters
  | _ => .ok (p.addOperand word, none)

/-- Whether a word may be the text of the option before it. -/
def isText (word : String) : Bool := word = "-" || word.toList.head? != some '-'

/-- Reads the words of a command line. -/
def readWords (p : Progress) : List String → Except Stop Progress
  | [] => .ok p
  | word :: words =>
    if word = "--" then .ok (words.foldl Progress.addOperand p)
    else match readWord p word with
      | .error stop => .error stop
      | .ok (p, none) => readWords p words
      | .ok (p, some o) =>
        match words with
        | [] => .error .misuse
        | text :: words =>
          if !isText text then .error .misuse
          else match p.addText o text with
            | .error stop => .error stop
            | .ok p => readWords p words

/-- The settings of a command line. -/
def parse (words : List String) : Except Stop Settings := do
  (← readWords {} words).settings

end MessageTemplate.CommandLine
