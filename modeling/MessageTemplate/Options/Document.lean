import MessageTemplate.Options.Basic
import MessageTemplate.Toml.Reader

/-!
# Options in TOML

A document of options may have a `fallback` text, a `max_length`, and a `culture` table with a
`name`, a `decimal_separator` and a `group_separator`. Other entries mean nothing.

* `Culture.ofToml`, `Options.ofToml`: the culture or the options of a document.
* `OptionsError.message`, `FileError.message`: why there are none, in words.

An entry of the wrong kind is blamed at its value. A separator is blamed at the table it stands in.
-/

namespace MessageTemplate

/-- Why a file cannot be read. -/
inductive FileError where
  | notFound
  | isDirectory
  /-- The bytes are no UTF-8 text. -/
  | invalidText
  | other (message : String)
deriving DecidableEq, Repr

/-- The error in words. -/
def FileError.message : FileError → String
  | .notFound => "No such file or directory (os error 2)"
  | .isDirectory => "Is a directory (os error 21)"
  | .invalidText => "stream did not contain valid UTF-8"
  | .other message => message

/-- Why options cannot be read. -/
inductive OptionsError where
  /-- The file cannot be read. -/
  | unreadable (cause : FileError)
  /-- The text is no document of options. -/
  | malformed (cause : Toml.Error)
deriving DecidableEq, Repr

/-- The error in words. -/
def OptionsError.message : OptionsError → String
  | .unreadable cause => "Failed to read options file: " ++ cause.message
  | .malformed cause => "Failed to parse options TOML: " ++ cause.message

namespace Toml

/-- The text of an entry, if it is there; anything but a text is blamed at its place. -/
def text? (name : String) (entries : Entries) : Except Nat (Option String) :=
  match entries.find? name with
  | none => .ok none
  | some (_, .string s) => .ok (some s)
  | some (start, _) => .error start

/-- A separator: a text of one character, or `default` when there is none. -/
def separator (name : String) (default : Char) (blame : Nat) (entries : Entries) :
    Except Nat Char :=
  match entries.find? name with
  | none => .ok default
  | some (_, .string s) =>
    match s.toList with
    | [c] => .ok c
    | _ => .error blame
  | some _ => .error blame

/-- The culture that the entries of a table describe; the table begins at `start`. -/
def cultureOf (start : Nat) (entries : Entries) : Except Nat Culture := do
  let name ← text? "name" entries
  let decimal ← separator "decimal_separator" Separators.invariant.decimal start entries
  let group ← separator "group_separator" Separators.invariant.group start entries
  .ok ⟨name.getD "", ⟨decimal, group⟩⟩

/-- Takes an entry into options. -/
def applyEntry (options : Options) (name : String) (start : Nat) (item : Item) :
    Except Nat Options :=
  match name, item with
  | "fallback", .string s => .ok { options with fallback? := some s }
  | "fallback", _ => .error start
  | "max_length", .integer n =>
    if n.toInt < 0 then .error start else .ok { options with maxLength? := some n.toInt.toNat }
  | "max_length", _ => .error start
  | "culture", .table _ entries => do
    let culture ← cultureOf start entries
    .ok { options with provider? := some (.ofCulture culture) }
  | "culture", _ => .error start
  | _, _ => .ok options

/-- Takes entries into options, in order; the first wrong one is blamed. -/
def applyEntries (options : Options) : Entries → Except Nat Options
  | [] => .ok options
  | (name, start, item) :: rest => do
    applyEntries (← applyEntry options name start item) rest

end Toml

/-- Reads a document and takes a value from its entries. -/
def ofDocument {α : Type} (take : Toml.Entries → Except Nat α) (text : String) :
    Except Toml.Error α := do
  let entries ← Toml.read text
  (take entries).mapError (Toml.Error.ofOffset text.toList)

/-- The culture that a document describes. -/
def Culture.ofToml (text : String) : Except Toml.Error Culture :=
  ofDocument (Toml.cultureOf 0) text

/-- The options that a document describes. -/
def Options.ofToml (text : String) : Except OptionsError Options :=
  (ofDocument (Toml.applyEntries {}) text).mapError .malformed

end MessageTemplate
