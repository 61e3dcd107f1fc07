import MessageTemplate.Argument.Text
import MessageTemplate.Culture
import MessageTemplate.Text.CodePoints

/-!
# Serializers

A serializer writes structured values. The built-in one writes the members of an object as
`[name: value; …]`. Arrays are left out, and so are objects nested too deeply.

* `Serializer`: the built-in one with its depth, or a user's.
* `Serializer.memberTexts`: the members of an object that are written, each with its name.
* `Serializer.fieldsText`: the text of an argument by the built-in serializer.
-/

namespace MessageTemplate

/-- What writes structured values. -/
inductive Serializer where
  /-- Writes members, and those of objects nested at most `depth` deep. -/
  | fields (depth : Nat)
  /-- A user's: the provider, the format, the alignment and the value are given. -/
  | custom (run : FormatProvider → String → String → Argument → Except RenderError String)

namespace Serializer

/-- The serializer in use when none is given. -/
def standard : Serializer := .fields 1

/-- One character inside quotes: a control character becomes its code of four digits. -/
def escapeControl (c : Char) : List Char :=
  if isControl c then ['\\', 'u'] ++ (hexDigits c.toNat).leftpad 4 '0' else [c]

/-- A string between quotes. Quotes in it stay as they are. -/
def quotedText (s : String) : List Char := '"' :: s.toList.flatMap escapeControl ++ ['"']

/-- Members in brackets, with semicolons between. -/
def bracketed (members : List (List Char)) : List Char :=
  '[' :: [';', ' '].intercalate members ++ [']']

mutual

/-- The text of a member's value, if it is written; `depth` levels of objects may follow. -/
def valueText? (separators : Separators) (depth : Nat) : Json → Option (List Char)
  | .null => some ['n', 'u', 'l', 'l']
  | .bool b => some (boolText b).toList
  | .number (.real x) => some (localizePoint separators (x.numeral .json))
  | .number n => some n.text
  | .string s => some (quotedText s)
  | .array _ => none
  | .object members =>
    match depth with
    | 0 => none
    | depth + 1 => some (bracketed (memberTexts separators depth members))

/-- The members that are written, each with its name. -/
def memberTexts (separators : Separators) (depth : Nat) :
    List (String × Json) → List (List Char)
  | [] => []
  | (name, value) :: rest =>
    match valueText? separators depth value with
    | some text => (name.toList ++ ':' :: ' ' :: text) :: memberTexts separators depth rest
    | none => memberTexts separators depth rest

end

/-- The text of a whole value. An object is always written, an array never. -/
def documentText (separators : Separators) (depth : Nat) : Json → List Char
  | .object members => bracketed (memberTexts separators depth members)
  | .null => bracketed []
  | value => (valueText? separators depth value).getD []

/-- The text of an argument by the built-in serializer. -/
def fieldsText (separators : Separators) (depth : Nat) :
    Argument → Except RenderError String
  | .null => .ok ""
  | .record value => .ok (String.ofList (documentText separators depth value))
  | .custom value =>
    .ok (String.ofList (documentText separators depth (value.fields.getD .null)))
  | argument =>
    argument.display.map fun text => String.ofList (documentText separators depth (.string text))

/-- The text of an argument. -/
def serialize (serializer : Serializer) (provider : FormatProvider) (format lining : String)
    (value : Argument) : Except RenderError String :=
  match serializer with
  | .fields depth => fieldsText provider.separators depth value
  | .custom run => run provider format lining value

end Serializer

end MessageTemplate
