import MessageTemplate.Text.Printable

/-!
# Quoted text

The form in which values show strings and characters: between quotes, with a backslash before the
quote and the backslash, short escapes for a few control characters, and `\u{…}` with the code in
hexadecimal for whatever could not be seen.

* `quoted`: a string between double quotes.
* `quotedChar`: a character between single quotes.
* `boolText`: the words for truth values.
-/

namespace MessageTemplate

/-- The escape `\u{…}` of a character. -/
def codeEscape (c : Char) : List Char :=
  ['\\', 'u', '{'] ++ Nat.toDigits 16 c.toNat ++ ['}']

/-- One character inside quotes; `quote` is the quote in use. -/
def escapeChar (quote : Char) (c : Char) : List Char :=
  if c = '\x00' then ['\\', '0']
  else if c = '\t' then ['\\', 't']
  else if c = '\r' then ['\\', 'r']
  else if c = '\n' then ['\\', 'n']
  else if c = '\\' || c = quote then ['\\', c]
  else if extendsGrapheme c || !isPrintable c then codeEscape c
  else [c]

/-- A string between double quotes. -/
def quoted (s : String) : String :=
  String.ofList ('"' :: s.toList.flatMap (escapeChar '"') ++ ['"'])

/-- A character between single quotes. -/
def quotedChar (c : Char) : String :=
  String.ofList ('\'' :: escapeChar '\'' c ++ ['\''])

/-- The word for a truth value. -/
def boolText (b : Bool) : String := if b then "true" else "false"

end MessageTemplate
