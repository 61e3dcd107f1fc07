import MessageTemplate.Number.Digits

/-!
# Numeric specifiers

A specifier is one letter, small or capital, and an optional precision of at most 99, as in `N2` or
`x8`.

* `Specifier.parse`: the letter and the precision, or what is wrong with the text.
* `Specifier.Error.message`: how that is said.
-/

namespace MessageTemplate

/-- A letter and an optional precision. -/
structure Specifier where
  letter : Char
  precision : Option Nat
deriving DecidableEq, Repr

namespace Specifier

/-- Why a text is no specifier for a number. -/
inductive Error where
  /-- No letter and digits, or a letter that means nothing for the number. -/
  | unsupported
  /-- The precision is too large. -/
  | precisionOutOfRange
deriving DecidableEq, Repr

/-- What is wrong with the specifier `spec`, in words. -/
def Error.message (spec : String) : Error → String
  | .unsupported => "format specifier '" ++ spec ++ "' is not supported"
  | .precisionOutOfRange => "precision of '" ++ spec ++ "' is out of range"

/-- The greatest precision. -/
def maxPrecision : Nat := 99

/-- The letter and the precision of a specifier. -/
def parse (spec : String) : Except Error Specifier :=
  match spec.toList with
  | [] => .error .unsupported
  | letter :: digits =>
    if !letter.isAlpha || !digits.all Char.isDigit then .error .unsupported
    else if digits.isEmpty then .ok ⟨letter, none⟩
    else
      let precision := Nat.ofDigitChars 10 digits 0
      if precision ≤ maxPrecision then .ok ⟨letter, some precision⟩
      else .error .precisionOutOfRange

end Specifier

/-- What the letter of a specifier asks for. -/
inductive NumericForm where
  /-- Digits of a whole number, padded with zeros. -/
  | decimal
  /-- Hexadecimal digits, padded with zeros. -/
  | hex
  /-- A fixed number of decimal places. -/
  | fixed
  /-- Fixed places, and the whole part in groups of three digits. -/
  | grouped
  /-- The default text, after an optional rounding to some digits. -/
  | general
  /-- One digit, the decimal places, and an exponent. -/
  | exponent
  /-- Hundred times the value, in groups and with a percent sign. -/
  | percent
deriving DecidableEq, Repr

/-- The form a letter asks for, small or capital. -/
def NumericForm.ofLetter? (letter : Char) : Option NumericForm :=
  match letter.toUpper with
  | 'D' => some .decimal
  | 'X' => some .hex
  | 'F' => some .fixed
  | 'N' => some .grouped
  | 'G' => some .general
  | 'E' => some .exponent
  | 'P' => some .percent
  | _ => none

end MessageTemplate
