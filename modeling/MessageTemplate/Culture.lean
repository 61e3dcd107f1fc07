import MessageTemplate.Argument.Basic

/-!
# Cultures and format providers

* `Culture`: a name and separators for numbers.
* `Formatter`: a user's way to write values in formats, used in place of the values' own.
* `FormatProvider`: separators, and a formatter if there is one.
-/

namespace MessageTemplate

/-- A name and separators for numbers. -/
structure Culture where
  name : String
  separators : Separators
deriving DecidableEq, Repr

/-- The culture without a name: a decimal point, and commas between groups. -/
def Culture.invariant : Culture := ⟨"", .invariant⟩

/-- A user's way to write values: the separators in use, the format and the value are given. -/
structure Formatter where
  run : Separators → String → Argument → Except RenderError String

/-- What numbers are separated by, and who writes values in formats. -/
structure FormatProvider where
  separators : Separators
  formatter? : Option Formatter

namespace FormatProvider

/-- The provider in use when none is given. -/
def invariant : FormatProvider := ⟨.invariant, none⟩

/-- The provider of a culture. Values are written in their own ways. -/
def ofCulture (culture : Culture) : FormatProvider := ⟨culture.separators, none⟩

end FormatProvider

end MessageTemplate
