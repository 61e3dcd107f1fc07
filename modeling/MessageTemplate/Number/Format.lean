import MessageTemplate.Number.Numeral
import MessageTemplate.Number.Specifier

/-!
# Formatted numbers

Numbers are written under a specifier and the separators of a culture.

* `formatInteger`: an integer in any of the seven forms.
* `formatFloat`: a floating-point value in the five forms that allow fractions.
-/

namespace MessageTemplate

/-- The separators of a culture: before decimal places and between groups of digits. -/
structure Separators where
  decimal : Char
  group : Char
deriving DecidableEq, Repr

/-- A decimal point, and commas between groups. -/
def Separators.invariant : Separators := ⟨'.', ','⟩

/-- A separator before every group of three digits, counted from the right. -/
def groupDigits (separator : Char) : List Char → List Char
  | [] => []
  | c :: cs =>
    if cs.length % 3 = 0 && !cs.isEmpty then c :: separator :: groupDigits separator cs
    else c :: groupDigits separator cs

/-- A point is written as the decimal separator. -/
def localizePoint (separators : Separators) (cs : List Char) : List Char :=
  cs.map fun c => if c = '.' then separators.decimal else c

/-- A sign, a whole part, grouped if asked for, and the places after it. -/
def assemble (separators : Separators) (grouped negative : Bool) (whole fraction : List Char) :
    List Char :=
  (if negative then ['-'] else []) ++
    (if grouped then groupDigits separators.group whole else whole) ++
    (if fraction.isEmpty then [] else separators.decimal :: fraction)

/-- A value with fixed places. A value that rounds to zero has no sign. -/
def fixedPlaces (separators : Separators) (grouped : Bool) (precision : Nat) (x : Binary64) :
    List Char :=
  let (whole, fraction) := match x with
    | .finite _ significand shift _ =>
      fixedDigits (significand * Nat.pow 2 shift) Binary64.unit precision
    | .infinite _ => (Binary64.numeral .plain (.infinite false), [])
    | .nan => (Binary64.numeral .plain .nan, [])
  let negative := x.isBelowZero && (whole ++ fraction).any fun c => c.isDigit && c != '0'
  assemble separators grouped negative whole fraction

/-- The `precision + 1` leading digits of a finite value and the exponent of the first. -/
def leadingDigits (precision : Nat) : Binary64 → Nat × Int
  | .finite _ significand shift _ =>
    scientificDigits (significand * Nat.pow 2 shift) Binary64.unit precision
  | _ => (0, 0)

/-- One digit, `precision` places, the letter, and an exponent of at least three digits with its
sign. -/
def exponentForm (separators : Separators) (precision : Nat) (letter : Char) (x : Binary64) :
    List Char :=
  let (digits, exponent) := leadingDigits precision x
  let ds := (decimalDigits digits).leftpad (precision + 1) '0'
  assemble separators false x.isNegative (ds.take 1) (ds.drop 1) ++
    [letter, if exponent < 0 then '-' else '+'] ++
    (decimalDigits exponent.natAbs).leftpad 3 '0'

/-- A value rounded to a number of digits; none and zero digits stand for the value itself. -/
def roundToDigits (precision : Option Nat) (x : Binary64) : Binary64 :=
  match precision with
  | some (places + 1) =>
    let (digits, exponent) := leadingDigits places x
    Binary64.ofDecimal x.isNegative digits (exponent - places)
  | _ => x

/-- The places of fixed, grouped and percent forms without a precision. -/
def defaultPlaces : Nat := 2

/-- The places of the exponent form without a precision. -/
def defaultExponentPlaces : Nat := 6

/-- A floating-point value under a parsed specifier. -/
def formatFloatBy (separators : Separators) (spec : Specifier) (x : Binary64) :
    Except Specifier.Error (List Char) :=
  let places := spec.precision.getD defaultPlaces
  match NumericForm.ofLetter? spec.letter with
  | none | some .decimal | some .hex => .error .unsupported
  | some form =>
    if !x.isFinite then .ok (x.numeral .plain)
    else match form with
      | .fixed => .ok (fixedPlaces separators false places x)
      | .grouped => .ok (fixedPlaces separators true places x)
      | .percent =>
        .ok (fixedPlaces separators true places (x.mul (.ofInt 100)) ++ [' ', '%'])
      | .exponent =>
        .ok (exponentForm separators (spec.precision.getD defaultExponentPlaces) spec.letter x)
      | _ => .ok (localizePoint separators ((roundToDigits spec.precision x).numeral .plain))

/-- An integer under a parsed specifier. -/
def formatIntegerBy (separators : Separators) (spec : Specifier) (n : Int) :
    Except Specifier.Error (List Char) :=
  let places := spec.precision.getD defaultPlaces
  match NumericForm.ofLetter? spec.letter with
  | none => .error .unsupported
  | some .decimal =>
    .ok ((if n < 0 then ['-'] else []) ++
      (decimalDigits n.natAbs).leftpad (spec.precision.getD 0) '0')
  | some .hex =>
    let digits := hexDigits (n % UInt64.size).toNat
    .ok ((if spec.letter = 'X' then digits.map Char.toUpper else digits).leftpad
      (spec.precision.getD 0) '0')
  | some .fixed =>
    .ok (assemble separators false (n < 0) (decimalDigits n.natAbs) (List.replicate places '0'))
  | some .grouped =>
    .ok (assemble separators true (n < 0) (decimalDigits n.natAbs) (List.replicate places '0'))
  | some .general =>
    if spec.precision.isNone then .ok (integerText n)
    else formatFloatBy separators spec (.ofInt n)
  | some .exponent | some .percent => formatFloatBy separators spec (.ofInt n)

/-- **Integers.** Negative numbers have the hexadecimal digits of their 64-bit complement. -/
def formatInteger (separators : Separators) (spec : String) (n : Int) :
    Except Specifier.Error String := do
  let spec ← Specifier.parse spec
  return String.ofList (← formatIntegerBy separators spec n)

/-- **Floating point.** A value that is not finite is written as a word. -/
def formatFloat (separators : Separators) (spec : String) (x : Binary64) :
    Except Specifier.Error String := do
  let spec ← Specifier.parse spec
  return String.ofList (← formatFloatBy separators spec x)

end MessageTemplate
