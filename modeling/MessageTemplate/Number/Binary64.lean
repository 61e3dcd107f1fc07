import MessageTemplate.Number.Digits

/-!
# Binary floating point of 64 bits

A finite value is `significand * 2 ^ shift` units, a unit being `2 ^ -1074`, the least positive
value. The form is canonical (`Canonical`): at most 53 bits, and all 53 unless the shift is zero.

* `Binary64.ofRatio`: the nearest value to a quotient of natural numbers; ties go to the even
  significand, and what is too large becomes infinite.
* `Binary64.mul`, `Binary64.div`: product and quotient, the exact result rounded once.
* `Binary64.equal`: numeric equality; zeros are equal whatever their sign, a NaN equals nothing.
-/

namespace MessageTemplate

/-- The significands and shifts of finite values. -/
def Canonical (significand shift : Nat) : Prop :=
  significand < Nat.pow 2 53 ∧ shift ≤ 2045 ∧ (shift = 0 ∨ Nat.pow 2 52 ≤ significand)

instance (significand shift : Nat) : Decidable (Canonical significand shift) :=
  inferInstanceAs (Decidable (_ ∧ _))

/-- A binary floating-point value. -/
inductive Binary64 where
  | nan
  | infinite (negative : Bool)
  | finite (negative : Bool) (significand shift : Nat) (canonical : Canonical significand shift)
deriving DecidableEq

namespace Binary64

/-- The number of units in one: the least positive value is its reciprocal. -/
def unit : Nat := Nat.pow 2 1074

/-- The value of the given sign, with a significand and its shift; infinite when there is no finite
one. -/
def ofParts (negative : Bool) (parts : Nat × Nat) : Binary64 :=
  if h : Canonical parts.1 parts.2 then .finite negative parts.1 parts.2 h else .infinite negative

/-- Zero of the given sign. -/
def zero (negative : Bool) : Binary64 := .finite negative 0 0 (by decide)

/-- The nearest significand of at most `bits` bits, and its shift, to `num / den` units. -/
def nearestParts (bits num den : Nat) : Nat × Nat :=
  let shift := Nat.log2 (num / den) + 1 - bits
  let significand := roundDiv num (den * Nat.pow 2 shift)
  if significand = Nat.pow 2 bits then (Nat.pow 2 (bits - 1), shift + 1) else (significand, shift)

/-- **One rounding.** The value nearest to `± num / den`. -/
def ofRatio (negative : Bool) (num den : Nat) : Binary64 :=
  ofParts negative (nearestParts 53 (num * unit) den)

/-- The value nearest to an integer. -/
def ofInt (n : Int) : Binary64 := ofRatio (n < 0) n.natAbs 1

/-- The number of units of 32-bit values in one. -/
def singleUnit : Nat := Nat.pow 2 149

/-- The value of the given sign, with a significand of 24 bits and its shift in units of 32-bit
values. Nothing is finite from `2 ^ 128` on. -/
def ofSingleParts (negative : Bool) (parts : Nat × Nat) : Binary64 :=
  if 253 < parts.2 then .infinite negative
  else ofRatio negative (parts.1 * Nat.pow 2 parts.2) singleUnit

/-- The value of `± num / den` after it is rounded to 24 bits. -/
def ofSingleRatio (negative : Bool) (num den : Nat) : Binary64 :=
  ofSingleParts negative (nearestParts 24 (num * singleUnit) den)

/-- The nearest value to `± digits * 10 ^ exponent`. The exponent is looked at first, since a
numeral may name one that is far out of range. -/
def ofDecimalBy (round : Nat → Nat → Binary64) (overflow : Binary64) (digits : Nat)
    (exponent : Int) : Binary64 :=
  if digits = 0 then round 0 1
  else
    let magnitude := digitCount digits + exponent
    if 400 < magnitude then overflow
    else if magnitude < -400 then round 0 1
    else if 0 ≤ exponent then round (digits * Nat.pow 10 exponent.toNat) 1
    else round digits (Nat.pow 10 (-exponent).toNat)

/-- The value nearest to `± digits * 10 ^ exponent`. -/
def ofDecimal (negative : Bool) (digits : Nat) (exponent : Int) : Binary64 :=
  ofDecimalBy (ofRatio negative) (.infinite negative) digits exponent

/-- Whether the value is neither infinite nor a NaN. -/
def isFinite : Binary64 → Bool
  | .finite .. => true
  | _ => false

/-- Whether the value is zero, of either sign. -/
def isZero : Binary64 → Bool
  | .finite _ significand _ _ => significand == 0
  | _ => false

/-- Whether the sign is set; a NaN has none. -/
def isNegative : Binary64 → Bool
  | .nan => false
  | .infinite negative => negative
  | .finite negative _ _ _ => negative

/-- Whether the value is less than zero. -/
def isBelowZero (x : Binary64) : Bool := x.isNegative && !x.isZero

/-- The value with the other sign. -/
def neg : Binary64 → Binary64
  | .nan => .nan
  | .infinite negative => .infinite !negative
  | .finite negative significand shift h => .finite (!negative) significand shift h

/-- Numeric equality. -/
def equal : Binary64 → Binary64 → Bool
  | .infinite a, .infinite b => a == b
  | .finite a m s _, .finite b n t _ => m == n && s == t && (a == b || m == 0)
  | _, _ => false

/-- The product, rounded once. -/
def mul : Binary64 → Binary64 → Binary64
  | .nan, _ | _, .nan => .nan
  | .infinite a, y => if y.isZero then .nan else .infinite (a != y.isNegative)
  | x, .infinite b => if x.isZero then .nan else .infinite (x.isNegative != b)
  | .finite a m s _, .finite b n t _ => ofRatio (a != b) (m * n * Nat.pow 2 (s + t)) (unit * unit)

/-- The quotient, rounded once. -/
def div : Binary64 → Binary64 → Binary64
  | .nan, _ | _, .nan => .nan
  | .infinite _, .infinite _ => .nan
  | .infinite a, y => .infinite (a != y.isNegative)
  | x, .infinite b => .zero (x.isNegative != b)
  | .finite a m s _, .finite b n t _ =>
    if n = 0 then if m = 0 then .nan else .infinite (a != b)
    else ofRatio (a != b) (m * Nat.pow 2 s) (n * Nat.pow 2 t)

end Binary64

end MessageTemplate
