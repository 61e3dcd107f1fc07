import MessageTemplate.Number.Binary64

/-!
# Numerals of floating-point values

A value is written in decimal in three ways: with the fewest digits that read back as the value,
with a fixed number of places, or in scientific form with a fixed number of digits. The last two
round the exact value, a half going to the even digit.

* `shortestDigits`: the fewest digits of a number inside the interval that rounds to a value.
* `Numeral.Style`: the decisions of a notation, such as where its positional form ends.
* `Binary64.numeral`: the shortest numeral of a value in a style.
* `fixedDigits`, `scientificDigits`: the digits of the two rounded forms.
* `Binary64.read?`: the value nearest to a numeral.
-/

namespace MessageTemplate

/-- The exponent of the leading digit of `num / den`, that is, the `k` with
`10 ^ k ≤ num / den < 10 ^ (k + 1)`; both parts are positive. -/
def leadingExponent (num den : Nat) : Int :=
  if den ≤ num then digitCount (num / den) - 1 else -(digitCount ((den - 1) / num))

/-- `num / den * 10 ^ places` as a quotient of natural numbers. -/
def scaleTen (num den : Nat) (places : Int) : Nat × Nat :=
  if 0 ≤ places then (num * Nat.pow 10 places.toNat, den)
  else (num, den * Nat.pow 10 (-places).toNat)

/-- How to choose between two equally near digits. -/
inductive Tie where
  | up
  | even
deriving DecidableEq, Repr

/-- The interval of the numbers that round to a value, and the value itself, over one denominator.
The ends belong to the interval if `closed` is set. -/
structure RoundingInterval where
  low : Nat
  value : Nat
  high : Nat
  den : Nat
  closed : Bool
deriving Repr

namespace RoundingInterval

/-- Whether a point lies between `low` and `high`, ends included if `closed` is set. -/
def within (closed : Bool) (low high point : Nat) : Bool :=
  if closed then low ≤ point && point ≤ high else low < point && point < high

/-- The point of the interval on the grid of multiples of `10 ^ exponent` that is nearest to the
value, if one of the value's two neighbours on that grid lies in the interval. -/
def gridPoint? (tie : Tie) (i : RoundingInterval) (exponent : Int) : Option Nat :=
  let den := if 0 ≤ exponent then i.den * Nat.pow 10 exponent.toNat else i.den
  let factor := if 0 ≤ exponent then 1 else Nat.pow 10 (-exponent).toNat
  let below := i.value * factor / den
  let rest := i.value * factor % den
  let holds := fun d => within i.closed (i.low * factor) (i.high * factor) (d * den)
  match holds below, holds (below + 1) with
  | true, true =>
    if 2 * rest < den then some below
    else if den < 2 * rest then some (below + 1)
    else match tie with
      | .up => some (below + 1)
      | .even => some (below + below % 2)
  | true, false => some below
  | false, true => some (below + 1)
  | false, false => none

end RoundingInterval

/-- The shortest point of the interval, tried with `count` digits, then with one more, and so on;
`top` is the exponent of the value's leading digit. The result is a digit string as a number and
the exponent of its last digit. -/
def shortestFrom (tie : Tie) (i : RoundingInterval) (top : Int) : Nat → Nat → Nat × Int
  | 0, count =>
    let (num, den) := scaleTen i.value i.den (count - 1 - top)
    (roundDiv num den, top + 1 - count)
  | more + 1, count =>
    match i.gridPoint? tie (top + 1 - count) with
    | some digits => (digits, top + 1 - count)
    | none => shortestFrom tie i top more (count + 1)

/-- The fewest digits of a number in the interval. Seventeen are always enough. -/
def shortestDigits (tie : Tie) (i : RoundingInterval) : Nat × Int :=
  shortestFrom tie i (leadingExponent i.value i.den) 17 1

/-- The digits of `num / den` with the given number of decimal places: the part before the point
and the part after it. -/
def fixedDigits (num den places : Nat) : List Char × List Char :=
  let n := roundDiv (num * Nat.pow 10 places) den
  (decimalDigits (n / Nat.pow 10 places),
    if places = 0 then [] else (decimalDigits (n % Nat.pow 10 places)).leftpad places '0')

/-- The `precision + 1` leading digits of `num / den` as a number, and the exponent of the first. -/
def scientificDigits (num den precision : Nat) : Nat × Int :=
  if num = 0 then (0, 0)
  else
    let top := leadingExponent num den
    let (n, d) := scaleTen num den (precision - top)
    let digits := roundDiv n d
    if digits = Nat.pow 10 (precision + 1) then (Nat.pow 10 precision, top + 1) else (digits, top)

/-! ## Notations -/

/-- The decisions of a notation. -/
structure Numeral.Style where
  /-- Leading exponents that are written out in positions. -/
  isPositional : Int → Bool
  /-- Whether a whole number gets a point and a zero. -/
  pointZero : Bool
  /-- Whether a positive exponent gets a plus sign. -/
  plusSign : Bool
  /-- What becomes of two equally near digits. -/
  tie : Tie

namespace Numeral

/-- Default text: all in positions, whole numbers without a point. -/
def Style.plain : Style := ⟨fun _ => true, false, false, .up⟩

/-- The form in which values are shown: in positions from `10 ^ -4` up to `10 ^ 16`. -/
def Style.shown : Style := ⟨fun k => -4 ≤ k && k < 16, true, false, .up⟩

/-- The form of numbers in JSON text: in positions from `10 ^ -5` up to `10 ^ 16`. -/
def Style.json : Style := ⟨fun k => -5 ≤ k && k < 16, true, true, .even⟩

/-- The digits in positions; the first has the exponent `top`. -/
def positional (pointZero : Bool) (digits : List Char) (top : Int) : List Char :=
  let whole := if top < 0 then ['0'] else (digits.take (top.toNat + 1)).rightpad (top.toNat + 1) '0'
  let fraction :=
    if top < 0 then List.replicate (-top - 1).toNat '0' ++ digits else digits.drop (top.toNat + 1)
  whole ++
    (if fraction.isEmpty then if pointZero then ['.', '0'] else [] else '.' :: fraction)

/-- The first digit, a point before the others, and the exponent. -/
def scientific (plusSign : Bool) (digits : List Char) (top : Int) : List Char :=
  digits.take 1 ++ (if (digits.drop 1).isEmpty then [] else '.' :: digits.drop 1) ++ ['e'] ++
    (if plusSign && 0 ≤ top then ['+'] else []) ++ integerText top

/-- The digits without the zeros at the end; a zero keeps its digit. -/
def significantDigits (digits : Nat) : List Char :=
  let ds := ((decimalDigits digits).reverse.dropWhile (· == '0')).reverse
  if ds.isEmpty then ['0'] else ds

/-- The numeral of `digits * 10 ^ exponent` in a style. -/
def write (style : Style) (digits : Nat) (exponent : Int) : List Char :=
  let top := if digits = 0 then 0 else exponent + digitCount digits - 1
  if style.isPositional top then positional style.pointZero (significantDigits digits) top
  else scientific style.plusSign (significantDigits digits) top

end Numeral

namespace Binary64

/-- The numbers that round to a finite positive value. Below a power of two the next value is half
as far away. -/
def interval (significand shift : Nat) : RoundingInterval where
  low :=
    (4 * significand - if significand = Nat.pow 2 52 ∧ 0 < shift then 1 else 2) * Nat.pow 2 shift
  value := 4 * significand * Nat.pow 2 shift
  high := (4 * significand + 2) * Nat.pow 2 shift
  den := 4 * unit
  closed := significand % 2 == 0

/-- The shortest numeral that reads back as the value. -/
def numeral (style : Numeral.Style) : Binary64 → List Char
  | .nan => ['N', 'a', 'N']
  | .infinite negative => (if negative then ['-'] else []) ++ ['i', 'n', 'f']
  | .finite negative significand shift _ =>
    let (digits, exponent) :=
      if significand = 0 then (0, 0)
      else shortestDigits style.tie (interval significand shift)
    (if negative then ['-'] else []) ++ Numeral.write style digits exponent

/-- The default text of a value. -/
def text (x : Binary64) : String := String.ofList (x.numeral .plain)

/-! ## Reading -/

/-- A numeral read: its digits as one number, and the exponent of the last. -/
structure Parts where
  digits : Nat
  exponent : Int

/-- Reads the exponent after the digits; none stands for zero. -/
def readExponent? : List Char → Option Int
  | [] => some 0
  | c :: cs => if c = 'e' || c = 'E' then readInt? cs else none

/-- Reads digits with an optional point among them and an optional exponent after them. -/
def readParts? (cs : List Char) : Option Parts := do
  let whole := cs.takeWhile Char.isDigit
  let rest := cs.dropWhile Char.isDigit
  let fraction := match rest with
    | '.' :: rest => rest.takeWhile Char.isDigit
    | _ => []
  let rest := match rest with
    | '.' :: rest => rest.dropWhile Char.isDigit
    | rest => rest
  if whole.isEmpty && fraction.isEmpty then none
  let exponent ← readExponent? rest
  some ⟨Nat.ofDigitChars 10 (whole ++ fraction) 0, exponent - fraction.length⟩

/-- Reads a numeral, or one of the words for infinity and NaN in small or capital letters; `round`
gives the value of a quotient and its sign. -/
def readBy? (round : Bool → Nat → Nat → Binary64) (cs : List Char) : Option Binary64 :=
  let negative := cs.head? == some '-'
  let body := match cs with
    | '-' :: rest | '+' :: rest => rest
    | cs => cs
  let word := String.ofList (body.map Char.toLower)
  if word == "inf" || word == "infinity" then some (.infinite negative)
  else if word == "nan" then some .nan
  else (readParts? body).map fun p =>
    ofDecimalBy (round negative) (.infinite negative) p.digits p.exponent

/-- The value nearest to a numeral. -/
def read? (cs : List Char) : Option Binary64 := readBy? ofRatio cs

/-- The value of a numeral after it is rounded to 24 bits. -/
def readSingle? (cs : List Char) : Option Binary64 := readBy? ofSingleRatio cs

end Binary64

end MessageTemplate
