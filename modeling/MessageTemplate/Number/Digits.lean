/-!
# Integers in digits

* `readNat?`, `readInt?`: reading decimal digits, the second with an optional sign.
* `readInt32?`, `readInt64?`, `readUInt64?`: the same within the range of a machine word.
* `decimalDigits`, `hexDigits`: the digits of a number, without leading zeros.
* `hexValue?`: the value of a hexadecimal digit.
* `roundDiv`: a quotient rounded to the nearest integer, a half going to the even one.
-/

namespace MessageTemplate

/-- Reads a nonempty run of decimal digits. -/
def readNat? (cs : List Char) : Option Nat :=
  if cs.isEmpty || !cs.all Char.isDigit then none else some (Nat.ofDigitChars 10 cs 0)

/-- Reads decimal digits after an optional sign. -/
def readInt? : List Char → Option Int
  | '-' :: cs => (readNat? cs).map fun n => -(n : Int)
  | '+' :: cs => (readNat? cs).map fun n => (n : Int)
  | cs => (readNat? cs).map fun n => (n : Int)

/-- Whether the integer is a signed one of `bits` bits. -/
def isSigned (bits : Nat) (n : Int) : Bool :=
  -(Nat.pow 2 (bits - 1) : Nat) ≤ n && n < (Nat.pow 2 (bits - 1) : Nat)

/-- Reads a signed integer of `bits` bits. -/
def readSigned? (bits : Nat) (cs : List Char) : Option Int := (readInt? cs).filter (isSigned bits)

/-- Reads an unsigned integer of `bits` bits; a plus sign may stand in front. -/
def readUnsigned? (bits : Nat) (cs : List Char) : Option Nat :=
  (readNat? (match cs with | '+' :: rest => rest | cs => cs)).filter (· < Nat.pow 2 bits)

/-- Reads a signed integer of 32 bits. -/
def readInt32? (cs : List Char) : Option Int := readSigned? 32 cs

/-- Reads a signed integer of 64 bits. -/
def readInt64? (cs : List Char) : Option Int64 := (readSigned? 64 cs).map Int64.ofInt

/-- Reads an unsigned integer of 64 bits. -/
def readUInt64? (cs : List Char) : Option UInt64 := (readUnsigned? 64 cs).map UInt64.ofNat

/-- The decimal digits of `n`. -/
def decimalDigits (n : Nat) : List Char := Nat.toDigits 10 n

/-- The hexadecimal digits of `n`, in small letters. -/
def hexDigits (n : Nat) : List Char := Nat.toDigits 16 n

/-- The value of a hexadecimal digit. -/
def hexValue? (c : Char) : Option Nat :=
  if c.isDigit then some (c.toNat - 48)
  else if 'a' ≤ c && c ≤ 'f' then some (c.toNat - 87)
  else if 'A' ≤ c && c ≤ 'F' then some (c.toNat - 55)
  else none

/-- The number of decimal digits of `n`. -/
def digitCount (n : Nat) : Nat := (decimalDigits n).length

/-- The decimal text of an integer. -/
def integerText (n : Int) : List Char :=
  (if n < 0 then ['-'] else []) ++ decimalDigits n.natAbs

/-- The quotient of `num` by `den`, rounded to the nearest integer; a half goes to the even one. -/
def roundDiv (num den : Nat) : Nat :=
  let q := num / den
  let r := num % den
  if 2 * r < den then q else if den < 2 * r then q + 1 else q + q % 2

end MessageTemplate
