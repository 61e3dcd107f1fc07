import MessageTemplate.Json.Value
import MessageTemplate.Text.Cursor

/-!
# Reading JSON text

The reader takes any JSON value between blanks. Whole numbers that fit 64 bits stay whole; any other
number becomes a floating-point value from its leading digits, as many as fit 64 bits, times or over
a power of ten. A container may stand inside at most 126 others.

* `Json.read`: the value of a text, or the error with its line and column.
* `JsonError.message`: the error in words. Columns count bytes.
-/

namespace MessageTemplate

/-- What is wrong with a JSON text. -/
inductive JsonError.Cause where
  | endInList
  | endInObject
  | endInString
  | endInValue
  | expectedColon
  | expectedListEnd
  | expectedObjectEnd
  | expectedIdent
  | expectedValue
  | invalidEscape
  | invalidNumber
  | numberOutOfRange
  | controlCharacter
  | keyNotString
  | loneSurrogate
  | trailingComma
  | trailingCharacters
  | endOfHexEscape
  | tooDeep
deriving DecidableEq, Repr

/-- The cause in words. -/
def JsonError.Cause.message : JsonError.Cause → String
  | .endInList => "EOF while parsing a list"
  | .endInObject => "EOF while parsing an object"
  | .endInString => "EOF while parsing a string"
  | .endInValue => "EOF while parsing a value"
  | .expectedColon => "expected `:`"
  | .expectedListEnd => "expected `,` or `]`"
  | .expectedObjectEnd => "expected `,` or `\x7d`"
  | .expectedIdent => "expected ident"
  | .expectedValue => "expected value"
  | .invalidEscape => "invalid escape"
  | .invalidNumber => "invalid number"
  | .numberOutOfRange => "number out of range"
  | .controlCharacter => "control character (\\u0000-\\u001F) found while parsing a string"
  | .keyNotString => "key must be a string"
  | .loneSurrogate => "lone leading surrogate in hex escape"
  | .trailingComma => "trailing comma"
  | .trailingCharacters => "trailing characters"
  | .endOfHexEscape => "unexpected end of hex escape"
  | .tooDeep => "recursion limit exceeded"

/-- A reading error at a line and a column, both counted from one. -/
structure JsonError where
  cause : JsonError.Cause
  line : Nat
  column : Nat
deriving DecidableEq, Repr

/-- The error in words. -/
def JsonError.message (e : JsonError) : String :=
  e.cause.message ++ " at line " ++ String.ofList (decimalDigits e.line) ++ " column " ++
    String.ofList (decimalDigits e.column)

namespace Json

/-- A cause and the number of bytes read when it showed. -/
structure Fault where
  cause : JsonError.Cause
  offset : Nat

/-- A fault after what has been read. -/
def fault {α : Type} (cause : JsonError.Cause) (cur : Cursor) : Except Fault α :=
  .error ⟨cause, cur.offset⟩

/-- A fault one byte further, at the character that comes next. -/
def faultNext {α : Type} (cause : JsonError.Cause) (cur : Cursor) : Except Fault α :=
  .error ⟨cause, if cur.rest.isEmpty then cur.offset else cur.offset + 1⟩

/-- The blanks of JSON text. -/
def isSpace (c : Char) : Bool := c == ' ' || c == '\n' || c == '\t' || c == '\r'

/-- The place after blanks. -/
def skipSpace (cur : Cursor) : Cursor := cur.skipWhile isSpace

/-! ## Words and numbers -/

/-- Reads the letters of a word that has begun. -/
def readWord (value : Json) : List Char → Cursor → Except Fault (Json × Cursor)
  | [], cur => .ok (value, cur)
  | w :: ws, cur =>
    match cur.peek? with
    | none => fault .endInValue cur
    | some c =>
      if c = w then readWord value ws cur.next else .error ⟨.expectedIdent, cur.offset + 1⟩

/-- The greatest significand. -/
def maxSignificand : Nat := UInt64.size - 1

/-- Takes digits into a significand as long as it fits 64 bits; also gives their number. -/
def takeSignificand (significand : Nat) : List Char → Nat × Nat
  | [] => (significand, 0)
  | c :: cs =>
    let longer := 10 * significand + (c.toNat - 48)
    if c.isDigit && longer ≤ maxSignificand then
      let (total, count) := takeSignificand longer cs
      (total, count + 1)
    else (significand, 0)

/-- A significand times a power of ten: one product, or a quotient for a negative exponent, with a
power of ten that is itself rounded. Far below one the division is done in steps. -/
def scaled (f : Binary64) (exponent : Int) : Nat → Option Binary64
  | 0 => some f
  | steps + 1 =>
    let power := Binary64.ofDecimal false 1 exponent.natAbs
    if exponent.natAbs ≤ 308 then
      if 0 ≤ exponent then
        let product := f.mul power
        if product.isFinite then some product else none
      else some (f.div power)
    else if f.isZero then some f
    else if 0 ≤ exponent then none
    else scaled (f.div (.ofDecimal false 1 308)) (exponent + 308) steps

/-- The number with the given sign, significand and exponent. -/
def realNumber (negative : Bool) (significand : Nat) (exponent : Int) (cur : Cursor) :
    Except Fault (JsonNumber × Cursor) :=
  match scaled (.ofInt significand) exponent 4 with
  | none => fault .numberOutOfRange cur
  | some f => .ok (.real (if negative then f.neg else f), cur)

/-- The range of exponents. -/
def clampExponent (e : Int) : Int := max Int32.minValue.toInt (min Int32.maxValue.toInt e)

/-- Takes the digits of an exponent as long as it fits 32 bits; also gives the number of digits
read and whether one did not fit. -/
def takeExponent (value : Nat) : List Char → Nat × Nat × Bool
  | [] => (value, 0, false)
  | c :: cs =>
    if !c.isDigit then (value, 0, false)
    else
      let longer := 10 * value + (c.toNat - 48)
      if longer < Nat.pow 2 31 then
        let (total, count, huge) := takeExponent longer cs
        (total, count + 1, huge)
      else (value, 1, true)

/-- Reads an exponent from its letter on, and gives the number. -/
def readExponent (negative : Bool) (significand : Nat) (start : Int) (cur : Cursor) :
    Except Fault (JsonNumber × Cursor) :=
  let cur := cur.next
  let below := cur.peek? == some '-'
  let cur := if below || cur.peek? == some '+' then cur.next else cur
  match cur.peek? with
  | none => fault .endInValue cur
  | some c =>
    if !c.isDigit then .error ⟨.invalidNumber, cur.offset + 1⟩
    else
      let (value, count, huge) := takeExponent 0 cur.rest
      let cur := cur.skip count
      if huge then
        if significand ≠ 0 && !below then fault .numberOutOfRange cur
        else .ok (.real (.zero negative), cur.skipWhile Char.isDigit)
      else
        let exponent := clampExponent (if below then start - value else start + value)
        realNumber negative significand exponent cur

/-- Reads an exponent if there is one, and gives the number. -/
def readRest (negative : Bool) (significand : Nat) (exponent : Int) (cur : Cursor) :
    Except Fault (JsonNumber × Cursor) :=
  match cur.peek? with
  | some 'e' | some 'E' => readExponent negative significand exponent cur
  | _ => realNumber negative significand exponent cur

/-- Reads decimal places from the point on, and gives the number. -/
def readPlaces (negative : Bool) (significand : Nat) (exponent : Int) (cur : Cursor) :
    Except Fault (JsonNumber × Cursor) :=
  let cur := cur.next
  let (significand, count) := takeSignificand significand cur.rest
  let after := cur.skip count
  if count = 0 && (cur.takeWhile Char.isDigit).isEmpty then
    faultNext (if cur.rest.isEmpty then .endInValue else .invalidNumber) cur
  else readRest negative significand (exponent - count) (after.skipWhile Char.isDigit)

/-- A whole number of 64 bits; a negative one that does not fit, and a negative zero, become
floating-point values. -/
def wholeNumber (negative : Bool) (n : Nat) : JsonNumber :=
  if !negative then .natural (.ofNat n)
  else if n = 0 || Nat.pow 2 63 < n then .real (Binary64.ofInt n).neg
  else .negative (.ofInt (-n))

/-- Reads a number after its sign. -/
def readNumber (negative : Bool) (cur : Cursor) : Except Fault (JsonNumber × Cursor) :=
  match cur.rest with
  | [] => fault .endInValue cur
  | c :: cs =>
    if !c.isDigit then .error ⟨.invalidNumber, cur.offset + 1⟩
    else if c = '0' && (cs.head?.any Char.isDigit) then .error ⟨.invalidNumber, cur.offset + 2⟩
    else
      let (significand, count) := takeSignificand 0 cur.rest
      let after := cur.skip count
      let dropped := (after.takeWhile Char.isDigit).length
      let cur := after.skipWhile Char.isDigit
      match cur.peek? with
      | some '.' => readPlaces negative significand dropped cur
      | some 'e' | some 'E' => readExponent negative significand dropped cur
      | _ =>
        if dropped = 0 then .ok (wholeNumber negative significand, cur)
        else realNumber negative significand dropped cur

/-! ## Strings -/

/-- Reads four hexadecimal digits. Four bytes are taken in any case, if there are as many. -/
def readHex (cur : Cursor) : Except Fault (Nat × Cursor) :=
  if byteLength cur.rest < 4 then .error ⟨.endInString, cur.offset + byteLength cur.rest⟩
  else match (cur.rest.take 4).mapM hexValue? with
    | none => .error ⟨.invalidEscape, cur.offset + 4⟩
    | some ds => .ok (ds.foldl (16 * · + ·) 0, cur.skip 4)

/-- Reads the given character of an escape that a leading surrogate calls for. -/
def readSurrogateMark (mark : Char) (cur : Cursor) : Except Fault Cursor :=
  match cur.peek? with
  | none => fault .endInString cur
  | some c => if c = mark then .ok cur.next else .error ⟨.endOfHexEscape, cur.offset + 1⟩

/-- Reads the digits of a code escape; two escapes make up a character beyond 16 bits. -/
def readCodeEscape (cur : Cursor) : Except Fault (Char × Cursor) := do
  let (n, cur) ← readHex cur
  if 0xDC00 ≤ n && n ≤ 0xDFFF then fault .loneSurrogate cur
  else if n < 0xD800 || 0xDBFF < n then .ok (Char.ofNat n, cur)
  else
    let cur ← readSurrogateMark '\\' cur
    let cur ← readSurrogateMark 'u' cur
    let (m, cur) ← readHex cur
    if m < 0xDC00 || 0xDFFF < m then fault .loneSurrogate cur
    else .ok (Char.ofNat (0x10000 + (n - 0xD800) * 0x400 + (m - 0xDC00)), cur)

/-- Reads an escape after its backslash. -/
def readEscape (cur : Cursor) : Except Fault (Char × Cursor) :=
  match cur.peek? with
  | none => fault .endInString cur
  | some '"' => .ok ('"', cur.next)
  | some '\\' => .ok ('\\', cur.next)
  | some '/' => .ok ('/', cur.next)
  | some 'b' => .ok ('\x08', cur.next)
  | some 'f' => .ok ('\x0c', cur.next)
  | some 'n' => .ok ('\n', cur.next)
  | some 'r' => .ok ('\r', cur.next)
  | some 't' => .ok ('\t', cur.next)
  | some 'u' => readCodeEscape cur.next
  | some _ => .error ⟨.invalidEscape, cur.offset + 1⟩

/-- Reads a string after its opening quote; each step takes at least one character. -/
def readStringFrom : Nat → Cursor → Except Fault (List Char × Cursor)
  | 0, cur => fault .endInString cur
  | steps + 1, cur =>
    match cur.peek? with
    | none => fault .endInString cur
    | some '"' => .ok ([], cur.next)
    | some '\\' => do
      let (c, cur) ← readEscape cur.next
      let (cs, cur) ← readStringFrom steps cur
      .ok (c :: cs, cur)
    | some c =>
      if c.toNat < 0x20 then .error ⟨.controlCharacter, cur.offset + 1⟩
      else do
        let (cs, cur) ← readStringFrom steps cur.next
        .ok (c :: cs, cur)

/-- Reads a string after its opening quote. -/
def readString (cur : Cursor) : Except Fault (String × Cursor) := do
  let (cs, cur) ← readStringFrom (cur.rest.length + 1) cur
  .ok (String.ofList cs, cur)

/-! ## Containers -/

/-- Reads the items of an array up to its end; `first` is set before the first item. -/
def readItems (item : Cursor → Except Fault (Json × Cursor)) (first : Bool) :
    Nat → Cursor → Except Fault (List Json × Cursor)
  | 0, cur => faultNext .endInList cur
  | steps + 1, cur => do
    let cur := skipSpace cur
    match cur.peek? with
    | none => faultNext .endInList cur
    | some ']' => .ok ([], cur.next)
    | some c =>
      if !first && c ≠ ',' then faultNext .expectedListEnd cur
      else
        let cur := if first then cur else skipSpace cur.next
        match cur.peek? with
        | none => faultNext .endInValue cur
        | some ']' => faultNext .trailingComma cur
        | some _ =>
          let (x, cur) ← item cur
          let (xs, cur) ← readItems item false steps cur
          .ok (x :: xs, cur)

/-- Reads the name of a member and its colon. -/
def readKey (cur : Cursor) : Except Fault (String × Cursor) := do
  let (key, cur) ← readString cur.next
  let cur := skipSpace cur
  match cur.peek? with
  | some ':' => .ok (key, cur.next)
  | some _ => faultNext .expectedColon cur
  | none => faultNext .endInObject cur

/-- Reads the members of an object up to its end into those before. -/
def readMembers (item : Cursor → Except Fault (Json × Cursor))
    (members : List (String × Json)) (first : Bool) :
    Nat → Cursor → Except Fault (List (String × Json) × Cursor)
  | 0, cur => faultNext .endInObject cur
  | steps + 1, cur => do
    let cur := skipSpace cur
    match cur.peek? with
    | none => faultNext .endInObject cur
    | some '}' => .ok (members, cur.next)
    | some c =>
      if !first && c ≠ ',' then faultNext .expectedObjectEnd cur
      else
        let cur := if first then cur else skipSpace cur.next
        match cur.peek? with
        | none => faultNext .endInValue cur
        | some '"' =>
          let (key, cur) ← readKey cur
          let (x, cur) ← item cur
          readMembers item (setMember key x members) false steps cur
        | some '}' => faultNext .trailingComma cur
        | some _ => faultNext .keyNotString cur

/-- Reads a value; at most `depth` containers may be open inside one another. -/
def readValue : Nat → Cursor → Except Fault (Json × Cursor)
  | depth, cur => do
    let cur := skipSpace cur
    match cur.peek? with
    | none => faultNext .endInValue cur
    | some 'n' => readWord .null ['u', 'l', 'l'] cur.next
    | some 't' => readWord (.bool true) ['r', 'u', 'e'] cur.next
    | some 'f' => readWord (.bool false) ['a', 'l', 's', 'e'] cur.next
    | some '"' =>
      let (s, cur) ← readString cur.next
      .ok (.string s, cur)
    | some '-' =>
      let (n, cur) ← readNumber true cur.next
      .ok (.number n, cur)
    | some '[' =>
      match depth with
      | 0 => faultNext .tooDeep cur
      | depth + 1 =>
        let (xs, cur) ← readItems (readValue depth) true (cur.rest.length + 1) cur.next
        .ok (.array xs, cur)
    | some '{' =>
      match depth with
      | 0 => faultNext .tooDeep cur
      | depth + 1 =>
        let (members, cur) ← readMembers (readValue depth) [] true (cur.rest.length + 1) cur.next
        .ok (.object members, cur)
    | some c =>
      if c.isDigit then
        let (n, cur) ← readNumber false cur
        .ok (.number n, cur)
      else faultNext .expectedValue cur

/-- How many containers may be open inside one another. -/
def maxDepth : Nat := 127

/-- Reads a text that holds one value and blanks. -/
def readDocument (cur : Cursor) : Except Fault Json := do
  let (v, cur) ← readValue maxDepth cur
  let cur := skipSpace cur
  if cur.rest.isEmpty then .ok v else faultNext .trailingCharacters cur

/-- The value of a JSON text, or the error and its place. -/
def read (text : String) : Except JsonError Json :=
  (readDocument (.ofString text)).mapError fun f =>
    let (line, column) := linePosition f.offset text.toList
    ⟨f.cause, line + 1, column⟩

end Json

end MessageTemplate
