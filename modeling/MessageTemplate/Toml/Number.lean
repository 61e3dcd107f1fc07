import MessageTemplate.Number.Numeral
import MessageTemplate.Toml.Item
import MessageTemplate.Toml.Text

/-!
# TOML numbers and dates

Digits may be grouped by underscores, each of them between two digits. A number that has begun may
not break off: the error is where a digit should be.

* `Toml.readDateTime?`: a date, a time of day, or both with an offset; nothing is read if the text
  begins like none of them.
* `Toml.readNumber`: whole numbers, also in hexadecimal, octal and binary, and floating-point ones.
-/

namespace MessageTemplate.Toml

/-! ## Dates and times -/

/-- Reads exactly `count` digits that make a number within bounds. -/
def readField? (count lo hi : Nat) (cur : Cursor) : Option (Nat × Cursor) := do
  let digits := cur.rest.take count
  let n ← readNat? digits
  if digits.length = count && lo ≤ n && n ≤ hi then some (n, cur.skip count) else none

/-- Reads digits that have to be there. -/
def readField (count lo hi : Nat) (cur : Cursor) : Except Fault (Nat × Cursor) :=
  match readField? count lo hi cur with
  | some r => .ok r
  | none => fault cur

/-- Reads a character that has to be there. -/
def readMark (c : Char) (cur : Cursor) : Except Fault Cursor :=
  if cur.peek? = some c then .ok cur.next else fault cur

/-- The days of a month. -/
def daysOfMonth (year month : Nat) : Nat :=
  if month = 2 then (if year % 4 = 0 && (year % 100 ≠ 0 || year % 400 = 0) then 29 else 28)
  else if month = 4 || month = 6 || month = 9 || month = 11 then 30
  else 31

/-- Reads month and day after a year and its hyphen. -/
def readMonthDay (year : Nat) (cur : Cursor) : Except Fault Cursor := do
  let (month, cur) ← readField 2 1 12 cur
  let cur ← readMark '-' cur
  let (day, after) ← readField 2 1 31 cur
  if daysOfMonth year month < day then fault cur else .ok after

/-- Reads minutes, seconds and an optional fraction after an hour and its colon. -/
def readMinutes (cur : Cursor) : Except Fault Cursor := do
  let (_, cur) ← readField 2 0 59 cur
  let cur ← readMark ':' cur
  let (_, cur) ← readField 2 0 60 cur
  if cur.peek? = some '.' && cur.next.peek?.any Char.isDigit then
    .ok (cur.next.skipWhile Char.isDigit)
  else .ok cur

/-- The place after an hour and its colon. -/
def skipHour? (cur : Cursor) : Option Cursor := do
  let (_, cur) ← readField? 2 0 23 cur
  if cur.peek? = some ':' then some cur.next else none

/-- Reads an optional offset from universal time. -/
def readOffset (cur : Cursor) : Except Fault Cursor :=
  match cur.peek? with
  | some 'Z' | some 'z' => .ok cur.next
  | some '+' | some '-' => do
    let (_, cur) ← readField 2 0 23 cur.next
    let cur ← readMark ':' cur
    let (_, cur) ← readField 2 0 59 cur
    .ok cur
  | _ => .ok cur

/-- Reads an optional time of day with its offset after a date. -/
def readTimeAfterDate (cur : Cursor) : Except Fault Cursor :=
  match cur.peek? with
  | some 'T' | some 't' | some ' ' =>
    match skipHour? cur.next with
    | some after => do readOffset (← readMinutes after)
    | none => .ok cur
  | _ => .ok cur

/-- The place after a year and its hyphen, and the year. -/
def skipYear? (cur : Cursor) : Option (Nat × Cursor) := do
  let (year, cur) ← readField? 4 0 9999 cur
  if cur.peek? = some '-' then some (year, cur.next) else none

/-- The characters between two places. -/
def textBetween (start stop : Cursor) : String :=
  String.ofList (start.rest.take (start.rest.length - stop.rest.length))

/-- Reads a date, a time of day, or both, if the text begins like one. -/
def readDateTime? (cur : Cursor) : Option (Except Fault (Item × Cursor)) :=
  let finish (after : Except Fault Cursor) : Except Fault (Item × Cursor) :=
    after.map fun stop => (.dateTime (textBetween cur stop), stop)
  match skipYear? cur with
  | some (year, after) => some (finish do readTimeAfterDate (← readMonthDay year after))
  | none => (skipHour? cur).map fun after => finish (readMinutes after)

/-! ## Numbers -/

/-- Reads further digits of a number, which begin at byte `offset`. An underscore needs a digit
behind it. -/
def takeDigits (isDigit : Char → Bool) (offset : Nat) :
    List Char → Except Fault (List Char × Cursor)
  | [] => .ok ([], ⟨[], offset⟩)
  | '_' :: c :: cs =>
    if isDigit c then do
      let (ds, cur) ← takeDigits isDigit (offset + 2) cs
      .ok (c :: ds, cur)
    else .error ⟨offset + 1, false⟩
  | c :: cs =>
    if isDigit c then do
      let (ds, cur) ← takeDigits isDigit (offset + 1) cs
      .ok (c :: ds, cur)
    else if c = '_' then .error ⟨offset + 1, false⟩
    else .ok ([], ⟨c :: cs, offset⟩)

/-- Reads digits, of which one has to be there. -/
def readDigits (isDigit : Char → Bool) (cur : Cursor) : Except Fault (List Char × Cursor) :=
  if cur.peek?.any isDigit then takeDigits isDigit cur.offset cur.rest else fault cur

/-- An integer, if it fits 64 bits. -/
def integerItem (start : Cursor) (n : Int) (after : Cursor) : Except Fault (Item × Cursor) :=
  if isSigned 64 n then .ok (.integer (Int64.ofInt n), after) else fault start

/-- Reads the digits of a whole number in another base, behind its mark at `start`. -/
def readBased (base : Nat) (start : Cursor) : Except Fault (Item × Cursor) := do
  let (ds, after) ← readDigits (fun c => (hexValue? c).any (· < base)) (start.skip 2)
  integerItem start ((ds.filterMap hexValue?).foldl (base * · + ·) 0 : Nat) after

/-- Reads an optional exponent; its text begins with the letter. -/
def readExponent (cur : Cursor) : Except Fault (List Char × Cursor) :=
  if cur.peek? = some 'e' || cur.peek? = some 'E' then
    let (sign, digits) := match cur.next.peek? with
      | some '+' => (['+'], cur.next.next)
      | some '-' => (['-'], cur.next.next)
      | _ => ([], cur.next)
    (readDigits Char.isDigit digits).map fun (ds, after) => ('e' :: sign ++ ds, after)
  else .ok ([], cur)

/-- Reads optional decimal places and an optional exponent. -/
def readFraction (cur : Cursor) : Except Fault (List Char × Cursor) :=
  if cur.peek? = some '.' then do
    let (places, after) ← readDigits Char.isDigit cur.next
    let (exponent, after) ← readExponent after
    .ok ('.' :: places ++ exponent, after)
  else readExponent cur

/-- A floating-point value from its text. What is too large is an error, unless it is negative. -/
def floatItem (start : Cursor) (text : List Char) (after : Cursor) :
    Except Fault (Item × Cursor) :=
  match Binary64.read? text with
  | some (.infinite false) | none => fault start
  | some x => .ok (.float x, after)

/-- Reads the whole part of a decimal number: a zero, or digits that do not begin with one. -/
def readWhole (cur : Cursor) : Except Fault (List Char × Cursor) :=
  match cur.peek? with
  | some '0' => .ok (['0'], cur.next)
  | some c => if c.isDigit then takeDigits Char.isDigit cur.offset cur.rest else noValue cur
  | none => noValue cur

/-- Reads a decimal number of the given sign, which begins at `start`; its digits begin at `cur`. -/
def readDecimal (start : Cursor) (sign : List Char) (cur : Cursor) :
    Except Fault (Item × Cursor) := do
  let (whole, after) ← readWhole cur
  let (fraction, stop) ← readFraction after
  if fraction.isEmpty then integerItem start ((readInt? (sign ++ whole)).getD 0) stop
  else floatItem start (sign ++ whole ++ fraction) stop

/-- Reads the word for infinity or for no number, if one is there. -/
def readFloatWord? (negative : Bool) (cur : Cursor) : Option (Item × Cursor) :=
  if cur.startsWith ['i', 'n', 'f'] then some (.float (.infinite negative), cur.skip 3)
  else if cur.startsWith ['n', 'a', 'n'] then some (.float .nan, cur.skip 3)
  else none

/-- Reads a number at its sign or first digit. -/
def readNumber (cur : Cursor) : Except Fault (Item × Cursor) :=
  match cur.rest with
  | '0' :: 'x' :: _ => readBased 16 cur
  | '0' :: 'o' :: _ => readBased 8 cur
  | '0' :: 'b' :: _ => readBased 2 cur
  | c :: _ =>
    if c = '+' || c = '-' then
      match readFloatWord? (c = '-') cur.next with
      | some r => .ok r
      | none => readDecimal cur [c] cur.next
    else readDecimal cur [] cur
  | [] => noValue cur

end MessageTemplate.Toml
