import MessageTemplate.Number.Numeral
import MessageTemplate.Text.Quoted

/-!
# JSON values

* `Json`: the six kinds of values; the members of an object keep their order.
* `Json.setMember`: a member is replaced in its place, or added at the end.
* `Json.equal`: equality up to the order of members; numbers of different kinds differ.
* `Json.write`: compact JSON text.
* `Json.shown`: the form in which a value is shown, with the kind of each part.
-/

namespace MessageTemplate

/-- A number of JSON text: whole when it fits 64 bits, else a floating-point value. -/
inductive JsonNumber where
  | natural (n : UInt64)
  | negative (n : Int64)
  | real (x : Binary64)

/-- A JSON value. -/
inductive Json where
  | null
  | bool (b : Bool)
  | number (n : JsonNumber)
  | string (s : String)
  | array (items : List Json)
  | object (members : List (String × Json))

namespace JsonNumber

/-- Equality of numbers of one kind. -/
def equal : JsonNumber → JsonNumber → Bool
  | .natural a, .natural b => a == b
  | .negative a, .negative b => a == b
  | .real a, .real b => a.equal b
  | _, _ => false

/-- The text of a number. -/
def text : JsonNumber → List Char
  | .natural n => decimalDigits n.toNat
  | .negative n => integerText n.toInt
  | .real x => x.numeral .json

end JsonNumber

namespace Json

/-- Sets the member `key`: the first one with that name is replaced, else one is added. -/
def setMember (key : String) (value : Json) : List (String × Json) → List (String × Json)
  | [] => [(key, value)]
  | (k, v) :: rest =>
    if k = key then (k, value) :: rest else (k, v) :: setMember key value rest

/-- The value of the member `key`. -/
def member? (key : String) : List (String × Json) → Option Json
  | [] => none
  | (k, v) :: rest => if k = key then some v else member? key rest

mutual

/-- Equality; objects are equal when they have equally many members and each one of the first has
an equal one of the same name in the second. -/
def equal : Json → Json → Bool
  | .null, .null => true
  | .bool a, .bool b => a == b
  | .number a, .number b => a.equal b
  | .string a, .string b => a == b
  | .array xs, .array ys => equalItems xs ys
  | .object xs, .object ys => xs.length == ys.length && equalMembers xs ys
  | _, _ => false

/-- Equality of arrays, place by place. -/
def equalItems : List Json → List Json → Bool
  | [], [] => true
  | x :: xs, y :: ys => equal x y && equalItems xs ys
  | _, _ => false

/-- Whether each member has an equal one of the same name in `ys`. -/
def equalMembers : List (String × Json) → List (String × Json) → Bool
  | [], _ => true
  | (k, v) :: rest, ys => (match member? k ys with
    | some w => equal v w
    | none => false) && equalMembers rest ys

end

/-- One character inside a JSON string. -/
def escapeChar (c : Char) : List Char :=
  if c = '"' then ['\\', '"']
  else if c = '\\' then ['\\', '\\']
  else if c = '\x08' then ['\\', 'b']
  else if c = '\t' then ['\\', 't']
  else if c = '\n' then ['\\', 'n']
  else if c = '\x0c' then ['\\', 'f']
  else if c = '\r' then ['\\', 'r']
  else if c.toNat < 0x20 then ['\\', 'u'] ++ (hexDigits c.toNat).leftpad 4 '0'
  else [c]

/-- A string as JSON text. -/
def writeString (s : String) : List Char := '"' :: s.toList.flatMap escapeChar ++ ['"']

mutual

/-- The compact text of a value. -/
def writeChars : Json → List Char
  | .null => ['n', 'u', 'l', 'l']
  | .bool b => (boolText b).toList
  | .number n => n.text
  | .string s => writeString s
  | .array items => '[' :: [','].intercalate (writeItems items) ++ [']']
  | .object members => '{' :: [','].intercalate (writeMembers members) ++ ['}']

/-- The texts of the items of an array. -/
def writeItems : List Json → List (List Char)
  | [] => []
  | x :: xs => writeChars x :: writeItems xs

/-- The texts of the members of an object. -/
def writeMembers : List (String × Json) → List (List Char)
  | [] => []
  | (k, v) :: rest => (writeString k ++ ':' :: writeChars v) :: writeMembers rest

end

/-- Compact JSON text. -/
def write (v : Json) : String := String.ofList (writeChars v)

mutual

/-- The form in which a value is shown. -/
def shown : Json → String
  | .null => "Null"
  | .bool b => "Bool(" ++ boolText b ++ ")"
  | .number n => "Number(" ++ String.ofList n.text ++ ")"
  | .string s => "String(" ++ quoted s ++ ")"
  | .array items => "Array [" ++ String.intercalate ", " (shownItems items) ++ "]"
  | .object members => "Object \x7b" ++ String.intercalate ", " (shownMembers members) ++ "\x7d"

/-- The items of an array as they are shown. -/
def shownItems : List Json → List String
  | [] => []
  | x :: xs => shown x :: shownItems xs

/-- The members of an object as they are shown. -/
def shownMembers : List (String × Json) → List String
  | [] => []
  | (k, v) :: rest => (quoted k ++ ": " ++ shown v) :: shownMembers rest

end

end Json

end MessageTemplate
