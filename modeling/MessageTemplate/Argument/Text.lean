import MessageTemplate.Argument.Basic

/-!
# Texts of arguments

* `Argument.display`: the default text. It fails when a custom value in it does, with the error of
  the leftmost one.
* `Argument.shown`: the form in which arguments are listed, with their kinds.
-/

namespace MessageTemplate.Argument

/-- Items in brackets, with commas between. -/
def bracketed (items : List String) : String := "[" ++ String.intercalate ", " items ++ "]"

mutual

/-- The default text of an argument. -/
def display : Argument → Except RenderError String
  | .null => .ok ""
  | .bool b => .ok (boolText b)
  | .char c => .ok c.toString
  | .int n => .ok (String.ofList (integerText n.toInt))
  | .uint n => .ok (String.ofList (decimalDigits n.toNat))
  | .float x => .ok x.text
  | .str s => .ok s
  | .dateTime t => .ok t.text
  | .list items => (displayItems items).map bracketed
  | .record value => .ok value.write
  | .custom value => value.display

/-- The default texts of several arguments, or the first error. -/
def displayItems : List Argument → Except RenderError (List String)
  | [] => .ok []
  | a :: as => do
    let text ← display a
    let texts ← displayItems as
    .ok (text :: texts)

end

mutual

/-- The form in which an argument is listed. -/
def shown : Argument → String
  | .null => "Null"
  | .bool b => "Bool(" ++ boolText b ++ ")"
  | .char c => "Char(" ++ quotedChar c ++ ")"
  | .int n => "Int(" ++ String.ofList (integerText n.toInt) ++ ")"
  | .uint n => "UInt(" ++ String.ofList (decimalDigits n.toNat) ++ ")"
  | .float x => "Float(" ++ String.ofList (x.numeral .shown) ++ ")"
  | .str s => "Str(" ++ quoted s ++ ")"
  | .dateTime t => "DateTime(" ++ t.text ++ ")"
  | .list items => "List(" ++ bracketed (shownItems items) ++ ")"
  | .record value => "Record(" ++ value.shown ++ ")"
  | .custom _ => "Custom(..)"

/-- The forms in which several arguments are listed. -/
def shownItems : List Argument → List String
  | [] => []
  | a :: as => shown a :: shownItems as

end

end MessageTemplate.Argument
