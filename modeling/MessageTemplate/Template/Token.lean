import MessageTemplate.Number.Digits
import MessageTemplate.Template.Body

/-!
# Tokens of a template

* `Literal`: text that is copied to the output, or a rejected hole candidate.
* `Hole`: a place that receives an argument.
* `Hole.number?`: the argument index that a hole names, if its name is a number of 31 bits.
* `Hole.width?`: the field width, if the alignment is a number of 32 bits with its sign.
* `Binding`: whether holes are bound by their numbers or by their ranks. Holes are bound by number
  only when all of them have one.
-/

namespace MessageTemplate

/-- Text that is copied to the output. A rejected candidate is its own text. -/
structure Literal where
  span : Span
  text : String
  malformed : Option Rejection
deriving DecidableEq, Repr

/-- What the first character of a declaration asks for. -/
inductive Modifier where
  /-- The default text, whatever the format. -/
  | stringify
  /-- The serializer, for structured values. -/
  | spread
deriving DecidableEq, Repr

/-- A place that receives an argument. The rank counts the holes before it. -/
structure Hole where
  span : Span
  rank : Nat
  marker : String
  symbol : String
  lining : String
  format : String
deriving DecidableEq, Repr

namespace Hole

/-- The modifier, if the declaration begins with one. -/
def modifier? (hole : Hole) : Option Modifier :=
  match hole.symbol.toList with
  | c :: _ =>
    if c = Body.stringifyMark then some .stringify
    else if c = Body.spreadMark then some .spread
    else none
  | [] => none

/-- The declaration without its modifier. -/
def name (hole : Hole) : String :=
  match hole.modifier? with
  | some _ => String.ofList hole.symbol.toList.tail
  | none => hole.symbol

/-- The argument index that the hole names. -/
def number? (hole : Hole) : Option Nat :=
  match readInt32? hole.name.toList with
  | some (.ofNat n) => some n
  | _ => none

/-- Whether the hole names an argument index. -/
def isNumbered (hole : Hole) : Bool := hole.number?.isSome

/-- Whether the hole asks for the default text. -/
def isStringify (hole : Hole) : Bool := hole.modifier? == some .stringify

/-- Whether the hole asks for the serializer. -/
def isSpread (hole : Hole) : Bool := hole.modifier? == some .spread

/-- Whether spaces follow the text. -/
def isLeftJustified (hole : Hole) : Bool := hole.lining.toList.head? == some '-'

/-- Whether spaces precede the text. -/
def isRightJustified (hole : Hole) : Bool := !hole.lining.isEmpty && !hole.isLeftJustified

/-- The field width. -/
def width? (hole : Hole) : Option Nat := (readInt32? hole.lining.toList).map Int.natAbs

/-- The number of a numbered hole, the rank of any other. -/
def effectiveIndex (hole : Hole) : Nat := hole.number?.getD hole.rank

/-- The name of a named hole; empty for a numbered one. -/
def effectiveLabel (hole : Hole) : String := if hole.isNumbered then "" else hole.name

end Hole

/-- A part of a template. -/
inductive Token where
  | literal (l : Literal)
  | hole (h : Hole)
deriving DecidableEq, Repr

/-- A number in decimal digits. -/
def numberText (n : Nat) : String := String.ofList (decimalDigits n)

namespace Token

/-- The bytes of the template that the token covers. -/
def span : Token → Span
  | .literal l => l.span
  | .hole h => h.span

/-- The hole, if the token is one. -/
def hole? : Token → Option Hole
  | .literal _ => none
  | .hole h => some h

/-- A field of a token's description. -/
def field (name value : String) : String := name ++ ": [" ++ value ++ "]"

/-- The token in words. -/
def text : Token → String
  | .literal l =>
    String.intercalate ", " ["Type: Literal", field "Offset" (numberText l.span.start),
      field "Rank" "-", field "Symbol" "", field "Lining" "", field "Format" "",
      field "Marker" l.text]
  | .hole h =>
    String.intercalate ", " ["Type: Placeholder", field "Offset" (numberText h.span.start),
      field "Rank" (numberText h.rank), field "Symbol" h.symbol, field "Lining" h.lining,
      field "Format" h.format, field "Marker" h.marker]

end Token

/-- The holes among the tokens, in order. -/
def holesOf (tokens : List Token) : List Hole := tokens.filterMap Token.hole?

@[simp] theorem holesOf_nil : holesOf [] = [] := rfl

@[simp] theorem holesOf_cons_literal (l : Literal) (tokens : List Token) :
    holesOf (.literal l :: tokens) = holesOf tokens := rfl

@[simp] theorem holesOf_cons_hole (h : Hole) (tokens : List Token) :
    holesOf (.hole h :: tokens) = h :: holesOf tokens := rfl

@[simp] theorem holesOf_append (xs ys : List Token) :
    holesOf (xs ++ ys) = holesOf xs ++ holesOf ys := List.filterMap_append

/-- How holes are bound to arguments. -/
inductive Binding where
  | index
  | rank
deriving DecidableEq, Repr

namespace Binding

/-- The name under which a binding is shown. -/
def name : Binding → String
  | .index => "Index"
  | .rank => "Rank"

/-- The binding of a template: one hole without a number binds all holes by rank. -/
def ofTokens (tokens : List Token) : Binding :=
  if (holesOf tokens).all Hole.isNumbered then .index else .rank

/-- The position of the argument that a hole reads. -/
def position (binding : Binding) (hole : Hole) : Nat :=
  match binding with
  | .index => hole.effectiveIndex
  | .rank => hole.rank

end Binding

end MessageTemplate
