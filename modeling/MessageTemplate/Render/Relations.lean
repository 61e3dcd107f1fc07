import MessageTemplate.Argument.Text
import MessageTemplate.Render.Weave

/-!
# Relations

A relation says which value a label stands for in a rendering.

* `Relations`: relations in order; labels may repeat.
* `Relations.byLabel?`, `Relations.indexOf?`: the first relation of a label.
* `relationsOf`: one relation per hole, or, when holes are bound by number, one per number.
-/

namespace MessageTemplate

/-- A label and the value that it stands for, if there is one. -/
structure Relation where
  label : String
  value? : Option Argument

/-- The relation in words. -/
def Relation.text (r : Relation) : String :=
  r.label ++ ": " ++ (match r.value? with
    | some value => value.shown
    | none => "<null>")

/-- Relations in order. -/
structure Relations where
  toList : List Relation

namespace Relations

/-- No relations. -/
def empty : Relations := ⟨[]⟩

/-- The number of relations. -/
def size (rs : Relations) : Nat := rs.toList.length

/-- Whether there are none. -/
def isEmpty (rs : Relations) : Bool := rs.toList.isEmpty

/-- The relation at a position. -/
def get? (rs : Relations) (i : Nat) : Option Relation := rs.toList[i]?

/-- The first relation of a label. -/
def byLabel? (rs : Relations) (label : String) : Option Relation :=
  rs.toList.find? fun r => r.label == label

/-- The position of the first relation of a label. -/
def indexOf? (rs : Relations) (label : String) : Option Nat :=
  rs.toList.findIdx? fun r => r.label == label

/-- Whether some relation has the label. -/
def contains (rs : Relations) (label : String) : Bool := (rs.indexOf? label).isSome

/-- The labels, in order. -/
def labels (rs : Relations) : List String := rs.toList.map Relation.label

/-- The relations with one more at the end. -/
def push (rs : Relations) (r : Relation) : Relations := ⟨rs.toList ++ [r]⟩

/-- The number of relations in words. -/
def text (rs : Relations) : String := "Count: " ++ numberText rs.size

end Relations

/-- The label of a value that has no name. -/
def valueLabel (n : Nat) : String := "Value" ++ numberText n

/-- The label of a hole. -/
def holeLabel (binding : Binding) (hole : Hole) : String :=
  match binding with
  | .index => valueLabel hole.effectiveIndex
  | .rank => if hole.isNumbered then valueLabel hole.rank else hole.effectiveLabel

/-- Adds the relation of a hole, unless it is bound by a number that is already there. -/
def addRelation (binding : Binding) (arguments : List Argument) (rs : Relations) (hole : Hole) :
    Relations :=
  if binding == .index && rs.contains (holeLabel binding hole) then rs
  else rs.push ⟨holeLabel binding hole, boundValue? binding arguments hole⟩

/-- The relations of a token list. -/
def relationsOf (tokens : List Token) (arguments : List Argument) : Relations :=
  (holesOf tokens).foldl (addRelation (.ofTokens tokens) arguments) .empty

end MessageTemplate
