import MessageTemplate.Argument.Basic

/-!
# Making arguments

* `ToArgument`: the types whose values can be passed as arguments.
* `Argument.ofJson`: objects become records, the rest becomes plain values.
* `Argument.infer`: the argument that a word of a command line stands for.
* `Argument.expand`: lists at the top are replaced by their items; `Argument.expand_list` and
  `Argument.expand_cons` tell what becomes of the first argument.
-/

namespace MessageTemplate

/-- Types whose values can be passed as arguments. -/
class ToArgument (α : Type) where
  toArgument : α → Argument

export ToArgument (toArgument)

instance : ToArgument Argument := ⟨id⟩
instance : ToArgument Bool := ⟨.bool⟩
instance : ToArgument Char := ⟨.char⟩
instance : ToArgument String := ⟨.str⟩
instance : ToArgument Int64 := ⟨.int⟩
instance : ToArgument Int32 := ⟨fun n => .int n.toInt64⟩
instance : ToArgument Int16 := ⟨fun n => .int n.toInt64⟩
instance : ToArgument Int8 := ⟨fun n => .int n.toInt64⟩
instance : ToArgument UInt64 := ⟨.uint⟩
instance : ToArgument UInt32 := ⟨fun n => .uint n.toUInt64⟩
instance : ToArgument UInt16 := ⟨fun n => .uint n.toUInt64⟩
instance : ToArgument UInt8 := ⟨fun n => .uint n.toUInt64⟩
instance : ToArgument Binary64 := ⟨.float⟩
instance : ToArgument DateTime := ⟨.dateTime⟩

/-- What is missing becomes null. -/
instance {α : Type} [ToArgument α] : ToArgument (Option α) :=
  ⟨fun x => match x with | some a => toArgument a | none => .null⟩

instance {α : Type} [ToArgument α] : ToArgument (List α) := ⟨fun xs => .list (xs.map toArgument)⟩

namespace Argument

/-- A JSON number: signed if it fits a signed word, else unsigned, else floating point. -/
def ofJsonNumber : JsonNumber → Argument
  | .natural n => if n.toNat < Nat.pow 2 63 then .int (Int64.ofNat n.toNat) else .uint n
  | .negative n => .int n
  | .real x => .float x

mutual

/-- The argument of a JSON value. Only objects stay records. -/
def ofJson : Json → Argument
  | .null => .null
  | .bool b => .bool b
  | .number n => ofJsonNumber n
  | .string s => .str s
  | .array items => .list (ofJsonItems items)
  | .object members => .record (.object members)

/-- The arguments of several JSON values. -/
def ofJsonItems : List Json → List Argument
  | [] => []
  | v :: vs => ofJson v :: ofJsonItems vs

end

instance : ToArgument Json := ⟨ofJson⟩

/-- The argument of a word: a signed integer, a finite number or a truth value if it reads as one,
else the text itself. -/
def infer (word : String) : Argument :=
  match readInt64? word.toList with
  | some n => .int n
  | none =>
    match (Binary64.read? word.toList).filter Binary64.isFinite with
    | some x => .float x
    | none => if word = "true" then .bool true else if word = "false" then .bool false else .str word

/-- The items of a list, and any other argument by itself. -/
def items : Argument → List Argument
  | .list items => items
  | argument => [argument]

/-- Replaces lists by their items. A list inside a list stays one argument. -/
def expand (arguments : List Argument) : List Argument := arguments.flatMap items

@[simp] theorem expand_nil : expand [] = [] := rfl

/-- The items of a list stand where the list stood, each as it is. -/
@[simp] theorem expand_list (items arguments : List Argument) :
    expand (.list items :: arguments) = items ++ expand arguments := List.flatMap_cons

/-- Any other argument stays where it is. -/
theorem expand_cons {a : Argument} (h : ∀ items, a ≠ .list items) (arguments : List Argument) :
    expand (a :: arguments) = a :: expand arguments := by
  cases a with
  | list items => exact absurd rfl (h items)
  | _ => exact List.flatMap_cons

end Argument

end MessageTemplate
