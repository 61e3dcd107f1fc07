import MessageTemplate.Argument.Error
import MessageTemplate.Number.Format
import MessageTemplate.Time.DateTime

/-!
# Arguments

* `Argument`: the values that holes are bound to.
* `CustomValue`: a value that brings its own conversions.
* `Argument.isPrimitive`: what is no structure of the user's.
* `Argument.equal`: equality as a user sees it. Floating-point values compare as numbers, moments by
  their instants, records up to the order of members, and custom values by identity.
-/

namespace MessageTemplate

/-- A value of the user's own making. Its conversions may fail. -/
structure CustomValue where
  /-- What tells the value from others. -/
  id : Nat
  /-- The default text. -/
  display : Except RenderError String
  /-- The text in a format under the separators of a culture, if the value knows about formats. -/
  formatted : String → Separators → Option (Except RenderError String)
  /-- The fields that a serializer may show. -/
  fields : Option Json

/-- A value that a hole may be bound to. -/
inductive Argument where
  | null
  | bool (b : Bool)
  | char (c : Char)
  | int (n : Int64)
  | uint (n : UInt64)
  | float (x : Binary64)
  | str (s : String)
  | dateTime (t : DateTime)
  | list (items : List Argument)
  | record (value : Json)
  | custom (value : CustomValue)

instance : Inhabited Argument := ⟨.null⟩

namespace Argument

/-- Whether the argument is the absent value. -/
def isNull : Argument → Bool
  | .null => true
  | _ => false

/-- Whether the argument is built-in data and no structure of the user's. -/
def isPrimitive : Argument → Bool
  | .record _ | .custom _ => false
  | _ => true

mutual

/-- Equality as a user sees it. -/
def equal : Argument → Argument → Bool
  | .null, .null => true
  | .bool a, .bool b => a == b
  | .char a, .char b => a == b
  | .int a, .int b => a == b
  | .uint a, .uint b => a == b
  | .float a, .float b => a.equal b
  | .str a, .str b => a == b
  | .dateTime a, .dateTime b => a.same b
  | .list as, .list bs => equalItems as bs
  | .record a, .record b => a.equal b
  | .custom a, .custom b => a.id == b.id
  | _, _ => false

/-- Equality of lists, place by place. -/
def equalItems : List Argument → List Argument → Bool
  | [], [] => true
  | a :: as, b :: bs => equal a b && equalItems as bs
  | _, _ => false

end

end Argument

end MessageTemplate
