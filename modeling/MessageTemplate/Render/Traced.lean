import MessageTemplate.Options.Basic

/-!
# Results with the calls made for them

User code that takes part in a rendering may have effects of its own, so that it matters which
calls are made, and in what order. A result carries the calls that were made for it.

* `Call`: a call of a user's formatter or serializer.
* `Traced`: a result and its calls, in order. In a sequence the calls of the first part come first.
* `Traced.format`, `Traced.serialize`: the only two that make calls.
-/

namespace MessageTemplate

/-- A call of user code. -/
inductive Call where
  | format (format : String) (value : Argument)
  | serialize (format lining : String) (value : Argument)

/-- A result with the calls that were made for it. -/
structure Traced (α : Type) where
  result : α
  calls : List Call

namespace Traced

variable {α β : Type}

/-- The result of a step that goes on with another one. -/
def andThen (x : Traced α) (f : α → Traced β) : Traced β :=
  let y := f x.result
  ⟨y.result, x.calls ++ y.calls⟩

instance : Monad Traced where
  pure a := ⟨a, []⟩
  bind := andThen

@[simp] theorem result_pure (a : α) : (pure a : Traced α).result = a := rfl

@[simp] theorem calls_pure (a : α) : (pure a : Traced α).calls = [] := rfl

@[simp] theorem result_bind (x : Traced α) (f : α → Traced β) :
    (x >>= f).result = (f x.result).result := rfl

@[simp] theorem calls_bind (x : Traced α) (f : α → Traced β) :
    (x >>= f).calls = x.calls ++ (f x.result).calls := rfl

/-- Calls a formatter. -/
def format (formatter : Formatter) (separators : Separators) (format : String)
    (value : Argument) : Traced (Except RenderError String) :=
  ⟨formatter.run separators format value, [.format format value]⟩

/-- Serializes a value. The built-in serializer is no user code. -/
def serialize (serializer : Serializer) (provider : FormatProvider) (format lining : String)
    (value : Argument) : Traced (Except RenderError String) :=
  ⟨serializer.serialize provider format lining value,
    match serializer with
    | .fields _ => []
    | .custom _ => [.serialize format lining value]⟩

end Traced

end MessageTemplate
