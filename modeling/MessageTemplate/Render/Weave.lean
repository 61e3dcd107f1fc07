import MessageTemplate.Argument.Format
import MessageTemplate.Render.Traced

/-!
# Weaving arguments into a template

Each hole is rendered by itself. A hole without a value becomes the fallback or stays as it is
written; a value that has no text becomes a diagnostic in its place, and the rest goes on.

* `boundValue?`: the argument that a hole is bound to, if it is there and not null.
* `renderValue`: the text of a value in a hole, or the error.
* `align`: text filled with spaces up to the width of the hole's field.
* `weave`: the text of a token list, with the calls of user code.
-/

namespace MessageTemplate

/-- The argument that a hole is bound to, if it is there and not null. -/
def boundValue? (binding : Binding) (arguments : List Argument) (hole : Hole) :
    Option Argument :=
  arguments[binding.position hole]?.filter fun value => !value.isNull

/-- The text of a value in a hole. -/
def renderValue (options : Options) (hole : Hole) (value : Argument) :
    Traced (Except RenderError String) :=
  if hole.isStringify then pure value.display
  else if hole.isSpread && !value.isPrimitive then
    .serialize options.serializer options.provider hole.format hole.lining value
  else if hole.format.isEmpty then pure value.display
  else match options.provider.formatter? with
    | some formatter => .format formatter options.provider.separators hole.format value
    | none =>
      match value.formatWith options.provider.separators hole.format with
      | some text => pure text
      | none => pure value.display

/-- What stands in the place of a value that has no text. -/
def diagnostic (hole : Hole) (e : RenderError) : String :=
  "[" ++ hole.marker ++ " => " ++ e.kind ++ ": \"" ++ e.message ++ "\"]"

/-- Spaces that fill the text up to the width of the hole's field. -/
def padding (hole : Hole) (text : String) : String :=
  String.ofList (List.replicate (hole.width?.getD 0 - text.length) ' ')

/-- The text with its spaces, on the side that the alignment asks for. -/
def align (hole : Hole) (text : String) : String :=
  if hole.isRightJustified then padding hole text ++ text
  else if hole.isLeftJustified then text ++ padding hole text
  else text

/-- The text that stands in a hole for the outcome of rendering its value. -/
def settle (hole : Hole) (outcome : Except RenderError String) : String :=
  align hole (match outcome with
    | .ok text => text
    | .error e => diagnostic hole e)

/-- The text of a hole without a value. -/
def unresolvedText (options : Options) (hole : Hole) : String :=
  options.fallback?.getD hole.marker

/-- The text of a hole. -/
def renderHole (options : Options) (hole : Hole) : Option Argument → Traced String
  | none => pure (unresolvedText options hole)
  | some value => do
    let outcome ← renderValue options hole value
    pure (settle hole outcome)

/-- The text of a token. -/
def renderToken (options : Options) (binding : Binding) (arguments : List Argument) :
    Token → Traced String
  | .literal l => pure l.text
  | .hole hole => renderHole options hole (boundValue? binding arguments hole)

/-- The texts of tokens, one after another. -/
def renderTokens (options : Options) (binding : Binding) (arguments : List Argument) :
    List Token → Traced (List String)
  | [] => pure []
  | token :: tokens => do
    let text ← renderToken options binding arguments token
    let texts ← renderTokens options binding arguments tokens
    pure (text :: texts)

/-- The text of a token list. The binding is decided once for all its holes. -/
def weave (options : Options) (tokens : List Token) (arguments : List Argument) :
    Traced String := do
  let texts ← renderTokens options (.ofTokens tokens) arguments tokens
  pure (String.join texts)

end MessageTemplate
