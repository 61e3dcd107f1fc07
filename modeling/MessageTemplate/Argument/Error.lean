import MessageTemplate.Json.Reader

/-!
# Rendering errors

* `RenderError`: why a value has no text.
* `RenderError.kind`: the name of the kind of error; errors of user code bring their own.
* `RenderError.message`: the error in words.
-/

namespace MessageTemplate

/-- Why a value has no text. -/
inductive RenderError where
  /-- The value refuses to be converted. -/
  | conversion (message : String)
  /-- The format means nothing for the value. -/
  | invalidFormat (spec message : String)
  /-- The fields of the value cannot be read. -/
  | serialization (cause : JsonError)
  /-- An error of user code, with a kind of its own. -/
  | custom (kind message : String)
deriving DecidableEq, Repr

namespace RenderError

/-- The error of a text that cannot be written. -/
def unwritable : RenderError := .conversion "value formatting failed"

/-- The name of the kind of error. -/
def kind : RenderError → String
  | .conversion _ => "ConversionError"
  | .invalidFormat .. => "FormatError"
  | .serialization _ => "SerializationError"
  | .custom kind _ => kind

/-- The error in words. -/
def message : RenderError → String
  | .conversion message => message
  | .invalidFormat _ message => message
  | .serialization cause => cause.message
  | .custom _ message => message

end RenderError

end MessageTemplate
