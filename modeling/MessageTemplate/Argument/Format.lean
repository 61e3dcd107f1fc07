import MessageTemplate.Argument.Basic
import MessageTemplate.Time.Format

/-!
# Arguments in a format

* `Argument.formatWith`: the text of an argument in a format. Numbers take specifiers, dates take
  descriptions, custom values take what they like; other values have no formats.
-/

namespace MessageTemplate.Argument

/-- The error of a numeric specifier that means nothing. -/
def specifierError (spec : String) (e : Specifier.Error) : RenderError :=
  .invalidFormat spec (e.message spec)

/-- The error of a description that cannot be read. -/
def descriptionError (description : String) (e : Description.Error) : RenderError :=
  .invalidFormat description e.message

/-- The text of an argument in a format, if it has formats. -/
def formatWith (separators : Separators) (format : String) :
    Argument → Option (Except RenderError String)
  | .int n => some ((formatInteger separators format n.toInt).mapError (specifierError format))
  | .uint n => some ((formatInteger separators format n.toNat).mapError (specifierError format))
  | .float x => some ((formatFloat separators format x).mapError (specifierError format))
  | .dateTime t => some ((t.format format).mapError (descriptionError format))
  | .custom value => value.formatted format separators
  | .null | .bool _ | .char _ | .str _ | .list _ | .record _ => none

end MessageTemplate.Argument
