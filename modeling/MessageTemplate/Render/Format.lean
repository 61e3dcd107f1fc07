import MessageTemplate.Argument.Conversion
import MessageTemplate.Render.Relations
import MessageTemplate.Template.Tokens

/-!
# Formatting a template

* `formatTemplate`: the text of a template and arguments, without options.
* `formatWith`: the same under options, with the calls of user code.
* `formatWithRelations`: the text and the relations.

Lists among the arguments are replaced by their items, and the output is cut at the end.
-/

namespace MessageTemplate

/-- The text of a template under options. -/
def formatWith (options : Options) (template : String) (arguments : List Argument) :
    Traced String := do
  let text ← weave options (tokenize template) (Argument.expand arguments)
  pure (options.truncate text)

/-- The text of a template under options, and what its labels stand for. -/
def formatWithRelations (options : Options) (template : String) (arguments : List Argument) :
    Traced (String × Relations) := do
  let text ← formatWith options template arguments
  pure (text, relationsOf (tokenize template) (Argument.expand arguments))

/-- The text of a template. -/
def formatTemplate (template : String) (arguments : List Argument) : String :=
  (formatWith {} template arguments).result

end MessageTemplate
