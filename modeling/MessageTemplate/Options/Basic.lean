import MessageTemplate.Serializer
import MessageTemplate.Template.Token

/-!
# Options of a rendering

* `Options`: provider, serializer, the greatest length of the output, and the text for holes
  without a value. Each may be left out.
* `truncateTo`: a text cut to a number of characters, with an ellipsis if there is room for one.
* `Options.truncate`: the output cut as the options ask; no limit and a limit of zero ask nothing.
-/

namespace MessageTemplate

/-- Options of a rendering. -/
structure Options where
  provider? : Option FormatProvider := none
  serializer? : Option Serializer := none
  maxLength? : Option Nat := none
  fallback? : Option String := none

instance : Inhabited Options := ⟨{}⟩

/-- What stands for text that was cut off. -/
def ellipsis : List Char := ['.', '.', '.']

/-- The text cut to at most `limit` characters. An ellipsis takes the place of its last ones when
the limit is longer than that. -/
def truncateTo (limit : Nat) (cs : List Char) : List Char :=
  if cs.length ≤ limit then cs
  else if limit ≤ ellipsis.length then cs.take limit
  else cs.take (limit - ellipsis.length) ++ ellipsis

namespace Options

/-- The provider in use. -/
def provider (options : Options) : FormatProvider := options.provider?.getD .invariant

/-- The serializer in use. -/
def serializer (options : Options) : Serializer := options.serializer?.getD .standard

/-- The limit in force. -/
def limit? (options : Options) : Option Nat := options.maxLength?.filter (0 < ·)

/-- Whether output is cut. -/
def isLimited (options : Options) : Bool := options.limit?.isSome

/-- The output cut as the options ask. -/
def truncate (options : Options) (output : String) : String :=
  match options.limit? with
  | some limit => String.ofList (truncateTo limit output.toList)
  | none => output

private def shownOption (text? : Option String) : String :=
  match text? with
  | some text => "Some(" ++ text ++ ")"
  | none => "None"

/-- The form in which options are shown; of user code it says only that it is there. -/
def shown (options : Options) : String :=
  "Options \x7b provider: " ++ shownOption (options.provider?.map fun _ => quoted "..") ++
    ", serializer: " ++ shownOption (options.serializer?.map fun _ => quoted "..") ++
    ", max_length: " ++ shownOption (options.maxLength?.map numberText) ++
    ", fallback: " ++ shownOption (options.fallback?.map quoted) ++ " \x7d"

end Options

end MessageTemplate
