import MessageTemplate.Template.Tokens

/-!
# Template checks

* `Lint.Warning`: what a check has found, and the bytes it is about.
* `Lint.malformedWarnings`: candidates that are no holes.
* `Lint.bindingWarnings`: numbered holes that are bound by rank.
* `Lint.unresolvedWarnings`: holes without an argument.
* `Lint.unusedWarnings`: arguments that no hole reads; nothing is said when holes are bound by rank.
* `Lint.check`: all of these, the last two only when the number of arguments is known.
-/

namespace MessageTemplate.Lint

/-- What a warning is about. -/
inductive Category where
  | malformed
  | binding
  | unresolved
  | unused
deriving DecidableEq, Repr

/-- The name of a category. -/
def Category.name : Category → String
  | .malformed => "malformed"
  | .binding => "binding"
  | .unresolved => "unresolved"
  | .unused => "unused"

/-- A finding about some bytes of the template. -/
structure Warning where
  category : Category
  message : String
  span : Span
deriving DecidableEq, Repr

/-- The warning on one line. -/
def Warning.text (w : Warning) : String := "[" ++ w.category.name ++ "] " ++ w.message

/-- The text of the template inside a span. -/
def excerpt (template : String) (span : Span) : String :=
  String.ofList ((span.slice? template.toList).getD [])

/-- A text between single quotes. -/
def inQuotes (text : String) : String := "'" ++ text ++ "'"

/-- The warning about a literal, if it is a rejected candidate. -/
def malformedWarning? (template : String) (l : Literal) : Option Warning :=
  l.malformed.map fun r =>
    ⟨.malformed, inQuotes (excerpt template l.span) ++ " is rendered as text: " ++ r.cause.message,
      r.span⟩

/-- Warnings about candidates that are no holes. -/
def malformedWarnings (template : String) (tokens : List Token) : List Warning :=
  tokens.filterMap fun token =>
    match token with
    | .literal l => malformedWarning? template l
    | .hole _ => none

/-- The warning about a numbered hole that is bound by its rank. -/
def bindingWarning (hole : Hole) : Warning :=
  ⟨.binding, inQuotes hole.marker ++ " binds to argument " ++ numberText hole.rank ++
    " by position because the template has named holes", hole.span⟩

/-- Warnings about numbered holes that are bound by rank. -/
def bindingWarnings (tokens : List Token) : List Warning :=
  ((holesOf tokens).filter Hole.isNumbered).map bindingWarning

/-- The warning about a hole that reads the argument at `position` of `count`. -/
def unresolvedWarning (position count : Nat) (hole : Hole) : Warning :=
  ⟨.unresolved, inQuotes hole.marker ++ " reads argument " ++ numberText position ++ " but only " ++
    numberText count ++ " given", hole.span⟩

/-- Warnings about holes without an argument. -/
def unresolvedWarnings (binding : Binding) (count : Nat) (tokens : List Token) : List Warning :=
  ((holesOf tokens).filter fun hole => count ≤ binding.position hole).map fun hole =>
    unresolvedWarning (binding.position hole) count hole

/-- The warning about an argument that no hole reads. It concerns the end of the template. -/
def unusedWarning (template : String) (index : Nat) : Warning :=
  ⟨.unused, "argument " ++ numberText index ++ " is never referenced",
    .ofText (byteLength template.toList) []⟩

/-- Warnings about arguments that no hole reads. -/
def unusedWarnings (template : String) (count : Nat) (tokens : List Token) : List Warning :=
  let used := (holesOf tokens).map Hole.effectiveIndex
  ((List.range count).filter fun i => !used.contains i).map (unusedWarning template)

/-- The warnings about a template and, if it is known, the number of its arguments. -/
def check (template : String) (count? : Option Nat) : List Warning :=
  let tokens := tokenize template
  let binding := Binding.ofTokens tokens
  malformedWarnings template tokens ++
    (match binding with
      | .rank => bindingWarnings tokens
      | .index => []) ++
    (match count? with
      | some count =>
        unresolvedWarnings binding count tokens ++
          (match binding with
            | .index => unusedWarnings template count tokens
            | .rank => [])
      | none => [])

end MessageTemplate.Lint
