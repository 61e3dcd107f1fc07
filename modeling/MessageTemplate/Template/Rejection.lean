import MessageTemplate.Text.Span

/-!
# Rejected hole candidates

* `Rejection.Cause`: why a candidate is no hole.
* `Rejection.Cause.message`: how that is said.
* `Rejection`: a cause and the bytes to blame for it.
-/

namespace MessageTemplate

/-- Why a hole candidate is kept as text. -/
inductive Rejection.Cause where
  /-- No closing brace follows. -/
  | unterminated
  /-- Nothing stands between the braces. -/
  | empty
  /-- A brace stands inside. -/
  | strayBrace
  /-- A modifier does not come first. -/
  | misplacedModifier (c : Char)
  /-- A character that no declaration may hold. -/
  | invalidName (c : Char)
  /-- A hyphen does not come first in the alignment. -/
  | misplacedHyphen
  /-- A character that no alignment may hold. -/
  | invalidAlignment (c : Char)
  /-- The declaration has neither letter, digit nor underscore. -/
  | missingName
deriving DecidableEq, Repr

/-- A rejected candidate: the cause and the bytes to blame. -/
structure Rejection where
  cause : Rejection.Cause
  span : Span
deriving DecidableEq, Repr

namespace Rejection.Cause

/-- The name of the cause, without the character it may carry. -/
def name : Cause → String
  | .unterminated => "Unterminated"
  | .empty => "Empty"
  | .strayBrace => "StrayBrace"
  | .misplacedModifier _ => "MisplacedModifier"
  | .invalidName _ => "InvalidName"
  | .misplacedHyphen => "MisplacedHyphen"
  | .invalidAlignment _ => "InvalidAlignment"
  | .missingName => "MissingName"

/-- The cause in words. -/
def message : Cause → String
  | .unterminated => "placeholder is never closed"
  | .empty => "placeholder is empty"
  | .strayBrace => "braces cannot appear inside a placeholder"
  | .misplacedModifier c =>
    "'" ++ c.toString ++ "' is only allowed as the first character of a declaration"
  | .invalidName c => "'" ++ c.toString ++ "' is not allowed in a declaration"
  | .misplacedHyphen => "'-' is only allowed at the start of an alignment"
  | .invalidAlignment c => "'" ++ c.toString ++ "' is not allowed in an alignment"
  | .missingName => "placeholder has no name or index"

/-- Causes that concern the candidate as a whole and not one of its characters. -/
def isWhole : Cause → Bool
  | .unterminated | .empty | .missingName => true
  | .strayBrace | .misplacedModifier _ | .invalidName _ | .misplacedHyphen
  | .invalidAlignment _ => false

end Rejection.Cause

/-- The rejection of a candidate that covers `whole`, from one whose span counts from the first
byte after the opening brace. -/
def Rejection.inside (whole : Span) (r : Rejection) : Rejection :=
  ⟨r.cause, if r.cause.isWhole then whole else r.span.shift (whole.start + 1)⟩

end MessageTemplate
