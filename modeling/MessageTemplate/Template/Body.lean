import MessageTemplate.Template.Rejection
import MessageTemplate.Template.Segment
import MessageTemplate.Text.Alphanumeric

/-!
# Hole bodies

What may stand between the braces of a hole:

    body        := declaration (',' alignment)? (':' format)?
    declaration := ('@' | '$')? (letter | digit | '_')+
    alignment   := '-'? ('0' … '9')*
    format      := any text without braces

The first comma of the declaration opens the alignment, the first colon before the format opens the
format. The body is read from the left, and the first character that does not fit is to blame.

* `Body.Fields`: the three parts of a body.
* `Body.parse`: the parts, or the cause and place of the rejection.
-/

namespace MessageTemplate.Body

/-- The parts of a hole body; an absent alignment or format is empty. -/
structure Fields where
  symbol : String
  lining : String
  format : String
deriving DecidableEq, Repr

/-- The modifier that asks for the plain text of a value. -/
def stringifyMark : Char := '$'

/-- The modifier that hands a structured value to the serializer. -/
def spreadMark : Char := '@'

/-- A character a declaration may end with: a letter, a digit or an underscore. -/
def isNameChar (c : Char) : Bool := c == '_' || isAlphanumeric c

/-- The rejection that blames the character `c` at byte `start`. -/
def blame (cause : Rejection.Cause) (start : Nat) (c : Char) : Rejection :=
  ⟨cause, .ofText start [c]⟩

/-- Reads the format, which begins at byte `start`. -/
def readFormat (start : Nat) : List Char → Except Rejection (List Char)
  | [] => .ok []
  | c :: cs =>
    if Segment.isBrace c then .error (blame .strayBrace start c)
    else (readFormat (start + c.utf8Size) cs).map (c :: ·)

/-- Reads the alignment and the format after it. A hyphen is welcome when `first` is set. -/
def readAlignment (first : Bool) (start : Nat) :
    List Char → Except Rejection (List Char × List Char)
  | [] => .ok ([], [])
  | c :: cs =>
    if Segment.isBrace c then .error (blame .strayBrace start c)
    else if c = ':' then (readFormat (start + 1) cs).map ([], ·)
    else if c = '-' && !first then .error (blame .misplacedHyphen start c)
    else if c = '-' || c.isDigit then
      (readAlignment false (start + c.utf8Size) cs).map fun (lining, format) => (c :: lining, format)
    else .error (blame (.invalidAlignment c) start c)

/-- Reads the declaration and the parts after it. -/
def readDeclaration (start : Nat) :
    List Char → Except Rejection (List Char × List Char × List Char)
  | [] => .ok ([], [], [])
  | c :: cs =>
    if Segment.isBrace c then .error (blame .strayBrace start c)
    else if c = ',' then
      (readAlignment true (start + 1) cs).map fun (lining, format) => ([], lining, format)
    else if c = ':' then (readFormat (start + 1) cs).map fun format => ([], [], format)
    else if (c = stringifyMark || c = spreadMark) && start != 0 then
      .error (blame (.misplacedModifier c) start c)
    else if c = stringifyMark || c = spreadMark || isNameChar c then
      (readDeclaration (start + c.utf8Size) cs).map fun (symbol, lining, format) =>
        (c :: symbol, lining, format)
    else .error (blame (.invalidName c) start c)

/-- The parts of a body given as characters. Offsets of a rejection count from the body's start. -/
def parseChars (body : List Char) : Except Rejection Fields :=
  if body.isEmpty then .error ⟨.empty, ⟨0, 0⟩⟩
  else do
    let (symbol, lining, format) ← readDeclaration 0 body
    if symbol.any isNameChar then
      .ok ⟨String.ofList symbol, String.ofList lining, String.ofList format⟩
    else .error ⟨.missingName, .ofText 0 symbol⟩

/-- The parts of a hole body, or why it is none. -/
def parse (body : String) : Except Rejection Fields := parseChars body.toList

end MessageTemplate.Body
