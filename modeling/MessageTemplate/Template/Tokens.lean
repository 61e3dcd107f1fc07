import MessageTemplate.Template.Token

/-!
# Tokens from text

Neighbouring segments of text make up one literal. A hole candidate becomes a hole when its body is
one; otherwise it is a literal of its own that tells why.

* `Piece.toHole`: the hole of a candidate, or its rejection.
* `tokenize`: the tokens of a template.
-/

namespace MessageTemplate

namespace Piece

/-- The characters between the braces of a candidate. -/
def body (p : Piece) : List Char := p.text.tail.dropLast

/-- The hole of a candidate, or why it is none. -/
def toHole (rank : Nat) (p : Piece) : Except Rejection Hole :=
  match p.segment with
  | .candidate =>
    match Body.parseChars p.body with
    | .ok fields =>
      .ok ⟨p.span, rank, String.ofList p.text, fields.symbol, fields.lining, fields.format⟩
    | .error r => .error (r.inside p.span)
  | _ => .error ⟨.unterminated, p.span⟩

end Piece

namespace Token

/-- Puts a segment of text before other tokens; a literal that comes first takes it up. -/
def prependText (p : Piece) : List Token → List Token
  | .literal ⟨span, text, none⟩ :: tokens =>
    .literal ⟨p.span.upTo span, String.ofList p.literal ++ text, none⟩ :: tokens
  | tokens => .literal ⟨p.span, String.ofList p.literal, none⟩ :: tokens

/-- The tokens of a run of segments; `rank` counts the holes before them. -/
def ofPieces (rank : Nat) : List Piece → List Token
  | [] => []
  | p :: ps =>
    if p.segment.isText then prependText p (ofPieces rank ps)
    else match p.toHole rank with
      | .ok h => .hole h :: ofPieces (rank + 1) ps
      | .error r => .literal ⟨p.span, String.ofList p.text, some r⟩ :: ofPieces rank ps

end Token

/-- The tokens of a template. -/
def tokenize (template : String) : List Token := Token.ofPieces 0 (Piece.scan template)

end MessageTemplate
