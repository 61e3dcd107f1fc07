import Mathlib.Data.List.Chain
import Mathlib.Data.List.Forall2
import MessageTemplate.Proofs.Template.Scanning

/-!
# Tokens lose nothing of their template

The tokens of a template cover it from its first byte to its last, and each of them determines the
part that it covers: a hole and a rejected candidate hold it as it stands, other text holds it with
doubled braces collapsed.

* `collapse`: text with each pair of equal braces replaced by one.
* `Covers`: tokens that cover a text, part by part; `covers_tokensFrom` says that tokenizing gives
  such tokens.
* `Lossless`: what this means for the spans, markers, ranks and texts of the tokens of a template.
* `tokenize_lossless`: the tokens of every template are so.
-/

namespace MessageTemplate

open Segment

/-! ## Collapsed braces -/

/-- The text with each pair of equal braces replaced by a single one, from left to right. -/
def collapse : List Char → List Char
  | '{' :: '{' :: cs => '{' :: collapse cs
  | '}' :: '}' :: cs => '}' :: collapse cs
  | c :: cs => c :: collapse cs
  | [] => []

theorem collapse_text {c : Char} (hc : isBrace c = false) (cs : List Char) :
    collapse (c :: cs) = c :: collapse cs := by
  obtain ⟨hopen, hclose⟩ := isBrace_eq_false.mp hc
  rw [collapse]
  · rintro ds rfl; exact absurd rfl hopen
  · rintro ds rfl; exact absurd rfl hclose

theorem collapse_loneClose {cs : List Char} (h : cs.head? ≠ some '}') :
    collapse ('}' :: cs) = '}' :: collapse cs := by
  rw [collapse]
  · rintro ds ⟨⟩
  · rintro ds - rfl; simp at h

/-- Of an odd number of braces the last one is left. -/
example : collapse ['{', '{', '}', '}', '}'] = ['{', '}', '}'] := rfl

/-! ## Tokens that cover a text -/

namespace Token

/-- Whether the token is text and no rejected candidate. -/
def isPlain : Token → Bool
  | .literal l => l.malformed.isNone
  | .hole _ => false

/-- The part of a template that the token covers. -/
def part? (template : List Char) (token : Token) : Option (List Char) := token.span.slice? template

/-- The part `raw` of a template is what the token says; `rank` holes stand before it. -/
def Denotes (rank : Nat) (raw : List Char) : Token → Prop
  | .literal ⟨_, text, none⟩ => text.toList = collapse raw
  | .literal ⟨_, text, some _⟩ => text.toList = raw
  | .hole h => h.marker.toList = raw ∧ h.rank = rank

end Token

/-- The tokens cover the text `cs`, which begins at byte `start`; `rank` holes stand before it. -/
inductive Covers : Nat → Nat → List Char → List Token → Prop
  | nil {start rank : Nat} : Covers start rank [] []
  | cons {start rank : Nat} {raw cs : List Char} {token : Token} {tokens : List Token}
      (hraw : raw ≠ []) (hspan : token.span = .ofText start raw) (hden : token.Denotes rank raw)
      (hnext : token.isPlain → ∀ t ∈ tokens.head?, t.isPlain = false)
      (htail : Covers (start + byteLength raw) (rank + (holesOf [token]).length) cs tokens) :
      Covers start rank (raw ++ cs) (token :: tokens)

namespace Covers

variable {start rank : Nat} {text cs : List Char} {tokens : List Token}

/-- Text put before tokens covers its own part as well, if that part collapses to it whatever of
the rest it is joined with. -/
theorem addText (raw : List Char) (hraw : raw ≠ [])
    (hcollapse : ∀ more, more <+: cs → collapse (raw ++ more) = text ++ collapse more)
    (h : Covers (start + byteLength raw) rank cs tokens) :
    Covers start rank (raw ++ cs) (Token.addText (.ofText start raw) text tokens) := by
  have halone : collapse raw = text := by simpa [collapse] using hcollapse [] List.nil_prefix
  cases h with
  | nil =>
    refine .cons hraw rfl ?_ (by simp) .nil
    simp [Token.Denotes, Piece.literal, Segment.literal, halone]
  | @cons _ _ raw' cs' token tokens hraw' hspan hden hnext htail =>
    obtain ⟨span, text', _ | r⟩ | hole := token
    · -- Two plain texts in a row become one, which covers both parts.
      obtain rfl : span = _ := hspan
      rw [Token.addText_plain, Span.ofText_upTo_ofText, ← List.append_assoc]
      refine .cons (by simp [hraw]) rfl ?_ (fun _ => hnext rfl) ?_
      · have hden : text'.toList = collapse raw' := hden
        simp [Token.Denotes, hden, hcollapse raw' (List.prefix_append _ _)]
      · simpa [Nat.add_assoc] using htail
    · refine .cons hraw rfl ?_ (by simp [Token.isPlain]) (.cons hraw' hspan hden hnext htail)
      simp [Token.Denotes, Piece.literal, Segment.literal, halone]
    · refine .cons hraw rfl ?_ (by simp [Token.isPlain]) (.cons hraw' hspan hden hnext htail)
      simp [Token.Denotes, Piece.literal, Segment.literal, halone]

end Covers

/-- The tokens of the rest of a template cover it. -/
theorem covers_tokensFrom (start rank : Nat) (cs : List Char) :
    Covers start rank cs (tokensFrom start rank cs) := by
  induction cs using template_induction generalizing start rank with
  | nil => rw [tokensFrom_nil]; exact .nil
  | text c cs hc ih =>
    rw [tokensFrom_text hc]
    exact .addText [c] (by simp) (fun more _ => collapse_text hc more) (ih _ _)
  | escapedOpen cs ih =>
    rw [tokensFrom_escapedOpen]
    exact .addText ['{', '{'] (by simp) (fun more _ => rfl) (ih _ _)
  | escapedClose cs ih =>
    rw [tokensFrom_escapedClose]
    exact .addText ['}', '}'] (by simp) (fun more _ => rfl) (ih _ _)
  | loneClose cs hhead ih =>
    rw [tokensFrom_loneClose hhead]
    refine .addText ['}'] (by simp) (fun more hmore => collapse_loneClose ?_) (ih _ _)
    obtain ⟨rest, rfl⟩ := hmore
    cases more <;> simp_all
  | candidate body cs hhead hclose ih =>
    have hcs : '{' :: (body ++ '}' :: cs) = ('{' :: (body ++ ['}'])) ++ cs := by simp
    cases hbody : Body.parseChars body with
    | ok fields =>
      rw [tokensFrom_hole hhead hclose hbody, hcs]
      exact .cons (by simp) rfl (by simp [Token.Denotes]) nofun (ih _ _)
    | error r =>
      rw [tokensFrom_rejected hhead hclose hbody, hcs]
      exact .cons (by simp) rfl (by simp [Token.Denotes]) nofun (ih _ _)
  | unterminated cs hhead hclose =>
    rw [tokensFrom_unterminated hhead hclose, ← List.append_nil ('{' :: cs)]
    exact .cons (by simp) (by simp [Token.span]) (by simp [Token.Denotes]) nofun .nil

/-- The tokens of a template cover it. -/
theorem covers_tokenize (template : String) : Covers 0 0 template.toList (tokenize template) :=
  covers_tokensFrom 0 0 template.toList

/-! ## What the cover says -/

namespace Covers

variable {start rank : Nat} {cs : List Char} {tokens : List Token}

theorem tile (h : Covers start rank cs tokens) :
    Span.Tile start (start + byteLength cs) (tokens.map Token.span) := by
  induction h with
  | nil => simp [Span.Tile]
  | cons hraw hspan _ _ _ ih =>
    rw [List.map_cons, hspan]
    refine ⟨rfl, ?_, ?_⟩
    · have := byteLength_pos hraw
      simp only [Span.ofText_start, Span.ofText_stop]
      omega
    · simpa [Nat.add_assoc] using ih

/-- Sliced out of any template that goes on with `cs` at byte `start`, the parts make up `cs`. -/
theorem slices (h : Covers start rank cs tokens) (pre : List Char) (hpre : byteLength pre = start) :
    (tokens.mapM (Token.part? (pre ++ cs))).map List.flatten = some cs := by
  induction h generalizing pre with
  | nil => rfl
  | @cons start rank raw cs token tokens _ hspan _ _ _ ih =>
    obtain ⟨parts, hparts, hcs⟩ := Option.map_eq_some_iff.mp (ih (pre ++ raw) (by simp [hpre]))
    rw [List.append_assoc] at hparts
    have hslice : token.part? (pre ++ (raw ++ cs)) = some raw := by
      rw [Token.part?, hspan, ← hpre]; exact Span.slice?_ofText pre raw cs
    simp [List.mapM_cons, hslice, hparts, hcs]

/-- Each token denotes the part that its span slices out. -/
theorem denotes (h : Covers start rank cs tokens) (pre : List Char) (hpre : byteLength pre = start)
    {before after : List Token} {token : Token} (htokens : tokens = before ++ token :: after) :
    ∃ raw, token.part? (pre ++ cs) = some raw ∧
      token.Denotes (rank + (holesOf before).length) raw := by
  induction h generalizing pre before with
  | nil => simp at htokens
  | @cons start rank raw cs first tokens _ hspan hden _ _ ih =>
    cases before with
    | nil =>
      obtain ⟨rfl, rfl⟩ := List.cons.inj htokens
      refine ⟨raw, ?_, by simpa using hden⟩
      rw [Token.part?, hspan, ← hpre]; exact Span.slice?_ofText pre raw cs
    | cons t before =>
      obtain ⟨rfl, hrest⟩ := List.cons.inj htokens
      obtain ⟨raw', hslice, hden'⟩ := ih (pre ++ raw) (by simp [hpre]) hrest
      refine ⟨raw', by rwa [List.append_assoc] at hslice, ?_⟩
      rwa [Nat.add_assoc, ← List.length_append, ← holesOf_append] at hden'

/-- The holes are ranked in order. -/
theorem ranks (h : Covers start rank cs tokens) :
    (holesOf tokens).map Hole.rank = List.range' rank (holesOf tokens).length := by
  induction h with
  | nil => rfl
  | @cons _ rank _ _ token tokens _ _ hden _ _ ih =>
    cases token with
    | literal l => exact ih
    | hole hole =>
      obtain ⟨-, hrank⟩ := hden
      rw [holesOf_cons_hole, List.map_cons, hrank, List.length_cons, List.range'_succ]
      exact congrArg _ ih

theorem separated (h : Covers start rank cs tokens) :
    tokens.IsChain fun a b => ¬(a.isPlain ∧ b.isPlain) := by
  induction h with
  | nil => exact .nil
  | cons _ _ _ hnext _ ih =>
    rw [List.isChain_cons]
    refine ⟨fun t ht => ?_, ih⟩
    rintro ⟨hfirst, hsecond⟩
    rw [hnext hfirst t ht] at hsecond
    cases hsecond

end Covers

/-! ## Candidates -/

/-- What a candidate becomes: the hole that its body describes, or else a literal of its own. -/
inductive Piece.Becomes (p : Piece) : Token → Prop
  | hole {rank : Nat} {h : Hole} : p.toHole rank = .ok h → Becomes p (.hole h)
  | literal {rank : Nat} {r : Rejection} : p.toHole rank = .error r →
      Becomes p (.literal ⟨p.span, String.ofList p.text, some r⟩)

theorem filter_addText (span : Span) (text : List Char) (tokens : List Token) :
    (Token.addText span text tokens).filter (!·.isPlain) = tokens.filter (!·.isPlain) := by
  unfold Token.addText Token.prependText
  split <;> rfl

theorem mem_addText_iff {span : Span} {text : List Char} {tokens : List Token} {token : Token}
    (h : token.isPlain = false) : token ∈ Token.addText span text tokens ↔ token ∈ tokens := by
  have hfilter := congrArg (token ∈ ·) (filter_addText span text tokens)
  simpa [List.mem_filter, h] using hfilter

/-- The tokens that are no plain text are what the candidates become, in order. -/
theorem becomes_ofPieces (rank : Nat) (ps : List Piece) :
    List.Forall₂ Piece.Becomes (ps.filter (!·.segment.isText))
      ((Token.ofPieces rank ps).filter (!·.isPlain)) := by
  induction ps generalizing rank with
  | nil => exact .nil
  | cons p ps ih =>
    rw [Token.ofPieces]
    by_cases htext : p.segment.isText
    · rw [if_pos htext, Token.prependText_eq, filter_addText,
        List.filter_cons_of_neg (by simp [htext])]
      exact ih rank
    · rw [if_neg htext, List.filter_cons_of_pos (by simp [htext])]
      cases hhole : p.toHole rank with
      | ok h => exact .cons (.hole hhole) (ih _)
      | error r => exact .cons (.literal hhole) (ih _)

/-! ## The tokens of a template -/

/-- What the tokens of a template keep of it. -/
structure Lossless (template : String) (tokens : List Token) : Prop where
  /-- The spans are nonempty and follow one another from the first byte to the last. -/
  tile : Span.Tile 0 template.utf8ByteSize (tokens.map Token.span)
  /-- The parts of the template inside the spans make up the template. -/
  slices : (tokens.mapM (Token.part? template.toList)).map List.flatten = some template.toList
  /-- The marker of a hole is the part that it covers, and its rank counts the holes before it. -/
  hole : ∀ before h after, tokens = before ++ .hole h :: after →
    h.span.slice? template.toList = some h.marker.toList ∧ h.rank = (holesOf before).length
  /-- Each candidate becomes a hole, or a literal of its own with the reason. -/
  candidates : List.Forall₂ Piece.Becomes ((Piece.scan template).filter (!·.segment.isText))
    (tokens.filter (!·.isPlain))
  /-- The text of a rejected candidate is the part that it covers. -/
  malformed : ∀ span text r, .literal ⟨span, text, some r⟩ ∈ tokens →
    span.slice? template.toList = some text.toList
  /-- Any other text is the part that it covers with doubled braces collapsed. -/
  plain : ∀ span text, .literal ⟨span, text, none⟩ ∈ tokens →
    ∃ raw, span.slice? template.toList = some raw ∧ text.toList = collapse raw
  /-- Plain texts do not stand next to each other. -/
  separated : tokens.IsChain fun a b => ¬(a.isPlain ∧ b.isPlain)

/-- **Tokens lose nothing.** The tokens of a template cover it from end to end, and each of them
tells which part it covers. -/
theorem tokenize_lossless (template : String) : Lossless template (tokenize template) := by
  have hcovers := covers_tokenize template
  have hdenotes {token : Token} (h : token ∈ tokenize template) : ∃ raw rank,
      token.part? template.toList = some raw ∧ token.Denotes rank raw := by
    obtain ⟨before, after, htokens⟩ := List.append_of_mem h
    obtain ⟨raw, hslice, hden⟩ := hcovers.denotes [] rfl htokens
    exact ⟨raw, _, hslice, hden⟩
  refine ⟨?_, hcovers.slices [] rfl, ?_, becomes_ofPieces 0 _, ?_, ?_, hcovers.separated⟩
  · simpa [byteLength_toList] using hcovers.tile
  · intro before h after htokens
    obtain ⟨raw, hslice, hmarker, hrank⟩ := hcovers.denotes [] rfl htokens
    exact ⟨by rw [hmarker]; exact hslice, by simpa using hrank⟩
  · intro span text r hmem
    obtain ⟨raw, rank, hslice, hden⟩ := hdenotes hmem
    have hden : text.toList = raw := hden
    rw [hden]; exact hslice
  · intro span text hmem
    obtain ⟨raw, rank, hslice, hden⟩ := hdenotes hmem
    exact ⟨raw, hslice, hden⟩

end MessageTemplate
