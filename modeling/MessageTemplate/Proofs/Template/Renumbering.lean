import Mathlib.Data.List.Forall2
import MessageTemplate.Proofs.Number.Decimal
import MessageTemplate.Proofs.Template.BodyGrammar
import MessageTemplate.Proofs.Template.Lossless

/-!
# Templates with ranks for names

In the renumbered template every hole goes by its rank: the decimal digits of the rank stand where
the name stood, and nothing else is changed. Its tokens are those of the template, up to their
places and the names of holes.

* `renumber`: the renumbered template, put together from the parts that the tokens cover.
* `Declared`: a hole with a known modifier and name; `Declared.mark_eq`, `Declared.name_eq` read
  them back.
* `renumbered_ofBody`: the renumbered marker is the marker of a hole that differs in the name only.
* `renumberFrom_addText`, `renumberFrom_cons`: renumbering from the head of a template.
* `renumbers_tokensFrom`: the tokens of the rest of a template and of its renumbered form.
* `renumbers_tokenize`: the tokens of a template and of its renumbered form.
-/

namespace MessageTemplate

open Segment

/-! ## Renumbering -/

namespace Hole

/-- The modifier as it is written, if there is one. -/
def mark (hole : Hole) : List Char :=
  if hole.modifier?.isSome then hole.symbol.toList.take 1 else []

/-- The marker with the rank where the name stood. -/
def renumbered (hole : Hole) : List Char :=
  '{' :: (hole.mark ++ (decimalDigits hole.rank ++
    hole.marker.toList.drop (1 + hole.symbol.length)))

/-- The holes differ in their places and their names only, and the second goes by its rank. -/
structure Renumbers (hole hole' : Hole) : Prop where
  rank : hole'.rank = hole.rank
  name : hole'.name = numberText hole.rank
  modifier? : hole'.modifier? = hole.modifier?
  lining : hole'.lining = hole.lining
  format : hole'.format = hole.format

end Hole

namespace Token

/-- The part of the template that the token covers, with the rank for the name if it is a hole. -/
def renumbered (template : List Char) : Token → List Char
  | .literal l => (l.span.slice? template).getD []
  | .hole h => h.renumbered

/-- The tokens are literals with the same text and the same cause of rejection, if any, or holes
that differ in their places and their names only. -/
inductive Renumbers : Token → Token → Prop
  | literal {l l' : Literal} (text : l'.text = l.text)
      (cause : l'.malformed.map Rejection.cause = l.malformed.map Rejection.cause) :
      Renumbers (.literal l) (.literal l')
  | hole {h h' : Hole} : h.Renumbers h' → Renumbers (.hole h) (.hole h')

end Token

/-- The template with the rank of each hole in place of its name. -/
def renumber (template : String) : String :=
  String.ofList ((tokenize template).flatMap (Token.renumbered template.toList))

/-! ## Modifiers and names -/

/-- The modifier that a character stands for. -/
def Modifier.ofChar? (c : Char) : Option Modifier :=
  if c = Body.stringifyMark then some .stringify
  else if c = Body.spreadMark then some .spread
  else none

theorem Hole.modifier?_eq (hole : Hole) :
    hole.modifier? = hole.symbol.toList.head?.bind Modifier.ofChar? := by
  unfold Hole.modifier?
  cases hole.symbol.toList <;> rfl

/-- The hole is declared by a modifier, perhaps none, and a name. -/
structure Declared (hole : Hole) (mark name : List Char) : Prop where
  symbol : hole.symbol.toList = mark ++ name
  isMark : Body.IsMark [Body.spreadMark, Body.stringifyMark] mark
  ne_nil : name ≠ []
  isName : ∀ c ∈ name, Body.isNameChar c = true

namespace Declared

variable {hole : Hole} {mark name : List Char}

theorem head (h : Declared hole mark name) :
    hole.symbol.toList.head?.bind Modifier.ofChar? = mark.head?.bind Modifier.ofChar? := by
  rw [h.symbol]
  rcases h.isMark with rfl | ⟨c, -, rfl⟩
  · obtain ⟨c, cs, rfl⟩ := List.exists_cons_of_ne_nil h.ne_nil
    obtain ⟨-, -, -, hstringify, hspread⟩ := Body.isNameChar_ne (h.isName c List.mem_cons_self)
    simp [Modifier.ofChar?, hstringify, hspread]
  · rfl

theorem modifier?_eq (h : Declared hole mark name) :
    hole.modifier? = mark.head?.bind Modifier.ofChar? := by
  rw [hole.modifier?_eq, h.head]

theorem isSome_modifier? (h : Declared hole mark name) :
    hole.modifier?.isSome = !mark.isEmpty := by
  rw [h.modifier?_eq]
  rcases h.isMark with rfl | ⟨c, hc, rfl⟩
  · rfl
  · have hc : c = Body.spreadMark ∨ c = Body.stringifyMark := by simpa using hc
    rcases hc with rfl | rfl <;> rfl

theorem mark_eq (h : Declared hole mark name) : hole.mark = mark := by
  rw [Hole.mark, h.isSome_modifier?, h.symbol]
  rcases h.isMark with rfl | ⟨c, -, rfl⟩ <;> rfl

theorem name_eq (h : Declared hole mark name) : hole.name = String.ofList name := by
  unfold Hole.name
  have hsome := h.isSome_modifier?
  have hsymbol := h.symbol
  rcases h.isMark with rfl | ⟨c, -, rfl⟩
  · have hnone : hole.modifier? = none := by simpa using hsome
    rw [hnone, ← hole.symbol.ofList_toList, hsymbol]
    rfl
  · obtain ⟨m, hm⟩ := Option.isSome_iff_exists.1 hsome
    rw [hm, hsymbol]
    rfl

end Declared

theorem isNameChar_of_mem_decimalDigits {n : Nat} {c : Char} (h : c ∈ decimalDigits n) :
    Body.isNameChar c = true := by
  have hdigit := isDigit_of_mem_decimalDigits h
  have hascii : c.toNat < 128 := by
    have hle : c.val ≤ 57 := by
      simp only [Char.isDigit, Bool.and_eq_true, decide_eq_true_eq] at hdigit
      exact hdigit.2
    have : c.toNat ≤ 57 := UInt32.le_iff_toNat_le.1 hle
    omega
  simp [Body.isNameChar, isAlphanumeric_of_ascii hascii, Char.isAlphanum, hdigit]

/-! ## Renumbered holes -/

/-- The body between braces. -/
def braced (body : List Char) : List Char := '{' :: (body ++ ['}'])

theorem braced_append (body cs : List Char) : braced body ++ cs = '{' :: (body ++ '}' :: cs) := by
  simp [braced]

/-- The hole with the given body and the fields that are read from it. -/
def Hole.ofBody (span : Span) (rank : Nat) (body : List Char) (fields : Body.Fields) : Hole :=
  ⟨span, rank, String.ofList (braced body), fields.symbol, fields.lining, fields.format⟩

/-- The shape with another declaration. -/
def Body.Shape.redeclare (s : Body.Shape) (declaration : List Char)
    (h : Body.IsDeclaration declaration) : Body.Shape :=
  { s with declaration, isDeclaration := h }

section Holes

variable {start rank : Nat} {body cs : List Char} {fields : Body.Fields}

/-- A candidate with a body that is read is a hole. -/
theorem tokensFrom_parsed (hbody : Body.parseChars body = .ok fields) :
    tokensFrom start rank (braced body ++ cs) =
      .hole (.ofBody (.ofText start (braced body)) rank body fields) ::
      tokensFrom (start + byteLength (braced body)) (rank + 1) cs := by
  obtain ⟨-, hbrace⟩ := Body.parseChars_ok_char hbody
  rw [braced_append]
  refine tokensFrom_hole (fun h => ?_) (fun h => ?_) hbody
  · exact absurd (hbrace _ (List.mem_of_head? h)) (by decide)
  · exact absurd (hbrace _ h) (by decide)

/-- A candidate with any other body is a literal. -/
theorem tokensFrom_unparsed {r : Rejection} (hhead : body.head? ≠ some '{') (hclose : '}' ∉ body)
    (hbody : Body.parseChars body = .error r) :
    tokensFrom start rank (braced body ++ cs) =
      .literal ⟨.ofText start (braced body), String.ofList (braced body),
        some (r.inside (.ofText start (braced body)))⟩ ::
      tokensFrom (start + byteLength (braced body)) rank cs := by
  rw [braced_append]
  exact tokensFrom_rejected hhead hclose hbody

/-- The renumbered marker is again a body between braces, and that body describes a hole that
differs in the name only. -/
theorem renumbered_ofBody (hbody : Body.parseChars body = .ok fields) (span : Span) (rank : Nat) :
    ∃ body' fields', Body.parseChars body' = .ok fields' ∧
      (Hole.ofBody span rank body fields).renumbered = braced body' ∧
      ∀ span', (Hole.ofBody span rank body fields).Renumbers (.ofBody span' rank body' fields') := by
  obtain ⟨s, rfl, rfl⟩ := Body.parseChars_ok_iff.1 hbody
  obtain ⟨mark, name, hdeclaration, hmark, hne, hname⟩ := s.isDeclaration
  have hdigits : ∀ c ∈ decimalDigits rank, Body.isNameChar c = true :=
    fun c hc => isNameChar_of_mem_decimalDigits hc
  let s' := s.redeclare (mark ++ decimalDigits rank)
    ⟨mark, decimalDigits rank, rfl, hmark, decimalDigits_ne_nil rank, hdigits⟩
  have hold : Declared (.ofBody span rank s.write s.fields) mark name :=
    ⟨by rw [← hdeclaration]; exact String.toList_ofList, hmark, hne, hname⟩
  have hnew (span' : Span) : Declared (.ofBody span' rank s'.write s'.fields) mark
      (decimalDigits rank) :=
    ⟨String.toList_ofList, hmark, decimalDigits_ne_nil rank, hdigits⟩
  refine ⟨s'.write, s'.fields, Body.parseChars_ok_iff.2 ⟨s', rfl, rfl⟩, ?_,
    fun span' => ⟨rfl, (hnew span').name_eq, ?_, rfl, rfl⟩⟩
  · have hlength : (Hole.ofBody span rank s.write s.fields).symbol.length = (mark ++ name).length := by
      rw [← hold.symbol, String.length_toList]
    rw [Hole.renumbered, hold.mark_eq, hlength, Nat.add_comm]
    simp [Hole.ofBody, braced, s', Body.Shape.write, Body.Shape.redeclare, hdeclaration]
  · rw [(hnew span').modifier?_eq, hold.modifier?_eq]

end Holes

/-! ## Renumbering from the head of a template -/

/-- The renumbered form of the rest `cs` of a template that begins with `pre`; `rank` holes stand
before it. -/
def renumberFrom (pre : List Char) (rank : Nat) (cs : List Char) : List Char :=
  (tokensFrom (byteLength pre) rank cs).flatMap (Token.renumbered (pre ++ cs))

section Renumber

variable {pre raw text cs : List Char} {rank : Nat} {tokens : List Token}

theorem renumbered_literal (pre raw cs : List Char) (text : String) (malformed : Option Rejection) :
    Token.renumbered (pre ++ (raw ++ cs)) (.literal ⟨.ofText (byteLength pre) raw, text, malformed⟩) =
      raw := by
  rw [Token.renumbered, Span.slice?_ofText, Option.getD_some]

/-- Text put before tokens is kept as it stands. -/
theorem flatMap_addText (h : Covers (byteLength (pre ++ raw)) rank cs tokens) :
    (Token.addText (.ofText (byteLength pre) raw) text tokens).flatMap
        (Token.renumbered (pre ++ (raw ++ cs))) =
      raw ++ tokens.flatMap (Token.renumbered (pre ++ (raw ++ cs))) := by
  cases h with
  | nil =>
    have hplain : Token.addText (.ofText (byteLength pre) raw) text [] =
        [.literal ⟨.ofText (byteLength pre) raw, String.ofList text, none⟩] := rfl
    rw [hplain, List.flatMap_cons, renumbered_literal]
  | @cons _ _ raw' cs' token tokens hraw' hspan hden hnext htail =>
    obtain ⟨span, text', _ | r⟩ | hole := token
    · -- The two plain texts are sliced out together.
      obtain rfl : span = _ := hspan
      have hjoint := renumbered_literal pre (raw ++ raw') cs' (String.ofList text ++ text') none
      have hsecond := renumbered_literal (pre ++ raw) raw' cs' text' none
      rw [List.append_assoc] at hjoint hsecond
      rw [Token.addText_plain, byteLength_append, Span.ofText_upTo_ofText, List.flatMap_cons,
        List.flatMap_cons, hjoint, ← byteLength_append, hsecond, List.append_assoc]
    · rw [Token.addText_rejected, List.flatMap_cons, renumbered_literal]
    · rw [Token.addText_hole, List.flatMap_cons, renumbered_literal]

theorem renumberFrom_addText (raw : List Char)
    (h : tokensFrom (byteLength pre) rank (raw ++ cs) = Token.addText (.ofText (byteLength pre) raw)
      text (tokensFrom (byteLength pre + byteLength raw) rank cs)) :
    renumberFrom pre rank (raw ++ cs) = raw ++ renumberFrom (pre ++ raw) rank cs := by
  rw [renumberFrom, h, ← byteLength_append, flatMap_addText (covers_tokensFrom _ _ _), renumberFrom,
    List.append_assoc]

theorem renumberFrom_cons (raw : List Char) {token : Token} {rank' : Nat}
    (h : tokensFrom (byteLength pre) rank (raw ++ cs) =
      token :: tokensFrom (byteLength pre + byteLength raw) rank' cs) :
    renumberFrom pre rank (raw ++ cs) =
      token.renumbered (pre ++ (raw ++ cs)) ++ renumberFrom (pre ++ raw) rank' cs := by
  rw [renumberFrom, h, List.flatMap_cons, renumberFrom, byteLength_append, List.append_assoc]

@[simp] theorem renumberFrom_nil : renumberFrom pre rank [] = [] := by
  rw [renumberFrom, tokensFrom_nil, List.flatMap_nil]

theorem renumberFrom_text {c : Char} (hc : isBrace c = false) :
    renumberFrom pre rank (c :: cs) = c :: renumberFrom (pre ++ [c]) rank cs :=
  renumberFrom_addText [c] (tokensFrom_text hc)

theorem renumberFrom_escapedOpen : renumberFrom pre rank ('{' :: '{' :: cs) =
    '{' :: '{' :: renumberFrom (pre ++ ['{', '{']) rank cs :=
  renumberFrom_addText ['{', '{'] tokensFrom_escapedOpen

theorem renumberFrom_escapedClose : renumberFrom pre rank ('}' :: '}' :: cs) =
    '}' :: '}' :: renumberFrom (pre ++ ['}', '}']) rank cs :=
  renumberFrom_addText ['}', '}'] tokensFrom_escapedClose

theorem renumberFrom_loneClose (h : cs.head? ≠ some '}') :
    renumberFrom pre rank ('}' :: cs) = '}' :: renumberFrom (pre ++ ['}']) rank cs :=
  renumberFrom_addText ['}'] (tokensFrom_loneClose h)

/-- A candidate that is a hole becomes its renumbered marker. -/
theorem renumberFrom_hole {body : List Char} {fields : Body.Fields}
    (hbody : Body.parseChars body = .ok fields) :
    renumberFrom pre rank (braced body ++ cs) =
      (Hole.ofBody (.ofText (byteLength pre) (braced body)) rank body fields).renumbered ++
        renumberFrom (pre ++ braced body) (rank + 1) cs :=
  renumberFrom_cons (braced body) (tokensFrom_parsed hbody)

/-- Any other candidate is kept as it stands. -/
theorem renumberFrom_rejected {body : List Char} {r : Rejection} (hhead : body.head? ≠ some '{')
    (hclose : '}' ∉ body) (hbody : Body.parseChars body = .error r) :
    renumberFrom pre rank (braced body ++ cs) =
      braced body ++ renumberFrom (pre ++ braced body) rank cs := by
  rw [renumberFrom_cons (braced body) (tokensFrom_unparsed hhead hclose hbody), renumbered_literal]

theorem renumberFrom_unterminated (hhead : cs.head? ≠ some '{') (hclose : '}' ∉ cs) :
    renumberFrom pre rank ('{' :: cs) = '{' :: cs := by
  have hslice := renumbered_literal pre ('{' :: cs) []
  rw [List.append_nil] at hslice
  rw [renumberFrom, tokensFrom_unterminated hhead hclose, List.flatMap_cons, hslice,
    List.flatMap_nil, List.append_nil]

/-- Renumbering does not change how a template begins. -/
theorem head?_renumberFrom (pre : List Char) (rank : Nat) (cs : List Char) :
    (renumberFrom pre rank cs).head? = cs.head? := by
  cases cs using template_induction with
  | nil => rw [renumberFrom_nil]
  | text c cs hc _ => rw [renumberFrom_text hc]; rfl
  | escapedOpen cs _ => rw [renumberFrom_escapedOpen]; rfl
  | escapedClose cs _ => rw [renumberFrom_escapedClose]; rfl
  | loneClose cs hhead _ => rw [renumberFrom_loneClose hhead]; rfl
  | candidate body cs hhead hclose _ =>
    rw [← braced_append]
    cases hbody : Body.parseChars body with
    | ok fields => rw [renumberFrom_hole hbody]; rfl
    | error r => rw [renumberFrom_rejected hhead hclose hbody]; rfl
  | unterminated cs hhead hclose => rw [renumberFrom_unterminated hhead hclose]

end Renumber

/-! ## The tokens of a renumbered template -/

theorem forall₂_addText {start start' : Nat} {raw text : List Char} {tokens tokens' : List Token}
    (h : List.Forall₂ Token.Renumbers tokens tokens') :
    List.Forall₂ Token.Renumbers (Token.addText (.ofText start raw) text tokens)
      (Token.addText (.ofText start' raw) text tokens') := by
  cases h with
  | nil => exact .cons (.literal rfl rfl) .nil
  | cons htoken htail =>
    cases htoken with
    | hole hhole => exact .cons (.literal rfl rfl) (.cons (.hole hhole) htail)
    | @literal l l' htext hcause =>
      obtain ⟨span, text', malformed⟩ := l
      obtain ⟨span', text'', malformed'⟩ := l'
      obtain rfl : text'' = text' := htext
      cases malformed <;> cases malformed'
      · exact .cons (.literal rfl rfl) htail
      · cases hcause
      · cases hcause
      · exact .cons (.literal rfl rfl) (.cons (.literal rfl hcause) htail)

/-- The tokens of the rest of a template and those of its renumbered form agree one by one. -/
theorem renumbers_tokensFrom (pre : List Char) (start' rank : Nat) (cs : List Char) :
    List.Forall₂ Token.Renumbers (tokensFrom (byteLength pre) rank cs)
      (tokensFrom start' rank (renumberFrom pre rank cs)) := by
  induction cs using template_induction generalizing pre start' rank with
  | nil => rw [renumberFrom_nil, tokensFrom_nil, tokensFrom_nil]; exact .nil
  | text c cs hc ih =>
    rw [renumberFrom_text hc, tokensFrom_text hc, tokensFrom_text hc, ← byteLength_append]
    exact forall₂_addText (ih _ _ _)
  | escapedOpen cs ih =>
    rw [renumberFrom_escapedOpen, tokensFrom_escapedOpen, tokensFrom_escapedOpen,
      ← byteLength_append]
    exact forall₂_addText (ih _ _ _)
  | escapedClose cs ih =>
    rw [renumberFrom_escapedClose, tokensFrom_escapedClose, tokensFrom_escapedClose,
      ← byteLength_append]
    exact forall₂_addText (ih _ _ _)
  | loneClose cs hhead ih =>
    have hhead' : (renumberFrom (pre ++ ['}']) rank cs).head? ≠ some '}' := by
      rwa [head?_renumberFrom]
    rw [renumberFrom_loneClose hhead, tokensFrom_loneClose hhead, tokensFrom_loneClose hhead',
      ← byteLength_append]
    exact forall₂_addText (ih _ _ _)
  | candidate body cs hhead hclose ih =>
    rw [← braced_append]
    cases hbody : Body.parseChars body with
    | ok fields =>
      obtain ⟨body', fields', hbody', hmarker, hrenumbers⟩ :=
        renumbered_ofBody hbody (.ofText (byteLength pre) (braced body)) rank
      rw [renumberFrom_hole hbody, hmarker, tokensFrom_parsed hbody, tokensFrom_parsed hbody',
        ← byteLength_append]
      exact .cons (.hole (hrenumbers _)) (ih _ _ _)
    | error r =>
      rw [renumberFrom_rejected hhead hclose hbody, tokensFrom_unparsed hhead hclose hbody,
        tokensFrom_unparsed hhead hclose hbody, ← byteLength_append]
      exact .cons (.literal rfl rfl) (ih _ _ _)
  | unterminated cs hhead hclose =>
    rw [renumberFrom_unterminated hhead hclose, tokensFrom_unterminated hhead hclose,
      tokensFrom_unterminated hhead hclose]
    exact .cons (.literal rfl rfl) .nil

/-- **The same tokens.** Those of the renumbered template are those of the template, but for places
and names. -/
theorem renumbers_tokenize (template : String) :
    List.Forall₂ Token.Renumbers (tokenize template) (tokenize (renumber template)) := by
  have h := renumbers_tokensFrom [] 0 0 template.toList
  rw [tokenize_eq (renumber template), renumber, String.toList_ofList]
  exact h

end MessageTemplate
