import Mathlib.Data.List.Basic
import MessageTemplate.Proofs.Lint.Warnings
import MessageTemplate.Proofs.Template.FirstError
import MessageTemplate.Proofs.Template.Lossless

/-!
# Rejections point at the culprit

A rejected candidate tells which bytes of the template are to blame: one character of its body, or
the candidate as a whole. The check reports them where they stand.

* `Refused`: a rejected literal together with the part of the template that it comes from;
  `refused_tokensFrom` says that every rejected literal comes from such a part.
* `PointsAt`: the span of a rejection is the one of the culprit that its cause names.
  `Refused.pointsAt` derives it from the first error of the candidate's body.
* `malformed_located`: each rejected literal points at its culprit and has one warning, in order.
-/

namespace MessageTemplate

/-! ## Where rejected literals come from -/

/-- The literal is rejected with `r` and covers the part of the template after `before`: a candidate
whose body describes no hole, or an opening brace with all that follows it. -/
structure Refused (before : List Char) (l : Literal) (r : Rejection) : Prop where
  span : l.span = .ofText (byteLength before) l.text.toList
  cause : r = ⟨.unterminated, l.span⟩ ∨ ∃ body e, l.text.toList = '{' :: (body ++ ['}']) ∧
    '}' ∉ body ∧ Body.parseChars body = .error e ∧ r = e.inside l.span

theorem refused_tokensFrom (before cs : List Char) (rank : Nat) {l : Literal} {r : Rejection}
    (hmem : .literal l ∈ tokensFrom (byteLength before) rank cs) (hr : l.malformed = some r) :
    ∃ before' after, before ++ cs = before' ++ (l.text.toList ++ after) ∧
      Refused before' l r := by
  have hplain : (Token.literal l).isPlain = false := by simp [Token.isPlain, hr]
  induction cs using tokensFrom_induction generalizing before rank with
  | nil =>
    rw [tokensFrom_nil] at hmem
    cases hmem
  | plain raw text cs htokens ih =>
    rw [htokens, mem_addText_iff hplain, ← byteLength_append] at hmem
    simpa using ih (before ++ raw) rank hmem
  | candidate body cs hhead hclose ih =>
    have hrest (rank : Nat) (h : .literal l ∈
        tokensFrom (byteLength before + byteLength ('{' :: (body ++ ['}']))) rank cs) :
        ∃ before' after, before ++ '{' :: (body ++ '}' :: cs) =
          before' ++ (l.text.toList ++ after) ∧ Refused before' l r := by
      rw [← byteLength_append] at h
      simpa using ih (before ++ '{' :: (body ++ ['}'])) rank h
    cases hbody : Body.parseChars body with
    | ok fields =>
      rw [tokensFrom_hole hhead hclose hbody] at hmem
      rcases List.mem_cons.mp hmem with heq | hmem
      · cases heq
      · exact hrest _ hmem
    | error e =>
      rw [tokensFrom_rejected hhead hclose hbody] at hmem
      rcases List.mem_cons.mp hmem with heq | hmem
      · cases heq
        cases hr
        exact ⟨before, cs, by simp, by simp, .inr ⟨body, e, by simp, hclose, hbody, rfl⟩⟩
      · exact hrest _ hmem
  | unterminated cs hhead hclose =>
    rw [tokensFrom_unterminated hhead hclose, List.mem_singleton] at hmem
    cases hmem
    cases hr
    exact ⟨before, [], by simp, by simp, .inl rfl⟩

/-! ## The culprit -/

/-- The rejection of a literal points at the text of the template that its cause names. -/
structure PointsAt (template : List Char) (l : Literal) (r : Rejection) : Prop where
  /-- The literal holds the part of the template that it covers. -/
  raw : l.span.slice? template = some l.text.toList
  starts : l.span.start ≤ r.span.start
  stops : r.span.stop ≤ l.span.stop
  /-- Both ends fall between two characters. -/
  boundaries : ∃ culprit, r.span.slice? template = some culprit
  whole : r.cause = .unterminated ∨ r.cause = .empty ∨ r.cause = .missingName → r.span = l.span
  character : ∀ c, r.cause = .misplacedModifier c ∨ r.cause = .invalidName c ∨
    r.cause = .invalidAlignment c → r.span.slice? template = some [c]
  hyphen : r.cause = .misplacedHyphen → r.span.slice? template = some ['-']
  brace : r.cause = .strayBrace → r.span.slice? template = some ['{']

section PointsAt

variable {template before : List Char} {l : Literal} {r : Rejection}

/-- A rejection that concerns the candidate as a whole. -/
theorem PointsAt.of_whole (hraw : l.span.slice? template = some l.text.toList)
    (hspan : r.span = l.span) (hwhole : r.cause.isWhole = true) : PointsAt template l r where
  raw := hraw
  starts := Nat.le_of_eq (by rw [hspan])
  stops := Nat.le_of_eq (by rw [hspan])
  boundaries := ⟨_, by rw [hspan]; exact hraw⟩
  whole _ := hspan
  character c hc := by rcases hc with hc | hc | hc <;> rw [hc] at hwhole <;> cases hwhole
  hyphen hc := by rw [hc] at hwhole; cases hwhole
  brace hc := by rw [hc] at hwhole; cases hwhole

/-- A rejection that concerns one character of the candidate. -/
theorem PointsAt.of_character {c : Char} (hraw : l.span.slice? template = some l.text.toList)
    (hstarts : l.span.start ≤ r.span.start) (hstops : r.span.stop ≤ l.span.stop)
    (hslice : r.span.slice? template = some [c]) (haccuses : r.cause.Accuses c) (hc : c ≠ '}') :
    PointsAt template l r where
  raw := hraw
  starts := hstarts
  stops := hstops
  boundaries := ⟨_, hslice⟩
  whole h := by rcases h with h | h | h <;> rw [h] at haccuses <;> cases haccuses
  character d h := by
    have hd : d = c := by rcases h with h | h | h <;> rw [h] at haccuses <;> exact haccuses
    rw [hd, hslice]
  hyphen h := by
    rw [h] at haccuses
    have hhyphen : c = '-' := haccuses
    rw [hslice, hhyphen]
  brace h := by
    rw [h] at haccuses
    have hopen : c = '{' := (Segment.isBrace_eq_true.mp haccuses).resolve_right hc
    rw [hslice, hopen]

theorem Refused.pointsAt (h : Refused before l r) (after : List Char) :
    PointsAt (before ++ (l.text.toList ++ after)) l r := by
  have hraw : l.span.slice? (before ++ (l.text.toList ++ after)) = some l.text.toList := by
    rw [h.span]
    exact Span.slice?_ofText before l.text.toList after
  rcases h.cause with rfl | ⟨body, e, htext, hclose, hbody, rfl⟩
  · exact .of_whole hraw rfl rfl
  have hwhole (hcause : e.cause.isWhole = true) :
      PointsAt (before ++ (l.text.toList ++ after)) l (e.inside l.span) :=
    .of_whole hraw (if_pos hcause) hcause
  rcases Body.parseChars_error hbody with hempty | hname | hread
  · exact hwhole (by rw [hempty]; rfl)
  · exact hwhole (by rw [hname]; rfl)
  -- The culprit stands in the body, behind the opening brace and what was read before it.
  obtain ⟨read, c, rest, rfl, hfails⟩ := Body.readDeclaration_failsWithin hread
  have hspan : (e.inside l.span).span = .ofText (byteLength (before ++ '{' :: read)) [c] := by
    have hopen : '{'.utf8Size = 1 := rfl
    simp only [Rejection.inside, hfails.accuses.isWhole, Bool.false_eq_true, if_false, hfails.span,
      h.span, Span.shift, Span.ofText, Span.ofLength, byteLength_append, byteLength_cons, hopen,
      Span.mk.injEq]
    omega
  have hslice : (Span.ofText (byteLength (before ++ '{' :: read)) [c]).slice?
      (before ++ (l.text.toList ++ after)) = some [c] := by
    have h := Span.slice?_ofText (before ++ '{' :: read) [c] (rest ++ '}' :: after)
    simpa [htext] using h
  have hc : c ≠ '}' := by
    rintro rfl
    simp at hclose
  refine .of_character hraw ?_ ?_ (by rw [hspan, hslice]) hfails.accuses hc
  · rw [hspan, h.span]
    simp
  · rw [hspan, h.span, htext]
    simp only [Span.ofText_stop, byteLength_append, byteLength_cons]
    omega

end PointsAt

/-! ## The warnings -/

/-- The rejected literals among the tokens, in order. -/
def rejectedLiterals (tokens : List Token) : List (Literal × Rejection) :=
  tokens.filterMap fun token =>
    match token with
    | .literal l => l.malformed.map (l, ·)
    | .hole _ => none

namespace Lint

/-- **Rejections point at the culprit.** The span of each rejection lies in its literal and is the
one of the text that the cause names. Each rejected literal has one warning, which has this span and
quotes the literal, and there are no other warnings of this category. -/
theorem malformed_located (template : String) (count? : Option Nat) :
    (∀ l r, .literal l ∈ tokenize template → l.malformed = some r →
      PointsAt template.toList l r) ∧
    (check template count?).filter (fun w => w.category == .malformed) =
      (rejectedLiterals (tokenize template)).map fun (l, r) =>
        ⟨.malformed, "'" ++ l.text ++ "'" ++ " is rendered as text: " ++ r.cause.message,
          r.span⟩ := by
  have hpoints (l : Literal) (r : Rejection) (hmem : .literal l ∈ tokenize template)
      (hr : l.malformed = some r) : PointsAt template.toList l r := by
    obtain ⟨before, after, htemplate, href⟩ := refused_tokensFrom [] template.toList 0 hmem hr
    rw [List.nil_append] at htemplate
    rw [htemplate]
    exact href.pointsAt after
  refine ⟨hpoints, ?_⟩
  rw [filter_check_malformed, malformedWarnings, rejectedLiterals, List.map_filterMap]
  refine List.filterMap_congr fun token htoken => ?_
  cases token with
  | hole h => rfl
  | literal l =>
    cases hr : l.malformed with
    | none => simp [malformedWarning?, hr]
    | some r =>
      have hraw := (hpoints l r htoken hr).raw
      simp [malformedWarning?, hr, excerpt, hraw, inQuotes]

/-- A modifier in a declaration of two-byte letters, behind another candidate that is empty. -/
theorem malformed_located_modifier :
    let template := "é\x7b\x7d\x7bü@x\x7d"
    (∃ l r, Token.literal l ∈ tokenize template ∧ l.malformed = some r ∧
      r.span.slice? template.toList = some ['@']) ∧
    check template none =
      [⟨.malformed, "'\x7b\x7d' is rendered as text: placeholder is empty", ⟨2, 4⟩⟩,
       ⟨.malformed, "'\x7bü@x\x7d' is rendered as text: '@' is only allowed as the first " ++
         "character of a declaration", ⟨7, 8⟩⟩] := by
  intro template
  obtain ⟨hpoints, -⟩ := malformed_located template none
  have hmem : Token.literal ⟨⟨4, 10⟩, "\x7bü@x\x7d", some ⟨.misplacedModifier '@', ⟨7, 8⟩⟩⟩ ∈
      tokenize template := by decide +kernel
  exact ⟨⟨_, _, hmem, rfl, (hpoints _ _ hmem rfl).character '@' (.inl rfl)⟩, by decide +kernel⟩

end Lint

end MessageTemplate
