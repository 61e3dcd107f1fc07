import MessageTemplate.Proofs.Text.Slices
import MessageTemplate.Template.Tokens

/-!
# Scanning a template from its head

`Segment.split` takes a maximal run of text at once. Tokens do not show where such a run was cut,
so a template can also be read one character, one pair of braces or one candidate at a time.

* `Segment.split_text`, …: the segment at the head of a template, one lemma for each kind.
* `template_induction`: a property of every template, from the six ways in which one begins.
* `tokensFrom`: the tokens of the rest of a template. The `tokensFrom_*` equations give them for
  each of the six beginnings, in terms of the tokens of what is left.
* `tokensFrom_induction`: a property of every template, from what its tokens begin with.
* `Token.addText_addText`: text that is put before tokens in two steps.
-/

namespace MessageTemplate

namespace Segment

variable {c : Char} {body cs : List Char}

theorem split_text (hc : isBrace c = false) :
    split c cs = (.text, cs.takeWhile (!isBrace ·), cs.dropWhile (!isBrace ·)) := by
  obtain ⟨hopen, hclose⟩ := isBrace_eq_false.mp hc
  simp [split, hopen, hclose]

theorem split_escapedOpen : split '{' ('{' :: cs) = (.escapedOpen, ['{'], cs) := rfl

theorem split_escapedClose : split '}' ('}' :: cs) = (.escapedClose, ['}'], cs) := rfl

theorem split_loneClose (h : cs.head? ≠ some '}') : split '}' cs = (.loneClose, [], cs) := by
  cases cs with
  | nil => rfl
  | cons d ds =>
    have hd : d ≠ '}' := by simpa using h
    simp [split, hd]

private theorem ne_close (h : '}' ∉ body) : ∀ d ∈ body, (d != '}') = true := fun d hd => by
  have : d ≠ '}' := fun e => h (e ▸ hd)
  simpa using this

theorem split_candidate (hhead : body.head? ≠ some '{') (hclose : '}' ∉ body) :
    split '{' (body ++ '}' :: cs) = (.candidate, body ++ ['}'], cs) := by
  have htake : (body ++ '}' :: cs).takeWhile (· != '}') = body := by
    rw [List.takeWhile_append_of_pos (ne_close hclose)]; simp
  have hdrop : (body ++ '}' :: cs).dropWhile (· != '}') = '}' :: cs := by
    rw [List.dropWhile_append_of_pos (ne_close hclose)]; simp
  unfold split
  rw [if_pos rfl]
  split
  · next rest heq => cases body <;> simp_all
  · rw [htake, hdrop]

theorem split_unterminated (hhead : cs.head? ≠ some '{') (hclose : '}' ∉ cs) :
    split '{' cs = (.unterminated, cs, []) := by
  have hdrop : cs.dropWhile (· != '}') = [] := by
    rw [← List.append_nil cs, List.dropWhile_append_of_pos (ne_close hclose)]; rfl
  unfold split
  rw [if_pos rfl]
  split
  · next rest => simp at hhead
  · rw [hdrop]

end Segment

open Segment

/-! ## The beginnings of a template -/

/-- **The ways in which a template begins.** What holds of the empty template and is kept by each
beginning (a character of text, a pair of braces, a closing brace alone, a candidate) holds of every
template; an opening brace that is never closed takes the whole rest. -/
theorem template_induction {motive : List Char → Prop}
    (nil : motive [])
    (text : ∀ c cs, isBrace c = false → motive cs → motive (c :: cs))
    (escapedOpen : ∀ cs, motive cs → motive ('{' :: '{' :: cs))
    (escapedClose : ∀ cs, motive cs → motive ('}' :: '}' :: cs))
    (loneClose : ∀ cs, cs.head? ≠ some '}' → motive cs → motive ('}' :: cs))
    (candidate : ∀ body cs, body.head? ≠ some '{' → '}' ∉ body → motive cs →
      motive ('{' :: (body ++ '}' :: cs)))
    (unterminated : ∀ cs, cs.head? ≠ some '{' → '}' ∉ cs → motive ('{' :: cs))
    (cs : List Char) : motive cs := by
  -- On the length: a candidate leaves a rest that is no immediate tail.
  induction hn : cs.length using Nat.strongRecOn generalizing cs with
  | _ n ih =>
    subst hn
    cases cs with
    | nil => exact nil
    | cons c cs =>
      by_cases hopen : c = '{'
      · subst hopen
        by_cases hhead : cs.head? = some '{'
        · obtain ⟨ds, rfl⟩ := List.head?_eq_some_iff.mp hhead
          exact escapedOpen ds (ih _ (by simp only [List.length_cons]; omega) ds rfl)
        by_cases hclose : '}' ∈ cs
        · obtain ⟨body, rest, rfl, hbody⟩ := List.eq_append_cons_of_mem hclose
          have hhead' : body.head? ≠ some '{' := by cases body <;> simp_all
          have hlength : rest.length < ('{' :: (body ++ '}' :: rest)).length := by
            simp only [List.length_cons, List.length_append]
            omega
          exact candidate body rest hhead' hbody (ih _ hlength rest rfl)
        · exact unterminated cs hhead hclose
      by_cases hclose : c = '}'
      · subst hclose
        by_cases hhead : cs.head? = some '}'
        · obtain ⟨ds, rfl⟩ := List.head?_eq_some_iff.mp hhead
          exact escapedClose ds (ih _ (by simp only [List.length_cons]; omega) ds rfl)
        · exact loneClose cs hhead (ih _ (by simp) cs rfl)
      · exact text c cs (isBrace_eq_false.mpr ⟨hopen, hclose⟩) (ih _ (by simp) cs rfl)

/-! ## Text before tokens -/

namespace Token

/-- Puts text that covers `span` before tokens; plain text that comes first takes it up. -/
def addText (span : Span) (text : List Char) (tokens : List Token) : List Token :=
  prependText ⟨.text, span, text⟩ tokens

theorem prependText_eq (p : Piece) (tokens : List Token) :
    prependText p tokens = addText p.span p.literal tokens := by
  unfold addText prependText
  split <;> rfl

theorem addText_plain {s t : Span} {xs : List Char} {text : String} {tokens : List Token} :
    addText s xs (.literal ⟨t, text, none⟩ :: tokens) =
      .literal ⟨s.upTo t, String.ofList xs ++ text, none⟩ :: tokens := rfl

theorem addText_rejected {s t : Span} {xs : List Char} {text : String} {r : Rejection}
    {tokens : List Token} : addText s xs (.literal ⟨t, text, some r⟩ :: tokens) =
      .literal ⟨s, String.ofList xs, none⟩ :: .literal ⟨t, text, some r⟩ :: tokens := rfl

theorem addText_hole {s : Span} {xs : List Char} {h : Hole} {tokens : List Token} :
    addText s xs (.hole h :: tokens) =
      .literal ⟨s, String.ofList xs, none⟩ :: .hole h :: tokens := rfl

/-- Text put before text is put there as one. -/
theorem addText_addText {s t : Span} {xs ys : List Char} {tokens : List Token} :
    addText s xs (addText t ys tokens) = addText (s.upTo t) (xs ++ ys) tokens := by
  unfold addText
  rw [prependText.eq_def ⟨.text, t, ys⟩, prependText.eq_def ⟨.text, s.upTo t, xs ++ ys⟩]
  split <;> simp [prependText, Piece.literal, Segment.literal, Span.upTo, String.append_assoc]

end Token

/-! ## Tokens from the head of a template -/

/-- The tokens of the rest `cs` of a template, which begins at byte `start`; `rank` holes stand
before it. -/
def tokensFrom (start rank : Nat) (cs : List Char) : List Token :=
  Token.ofPieces rank (Piece.scanFrom start cs)

theorem tokenize_eq (template : String) : tokenize template = tokensFrom 0 0 template.toList := rfl

section Equations

variable {start rank : Nat} {c : Char} {body cs : List Char}

theorem scanFrom_cons : Piece.scanFrom start (c :: cs) =
    ⟨(split c cs).1, .ofText start (c :: (split c cs).2.1), c :: (split c cs).2.1⟩ ::
      Piece.scanFrom (start + byteLength (c :: (split c cs).2.1)) (split c cs).2.2 := by
  rw [Piece.scanFrom]

/-- A segment of text at the head of a template is put before the tokens of what follows it. -/
theorem tokensFrom_cons (h : (split c cs).1.isText) : tokensFrom start rank (c :: cs) =
    Token.addText (.ofText start (c :: (split c cs).2.1))
      ((split c cs).1.literal (c :: (split c cs).2.1))
      (tokensFrom (start + byteLength (c :: (split c cs).2.1)) rank (split c cs).2.2) := by
  unfold tokensFrom
  rw [scanFrom_cons, Token.ofPieces, if_pos h, Token.prependText_eq]
  rfl

@[simp] theorem tokensFrom_nil : tokensFrom start rank [] = [] := by
  simp [tokensFrom, Piece.scanFrom, Token.ofPieces]

theorem tokensFrom_text (hc : isBrace c = false) : tokensFrom start rank (c :: cs) =
    Token.addText (.ofText start [c]) [c] (tokensFrom (start + byteLength [c]) rank cs) := by
  have hsplit : split c cs = _ := split_text hc
  rw [tokensFrom_cons (by rw [hsplit]; rfl), hsplit]
  match cs with
  | [] => rfl
  | d :: ds =>
    cases hd : isBrace d with
    | true => simp [hd, Segment.literal]
    | false =>
      -- The run goes on: the rest begins with its remaining part.
      have hsplit' : split d ds = _ := split_text hd
      rw [tokensFrom_cons (by rw [hsplit']; rfl), hsplit', Token.addText_addText,
        Span.ofText_upTo_ofText]
      simp [hd, Segment.literal, Nat.add_assoc]

theorem tokensFrom_escapedOpen : tokensFrom start rank ('{' :: '{' :: cs) =
    Token.addText (.ofText start ['{', '{']) ['{']
      (tokensFrom (start + byteLength ['{', '{']) rank cs) := by
  have hsplit : split '{' ('{' :: cs) = _ := split_escapedOpen
  rw [tokensFrom_cons (by rw [hsplit]; rfl), hsplit]; rfl

theorem tokensFrom_escapedClose : tokensFrom start rank ('}' :: '}' :: cs) =
    Token.addText (.ofText start ['}', '}']) ['}']
      (tokensFrom (start + byteLength ['}', '}']) rank cs) := by
  have hsplit : split '}' ('}' :: cs) = _ := split_escapedClose
  rw [tokensFrom_cons (by rw [hsplit]; rfl), hsplit]; rfl

theorem tokensFrom_loneClose (h : cs.head? ≠ some '}') : tokensFrom start rank ('}' :: cs) =
    Token.addText (.ofText start ['}']) ['}'] (tokensFrom (start + byteLength ['}']) rank cs) := by
  have hsplit := split_loneClose h
  rw [tokensFrom_cons (by rw [hsplit]; rfl), hsplit]; rfl

/-- A candidate becomes the hole that its body describes. -/
theorem tokensFrom_hole (hhead : body.head? ≠ some '{') (hclose : '}' ∉ body) {fields : Body.Fields}
    (hbody : Body.parseChars body = .ok fields) :
    tokensFrom start rank ('{' :: (body ++ '}' :: cs)) =
      .hole ⟨.ofText start ('{' :: (body ++ ['}'])), rank, String.ofList ('{' :: (body ++ ['}'])),
        fields.symbol, fields.lining, fields.format⟩ ::
      tokensFrom (start + byteLength ('{' :: (body ++ ['}']))) (rank + 1) cs := by
  have hsplit : split '{' (body ++ '}' :: cs) = _ := split_candidate hhead hclose
  unfold tokensFrom
  rw [scanFrom_cons, hsplit, Token.ofPieces]
  simp [Piece.toHole, Piece.body, Segment.isText, hbody]

/-- A candidate whose body describes no hole becomes a literal of its own. -/
theorem tokensFrom_rejected (hhead : body.head? ≠ some '{') (hclose : '}' ∉ body) {r : Rejection}
    (hbody : Body.parseChars body = .error r) :
    tokensFrom start rank ('{' :: (body ++ '}' :: cs)) =
      .literal ⟨.ofText start ('{' :: (body ++ ['}'])), String.ofList ('{' :: (body ++ ['}'])),
        some (r.inside (.ofText start ('{' :: (body ++ ['}']))))⟩ ::
      tokensFrom (start + byteLength ('{' :: (body ++ ['}']))) rank cs := by
  have hsplit : split '{' (body ++ '}' :: cs) = _ := split_candidate hhead hclose
  unfold tokensFrom
  rw [scanFrom_cons, hsplit, Token.ofPieces]
  simp [Piece.toHole, Piece.body, Segment.isText, hbody]

theorem tokensFrom_unterminated (hhead : cs.head? ≠ some '{') (hclose : '}' ∉ cs) :
    tokensFrom start rank ('{' :: cs) =
      [.literal ⟨.ofText start ('{' :: cs), String.ofList ('{' :: cs),
        some ⟨.unterminated, .ofText start ('{' :: cs)⟩⟩] := by
  have hsplit := split_unterminated hhead hclose
  unfold tokensFrom
  rw [scanFrom_cons, hsplit, Token.ofPieces]
  simp [Piece.toHole, Segment.isText, Piece.scanFrom, Token.ofPieces]

end Equations

/-- **The tokens from the head of a template.** Of the ways in which a template begins, four give
text that is put before the tokens of what follows it. They count as one here. -/
theorem tokensFrom_induction {motive : List Char → Prop}
    (nil : motive [])
    (plain : ∀ raw text cs, (∀ start rank, tokensFrom start rank (raw ++ cs) =
      Token.addText (.ofText start raw) text (tokensFrom (start + byteLength raw) rank cs)) →
      motive cs → motive (raw ++ cs))
    (candidate : ∀ body cs, body.head? ≠ some '{' → '}' ∉ body → motive cs →
      motive ('{' :: (body ++ '}' :: cs)))
    (unterminated : ∀ cs, cs.head? ≠ some '{' → '}' ∉ cs → motive ('{' :: cs))
    (cs : List Char) : motive cs := by
  induction cs using template_induction with
  | nil => exact nil
  | text c cs hc ih => exact plain [c] [c] cs (fun _ _ => tokensFrom_text hc) ih
  | escapedOpen cs ih => exact plain ['{', '{'] ['{'] cs (fun _ _ => tokensFrom_escapedOpen) ih
  | escapedClose cs ih => exact plain ['}', '}'] ['}'] cs (fun _ _ => tokensFrom_escapedClose) ih
  | loneClose cs hhead ih => exact plain ['}'] ['}'] cs (fun _ _ => tokensFrom_loneClose hhead) ih
  | candidate body cs hhead hclose ih => exact candidate body cs hhead hclose ih
  | unterminated cs hhead hclose => exact unterminated cs hhead hclose

end MessageTemplate
