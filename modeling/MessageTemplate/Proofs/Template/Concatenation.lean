import MessageTemplate.Proofs.Template.Lossless

/-!
# Tokens of two templates in a row

A template is scanned from the left without looking back, so the tokens of one template are still
found when another one follows it. Only at its end can more text matter: an opening brace that was
never closed may be closed now, and a closing brace alone may find its partner. Where neither
happens, the tokens of both templates are those of the first and then those of the second, moved to
where the second begins.

* `Token.advance`: a token moved by some bytes and some ranks; `tokensFrom_advance` says that the
  place where a text begins matters no further.
* `joinTokens`: tokens in a row, where plain text that meets plain text becomes one token.
* `EndsLone`: the last segment is a closing brace without a partner.
* `tokensFrom_append`: the tokens of the rest of a template and a text after it.
* `tokenize_append`: the tokens of two templates in a row.
-/

namespace MessageTemplate

open Segment

/-! ## Tokens moved -/

/-- The rejection with its span moved by some bytes. -/
def Rejection.advance (bytes : Nat) (r : Rejection) : Rejection := ⟨r.cause, r.span.shift bytes⟩

/-- The token with its spans moved by some bytes and its rank raised. -/
def Token.advance (bytes ranks : Nat) : Token → Token
  | .literal ⟨span, text, malformed⟩ =>
    .literal ⟨span.shift bytes, text, malformed.map (Rejection.advance bytes)⟩
  | .hole ⟨span, rank, marker, symbol, lining, format⟩ =>
    .hole ⟨span.shift bytes, rank + ranks, marker, symbol, lining, format⟩

theorem Span.ofText_add (start bytes : Nat) (cs : List Char) :
    Span.ofText (start + bytes) cs = (Span.ofText start cs).shift bytes := by
  simp [Span.ofText, Span.ofLength, Span.shift, Nat.add_right_comm]

theorem Rejection.advance_inside (bytes : Nat) (whole : Span) (r : Rejection) :
    (r.inside whole).advance bytes = r.inside (whole.shift bytes) := by
  unfold Rejection.inside Rejection.advance
  split
  · rfl
  · simp [Span.shift, Nat.add_assoc, Nat.add_left_comm, Nat.add_comm]

theorem map_advance_addText (bytes ranks : Nat) (span : Span) (text : List Char)
    (tokens : List Token) :
    (Token.addText span text tokens).map (Token.advance bytes ranks) =
      Token.addText (span.shift bytes) text (tokens.map (Token.advance bytes ranks)) := by
  match tokens with
  | [] | .literal ⟨_, _, none⟩ :: _ | .literal ⟨_, _, some _⟩ :: _ | .hole _ :: _ => rfl

/-- The tokens of a text depend on the place where it begins in their spans and ranks only. -/
theorem tokensFrom_advance (bytes ranks start rank : Nat) (cs : List Char) :
    tokensFrom (start + bytes) (rank + ranks) cs =
      (tokensFrom start rank cs).map (Token.advance bytes ranks) := by
  induction cs using tokensFrom_induction generalizing start rank with
  | nil => rw [tokensFrom_nil, tokensFrom_nil]; rfl
  | plain raw text cs htokens ih =>
    rw [htokens, htokens, map_advance_addText, ← Span.ofText_add, ← ih, Nat.add_right_comm]
  | candidate body cs hhead hclose ih =>
    cases hbody : Body.parseChars body with
    | ok fields =>
      rw [tokensFrom_hole hhead hclose hbody, tokensFrom_hole hhead hclose hbody, List.map_cons,
        ← ih, Nat.add_right_comm, Nat.add_right_comm rank, Span.ofText_add]
      rfl
    | error r =>
      rw [tokensFrom_rejected hhead hclose hbody, tokensFrom_rejected hhead hclose hbody,
        List.map_cons, ← ih, Nat.add_right_comm, Span.ofText_add, ← Rejection.advance_inside]
      rfl
  | unterminated cs hhead hclose =>
    rw [tokensFrom_unterminated hhead hclose, tokensFrom_unterminated hhead hclose, Span.ofText_add]
    rfl

/-! ## Tokens in a row -/

/-- Two tokens as one, if both are plain text. -/
def Token.join? : Token → Token → Option Token
  | .literal ⟨s, x, none⟩, .literal ⟨t, y, none⟩ => some (.literal ⟨s.upTo t, x ++ y, none⟩)
  | _, _ => none

/-- The tokens `xs` and after them `ys`. Where plain text meets plain text, it becomes one token. -/
def joinTokens (xs ys : List Token) : List Token :=
  match xs.getLast?, ys with
  | some x, y :: rest =>
    match x.join? y with
    | some token => xs.dropLast ++ token :: rest
    | none => xs ++ ys
  | _, _ => xs ++ ys

section Join

variable {span : Span} {text : List Char} {xs ys : List Token} {x : Token}

@[simp] theorem joinTokens_nil_left : joinTokens [] ys = ys := rfl

theorem joinTokens_cons (h : xs ≠ []) : joinTokens (x :: xs) ys = x :: joinTokens xs ys := by
  obtain ⟨y, xs, rfl⟩ := List.exists_cons_of_ne_nil h
  unfold joinTokens
  rw [List.getLast?_cons_cons, List.dropLast_cons_cons]
  split
  · split <;> rfl
  · rfl

theorem joinTokens_of_not_isPlain (h : x.isPlain = false) :
    joinTokens (x :: xs) ys = x :: joinTokens xs ys := by
  by_cases hxs : xs = []
  · subst hxs
    obtain ⟨s, t, _ | r⟩ | hole := x
    · cases h
    · cases ys <;> rfl
    · cases ys <;> rfl
  · exact joinTokens_cons hxs

theorem joinTokens_singleton : joinTokens [.literal ⟨span, String.ofList text, none⟩] ys =
    Token.addText span text ys := by
  match ys with
  | [] | .literal ⟨_, _, none⟩ :: _ | .literal ⟨_, _, some _⟩ :: _ | .hole _ :: _ => rfl

/-- Text before tokens in a row is text before the first of them. -/
theorem joinTokens_addText :
    joinTokens (Token.addText span text xs) ys = Token.addText span text (joinTokens xs ys) := by
  match xs with
  | [] => exact joinTokens_singleton
  | .literal ⟨t, y, none⟩ :: rest =>
    by_cases hrest : rest = []
    · subst hrest
      have hy := @joinTokens_singleton t y.toList ys
      rw [String.ofList_toList] at hy
      rw [hy, Token.addText_addText, Token.addText_plain, ← joinTokens_singleton,
        String.ofList_append, String.ofList_toList]
    · rw [Token.addText_plain, joinTokens_cons hrest, joinTokens_cons hrest, Token.addText_plain]
  | .literal ⟨t, y, some r⟩ :: rest =>
    have hplain : (Token.literal ⟨t, y, some r⟩).isPlain = false := rfl
    rw [Token.addText_rejected, joinTokens_cons (by simp), joinTokens_of_not_isPlain hplain,
      Token.addText_rejected]
  | .hole h :: rest =>
    have hplain : (Token.hole h).isPlain = false := rfl
    rw [Token.addText_hole, joinTokens_cons (by simp), joinTokens_of_not_isPlain hplain,
      Token.addText_hole]

theorem holesOf_addText : holesOf (Token.addText span text xs) = holesOf xs := by
  match xs with
  | [] | .literal ⟨_, _, none⟩ :: _ | .literal ⟨_, _, some _⟩ :: _ | .hole _ :: _ => rfl

end Join

/-! ## The end of a template -/

/-- The last segment of the text is a closing brace without a partner. -/
def EndsLone (cs : List Char) : Prop :=
  (Piece.scanFrom 0 cs).getLast?.map Piece.segment = some .loneClose

/-- The segments of a text do not depend on the place where it begins. -/
theorem map_segment_scanFrom (start start' : Nat) (cs : List Char) :
    (Piece.scanFrom start cs).map Piece.segment = (Piece.scanFrom start' cs).map Piece.segment := by
  induction start, cs using Piece.scanFrom.induct generalizing start' with
  | case1 start => simp [Piece.scanFrom]
  | case2 start c cs text ih =>
    rw [scanFrom_cons, scanFrom_cons, List.map_cons, List.map_cons]
    exact congrArg _ (ih _)

theorem endsLone_iff (start : Nat) (cs : List Char) :
    EndsLone cs ↔ ((Piece.scanFrom start cs).map Piece.segment).getLast? = some .loneClose := by
  rw [EndsLone, ← List.getLast?_map, map_segment_scanFrom 0 start]

theorem not_endsLone_nil : ¬EndsLone [] := by
  simp [EndsLone, Piece.scanFrom]

theorem endsLone_cons_iff {c : Char} {cs : List Char} : EndsLone (c :: cs) ↔
    ((split c cs).2.2 = [] ∧ (split c cs).1 = .loneClose) ∨ EndsLone (split c cs).2.2 := by
  rw [endsLone_iff 0, scanFrom_cons, List.map_cons, List.getLast?_cons,
    endsLone_iff (0 + byteLength (c :: (split c cs).2.1))]
  cases hrest : (split c cs).2.2 with
  | nil => simp [Piece.scanFrom]
  | cons d ds =>
    rw [scanFrom_cons, List.map_cons, List.getLast?_cons]
    simp

theorem endsLone_text {c : Char} {cs : List Char} (hc : isBrace c = false) :
    EndsLone (c :: cs) ↔ EndsLone (cs.dropWhile (!isBrace ·)) := by
  rw [endsLone_cons_iff, split_text hc]
  simp

/-- What ends a text also ends it when more text stands before it. -/
theorem EndsLone.text {c : Char} {cs : List Char} (hc : isBrace c = false) (h : EndsLone cs) :
    EndsLone (c :: cs) := by
  rw [endsLone_text hc]
  cases cs with
  | nil => exact absurd h not_endsLone_nil
  | cons d ds =>
    cases hd : isBrace d with
    | true => simpa [hd] using h
    | false =>
      -- The run of text goes on with `d`, and what follows it is the same.
      rw [endsLone_text hd] at h
      simpa [hd] using h

theorem EndsLone.cons {c : Char} {cs : List Char} (h : EndsLone (split c cs).2.2) :
    EndsLone (c :: cs) :=
  endsLone_cons_iff.mpr (.inr h)

/-! ## Two templates in a row -/

/-- No token is a candidate that was never closed. -/
def AllClosed (tokens : List Token) : Prop :=
  ∀ l, .literal l ∈ tokens → ∀ r, l.malformed = some r → r.cause ≠ .unterminated

theorem AllClosed.of_addText {span : Span} {text : List Char} {tokens : List Token}
    (h : AllClosed (Token.addText span text tokens)) : AllClosed tokens := by
  intro l hl r hr
  have hplain : (Token.literal l).isPlain = false := by simp [Token.isPlain, hr]
  exact h l ((mem_addText_iff hplain).mpr hl) r hr

theorem AllClosed.of_cons {token : Token} {tokens : List Token}
    (h : AllClosed (token :: tokens)) : AllClosed tokens :=
  fun l hl => h l (List.mem_cons_of_mem _ hl)

/-- The tokens of `xs`, which begins at byte `start` with `rank` holes before it, are found again
when `ys` follows, and the tokens of `ys` come after them. -/
def Appends (start rank : Nat) (xs ys : List Char) : Prop :=
  tokensFrom start rank (xs ++ ys) =
    joinTokens (tokensFrom start rank xs) (tokensFrom (start + byteLength xs)
      (rank + (holesOf (tokensFrom start rank xs)).length) ys)

section Appends

variable {start rank : Nat} {raw text xs ys : List Char} {token : Token}

/-- Text that is put before the tokens of `xs`, whether `ys` follows or not. -/
theorem Appends.addText
    (hxs : tokensFrom start rank (raw ++ xs) =
      Token.addText (.ofText start raw) text (tokensFrom (start + byteLength raw) rank xs))
    (hys : tokensFrom start rank (raw ++ (xs ++ ys)) =
      Token.addText (.ofText start raw) text (tokensFrom (start + byteLength raw) rank (xs ++ ys)))
    (h : Appends (start + byteLength raw) rank xs ys) : Appends start rank (raw ++ xs) ys := by
  unfold Appends at h ⊢
  rw [List.append_assoc, hys, hxs, h, joinTokens_addText, holesOf_addText, byteLength_append,
    Nat.add_assoc start]

/-- A candidate before the tokens of `xs`, whether `ys` follows or not. -/
theorem Appends.cons (hplain : token.isPlain = false)
    (htokens : ∀ cs, tokensFrom start rank (raw ++ cs) =
      token :: tokensFrom (start + byteLength raw) (rank + (holesOf [token]).length) cs)
    (h : Appends (start + byteLength raw) (rank + (holesOf [token]).length) xs ys) :
    Appends start rank (raw ++ xs) ys := by
  have hholes := holesOf_append [token]
    (tokensFrom (start + byteLength raw) (rank + (holesOf [token]).length) xs)
  rw [List.singleton_append] at hholes
  unfold Appends at h ⊢
  rw [List.append_assoc, htokens, htokens, h, joinTokens_of_not_isPlain hplain, hholes,
    List.length_append, byteLength_append, Nat.add_assoc start, Nat.add_assoc rank]

end Appends

/-- A text after the rest of a template adds its own tokens. -/
theorem tokensFrom_append (start rank : Nat) (xs ys : List Char)
    (hclosed : AllClosed (tokensFrom start rank xs))
    (hlone : EndsLone xs → ys.head? ≠ some '}') : Appends start rank xs ys := by
  induction xs using template_induction generalizing start rank with
  | nil => simp [Appends]
  | text c cs hc ih =>
    rw [tokensFrom_text hc] at hclosed
    have hrest := ih _ _ hclosed.of_addText fun h => hlone (h.text hc)
    exact .addText (tokensFrom_text hc) (tokensFrom_text hc) hrest
  | escapedOpen cs ih =>
    rw [tokensFrom_escapedOpen] at hclosed
    have hrest := ih _ _ hclosed.of_addText fun h => hlone (.cons h)
    exact .addText tokensFrom_escapedOpen tokensFrom_escapedOpen hrest
  | escapedClose cs ih =>
    rw [tokensFrom_escapedClose] at hclosed
    have hrest := ih _ _ hclosed.of_addText fun h => hlone (.cons h)
    exact .addText tokensFrom_escapedClose tokensFrom_escapedClose hrest
  | loneClose cs hhead ih =>
    have hsplit : split '}' cs = _ := split_loneClose hhead
    have hends : EndsLone cs → EndsLone ('}' :: cs) := fun h => .cons (by rw [hsplit]; exact h)
    have hhead' : (cs ++ ys).head? ≠ some '}' := by
      cases cs with
      | nil => exact hlone (endsLone_cons_iff.mpr (.inl ⟨by rw [hsplit], by rw [hsplit]⟩))
      | cons d ds => exact hhead
    rw [tokensFrom_loneClose hhead] at hclosed
    have hrest := ih _ _ hclosed.of_addText fun h => hlone (hends h)
    exact .addText (tokensFrom_loneClose hhead) (tokensFrom_loneClose hhead') hrest
  | candidate body cs hhead hclose ih =>
    have hsplit : split '{' (body ++ '}' :: cs) = _ := split_candidate hhead hclose
    have hends : EndsLone cs → EndsLone ('{' :: (body ++ '}' :: cs)) := fun h =>
      .cons (by rw [hsplit]; exact h)
    have hcs (cs : List Char) : '{' :: (body ++ '}' :: cs) = ('{' :: (body ++ ['}'])) ++ cs := by
      simp
    cases hbody : Body.parseChars body with
    | ok fields =>
      rw [tokensFrom_hole hhead hclose hbody] at hclosed
      have hrest := ih _ _ hclosed.of_cons fun h => hlone (hends h)
      have htokens (cs : List Char) := (congrArg (tokensFrom start rank) (hcs cs).symm).trans
        (tokensFrom_hole hhead hclose hbody)
      rw [hcs]
      exact .cons rfl htokens hrest
    | error r =>
      rw [tokensFrom_rejected hhead hclose hbody] at hclosed
      have hrest := ih _ _ hclosed.of_cons fun h => hlone (hends h)
      have htokens (cs : List Char) := (congrArg (tokensFrom start rank) (hcs cs).symm).trans
        (tokensFrom_rejected hhead hclose hbody)
      rw [hcs]
      exact .cons rfl htokens hrest
  | unterminated cs hhead hclose =>
    rw [tokensFrom_unterminated hhead hclose] at hclosed
    exact absurd rfl (hclosed _ (List.mem_singleton.mpr rfl) _ rfl)

/-- **Tokens of two templates in a row.** When the first template leaves no candidate open and no
closing brace of it finds a partner in the second, the tokens of both are those of the first and
after them those of the second, moved behind it; where plain text meets, it becomes one token. -/
theorem tokenize_append (a b : String)
    (hclosed : ∀ l, .literal l ∈ tokenize a → ∀ r, l.malformed = some r → r.cause ≠ .unterminated)
    (hlone : ¬((Piece.scan a).getLast?.map Piece.segment = some .loneClose ∧
      b.toList.head? = some '}')) :
    tokenize (a ++ b) = joinTokens (tokenize a)
      ((tokenize b).map (Token.advance a.utf8ByteSize (holesOf (tokenize a)).length)) := by
  have happend : Appends 0 0 a.toList b.toList :=
    tokensFrom_append 0 0 a.toList b.toList hclosed fun hends hhead => hlone ⟨hends, hhead⟩
  unfold Appends at happend
  rw [tokensFrom_advance, byteLength_toList] at happend
  simpa [tokenize_eq] using happend

/-- A closing brace alone at the joint, between texts that become one, and a second template with a
hole and a rejected candidate. -/
theorem tokenize_append_joined :
    tokenize ("\x7b0\x7dx\x7d" ++ "y\x7ba\x7d\x7b-\x7d") =
      [.hole ⟨⟨0, 3⟩, 0, "\x7b0\x7d", "0", "", ""⟩, .literal ⟨⟨3, 6⟩, "x\x7dy", none⟩,
       .hole ⟨⟨6, 9⟩, 1, "\x7ba\x7d", "a", "", ""⟩,
       .literal ⟨⟨9, 12⟩, "\x7b-\x7d", some ⟨.invalidName '-', ⟨10, 11⟩⟩⟩] := by
  have hfirst : tokenize "\x7b0\x7dx\x7d" =
      [.hole ⟨⟨0, 3⟩, 0, "\x7b0\x7d", "0", "", ""⟩, .literal ⟨⟨3, 5⟩, "x\x7d", none⟩] := by
    decide +kernel
  rw [tokenize_append _ _ (by simp [hfirst]) (by decide +kernel)]
  decide +kernel

/-- A closing brace that finds its partner in the second template, and a candidate that is closed
there. -/
example : tokenize ("\x7d" ++ "\x7d") ≠ joinTokens (tokenize "\x7d")
      ((tokenize "\x7d").map (Token.advance 1 0)) ∧
    tokenize ("\x7b" ++ "0\x7d") ≠ joinTokens (tokenize "\x7b")
      ((tokenize "0\x7d").map (Token.advance 1 0)) := by
  decide +kernel

end MessageTemplate
