import Mathlib.Computability.Language
import Mathlib.Data.List.Chain
import MessageTemplate.Proofs.Template.Scanning

/-!
# Segments are longest matches

Each kind of segment has a pattern. A template is cut at the longest texts that match, one after
another: that no kind has to be preferred to another, and that something always matches, is a
property of the patterns.

- **Patterns** (`Segment.pattern`): a language for each kind; `mem_pattern_iff` writes out its words.
- **Cuts** (`Segment.Cut`): what is cut off a text, with one case for each kind. `cut_split` says
  that `Segment.split` does this, and `Cut.rival` compares it with all that matches there.
- **Runs** (`Cuts`): a whole text cut into pieces; `cuts_scanFrom` says that scanning does this.
- **Longest matches** (`Munches`): a text cut at longest matches, by the patterns alone.
  `munches_iff` says that scanning is the only way to do so.
- **Segments of a template** (`scan_maximalMunch`): what this means for the pieces of a template.
-/

namespace MessageTemplate

open scoped Computability

/-! ## Patterns -/

section Languages

variable {p : Char → Bool} {cs : List Char}

/-- The words of one character that satisfies `p`. -/
def oneOf (p : Char → Bool) : Language Char := {cs | ∃ c, p c = true ∧ cs = [c]}

theorem mem_kstar_oneOf : cs ∈ (oneOf p)∗ ↔ ∀ c ∈ cs, p c = true := by
  rw [Language.mem_kstar]
  constructor
  · rintro ⟨parts, rfl, hparts⟩ c hc
    obtain ⟨part, hpart, hmem⟩ := List.mem_flatten.1 hc
    obtain ⟨d, hd, rfl⟩ := hparts part hpart
    rwa [List.mem_singleton.1 hmem]
  · intro h
    refine ⟨cs.map fun c => [c], (List.flatMap_singleton' cs).symm, fun part hpart => ?_⟩
    obtain ⟨c, hc, rfl⟩ := List.mem_map.1 hpart
    exact ⟨c, h c hc, rfl⟩

theorem mem_oneOf_mul {l : Language Char} :
    cs ∈ oneOf p * l ↔ ∃ c rest, p c = true ∧ rest ∈ l ∧ cs = c :: rest := by
  rw [Language.mem_mul]
  constructor
  · rintro ⟨_, ⟨c, hc, rfl⟩, rest, hrest, rfl⟩
    exact ⟨c, rest, hc, hrest, rfl⟩
  · rintro ⟨c, rest, hc, hrest, rfl⟩
    exact ⟨[c], ⟨c, hc, rfl⟩, rest, hrest, rfl⟩

end Languages

namespace Segment

/-- What may stand behind the opening brace of a candidate: nothing, or a character that is no
brace and then anything but closing braces. -/
def interior : Language Char := 1 + oneOf (!isBrace ·) * (oneOf (· != '}'))∗

/-- The pattern of each kind of segment. -/
def pattern : Segment → Language Char
  | .escapedOpen => {['{', '{']}
  | .escapedClose => {['}', '}']}
  | .loneClose => {['}']}
  | .candidate => {['{']} * interior * {['}']}
  | .unterminated => {['{']} * interior
  | .text => oneOf (!isBrace ·) * (oneOf (!isBrace ·))∗

/-- The words of the patterns, written out. -/
inductive Matches : Segment → List Char → Prop
  | escapedOpen : Matches .escapedOpen ['{', '{']
  | escapedClose : Matches .escapedClose ['}', '}']
  | loneClose : Matches .loneClose ['}']
  | candidate {body : List Char} (hhead : body.head? ≠ some '{') (hclose : '}' ∉ body) :
      Matches .candidate ('{' :: (body ++ ['}']))
  | unterminated {body : List Char} (hhead : body.head? ≠ some '{') (hclose : '}' ∉ body) :
      Matches .unterminated ('{' :: body)
  | text {run : List Char} (hrun : run ≠ []) (hplain : ∀ c ∈ run, isBrace c = false) :
      Matches .text run

theorem mem_interior {body : List Char} :
    body ∈ interior ↔ body.head? ≠ some '{' ∧ '}' ∉ body := by
  simp only [interior, Language.mem_add, Language.mem_one, mem_oneOf_mul, mem_kstar_oneOf]
  constructor
  · rintro (rfl | ⟨c, rest, hc, hrest, rfl⟩)
    · simp
    · obtain ⟨hopen, hclose⟩ := isBrace_eq_false.1 (by simpa using hc)
      refine ⟨by simpa using hopen, fun hmem => ?_⟩
      rcases List.mem_cons.1 hmem with heq | hmem
      · exact hclose heq.symm
      · simpa using hrest _ hmem
  · rintro ⟨hopen, hclose⟩
    cases body with
    | nil => exact .inl rfl
    | cons c rest =>
      have hc : isBrace c = false :=
        isBrace_eq_false.2 ⟨by simpa using hopen, fun heq => hclose (by simp [heq])⟩
      refine .inr ⟨c, rest, by simp [hc], fun d hd => ?_, rfl⟩
      have hne : d ≠ '}' := fun heq => hclose (List.mem_cons_of_mem _ (heq ▸ hd))
      simpa using hne

theorem mem_pattern_iff {s : Segment} {raw : List Char} : raw ∈ s.pattern ↔ Matches s raw := by
  constructor
  · intro h
    cases s with
    | escapedOpen => obtain rfl : raw = _ := h; exact .escapedOpen
    | escapedClose => obtain rfl : raw = _ := h; exact .escapedClose
    | loneClose => obtain rfl : raw = _ := h; exact .loneClose
    | candidate =>
      obtain ⟨_, ⟨_, rfl, body, hbody, rfl⟩, _, rfl, rfl⟩ := h
      obtain ⟨hhead, hclose⟩ := mem_interior.1 hbody
      exact .candidate hhead hclose
    | unterminated =>
      obtain ⟨_, rfl, body, hbody, rfl⟩ := h
      obtain ⟨hhead, hclose⟩ := mem_interior.1 hbody
      exact .unterminated hhead hclose
    | text =>
      obtain ⟨c, rest, hc, hrest, rfl⟩ := mem_oneOf_mul.1 h
      have hrest := mem_kstar_oneOf.1 hrest
      exact .text (by simp) (List.forall_mem_cons.2 ⟨by simpa using hc, by simpa using hrest⟩)
  · intro h
    cases h with
    | escapedOpen => rfl
    | escapedClose => rfl
    | loneClose => rfl
    | @candidate body hhead hclose =>
      exact ⟨_, ⟨_, rfl, body, mem_interior.2 ⟨hhead, hclose⟩, rfl⟩, _, rfl, rfl⟩
    | @unterminated body hhead hclose =>
      exact ⟨_, rfl, body, mem_interior.2 ⟨hhead, hclose⟩, rfl⟩
    | text hrun hplain =>
      obtain ⟨c, rest, rfl⟩ := List.exists_cons_of_ne_nil hrun
      obtain ⟨hc, hrest⟩ := List.forall_mem_cons.1 hplain
      exact mem_oneOf_mul.2 ⟨c, rest, by simpa using hc, mem_kstar_oneOf.2 (by simpa using hrest), rfl⟩

/-! ## Cuts -/

/-- The segment `raw` is cut off a text and leaves `rest`. -/
inductive Cut : Segment → List Char → List Char → Prop
  | escapedOpen {rest : List Char} : Cut .escapedOpen ['{', '{'] rest
  | escapedClose {rest : List Char} : Cut .escapedClose ['}', '}'] rest
  | loneClose {rest : List Char} (hhead : rest.head? ≠ some '}') : Cut .loneClose ['}'] rest
  | candidate {body rest : List Char} (hhead : body.head? ≠ some '{') (hclose : '}' ∉ body) :
      Cut .candidate ('{' :: (body ++ ['}'])) rest
  | unterminated {body : List Char} (hhead : body.head? ≠ some '{') (hclose : '}' ∉ body) :
      Cut .unterminated ('{' :: body) []
  | text {run rest : List Char} (hrun : run ≠ []) (hplain : ∀ c ∈ run, isBrace c = false)
      (hstop : ∀ c ∈ rest.head?, isBrace c = true) : Cut .text run rest

theorem cut_split (c : Char) (cs : List Char) :
    Cut (split c cs).1 (c :: (split c cs).2.1) (split c cs).2.2 := by
  cases hc : isBrace c with
  | false =>
    rw [split_text hc]
    refine .text (by simp) (List.forall_mem_cons.2 ⟨hc, fun d hd => ?_⟩) fun d hd => ?_
    · simpa using List.all_eq_true.1 List.all_takeWhile d hd
    · have hstop := List.head?_dropWhile_not (!isBrace ·) cs
      rw [Option.mem_def.1 hd] at hstop
      simpa using hstop
  | true =>
    rcases isBrace_eq_true.1 hc with rfl | rfl
    · by_cases hhead : cs.head? = some '{'
      · obtain ⟨ds, rfl⟩ := List.head?_eq_some_iff.1 hhead
        rw [split_escapedOpen]
        exact .escapedOpen
      by_cases hclose : '}' ∈ cs
      · obtain ⟨body, rest, rfl, hbody⟩ := List.eq_append_cons_of_mem hclose
        have hhead' : body.head? ≠ some '{' := by cases body <;> simp_all
        rw [split_candidate hhead' hbody]
        exact .candidate hhead' hbody
      · rw [split_unterminated hhead hclose]
        exact .unterminated hhead hclose
    · by_cases hhead : cs.head? = some '}'
      · obtain ⟨ds, rfl⟩ := List.head?_eq_some_iff.1 hhead
        rw [split_escapedClose]
        exact .escapedClose
      · rw [split_loneClose hhead]
        exact .loneClose hhead

/-- A text that goes on only with characters that satisfy `p` stays in front of one that does not. -/
theorem isPrefix_of_stop {p : Char → Prop} {xs ys zs : List Char} (h : xs <+: ys ++ zs)
    (hxs : ∀ c ∈ xs, p c) (hzs : ∀ c ∈ zs.head?, ¬p c) : xs <+: ys := by
  induction xs generalizing ys with
  | nil => exact List.nil_prefix
  | cons c cs ih =>
    cases ys with
    | nil =>
      obtain ⟨after, rfl⟩ := h
      exact absurd (hxs c List.mem_cons_self) (hzs c rfl)
    | cons d ds =>
      obtain ⟨rfl, htail⟩ := List.cons_prefix_cons.1 h
      exact List.cons_prefix_cons.2 ⟨rfl, ih htail fun e he => hxs e (List.mem_cons_of_mem _ he)⟩

theorem Cut.matches {s : Segment} {raw rest : List Char} (h : Cut s raw rest) : Matches s raw := by
  cases h with
  | escapedOpen => exact .escapedOpen
  | escapedClose => exact .escapedClose
  | loneClose => exact .loneClose
  | candidate hhead hclose => exact .candidate hhead hclose
  | unterminated hhead hclose => exact .unterminated hhead hclose
  | text hrun hplain => exact .text hrun hplain

theorem Matches.ne_nil {s : Segment} {raw : List Char} (h : Matches s raw) : raw ≠ [] := by
  cases h with
  | text hrun => exact hrun
  | _ => simp

section Rivals

variable {s s' : Segment} {c : Char} {raw raw' cs rest : List Char}

/-- Without a brace in front only text matches. -/
theorem Matches.of_plain (h : Matches s raw) (hstarts : raw <+: c :: cs) (hc : isBrace c = false) :
    s = .text ∧ ∀ d ∈ raw, isBrace d = false := by
  have hhead : ∀ d ∈ raw.head?, isBrace d = false := by
    intro d hd
    obtain ⟨ds, rfl⟩ := List.head?_eq_some_iff.1 hd
    obtain ⟨rfl, -⟩ := List.cons_prefix_cons.1 hstarts
    exact hc
  cases h with
  | text hrun hplain => exact ⟨rfl, hplain⟩
  | _ => simp at hhead

/-- With an opening brace in front there are three ways to go on. -/
theorem Matches.of_open (h : Matches s raw) (hstarts : raw <+: '{' :: cs) :
    (s = .escapedOpen ∧ raw = ['{', '{'] ∧ cs.head? = some '{') ∨
    (∃ body, s = .candidate ∧ raw = '{' :: (body ++ ['}']) ∧ body.head? ≠ some '{' ∧ '}' ∉ body ∧
      body ++ ['}'] <+: cs) ∨
    ∃ body, s = .unterminated ∧ raw = '{' :: body ∧ body.head? ≠ some '{' ∧ '}' ∉ body ∧
      body <+: cs := by
  cases h with
  | escapedOpen =>
    obtain ⟨after, rfl⟩ := (List.cons_prefix_cons.1 hstarts).2
    exact .inl ⟨rfl, rfl, rfl⟩
  | escapedClose => simp at hstarts
  | loneClose => simp at hstarts
  | @candidate body hhead hclose =>
    exact .inr (.inl ⟨body, rfl, rfl, hhead, hclose, (List.cons_prefix_cons.1 hstarts).2⟩)
  | @unterminated body hhead hclose =>
    exact .inr (.inr ⟨body, rfl, rfl, hhead, hclose, (List.cons_prefix_cons.1 hstarts).2⟩)
  | text hrun hplain =>
    obtain ⟨d, ds, rfl⟩ := List.exists_cons_of_ne_nil hrun
    obtain ⟨rfl, -⟩ := List.cons_prefix_cons.1 hstarts
    simp at hplain

/-- With a closing brace in front there are two ways to go on. -/
theorem Matches.of_close (h : Matches s raw) (hstarts : raw <+: '}' :: cs) :
    (s = .escapedClose ∧ raw = ['}', '}'] ∧ cs.head? = some '}') ∨ (s = .loneClose ∧ raw = ['}']) := by
  cases h with
  | escapedOpen => simp at hstarts
  | escapedClose =>
    obtain ⟨after, rfl⟩ := (List.cons_prefix_cons.1 hstarts).2
    exact .inl ⟨rfl, rfl, rfl⟩
  | loneClose => exact .inr ⟨rfl, rfl⟩
  | candidate => simp at hstarts
  | unterminated => simp at hstarts
  | text hrun hplain =>
    obtain ⟨d, ds, rfl⟩ := List.exists_cons_of_ne_nil hrun
    obtain ⟨rfl, -⟩ := List.cons_prefix_cons.1 hstarts
    simp at hplain

theorem lt_or_eq_of_isPrefix {xs ys : List Char} (h : xs <+: ys) :
    xs.length < ys.length ∨ xs = ys :=
  (Nat.lt_or_eq_of_le h.length_le).imp_right h.eq_of_length

/-- **A cut is longer than all else that matches.** -/
theorem Cut.rival (h : Cut s raw rest) (hmatch : Matches s' raw') (hstarts : raw' <+: raw ++ rest) :
    raw'.length < raw.length ∨ (s' = s ∧ raw' = raw) := by
  cases h with
  | escapedOpen =>
    rcases hmatch.of_open hstarts with ⟨rfl, rfl, -⟩ | ⟨body, -, -, hhead, -, hbody⟩ |
      ⟨body, -, rfl, hhead, -, hbody⟩
    · exact .inr ⟨rfl, rfl⟩
    · cases body <;> simp_all
    · cases body <;> simp_all
  | escapedClose =>
    rcases hmatch.of_close hstarts with ⟨rfl, rfl, -⟩ | ⟨-, rfl⟩
    · exact .inr ⟨rfl, rfl⟩
    · exact .inl (by simp)
  | loneClose hhead =>
    rcases hmatch.of_close hstarts with ⟨-, -, htwice⟩ | ⟨rfl, rfl⟩
    · exact absurd htwice hhead
    · exact .inr ⟨rfl, rfl⟩
  | @candidate body₀ _ hhead₀ hclose₀ =>
    have hfirst {body : List Char} (hbody : body <+: body₀ ++ '}' :: rest) (hclose : '}' ∉ body) :
        body <+: body₀ :=
      isPrefix_of_stop (p := (· ≠ '}')) hbody (fun d hd heq => hclose (heq ▸ hd)) (by simp)
    rw [List.cons_append, List.append_assoc, List.singleton_append] at hstarts
    rcases hmatch.of_open hstarts with ⟨-, -, htwice⟩ | ⟨body, rfl, rfl, -, hclose, hbody⟩ |
      ⟨body, -, rfl, -, hclose, hbody⟩
    · cases body₀ <;> simp_all
    · obtain ⟨more, rfl⟩ := hfirst ((List.prefix_append body ['}']).trans hbody) hclose
      -- The closing brace of the rival stands where the body goes on, which has none.
      rw [List.append_assoc, List.prefix_append_right_inj] at hbody
      obtain rfl : more = [] := by
        cases more with
        | nil => rfl
        | cons d ds => simp_all
      exact .inr ⟨rfl, by simp⟩
    · have hle := (hfirst hbody hclose).length_le
      refine .inl ?_
      simp only [List.length_cons, List.length_append, List.length_nil]
      omega
  | @unterminated body₀ hhead₀ hclose₀ =>
    rw [List.append_nil] at hstarts
    rcases hmatch.of_open hstarts with ⟨-, -, htwice⟩ | ⟨body, -, -, -, -, hbody⟩ |
      ⟨body, rfl, rfl, -, -, hbody⟩
    · exact absurd htwice hhead₀
    · exact absurd (hbody.subset (by simp)) hclose₀
    · exact (lt_or_eq_of_isPrefix hstarts).imp_right fun heq => ⟨rfl, heq⟩
  | text hrun hplain hstop =>
    obtain ⟨d, ds, rfl⟩ := List.exists_cons_of_ne_nil hrun
    obtain ⟨rfl, hplain'⟩ := hmatch.of_plain hstarts (hplain d List.mem_cons_self)
    have hfirst := isPrefix_of_stop hstarts hplain' fun c hc => by simp [hstop c hc]
    exact (lt_or_eq_of_isPrefix hfirst).imp_right fun heq => ⟨rfl, heq⟩

end Rivals

/-! ## Longest matches -/

/-- A segment of kind `s`, whose text is `raw`, is a longest one that matches at the head of `cs`. -/
structure LongestMatch (cs : List Char) (s : Segment) (raw : List Char) : Prop where
  starts : raw <+: cs
  ne_nil : raw ≠ []
  matched : raw ∈ s.pattern
  longest : ∀ (s' : Segment) (raw' : List Char), raw' <+: cs → raw' ∈ s'.pattern →
    raw'.length ≤ raw.length

section LongestMatch

variable {s s' : Segment} {raw raw' rest cs : List Char}

theorem Cut.longestMatch (h : Cut s raw rest) : LongestMatch (raw ++ rest) s raw where
  starts := List.prefix_append raw rest
  ne_nil := h.matches.ne_nil
  matched := mem_pattern_iff.2 h.matches
  longest s' raw' hstarts hmatch := by
    rcases h.rival (mem_pattern_iff.1 hmatch) hstarts with hlt | ⟨-, rfl⟩
    · exact Nat.le_of_lt hlt
    · exact Nat.le_refl _

/-- Nothing else is as long. -/
theorem Cut.unique (h : Cut s raw rest) (hmatch : LongestMatch (raw ++ rest) s' raw') :
    s' = s ∧ raw' = raw := by
  rcases h.rival (mem_pattern_iff.1 hmatch.matched) hmatch.starts with hlt | heq
  · have hle := hmatch.longest s raw (List.prefix_append raw rest) (mem_pattern_iff.2 h.matches)
    omega
  · exact heq

/-- Text goes on as long as it can. -/
theorem Cut.not_text (h : Cut .text raw (raw' ++ rest)) : ¬Cut .text raw' rest := by
  intro hnext
  cases hnext with
  | text hrun hplain =>
    obtain ⟨c, cs, rfl⟩ := List.exists_cons_of_ne_nil hrun
    cases h with
    | text _ _ hstop =>
      have hbrace : isBrace c = true := hstop c rfl
      rw [hplain c List.mem_cons_self] at hbrace
      cases hbrace

/-- A candidate ends with the first closing brace. -/
theorem Cut.closed (h : Cut s raw rest) (hs : s = .candidate) :
    ∃ body, raw = '{' :: (body ++ ['}']) ∧ '}' ∉ body := by
  cases h with
  | candidate hhead hclose => exact ⟨_, rfl, hclose⟩
  | _ => cases hs

/-- What is never closed takes all that is left. -/
theorem Cut.unclosed (h : Cut s raw rest) (hs : s = .unterminated) :
    rest = [] ∧ ∃ body, raw = '{' :: body ∧ '}' ∉ body := by
  cases h with
  | unterminated hhead hclose => exact ⟨rfl, _, rfl, hclose⟩
  | _ => cases hs

/-- Every text has a cut. -/
theorem exists_cut (hcs : cs ≠ []) : ∃ s raw rest, cs = raw ++ rest ∧ Cut s raw rest := by
  obtain ⟨c, cs, rfl⟩ := List.exists_cons_of_ne_nil hcs
  refine ⟨_, _, _, ?_, cut_split c cs⟩
  rw [List.cons_append, split_append]

end LongestMatch

end Segment

open Segment

/-! ## Runs -/

/-- The pieces are cut off the text one after another; the first begins at byte `start`. -/
inductive Cuts : Nat → List Char → List Piece → Prop
  | nil {start : Nat} : Cuts start [] []
  | cons {start : Nat} {s : Segment} {raw rest : List Char} {pieces : List Piece}
      (hcut : Cut s raw rest) (hrest : Cuts (start + byteLength raw) rest pieces) :
      Cuts start (raw ++ rest) (⟨s, .ofText start raw, raw⟩ :: pieces)

theorem cuts_scanFrom (start : Nat) (cs : List Char) : Cuts start cs (Piece.scanFrom start cs) := by
  induction start, cs using Piece.scanFrom.induct with
  | case1 start => rw [Piece.scanFrom]; exact .nil
  | case2 start c cs text ih =>
    have hcons := Cuts.cons (cut_split c cs) ih
    rw [List.cons_append, split_append] at hcons
    rw [scanFrom_cons]
    exact hcons

/-- The pieces are cut off the text at longest matches, the first at byte `start`. Where nothing
matches, some characters are taken to be text. -/
inductive Munches : Nat → List Char → List Piece → Prop
  | nil {start : Nat} : Munches start [] []
  | matched {start : Nat} {s : Segment} {raw rest : List Char} {pieces : List Piece}
      (hmatch : LongestMatch (raw ++ rest) s raw)
      (hrest : Munches (start + byteLength raw) rest pieces) :
      Munches start (raw ++ rest) (⟨s, .ofText start raw, raw⟩ :: pieces)
  | unmatched {start : Nat} {raw rest : List Char} {pieces : List Piece} (hraw : raw ≠ [])
      (hnone : ∀ s raw', ¬LongestMatch (raw ++ rest) s raw')
      (hrest : Munches (start + byteLength raw) rest pieces) :
      Munches start (raw ++ rest) (⟨.text, .ofText start raw, raw⟩ :: pieces)

theorem Cuts.munches {start : Nat} {cs : List Char} {pieces : List Piece}
    (h : Cuts start cs pieces) : Munches start cs pieces := by
  induction h with
  | nil => exact .nil
  | cons hcut _ ih => exact .matched hcut.longestMatch ih

/-- What is cut off first is the first piece of a scan. -/
theorem scanFrom_cut {start : Nat} {s : Segment} {raw rest : List Char} (h : Cut s raw rest) :
    Piece.scanFrom start (raw ++ rest) =
      ⟨s, .ofText start raw, raw⟩ :: Piece.scanFrom (start + byteLength raw) rest := by
  obtain ⟨c, cs, hcs⟩ := List.exists_cons_of_ne_nil (List.append_ne_nil_of_left_ne_nil
    h.matches.ne_nil rest)
  have hsplit : (c :: (split c cs).2.1) ++ (split c cs).2.2 = raw ++ rest := by
    rw [List.cons_append, split_append, hcs]
  obtain ⟨hs, hraw⟩ := h.unique (hsplit ▸ (cut_split c cs).longestMatch)
  rw [hraw, List.append_cancel_left_eq] at hsplit
  rw [hcs, scanFrom_cons, hs, hraw, hsplit]

/-- Scanning is the only way to cut at longest matches. -/
theorem munches_iff {start : Nat} {cs : List Char} {pieces : List Piece} :
    Munches start cs pieces ↔ pieces = Piece.scanFrom start cs := by
  constructor
  · intro h
    induction h with
    | nil => rw [Piece.scanFrom]
    | @matched start s raw rest pieces hmatch _ ih =>
      obtain ⟨s₁, raw₁, rest₁, hcs, hcut⟩ :=
        exists_cut (List.append_ne_nil_of_left_ne_nil hmatch.ne_nil rest)
      rw [hcs] at hmatch
      obtain ⟨rfl, rfl⟩ := hcut.unique hmatch
      obtain rfl := List.append_cancel_left hcs
      rw [scanFrom_cut hcut, ih]
    | @unmatched start raw rest pieces hraw hnone _ _ =>
      obtain ⟨s₁, raw₁, rest₁, hcs, hcut⟩ :=
        exists_cut (List.append_ne_nil_of_left_ne_nil hraw rest)
      exact absurd (hcs ▸ hcut.longestMatch) (hnone s₁ raw₁)
  · rintro rfl
    exact (cuts_scanFrom start cs).munches

/-! ## What a run says -/

namespace Cuts

variable {start : Nat} {cs : List Char} {pieces before after : List Piece} {p : Piece}

theorem flatMap_text (h : Cuts start cs pieces) : pieces.flatMap Piece.text = cs := by
  induction h with
  | nil => rfl
  | cons _ _ ih => rw [List.flatMap_cons, ih]

theorem tile (h : Cuts start cs pieces) :
    Span.Tile start (start + byteLength cs) (pieces.map Piece.span) := by
  induction h with
  | nil => simp [Span.Tile]
  | cons hcut _ ih =>
    have hpos := byteLength_pos hcut.matches.ne_nil
    refine ⟨rfl, ?_, ?_⟩
    · simp only [Span.ofText_start, Span.ofText_stop]
      omega
    · simpa [Nat.add_assoc] using ih

theorem eq_nil_iff (h : Cuts start cs pieces) : pieces = [] ↔ cs = [] := by
  cases h with
  | nil => simp
  | cons hcut _ => simp [hcut.matches.ne_nil]

/-- Each piece is cut off what is left of the text, from where the pieces before it end. -/
theorem at_piece (h : Cuts start cs pieces) (hpieces : pieces = before ++ p :: after) :
    ∃ rest, Cut p.segment p.text rest ∧ Cuts p.span.stop rest after ∧
      p.span = .ofText (start + byteLength (before.flatMap Piece.text)) p.text := by
  induction h generalizing before with
  | nil => simp at hpieces
  | @cons start s raw rest pieces hcut hrest ih =>
    cases before with
    | nil =>
      obtain ⟨rfl, rfl⟩ := List.cons.inj hpieces
      exact ⟨rest, hcut, hrest, rfl⟩
    | cons q before =>
      obtain ⟨rfl, htail⟩ := List.cons.inj hpieces
      obtain ⟨rest', hcut', hrest', hspan⟩ := ih htail
      refine ⟨rest', hcut', hrest', ?_⟩
      rw [hspan, List.flatMap_cons, byteLength_append, Nat.add_assoc]

/-- Text goes on up to a brace, so that no text follows it. -/
theorem separated (h : Cuts start cs pieces) :
    pieces.IsChain fun p q => ¬(p.segment = .text ∧ q.segment = .text) := by
  induction h with
  | nil => exact .nil
  | @cons start s raw rest pieces hcut hrest ih =>
    rw [List.isChain_cons]
    refine ⟨fun q hq => ?_, ih⟩
    rintro ⟨rfl, hsecond⟩
    cases hrest with
    | nil => cases hq
    | cons hnext _ =>
      cases hq
      obtain rfl : _ = Segment.text := hsecond
      exact hcut.not_text hnext

/-- What is never closed takes all that is left. -/
theorem count_unterminated_le (h : Cuts start cs pieces) :
    (pieces.map Piece.segment).count .unterminated ≤ 1 := by
  induction h with
  | nil => simp
  | @cons start s raw rest pieces hcut hrest ih =>
    rw [List.map_cons, List.count_cons]
    split
    next hs =>
      obtain ⟨hnil, -⟩ := hcut.unclosed (by simpa using hs)
      rw [hrest.eq_nil_iff.2 hnil]
      simp
    next => simpa using ih

end Cuts

/-! ## The segments of a template -/

/-- The pieces are the segments of the template by longest match. -/
structure MaximalMunch (template : String) (pieces : List Piece) : Prop where
  /-- The spans are nonempty and follow one another from the first byte to the last. -/
  tile : Span.Tile 0 template.utf8ByteSize (pieces.map Piece.span)
  /-- The texts make up the template, and each of them is what its span slices out. -/
  texts : pieces.flatMap Piece.text = template.toList
  slices : ∀ p ∈ pieces, p.span.slice? template.toList = some p.text
  /-- Each piece is a longest match of what is left of the template, and nothing else is one. -/
  longest : ∀ before p after, pieces = before ++ p :: after → ∀ s raw,
    LongestMatch ((p :: after).flatMap Piece.text) s raw ↔ s = p.segment ∧ raw = p.text
  /-- No text follows text. -/
  separated : pieces.IsChain fun p q => ¬(p.segment = .text ∧ q.segment = .text)
  /-- A candidate ends with the first closing brace. -/
  candidate : ∀ p ∈ pieces, p.segment = .candidate →
    ∃ body, p.text = '{' :: (body ++ ['}']) ∧ '}' ∉ body
  /-- What is never closed comes last, and no closing brace follows. -/
  unterminated : ∀ before p after, pieces = before ++ p :: after → p.segment = .unterminated →
    after = [] ∧ ∃ body, p.text = '{' :: body ∧ '}' ∉ body
  once : (pieces.map Piece.segment).count .unterminated ≤ 1

/-- **Segments are longest matches.** Scanning cuts every template at longest matches, with no choice
between patterns and without ever failing to match, and there is no other way to do so. -/
theorem scan_maximalMunch (template : String) :
    MaximalMunch template (Piece.scan template) ∧
    ∀ pieces, Munches 0 template.toList pieces ↔ pieces = Piece.scan template := by
  have hcuts : Cuts 0 template.toList (Piece.scan template) := cuts_scanFrom 0 template.toList
  refine ⟨?_, fun pieces => munches_iff⟩
  exact {
    tile := by simpa [byteLength_toList] using hcuts.tile
    texts := hcuts.flatMap_text
    slices := fun p hp => by
      obtain ⟨before, after, hpieces⟩ := List.append_of_mem hp
      obtain ⟨rest, -, -, hspan⟩ := hcuts.at_piece hpieces
      rw [hspan, ← hcuts.flatMap_text, hpieces, List.flatMap_append, List.flatMap_cons, Nat.zero_add]
      exact Span.slice?_ofText _ _ _
    longest := fun before p after hpieces s raw => by
      obtain ⟨rest, hcut, hrest, -⟩ := hcuts.at_piece hpieces
      rw [List.flatMap_cons, hrest.flatMap_text]
      constructor
      · exact hcut.unique
      · rintro ⟨rfl, rfl⟩
        exact hcut.longestMatch
    separated := hcuts.separated
    candidate := fun p hp hsegment => by
      obtain ⟨before, after, hpieces⟩ := List.append_of_mem hp
      obtain ⟨rest, hcut, -, -⟩ := hcuts.at_piece hpieces
      exact hcut.closed hsegment
    unterminated := fun before p after hpieces hsegment => by
      obtain ⟨rest, hcut, hrest, -⟩ := hcuts.at_piece hpieces
      obtain ⟨hnil, hopen⟩ := hcut.unclosed hsegment
      exact ⟨hrest.eq_nil_iff.2 hnil, hopen⟩
    once := hcuts.count_unterminated_le }

/-- A brace inside a candidate is part of it, and one that is never closed is a segment as well. -/
example : (Piece.scan "\x7ba\x7bb\x7d\x7d\x7b\x7b\x7b").map Piece.segment =
    [.candidate, .loneClose, .escapedOpen, .unterminated] := by decide +kernel

end MessageTemplate
