import MessageTemplate.Proofs.Template.BodyGrammar
import MessageTemplate.Proofs.Text.Slices

/-!
# The first error of a hole body

A body is read from the left, and the first character that does not fit is to blame. So a rejection
stands as soon as that character has been read: nothing that follows can change it, and nothing that
stands before it is an error yet.

* `Rejection.Cause.Accuses`: the characters that a cause may be about.
* `FailsAt`: reading fails at a character, whatever follows it, and not before.
* `FailsWithin.head`, `FailsWithin.cons`: a reader that fails at its first character, and one that
  goes on after it with another reader.
* `readFormat_failsWithin`, `readAlignment_failsWithin`, `readDeclaration_failsWithin`: whatever a
  reader rejects, it rejects so.
* `parse_first_error`: a body is rejected at one of its characters, by the text up to it alone.
-/

namespace MessageTemplate

/-- The cause is about the character. Causes that concern a whole candidate are about none. -/
def Rejection.Cause.Accuses (c : Char) : Rejection.Cause → Prop
  | .strayBrace => Segment.isBrace c = true
  | .misplacedModifier d | .invalidName d | .invalidAlignment d => d = c
  | .misplacedHyphen => c = '-'
  | .unterminated | .empty | .missingName => False

theorem Rejection.Cause.Accuses.isWhole {cause : Rejection.Cause} {c : Char}
    (h : cause.Accuses c) : cause.isWhole = false := by
  cases cause with
  | unterminated | empty | missingName => cases h
  | strayBrace | misplacedModifier | invalidName | misplacedHyphen | invalidAlignment => rfl

namespace Body

open Segment

/-! ## Failing at a character -/

/-- Reading text that begins at byte `start` fails with `r` at the character `c` after `before`:
whatever follows it, and nowhere before it. -/
structure FailsAt {α : Type} (read : List Char → Except Rejection α) (start : Nat)
    (before : List Char) (c : Char) (r : Rejection) : Prop where
  /-- The blame falls on the character. -/
  span : r.span = .ofText (start + byteLength before) [c]
  accuses : r.cause.Accuses c
  /-- What follows does not matter. -/
  fails : ∀ after, read (before ++ c :: after) = .error r
  /-- What stands before it is read. -/
  reads : ∀ p, p <+: before → ∃ parts, read p = .ok parts

/-- Reading the text `cs` fails at one of its characters. -/
def FailsWithin {α : Type} (read : List Char → Except Rejection α) (start : Nat) (cs : List Char)
    (r : Rejection) : Prop :=
  ∃ before c after, cs = before ++ c :: after ∧ FailsAt read start before c r

section FailsWithin

variable {α β : Type} {read : List Char → Except Rejection α}
  {next : List Char → Except Rejection β} {start : Nat} {c : Char} {cs : List Char} {r : Rejection}

/-- A reader that fails at the first character. -/
theorem FailsWithin.head (cause : Rejection.Cause) (hnil : ∃ parts, read [] = .ok parts)
    (hcause : cause.Accuses c) (hread : ∀ after, read (c :: after) = .error (blame cause start c))
    (h : read (c :: cs) = .error r) : FailsWithin read start (c :: cs) r := by
  have hr : blame cause start c = r := Except.error.inj ((hread cs).symm.trans h)
  subst hr
  refine ⟨[], c, cs, rfl, rfl, hcause, hread, fun p hp => ?_⟩
  rw [List.prefix_nil.mp hp]
  exact hnil

private theorem map_error {f : β → α} {x : Except Rejection β} (h : x.map f = .error r) :
    x = .error r := by
  cases x with
  | error e => exact congrArg _ (Except.error.inj h)
  | ok a => cases h

/-- A reader that takes one character and leaves the rest to another reader. -/
theorem FailsWithin.cons {f : β → α} (hnil : ∃ parts, read [] = .ok parts)
    (hread : ∀ cs, read (c :: cs) = (next cs).map f)
    (hnext : next cs = .error r → FailsWithin next (start + c.utf8Size) cs r)
    (h : read (c :: cs) = .error r) : FailsWithin read start (c :: cs) r := by
  rw [hread] at h
  obtain ⟨before, d, after, rfl, hfails⟩ := hnext (map_error h)
  refine ⟨c :: before, d, after, rfl, ?_, hfails.accuses, fun after => ?_, fun p hp => ?_⟩
  · rw [hfails.span, byteLength_cons, Nat.add_assoc]
  · rw [List.cons_append, hread, hfails.fails]
    rfl
  · cases p with
    | nil => exact hnil
    | cons e p =>
      obtain ⟨rfl, htail⟩ := List.cons_prefix_cons.mp hp
      obtain ⟨parts, hparts⟩ := hfails.reads p htail
      exact ⟨f parts, by rw [hread, hparts]; rfl⟩

end FailsWithin

/-! ## The readers

Each case is one branch of the reader, in the reader's order. A branch depends on the first
character alone, so it is taken whatever follows. -/

theorem readFormat_failsWithin {start : Nat} {cs : List Char} {r : Rejection}
    (h : readFormat start cs = .error r) : FailsWithin (readFormat start) start cs r := by
  induction cs generalizing start with
  | nil => cases h
  | cons c cs ih =>
    by_cases hbrace : isBrace c = true
    · have hread (after : List Char) :
          readFormat start (c :: after) = .error (blame .strayBrace start c) := by
        rw [readFormat, if_pos hbrace]
      exact .head .strayBrace ⟨_, rfl⟩ hbrace hread h
    · have hread (cs : List Char) : readFormat start (c :: cs) =
          (readFormat (start + c.utf8Size) cs).map (c :: ·) := by
        rw [readFormat, if_neg hbrace]
      exact .cons ⟨_, rfl⟩ hread ih h

theorem readAlignment_failsWithin {first : Bool} {start : Nat} {cs : List Char} {r : Rejection}
    (h : readAlignment first start cs = .error r) :
    FailsWithin (readAlignment first start) start cs r := by
  induction cs generalizing first start with
  | nil => cases h
  | cons c cs ih =>
    by_cases hbrace : isBrace c = true
    · have hread (after : List Char) : readAlignment first start (c :: after) =
          .error (blame .strayBrace start c) := by
        rw [readAlignment, if_pos hbrace]
      exact .head .strayBrace ⟨_, rfl⟩ hbrace hread h
    by_cases hcolon : c = ':'
    · have hread (cs : List Char) : readAlignment first start (c :: cs) =
          (readFormat (start + 1) cs).map ([], ·) := by
        rw [readAlignment, if_neg hbrace, if_pos hcolon]
      subst hcolon
      exact .cons ⟨_, rfl⟩ hread readFormat_failsWithin h
    by_cases hhyphen : (c = '-' && !first) = true
    · have hread (after : List Char) : readAlignment first start (c :: after) =
          .error (blame .misplacedHyphen start c) := by
        rw [readAlignment, if_neg hbrace, if_neg hcolon, if_pos hhyphen]
      have hc : c = '-' := by simp_all
      exact .head .misplacedHyphen ⟨_, rfl⟩ hc hread h
    by_cases hsign : (c = '-' || c.isDigit) = true
    · have hread (cs : List Char) : readAlignment first start (c :: cs) =
          (readAlignment false (start + c.utf8Size) cs).map
            fun parts => (c :: parts.1, parts.2) := by
        rw [readAlignment, if_neg hbrace, if_neg hcolon, if_neg hhyphen, if_pos hsign]
      exact .cons ⟨_, rfl⟩ hread ih h
    · have hread (after : List Char) : readAlignment first start (c :: after) =
          .error (blame (.invalidAlignment c) start c) := by
        rw [readAlignment, if_neg hbrace, if_neg hcolon, if_neg hhyphen, if_neg hsign]
      exact .head (.invalidAlignment c) ⟨_, rfl⟩ rfl hread h

theorem readDeclaration_failsWithin {start : Nat} {cs : List Char} {r : Rejection}
    (h : readDeclaration start cs = .error r) :
    FailsWithin (readDeclaration start) start cs r := by
  induction cs generalizing start with
  | nil => cases h
  | cons c cs ih =>
    by_cases hbrace : isBrace c = true
    · have hread (after : List Char) : readDeclaration start (c :: after) =
          .error (blame .strayBrace start c) := by
        rw [readDeclaration, if_pos hbrace]
      exact .head .strayBrace ⟨_, rfl⟩ hbrace hread h
    by_cases hcomma : c = ','
    · have hread (cs : List Char) : readDeclaration start (c :: cs) =
          (readAlignment true (start + 1) cs).map fun parts => ([], parts.1, parts.2) := by
        rw [readDeclaration, if_neg hbrace, if_pos hcomma]
      subst hcomma
      exact .cons ⟨_, rfl⟩ hread readAlignment_failsWithin h
    by_cases hcolon : c = ':'
    · have hread (cs : List Char) : readDeclaration start (c :: cs) =
          (readFormat (start + 1) cs).map fun format => ([], [], format) := by
        rw [readDeclaration, if_neg hbrace, if_neg hcomma, if_pos hcolon]
      subst hcolon
      exact .cons ⟨_, rfl⟩ hread readFormat_failsWithin h
    by_cases hmark : ((c = stringifyMark || c = spreadMark) && start != 0) = true
    · have hread (after : List Char) : readDeclaration start (c :: after) =
          .error (blame (.misplacedModifier c) start c) := by
        rw [readDeclaration, if_neg hbrace, if_neg hcomma, if_neg hcolon, if_pos hmark]
      exact .head (.misplacedModifier c) ⟨_, rfl⟩ rfl hread h
    by_cases hname : (c = stringifyMark || c = spreadMark || isNameChar c) = true
    · have hread (cs : List Char) : readDeclaration start (c :: cs) =
          (readDeclaration (start + c.utf8Size) cs).map
            fun parts => (c :: parts.1, parts.2.1, parts.2.2) := by
        rw [readDeclaration, if_neg hbrace, if_neg hcomma, if_neg hcolon, if_neg hmark,
          if_pos hname]
      exact .cons ⟨_, rfl⟩ hread ih h
    · have hread (after : List Char) : readDeclaration start (c :: after) =
          .error (blame (.invalidName c) start c) := by
        rw [readDeclaration, if_neg hbrace, if_neg hcomma, if_neg hcolon, if_neg hmark,
          if_neg hname]
      exact .head (.invalidName c) ⟨_, rfl⟩ rfl hread h

/-! ## Bodies -/

section Bodies

variable {body : List Char} {r : Rejection}

/-- A body is rejected as a whole, or where its declaration cannot be read on. -/
theorem parseChars_error (h : parseChars body = .error r) :
    r.cause = .empty ∨ r.cause = .missingName ∨ readDeclaration 0 body = .error r := by
  unfold parseChars at h
  split at h
  · cases h
    exact .inl rfl
  cases hread : readDeclaration 0 body with
  | error e =>
    rw [hread] at h
    exact .inr (.inr (congrArg _ (Except.error.inj h)))
  | ok parts =>
    simp only [hread, bind, Except.bind] at h
    split at h
    · cases h
    · cases h
      exact .inr (.inl rfl)

theorem parseChars_of_error (h : readDeclaration 0 body = .error r) :
    parseChars body = .error r := by
  have hne : body ≠ [] := by
    rintro rfl
    cases h
  simp [parseChars, hne, h, bind, Except.bind]

/-- When the declaration can be read to the end, only the body as a whole is rejected. -/
theorem parseChars_of_ok (h : ∃ parts, readDeclaration 0 body = .ok parts) :
    (∃ fields, parseChars body = .ok fields) ∨
      ∃ r, parseChars body = .error r ∧ (r.cause = .empty ∨ r.cause = .missingName) := by
  cases hparse : parseChars body with
  | ok fields => exact .inl ⟨fields, rfl⟩
  | error r =>
    refine .inr ⟨r, rfl, ?_⟩
    rcases parseChars_error hparse with hempty | hname | hread
    · exact .inl hempty
    · exact .inr hname
    · obtain ⟨parts, hparts⟩ := h
      cases hparts.symm.trans hread

end Bodies

/-- **The first error is the only one that counts.** A body that is neither empty nor without a name
is rejected at one of its characters. The text up to this character is rejected in the same way,
whatever follows it; and where the text ends before this character, no character is rejected. -/
theorem parse_first_error (body : String) (r : Rejection) (h : parse body = .error r)
    (hempty : r.cause ≠ .empty) (hname : r.cause ≠ .missingName) :
    (∃ upTo, Span.slice? ⟨0, r.span.stop⟩ body.toList = some upTo ∧
      ∀ more, parse (String.ofList upTo ++ more) = .error r) ∧
    ∃ before, Span.slice? ⟨0, r.span.start⟩ body.toList = some before ∧
      ∀ p, p <+: before → (∃ fields, parse (String.ofList p) = .ok fields) ∨
        ∃ r', parse (String.ofList p) = .error r' ∧
          (r'.cause = .empty ∨ r'.cause = .missingName) := by
  have hread : readDeclaration 0 body.toList = .error r := by
    rcases parseChars_error h with hcause | hcause | hread
    · exact absurd hcause hempty
    · exact absurd hcause hname
    · exact hread
  obtain ⟨before, c, after, hbody, hfails⟩ := readDeclaration_failsWithin hread
  have hstart : r.span.start = byteLength before := by simp [hfails.span]
  have hstop : r.span.stop = byteLength (before ++ [c]) := by simp [hfails.span]
  refine ⟨⟨before ++ [c], ?_, fun more => ?_⟩, before, ?_, fun p hp => ?_⟩
  · have hslice := Span.slice?_ofText [] (before ++ [c]) after
    simpa [hstop, hbody, Span.ofText, Span.ofLength] using hslice
  · have hmore := parseChars_of_error (hfails.fails more.toList)
    simpa [parse] using hmore
  · have hslice := Span.slice?_ofText [] before (c :: after)
    simpa [hstart, hbody, Span.ofText, Span.ofLength] using hslice
  · have hp := parseChars_of_ok (hfails.reads p hp)
    simpa [parse] using hp

/-- A hyphen inside the alignment, after a letter of two bytes. -/
theorem parse_first_error_hyphen :
    parse "ö,1-2" = .error ⟨.misplacedHyphen, ⟨4, 5⟩⟩ ∧
      (∀ more, parse ("ö,1-" ++ more) = .error ⟨.misplacedHyphen, ⟨4, 5⟩⟩) ∧
      ∀ p, p <+: ['ö', ',', '1'] → (∃ fields, parse (String.ofList p) = .ok fields) ∨
        ∃ r', parse (String.ofList p) = .error r' ∧
          (r'.cause = .empty ∨ r'.cause = .missingName) := by
  have hname : isNameChar 'ö' = true := by decide +kernel
  have hparse : parse "ö,1-2" = .error ⟨.misplacedHyphen, ⟨4, 5⟩⟩ := by
    have hspan : Span.ofText ('ö'.utf8Size + 1 + '1'.utf8Size) ['-'] = ⟨4, 5⟩ := by decide
    refine parseChars_of_error ?_
    simp [readDeclaration, readAlignment, isBrace, stringifyMark, spreadMark, hname, Except.map,
      blame, hspan]
  obtain ⟨⟨upTo, hupTo, hmore⟩, before, hbefore, hreads⟩ :=
    parse_first_error _ _ hparse (by decide) (by decide)
  have hupTo' : Span.slice? ⟨0, 5⟩ "ö,1-2".toList = some "ö,1-".toList := by decide +kernel
  have hbefore' : Span.slice? ⟨0, 4⟩ "ö,1-2".toList = some ['ö', ',', '1'] := by decide +kernel
  cases hupTo.symm.trans hupTo'
  cases hbefore.symm.trans hbefore'
  exact ⟨hparse, hmore, hreads⟩

end Body

end MessageTemplate
