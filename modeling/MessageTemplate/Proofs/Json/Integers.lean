import MessageTemplate.Json.Reader
import MessageTemplate.Proofs.Number.Grouping

/-!
# Integers in JSON text

- **Digits** (`Json.takeSignificand_digits`): digits are taken one after another as long as the
  number that they denote fits 64 bits.
- **Whole numbers** (`Json.read_integerText`): the decimal text of an integer is read as a whole
  number.
-/

namespace MessageTemplate

namespace Json

variable {cs : List Char}

theorem le_ofDigitChars (n : Nat) (cs : List Char) : n ≤ Nat.ofDigitChars 10 cs n := by
  induction cs generalizing n with
  | nil => exact Nat.le_refl n
  | cons c cs ih =>
    have hstep := ih (10 * n + (c.toNat - '0'.toNat))
    exact Nat.le_trans (by omega) hstep

/-- Digits are taken as long as the significand fits. -/
theorem takeSignificand_digits (hdigits : ∀ c ∈ cs, c.isDigit = true) (significand : Nat)
    (hle : Nat.ofDigitChars 10 cs significand ≤ maxSignificand) :
    takeSignificand significand cs = (Nat.ofDigitChars 10 cs significand, cs.length) := by
  induction cs generalizing significand with
  | nil => rfl
  | cons c cs ih =>
    obtain ⟨hdigit, hrest⟩ := List.forall_mem_cons.1 hdigits
    have hnext := ih hrest (10 * significand + (c.toNat - 48)) hle
    have hfits : 10 * significand + (c.toNat - 48) ≤ maxSignificand :=
      Nat.le_trans (le_ofDigitChars _ cs) hle
    rw [takeSignificand]
    simp only [hdigit, hfits, decide_true, Bool.and_self, if_true, hnext]
    rfl

theorem rest_skip (n : Nat) (cur : Cursor) : (cur.skip n).rest = cur.rest.drop n := by
  induction n generalizing cur with
  | zero => rfl
  | succ n ih =>
    obtain ⟨rest, offset⟩ := cur
    rw [Cursor.skip, ih, Cursor.next]
    cases rest with
    | nil => exact List.drop_nil
    | cons c cs => rfl

theorem readNumber_digits (negative : Bool) {n : Nat} (hn : n ≤ maxSignificand) (offset : Nat) :
    ∃ cur, readNumber negative ⟨decimalDigits n, offset⟩ = .ok (wholeNumber negative n, cur) ∧
      cur.rest = [] := by
  have hform := isDecimalOf_decimalDigits n
  have hvalue : Nat.ofDigitChars 10 (decimalDigits n) 0 = n := Nat.ofDigitChars_ten_toDigits
  have htake : takeSignificand 0 (decimalDigits n) = (n, (decimalDigits n).length) := by
    have := takeSignificand_digits hform.isDigits.2 0 (hvalue.symm ▸ hn)
    rwa [hvalue] at this
  obtain ⟨c, cs, hcons⟩ := List.exists_cons_of_ne_nil hform.isDigits.1
  have hdigit : c.isDigit = true := hform.isDigits.2 c (hcons ▸ List.mem_cons_self)
  have hzero : (c = '0' && cs.head?.any Char.isDigit) = false := by
    by_cases hc : c = '0'
    · have hsingle := hform.head (by rw [hcons, hc]; rfl)
      rw [hcons] at hsingle
      cases hsingle
      rfl
    · rw [decide_eq_false hc, Bool.false_and]
  rw [hcons] at htake ⊢
  have hrest : ((⟨c :: cs, offset⟩ : Cursor).skip (c :: cs).length).rest = [] := by
    rw [rest_skip, List.drop_length]
  generalize hafter : (⟨c :: cs, offset⟩ : Cursor).skip (c :: cs).length = after at hrest
  unfold readNumber
  simp only [hdigit, hzero, htake, hafter, Bool.not_true, Bool.false_eq_true, if_false]
  obtain ⟨rest, offset⟩ := after
  cases hrest
  exact ⟨_, rfl, rfl⟩

theorem wholeNumber_negative {m : Nat} (hpos : 0 < m) (hle : m ≤ 2 ^ 63) :
    wholeNumber true m = .negative (.ofInt (-m)) := by
  have hlarge : ¬Nat.pow 2 63 < m := Nat.not_lt_of_le hle
  have hfits : (decide (m = 0) || decide (Nat.pow 2 63 < m)) = false := by
    rw [decide_eq_false (Nat.ne_of_gt hpos), decide_eq_false hlarge, Bool.or_false]
  rw [wholeNumber, hfits]
  rfl

theorem skipSpace_cons {c : Char} (h : isSpace c = false) (cs : List Char) (offset : Nat) :
    skipSpace ⟨c :: cs, offset⟩ = ⟨c :: cs, offset⟩ := by
  rw [skipSpace, Cursor.skipWhile]
  simp only [List.dropWhile_cons, List.takeWhile_cons, h, Bool.false_eq_true, if_false]
  rfl

theorem readValue_minus (depth : Nat) (cs : List Char) (offset : Nat) :
    readValue depth ⟨'-' :: cs, offset⟩ =
      (readNumber true ⟨cs, offset + 1⟩).map fun p => (.number p.1, p.2) := by
  have hnumber : readValue depth ⟨'-' :: cs, offset⟩ =
      (readNumber true ⟨cs, offset + 1⟩).bind fun p => .ok (.number p.1, p.2) := by
    unfold readValue
    rw [skipSpace_cons (by decide)]
    rfl
  rw [hnumber]
  cases readNumber true ⟨cs, offset + 1⟩ <;> rfl

theorem readValue_digit (depth : Nat) {c : Char} (h : c.isDigit = true) (cs : List Char)
    (offset : Nat) : readValue depth ⟨c :: cs, offset⟩ =
      (readNumber false ⟨c :: cs, offset⟩).map fun p => (.number p.1, p.2) := by
  have hne {d : Char} (hd : d.isDigit = false) : c ≠ d := ne_of_isDigit h hd
  have hspace : isSpace c = false := by
    rw [isSpace, beq_eq_false_iff_ne.2 (hne rfl), beq_eq_false_iff_ne.2 (hne rfl),
      beq_eq_false_iff_ne.2 (hne rfl), beq_eq_false_iff_ne.2 (hne rfl)]
    rfl
  unfold readValue
  rw [skipSpace_cons hspace]
  dsimp only [Cursor.peek?, List.head?_cons]
  -- No digit begins a value of another kind.
  split
  next heq => cases heq
  iterate 7 next heq => exact absurd (Option.some.inj heq) (hne rfl)
  next heq =>
    cases heq
    rw [if_pos h]
    cases readNumber false ⟨c :: cs, offset⟩ <;> rfl

/-- **Whole numbers.** The decimal text of an integer is read as a whole number. -/
theorem read_integerText {n : Int} (hn : n.natAbs ≤ maxSignificand) :
    read (String.ofList (integerText n)) = .ok (.number (wholeNumber (n < 0) n.natAbs)) := by
  obtain ⟨cur, hvalue, hrest⟩ : ∃ cur, readValue maxDepth ⟨integerText n, 0⟩ =
      .ok (.number (wholeNumber (n < 0) n.natAbs), cur) ∧ cur.rest = [] := by
    by_cases hneg : n < 0
    · obtain ⟨cur, hnumber, hrest⟩ := readNumber_digits true hn 1
      refine ⟨cur, ?_, hrest⟩
      rw [integerText, if_pos hneg, List.singleton_append, readValue_minus, hnumber,
        decide_eq_true hneg]
      rfl
    · obtain ⟨cur, hnumber, hrest⟩ := readNumber_digits false hn 0
      refine ⟨cur, ?_, hrest⟩
      obtain ⟨c, cs, hcons⟩ := List.exists_cons_of_ne_nil (decimalDigits_ne_nil n.natAbs)
      have hdigit : c.isDigit = true := isDigit_of_mem_decimalDigits (hcons ▸ List.mem_cons_self)
      rw [hcons] at hnumber
      rw [integerText, if_neg hneg, List.nil_append, hcons, readValue_digit _ hdigit, hnumber,
        decide_eq_false hneg]
      rfl
  have hspace : (skipSpace cur).rest = [] := by
    rw [skipSpace, Cursor.skipWhile, hrest]
    rfl
  have hdocument : readDocument ⟨integerText n, 0⟩ =
      .ok (.number (wholeNumber (n < 0) n.natAbs)) := by
    rw [readDocument, hvalue]
    simp only [bind, Except.bind, hspace, List.isEmpty_nil, if_true]
  rw [read, Cursor.ofString, String.toList_ofList, hdocument]
  rfl

end Json

end MessageTemplate
