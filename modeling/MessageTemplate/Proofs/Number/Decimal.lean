import Mathlib.Data.Nat.Digits.Defs
import MessageTemplate.Number.Digits

/-!
# Decimal digits are read back

* `readNat?_decimalDigits`: a number is read from its digits.
* `readInt32?_decimalDigits`: within 31 bits it is read as a signed word as well.
* `DenotesInt`: what digits with an optional sign denote in positional notation;
  `readInt32?_eq_some_iff` says that within 32 bits this is what is read, and nothing else is.
-/

namespace MessageTemplate

theorem isDigit_of_mem_decimalDigits {n : Nat} {c : Char} (h : c ∈ decimalDigits n) :
    c.isDigit = true := Nat.isDigit_of_mem_toDigits (by decide) (by decide) h

theorem decimalDigits_ne_nil (n : Nat) : decimalDigits n ≠ [] := Nat.toDigits_ne_nil

theorem readNat?_decimalDigits (n : Nat) : readNat? (decimalDigits n) = some n := by
  have hdigits : (decimalDigits n).all Char.isDigit = true :=
    List.all_eq_true.2 fun c hc => isDigit_of_mem_decimalDigits hc
  have hvalue : Nat.ofDigitChars 10 (decimalDigits n) 0 = n := Nat.ofDigitChars_ten_toDigits
  simp [readNat?, decimalDigits_ne_nil, hdigits, hvalue]

theorem readInt?_decimalDigits (n : Nat) : readInt? (decimalDigits n) = some (n : Int) := by
  have hsign {c : Char} {cs : List Char} (h : decimalDigits n = c :: cs) : c.isDigit = true :=
    isDigit_of_mem_decimalDigits (h ▸ List.mem_cons_self)
  unfold readInt?
  split
  next h => exact absurd (hsign h) (by decide)
  next h => exact absurd (hsign h) (by decide)
  next => rw [readNat?_decimalDigits]; rfl

theorem isSigned_iff {n : Int} :
    isSigned 32 n = true ↔ -2147483648 ≤ n ∧ n ≤ 2147483647 := by
  have hpow : Nat.pow 2 (32 - 1) = 2147483648 := rfl
  rw [isSigned, Bool.and_eq_true, decide_eq_true_eq, decide_eq_true_eq, hpow]
  omega

theorem readInt32?_decimalDigits {n : Nat} (h : n < Nat.pow 2 31) :
    readInt32? (decimalDigits n) = some (n : Int) := by
  have hbound : n < 2147483648 := h
  have hsigned : isSigned 32 (n : Int) = true := isSigned_iff.2 (by omega)
  rw [readInt32?, readSigned?, readInt?_decimalDigits, Option.filter_some, if_pos hsigned]

/-! ## Positional notation -/

/-- One or more decimal digits. -/
def IsDigits (cs : List Char) : Prop := cs ≠ [] ∧ ∀ c ∈ cs, c.isDigit = true

instance (cs : List Char) : Decidable (IsDigits cs) :=
  decidable_of_iff (cs ≠ [] ∧ cs.all Char.isDigit = true) (by rw [IsDigits, List.all_eq_true])

theorem isDigits_singleton {c : Char} (h : c.isDigit = true) : IsDigits [c] :=
  ⟨List.cons_ne_nil c [], List.forall_mem_singleton.2 h⟩

theorem ne_of_isDigit {c d : Char} (hc : c.isDigit = true) (hd : d.isDigit = false) : c ≠ d := by
  rintro rfl
  cases hc.symm.trans hd

/-- The number that decimal digits denote. -/
def digitsValue (cs : List Char) : Nat :=
  Nat.ofDigits 10 (cs.reverse.map fun c => c.toNat - '0'.toNat)

/-- Decimal digits after an optional sign, and the integer that they denote. -/
inductive DenotesInt : List Char → Int → Prop
  | unsigned {digits : List Char} (h : IsDigits digits) : DenotesInt digits (digitsValue digits)
  | plus {digits : List Char} (h : IsDigits digits) :
      DenotesInt ('+' :: digits) (digitsValue digits)
  | minus {digits : List Char} (h : IsDigits digits) :
      DenotesInt ('-' :: digits) (-digitsValue digits)

theorem ofDigitChars_eq_digitsValue (cs : List Char) :
    Nat.ofDigitChars 10 cs 0 = digitsValue cs := by
  rw [digitsValue, Nat.ofDigits_eq_foldr, List.foldr_map, List.foldr_reverse, Nat.ofDigitChars]
  simp only [Nat.cast_id, Nat.add_comm]

theorem readNat?_eq_some_iff {cs : List Char} {n : Nat} :
    readNat? cs = some n ↔ IsDigits cs ∧ n = digitsValue cs := by
  have hdigits : (cs.isEmpty || !cs.all Char.isDigit) = true ↔ ¬IsDigits cs := by
    simp only [IsDigits, Bool.or_eq_true, List.isEmpty_iff, Bool.not_eq_true', ← Bool.not_eq_true,
      List.all_eq_true]
    tauto
  rw [readNat?, ofDigitChars_eq_digitsValue]
  by_cases h : IsDigits cs
  · rw [if_neg (fun hc => hdigits.1 hc h), Option.some.injEq]
    exact ⟨fun heq => ⟨h, heq.symm⟩, fun heq => heq.2.symm⟩
  · rw [if_pos (hdigits.2 h)]
    exact ⟨nofun, fun heq => absurd heq.1 h⟩

/-- The same for a number that is read as an integer. -/
theorem cast_readNat?_eq_some_iff {cs : List Char} {n : Int} :
    (readNat? cs : Option Int) = some n ↔ IsDigits cs ∧ n = digitsValue cs := by
  cases hread : readNat? cs with
  | none =>
    have hnone (h : IsDigits cs) : False := by
      rw [readNat?_eq_some_iff.2 ⟨h, rfl⟩] at hread
      cases hread
    exact ⟨nofun, fun h => (hnone h.1).elim⟩
  | some m =>
    obtain ⟨hdigits, rfl⟩ := readNat?_eq_some_iff.1 hread
    exact ⟨fun h => ⟨hdigits, (Option.some.inj h).symm⟩, fun h => congrArg some h.2.symm⟩

theorem readInt?_eq_some_iff {cs : List Char} {n : Int} :
    readInt? cs = some n ↔ DenotesInt cs n := by
  constructor
  · intro h
    unfold readInt? at h
    split at h
    all_goals
      obtain ⟨m, hm, rfl⟩ := Option.map_eq_some_iff.1 h
      obtain ⟨hdigits, rfl⟩ := cast_readNat?_eq_some_iff.1 hm
    · exact .minus hdigits
    · exact .plus hdigits
    · exact .unsigned hdigits
  · intro h
    cases h with
    | unsigned h =>
      unfold readInt?
      split
      next => exact absurd (h.2 _ List.mem_cons_self) (by decide)
      next => exact absurd (h.2 _ List.mem_cons_self) (by decide)
      next => rw [cast_readNat?_eq_some_iff.2 ⟨h, rfl⟩]; rfl
    | plus h => rw [readInt?, cast_readNat?_eq_some_iff.2 ⟨h, rfl⟩]; rfl
    | minus h => rw [readInt?, cast_readNat?_eq_some_iff.2 ⟨h, rfl⟩]; rfl

theorem readInt32?_eq_some_iff {cs : List Char} {n : Int} : readInt32? cs = some n ↔
    DenotesInt cs n ∧ -2147483648 ≤ n ∧ n ≤ 2147483647 := by
  rw [readInt32?, readSigned?, Option.filter_eq_some_iff, readInt?_eq_some_iff, isSigned_iff]

end MessageTemplate
