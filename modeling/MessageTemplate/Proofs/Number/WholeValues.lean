import MessageTemplate.Proofs.Number.Grouping
import MessageTemplate.Proofs.Number.LeadingDigits

/-!
# Texts of whole values

A floating-point value that is a whole number is written in positions without a point. The digits
are the shortest ones that read back as the value, so they need not be its own.

- **Zeros at the end** (`Numeral.write_plain`): digits with a natural exponent are written as the
  digits of a whole number.
- **Shortest digits** (`RoundingInterval.IsWhole.shortestFrom_eq`): the search ends at the last
  digit of a whole number if not before.
- **Whole values** (`Binary64.numeral_plain_whole`): the digits are those of the value below
  `2 ^ 53`, where the next values are too near to hold another whole number between.
- **Integers as values** (`Binary64.exists_whole_ofInt`, `Binary64.numeral_ofInt`): what integers
  of 64 bits are rounded to, and how that is written.
-/

namespace MessageTemplate

/-! ## Zeros at the end -/

theorem decimalDigits_mul_pow {n : Nat} (hn : n ≠ 0) (k : Nat) :
    decimalDigits (n * 10 ^ k) = decimalDigits n ++ List.replicate k '0' := by
  induction k with
  | zero => rw [Nat.pow_zero, Nat.mul_one, List.replicate_zero, List.append_nil]
  | succ k ih =>
    have hpos : 0 < n * 10 ^ k := Nat.mul_pos (Nat.pos_of_ne_zero hn) (Nat.pow_pos (by decide))
    rw [Nat.pow_succ, ← Nat.mul_assoc, decimalDigits, Nat.toDigits_eq_if (by decide),
      if_neg (by omega), Nat.mul_div_cancel _ (by decide), Nat.mul_mod_left, ← decimalDigits, ih,
      List.append_assoc, List.replicate_succ']
    rfl

/-- What is left of a text without the zeros at its end. -/
theorem exists_zeros (cs : List Char) : ∃ zeros,
    cs = (cs.reverse.dropWhile (· == '0')).reverse ++ List.replicate zeros '0' := by
  have hsplit : cs.reverse.takeWhile (· == '0') ++ cs.reverse.dropWhile (· == '0') = cs.reverse :=
    List.takeWhile_append_dropWhile
  have hzeros : ∀ c ∈ cs.reverse.takeWhile (· == '0'), c = '0' := fun c hc =>
    eq_of_beq (List.all_eq_true.1 List.all_takeWhile c hc)
  refine ⟨(cs.reverse.takeWhile (· == '0')).length, ?_⟩
  rw [← List.reverse_replicate, ← List.eq_replicate_of_mem hzeros, ← List.reverse_append, hsplit,
    List.reverse_reverse]

namespace Numeral

theorem exists_significantDigits {digits : Nat} (hne : digits ≠ 0) : ∃ zeros,
    decimalDigits digits = significantDigits digits ++ List.replicate zeros '0' := by
  obtain ⟨zeros, hdigits⟩ := exists_zeros (decimalDigits digits)
  refine ⟨zeros, ?_⟩
  rw [significantDigits]
  split
  next hempty =>
    -- Nothing but zeros would be the digits of zero.
    rw [List.isEmpty_iff.1 hempty, List.nil_append] at hdigits
    have hnil := decimalDigits_ne_nil digits
    refine absurd (head?_decimalDigits ?_) hne
    rw [hdigits] at hnil ⊢
    exact List.head?_replicate.trans (if_neg fun hzero => hnil (by rw [hzero, List.replicate_zero]))
  next => exact hdigits

/-- Digits that end at or before the point are followed by zeros up to it. -/
theorem positional_of_length_le {digits : List Char} {top : Nat} (h : digits.length ≤ top + 1) :
    positional false digits top =
      digits ++ List.replicate (top + 1 - digits.length) '0' := by
  have hnonneg : ¬(top : Int) < 0 := by omega
  rw [positional, if_neg hnonneg, if_neg hnonneg, Int.toNat_natCast, List.take_of_length_le h,
    List.drop_of_length_le h, List.rightpad]
  exact List.append_nil _

/-- In positions a whole number is written with its digits. -/
theorem write_plain (digits k : Nat) : write .plain digits k = decimalDigits (digits * 10 ^ k) := by
  rcases Nat.eq_zero_or_pos digits with rfl | hdigits
  · rw [Nat.zero_mul]
    rfl
  have hne : digits ≠ 0 := Nat.ne_of_gt hdigits
  obtain ⟨zeros, hzeros⟩ := exists_significantDigits hne
  have hcount : digitCount digits = (significantDigits digits).length + zeros := by
    rw [digitCount, hzeros, List.length_append, List.length_replicate]
  have hpos := digitCount_pos digits
  have htop : (if digits = 0 then 0 else (k : Int) + digitCount digits - 1) =
      (k + digitCount digits - 1 : Nat) := by
    rw [if_neg hne]
    omega
  have hwrite : write .plain digits k = positional false (significantDigits digits)
      (if digits = 0 then 0 else (k : Int) + digitCount digits - 1) := rfl
  have hrest : k + digitCount digits - 1 + 1 - (significantDigits digits).length = zeros + k := by
    omega
  rw [hwrite, htop, positional_of_length_le (by omega), hrest, decimalDigits_mul_pow hne, hzeros,
    List.append_assoc, List.replicate_append_replicate]

end Numeral

/-! ## Shortest digits of whole numbers -/

namespace RoundingInterval

variable {i : RoundingInterval} {n exponent digits : Nat} {tie : Tie}

/-- The point that is chosen lies in the interval. -/
theorem within_of_gridPoint? (h : i.gridPoint? tie exponent = some digits) :
    within i.closed i.low i.high (digits * (i.den * 10 ^ exponent)) = true := by
  have hnonneg : (0 : Int) ≤ exponent := Int.natCast_nonneg exponent
  unfold gridPoint? at h
  simp only [hnonneg, if_true, Nat.mul_one, Int.toNat_natCast] at h
  generalize i.value / (i.den * Nat.pow 10 exponent) = below at h
  split at h
  next hbelow habove =>
    split at h
    · cases h
      exact hbelow
    split at h
    · cases h
      exact habove
    cases tie with
    | up =>
      cases h
      exact habove
    | even =>
      cases h
      rcases Nat.mod_two_eq_zero_or_one below with hmod | hmod <;> rw [hmod]
      · exact hbelow
      · exact habove
  next hbelow _ =>
    cases h
    exact hbelow
  next _ habove =>
    cases h
    exact habove
  next => cases h

/-- The interval of a whole number. -/
structure IsWhole (i : RoundingInterval) (n : Nat) : Prop where
  pos : 0 < n
  den_pos : 0 < i.den
  value : i.value = n * i.den
  within : within i.closed i.low i.high i.value = true

theorem IsWhole.gridPoint?_zero (h : i.IsWhole n) : i.gridPoint? tie 0 = some n := by
  have hvalue : RoundingInterval.within i.closed i.low i.high (n * i.den) = true :=
    h.value ▸ h.within
  have hden : 2 * 0 < i.den := h.den_pos
  have hpow : Nat.pow 10 (0 : Int).toNat = 1 := rfl
  unfold gridPoint?
  simp only [Int.le_refl, if_true, hpow, Nat.mul_one, h.value, Nat.mul_div_cancel n h.den_pos,
    Nat.mul_mod_left, hvalue, hden]
  split
  next => rfl
  next => rfl
  next hfalse _ => cases hfalse
  next hfalse _ => cases hfalse

theorem IsWhole.leadingExponent_eq (h : i.IsWhole n) :
    leadingExponent i.value i.den = digitCount n - 1 := by
  rw [h.value, leadingExponent_of_le (Nat.le_mul_of_pos_left _ h.pos),
    Nat.mul_div_cancel n h.den_pos]

/-- The last digit that is tried first has an exponent at which the number itself is found. -/
theorem IsWhole.shortestFrom_eq (h : i.IsWhole n) (tie : Tie) (more count : Nat)
    (hcount : count ≤ digitCount n) :
    ∃ digits exponent : Nat,
      shortestFrom tie i (digitCount n - 1) more count = (digits, (exponent : Int)) ∧
      (exponent = 0 → digits = n) ∧
      (digitCount n < count + more →
        RoundingInterval.within i.closed i.low i.high (digits * (i.den * 10 ^ exponent)) =
          true) := by
  have hexp (count : Nat) (hcount : count ≤ digitCount n) :
      (digitCount n : Int) - 1 + 1 - count = (digitCount n - count : Nat) := by omega
  induction more generalizing count with
  | zero =>
    have hneg : (count : Int) - 1 - (digitCount n - 1) = -(digitCount n - count : Nat) := by omega
    have hround : shortestFrom tie i (digitCount n - 1) 0 count =
        (roundDiv (n * i.den) (i.den * 10 ^ (digitCount n - count)),
          ((digitCount n - count : Nat) : Int)) := by
      rw [shortestFrom, hneg, scaleTen_neg, hexp count hcount, h.value]
    refine ⟨_, _, hround, fun hzero => ?_, fun hlt => by omega⟩
    rw [hzero, Nat.pow_zero, Nat.mul_one, roundDiv_mul n h.den_pos]
  | succ more ih =>
    rw [shortestFrom, hexp count hcount]
    cases hpoint : i.gridPoint? tie (digitCount n - count : Nat) with
    | some digits =>
      refine ⟨digits, _, rfl, fun hzero => ?_, fun _ => within_of_gridPoint? hpoint⟩
      rw [hzero] at hpoint
      exact Option.some.inj (hpoint.symm.trans h.gridPoint?_zero)
    | none =>
      have hnext : count + 1 ≤ digitCount n := by
        by_contra hlast
        have hzero : digitCount n - count = 0 := by omega
        rw [hzero] at hpoint
        cases hpoint.symm.trans h.gridPoint?_zero
      obtain ⟨digits, exponent, hshortest, hdigits, hwithin⟩ := ih (count + 1) hnext
      exact ⟨digits, exponent, hshortest, hdigits, fun hlt => hwithin (by omega)⟩

theorem within_of_lt {closed : Bool} {low high point : Nat} (hlow : low < point)
    (hhigh : point < high) : RoundingInterval.within closed low high point = true := by
  cases closed <;> simp [RoundingInterval.within] <;> omega

theorem le_of_within {closed : Bool} {low high point : Nat}
    (h : RoundingInterval.within closed low high point = true) : low ≤ point ∧ point ≤ high := by
  cases closed <;> simp [RoundingInterval.within] at h <;> omega

end RoundingInterval

/-! ## Whole values -/

namespace Binary64

variable {negative : Bool} {significand shift n : Nat}

/-- The interval of a value reaches half a step to either side of it, or less. -/
theorem interval_bounds (significand shift : Nat) :
    (interval significand shift).value ≤ (interval significand shift).low + 2 * 2 ^ shift ∧
    (interval significand shift).high = (interval significand shift).value + 2 * 2 ^ shift := by
  have hlow (k : Nat) (h : k ≤ 2) :
      4 * significand * 2 ^ shift ≤ (4 * significand - k) * 2 ^ shift + 2 * 2 ^ shift := by
    rw [← Nat.add_mul]
    exact Nat.mul_le_mul_right _ (by omega)
  refine ⟨?_, Nat.add_mul ..⟩
  unfold interval
  dsimp only
  split
  · exact hlow 1 (by decide)
  · exact hlow 2 (by decide)

theorem isWhole_interval (hn : 0 < n) (hvalue : significand * 2 ^ shift = n * unit) :
    (interval significand shift).IsWhole n where
  pos := hn
  den_pos := Nat.mul_pos (by decide) unit_pos
  value := by
    have hfour : 4 * significand * 2 ^ shift = n * (4 * unit) := by
      rw [Nat.mul_assoc, hvalue, Nat.mul_left_comm]
    exact hfour
  within := by
    have hpos : 0 < significand * 2 ^ shift := by
      rw [hvalue]
      exact Nat.mul_pos hn unit_pos
    have hsignificand : 0 < significand := Nat.pos_of_mul_pos_right hpos
    have hscale := Nat.two_pow_pos shift
    refine RoundingInterval.within_of_lt (Nat.mul_lt_mul_of_pos_right ?_ hscale)
      (Nat.mul_lt_mul_of_pos_right (by omega) hscale)
    split <;> omega

/-- Whole values below `2 ^ 53` are alone in their intervals. -/
theorem eq_of_within {m : Nat} (hcanonical : Canonical significand shift) (hn : 0 < n)
    (hvalue : significand * 2 ^ shift = n * unit) (hlt : n < 2 ^ 53)
    (hwithin : RoundingInterval.within (interval significand shift).closed
      (interval significand shift).low (interval significand shift).high
      (m * (interval significand shift).den) = true) : m = n := by
  have hshift : 2 ^ shift < 2 * unit := by
    have hnormal : _ ∧ _ ∧ (shift = 0 ∨ 2 ^ 52 ≤ significand) := hcanonical
    rcases hnormal.2.2 with rfl | hnormal
    · have := unit_pos
      omega
    · have htwice : 2 ^ 53 * unit = 2 ^ 52 * (2 * unit) := by decide +kernel
      refine Nat.lt_of_mul_lt_mul_left (a := 2 ^ 52) ?_
      calc 2 ^ 52 * 2 ^ shift ≤ significand * 2 ^ shift := Nat.mul_le_mul_right _ hnormal
        _ = n * unit := hvalue
        _ < 2 ^ 53 * unit := Nat.mul_lt_mul_of_pos_right hlt unit_pos
        _ = 2 ^ 52 * (2 * unit) := htwice
  obtain ⟨hlow, hhigh⟩ := RoundingInterval.le_of_within hwithin
  obtain ⟨hbelow, habove⟩ := interval_bounds significand shift
  have hden : (interval significand shift).den = 4 * unit := rfl
  rw [hden] at hlow hhigh
  rw [(isWhole_interval hn hvalue).value, hden] at hbelow habove
  have hstep {a b : Nat} (h : a < b) : a * (4 * unit) + 4 * unit ≤ b * (4 * unit) := by
    rw [← Nat.succ_mul]
    exact Nat.mul_le_mul_right _ h
  rcases Nat.lt_trichotomy m n with hless | heq | hmore
  · have := hstep hless
    omega
  · exact heq
  · have := hstep hmore
    omega

/-- From `2 ^ 53` on whole values are even. -/
theorem even_of_units {x : Binary64} (hunits : x.units = n * unit) (hn : 2 ^ 53 ≤ n) :
    n % 2 = 0 := by
  cases x with
  | finite negative significand shift hcanonical =>
    have hvalue : significand * 2 ^ shift = n * unit := hunits
    have hlarge : 1075 ≤ shift := by
      by_contra hsmall
      have hlt := Canonical.mul_two_pow_lt hcanonical (by omega : shift ≤ 1074)
      rw [two_pow_eq_unit, hvalue] at hlt
      exact Nat.not_lt_of_le (Nat.mul_le_mul_right unit hn) hlt
    have hdvd (k : Nat) (h : k ≤ shift) : 2 ^ k ∣ significand * 2 ^ shift :=
      Nat.dvd_mul_left_of_dvd (Nat.pow_dvd_pow 2 h) significand
    have heven := hdvd 1075 hlarge
    rw [two_pow_eq_two_mul_unit, hvalue] at heven
    exact Nat.mod_eq_zero_of_dvd (Nat.dvd_of_mul_dvd_mul_right unit_pos heven)
  | _ =>
    have hzero : 0 = n * unit := hunits
    have := Nat.mul_pos (Nat.lt_of_lt_of_le (Nat.two_pow_pos 53) hn) unit_pos
    omega

/-- The shortest digits of a whole value end at or before the point. -/
theorem exists_shortestDigits (hcanonical : Canonical significand shift) (hn : 0 < n)
    (hvalue : significand * 2 ^ shift = n * unit) (tie : Tie) : ∃ digits exponent : Nat,
      shortestDigits tie (interval significand shift) = (digits, (exponent : Int)) ∧
      (n < 2 ^ 53 → digits * 10 ^ exponent = n) ∧
      (digits * 10 ^ exponent = n ∨ digits * 10 ^ exponent % 10 = 0) := by
  have hwhole := isWhole_interval hn hvalue
  obtain ⟨digits, exponent, hshortest, hzero, hwithin⟩ :=
    hwhole.shortestFrom_eq tie 17 1 (digitCount_pos n)
  refine ⟨digits, exponent, ?_, fun hlt => ?_, ?_⟩
  · rw [shortestDigits, hwhole.leadingExponent_eq, hshortest]
  · have hcount : digitCount n ≤ 17 :=
      digitCount_le (by decide) (Nat.lt_of_lt_of_le hlt (by decide))
    refine eq_of_within hcanonical hn hvalue hlt ?_
    rw [Nat.mul_assoc, Nat.mul_comm (10 ^ exponent)]
    exact hwithin (by omega)
  · rcases Nat.eq_zero_or_pos exponent with rfl | hpos
    · rw [hzero rfl, Nat.pow_zero, Nat.mul_one]
      exact .inl rfl
    · obtain ⟨k, rfl⟩ := Nat.exists_eq_succ_of_ne_zero (Nat.ne_of_gt hpos)
      rw [Nat.pow_succ, ← Nat.mul_assoc, Nat.mul_mod_left]
      exact .inr rfl

/-- **Whole values** are written with decimal digits alone. Below `2 ^ 53` they are their own; what
is written instead of a greater one ends in a zero. -/
theorem numeral_plain_whole {x : Binary64} (hfinite : x.isFinite = true)
    (hunits : x.units = n * unit) : ∃ m,
      x.numeral .plain = (if x.isNegative then ['-'] else []) ++ decimalDigits m ∧
      (n < 2 ^ 53 → m = n) ∧ (m = n ∨ m % 10 = 0) := by
  cases x with
  | finite negative significand shift hcanonical =>
    have hvalue : significand * 2 ^ shift = n * unit := hunits
    have hsplit : ∃ digits exponent : Nat,
        (if significand = 0 then (0, 0)
          else shortestDigits .up (interval significand shift)) = (digits, (exponent : Int)) ∧
        (n < 2 ^ 53 → digits * 10 ^ exponent = n) ∧
        (digits * 10 ^ exponent = n ∨ digits * 10 ^ exponent % 10 = 0) := by
      split
      next hzero =>
        have hn : n = 0 := by
          rw [hzero, Nat.zero_mul] at hvalue
          exact (Nat.mul_eq_zero.1 hvalue.symm).resolve_right (Nat.ne_of_gt unit_pos)
        exact ⟨0, 0, rfl, fun _ => hn.symm, .inl hn.symm⟩
      next hne =>
        have hn : 0 < n := by
          refine Nat.pos_of_ne_zero fun hzero => hne ?_
          rw [hzero, Nat.zero_mul] at hvalue
          exact (Nat.mul_eq_zero.1 hvalue).resolve_right (Nat.ne_of_gt (Nat.two_pow_pos shift))
        exact exists_shortestDigits hcanonical hn hvalue .up
    obtain ⟨digits, exponent, hdigits, hm⟩ := hsplit
    refine ⟨digits * 10 ^ exponent, ?_, hm⟩
    rw [numeral]
    simp only [Numeral.Style.plain] at hdigits ⊢
    rw [hdigits]
    exact congrArg _ (Numeral.write_plain digits exponent)
  | _ => cases hfinite

/-! ## Integers as values -/

section Integers

variable {n : Int}

theorem isFinite_ofInt (h : n.natAbs < 2 ^ 64) : (ofInt n).isFinite = true := by
  have hbound : 2 ^ 64 ≤ overflowBound := by decide +kernel
  rw [ofInt, isFinite_ofRatio_iff Nat.one_pos]
  omega

/-- An integer is rounded to a multiple of a power of two, and to itself if that is one. -/
theorem exists_units_ofInt (h : n.natAbs < 2 ^ 64) : ∃ k,
    (ofInt n).units = roundDiv n.natAbs (2 ^ k) * 2 ^ k * unit ∧
      (k = 0 ∨ 2 ^ (52 + k) ≤ n.natAbs) := by
  obtain ⟨scale, hunits, hge⟩ := units_ofRatio Nat.one_pos (isFinite_ofInt h)
  have hpow (a b : Nat) : 2 ^ (a + b) = 2 ^ a * 2 ^ b := Nat.pow_add ..
  rw [Nat.one_mul] at hunits hge
  rcases Nat.le_total scale 1074 with hle | hle
  · obtain ⟨k, hk⟩ := Nat.exists_eq_add_of_le' hle
    refine ⟨0, ?_, .inl rfl⟩
    have hsplit : unit = 2 ^ k * 2 ^ scale := by rw [← two_pow_eq_unit, ← hpow, ← hk]
    rw [ofInt, hunits, Nat.pow_zero, Nat.mul_one, roundDiv_one, hsplit, ← Nat.mul_assoc,
      roundDiv_mul _ (Nat.two_pow_pos scale), Nat.mul_assoc]
  · obtain ⟨k, rfl⟩ := Nat.exists_eq_add_of_le' hle
    have hscale : 2 ^ (k + 1074) = 2 ^ k * unit := by rw [← two_pow_eq_unit, ← hpow]
    rw [hscale] at hunits hge
    refine ⟨k, ?_, hge.imp (fun hzero => by omega) fun hle => ?_⟩
    · rw [ofInt, hunits, roundDiv_mul_mul unit_pos, Nat.mul_assoc]
    · rw [← Nat.mul_assoc, ← hpow] at hle
      exact Nat.le_of_mul_le_mul_right hle unit_pos

/-- An integer of 64 bits is rounded to a whole value with no more digits, or to the next power of
ten. -/
theorem exists_whole_ofInt (h : n.natAbs < 2 ^ 64) : ∃ w, (ofInt n).units = w * unit ∧
    w ≤ 10 ^ digitCount n.natAbs ∧ (n.natAbs ≤ 2 ^ 53 → w = n.natAbs) ∧
    (2 ^ 53 ≤ n.natAbs → 2 ^ 53 ≤ w) := by
  obtain ⟨k, hunits, hk⟩ := exists_units_ofInt h
  have hlt := lt_pow_digitCount n.natAbs
  refine ⟨_, hunits, ?_⟩
  rcases Nat.eq_zero_or_pos k with rfl | hpos
  · rw [Nat.pow_zero, Nat.mul_one, roundDiv_one]
    exact ⟨Nat.le_of_lt hlt, fun _ => rfl, id⟩
  have hge : 2 ^ (52 + k) ≤ n.natAbs := hk.resolve_left (Nat.ne_of_gt hpos)
  have hscale := Nat.two_pow_pos k
  have hk : 52 + k < 64 := (Nat.pow_lt_pow_iff_right (by decide)).1 (Nat.lt_of_le_of_lt hge h)
  have hlarge : 2 ^ 53 ≤ n.natAbs :=
    Nat.le_trans (Nat.pow_le_pow_right (by decide) (by omega)) hge
  refine ⟨?_, fun hle => ?_, fun _ => ?_⟩
  · have hcount : k ≤ digitCount n.natAbs := by
      have := lt_digitCount (Nat.le_trans (by decide : 10 ^ 15 ≤ 2 ^ 53) hlarge)
      omega
    -- The power of ten is itself a multiple of the power of two.
    have hsplit : 10 ^ digitCount n.natAbs =
        5 ^ digitCount n.natAbs * 2 ^ (digitCount n.natAbs - k) * 2 ^ k := by
      rw [Nat.mul_assoc, ← Nat.pow_add, Nat.sub_add_cancel hcount, ← Nat.mul_pow]
    rw [hsplit] at hlt ⊢
    exact Nat.mul_le_mul_right _ (roundDiv_le hscale (Nat.le_of_lt hlt))
  · obtain rfl : k = 1 := by
      have := (Nat.pow_le_pow_iff_right (by decide)).1 (Nat.le_trans hge hle)
      omega
    rw [Nat.le_antisymm hle hlarge]
    rfl
  · have hround : 2 ^ 52 ≤ roundDiv n.natAbs (2 ^ k) := by
      refine le_roundDiv hscale ?_
      rwa [← Nat.pow_add]
    calc 2 ^ 53 = 2 ^ 52 * 2 ^ 1 := rfl
      _ ≤ 2 ^ 52 * 2 ^ k := Nat.mul_le_mul_left _ (Nat.pow_le_pow_right (by decide) hpos)
      _ ≤ roundDiv n.natAbs (2 ^ k) * 2 ^ k := Nat.mul_le_mul_right _ hround

/-- The digits of an integer are enough for its value. -/
theorem roundToDigits_ofInt {places : Nat} (h : n.natAbs < 2 ^ 64)
    (hplaces : digitCount n.natAbs ≤ places + 1) :
    roundToDigits (some (places + 1)) (ofInt n) = ofInt n := by
  obtain ⟨w, hunits, hle, -⟩ := exists_whole_ofInt h
  refine roundToDigits_whole (isFinite_ofInt h) hunits ?_
  have hpos := digitCount_pos n.natAbs
  rcases Nat.eq_or_lt_of_le hle with rfl | hlt
  · have hcount := digitCount_le (Nat.succ_pos _)
      (Nat.pow_lt_pow_right (by decide : 1 < 10) (Nat.lt_succ_self (digitCount n.natAbs)))
    exact Nat.pow_dvd_pow 10 (by omega)
  · have hcount := digitCount_le hpos hlt
    rw [Nat.sub_eq_zero_of_le (by omega)]
    exact Nat.one_dvd w

/-- The value nearest to an integer is written with a sign and digits, and they are those of the
integer up to `2 ^ 53`. Beyond, those of an odd integer are never met. -/
theorem numeral_ofInt (h : n.natAbs < 2 ^ 64) :
    (∃ m, (ofInt n).numeral .plain = signText n ++ decimalDigits m) ∧
    (n.natAbs ≤ 2 ^ 53 → (ofInt n).numeral .plain = integerText n) ∧
    (2 ^ 53 < n.natAbs → n % 2 = 1 → (ofInt n).numeral .plain ≠ integerText n) := by
  obtain ⟨w, hunits, -, hsmall, hlarge⟩ := exists_whole_ofInt h
  obtain ⟨m, hm, hexact, htens⟩ := numeral_plain_whole (isFinite_ofInt h) hunits
  have hsign : (if (ofInt n).isNegative then ['-'] else []) = signText n := by
    have hnegative : (ofInt n).isNegative = decide (n < 0) := isNegative_ofRatio ..
    rw [hnegative, signText]
    simp only [decide_eq_true_eq]
  have hinteger : integerText n = signText n ++ decimalDigits n.natAbs := rfl
  rw [hsign] at hm
  refine ⟨⟨m, hm⟩, fun hle => ?_, fun hlt hodd heq => ?_⟩
  · rcases Nat.eq_or_lt_of_le hle with heq | hlt
    · rcases Int.natAbs_eq n with hn | hn <;> rw [hn, heq] <;> decide +kernel
    · rw [hm, hinteger, hexact (by rw [hsmall hle]; exact hlt), hsmall hle]
  · rw [hm, hinteger, List.append_cancel_left_eq] at heq
    have hread := congrArg (Nat.ofDigitChars 10 · 0) heq
    have hvalue : m = n.natAbs := by
      simpa only [decimalDigits, Nat.ofDigitChars_ten_toDigits] using hread
    have heven := even_of_units hunits (hlarge (Nat.le_of_lt hlt))
    omega

end Integers

end Binary64

end MessageTemplate
