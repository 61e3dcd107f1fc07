import MessageTemplate.Proofs.Number.Rounding
import MessageTemplate.Proofs.Number.WholeNumbers

/-!
# Leading digits

The scientific form of a number is its leading digits and the exponent of the first of them. What
digits and an exponent denote is a quotient of natural numbers (`scaleTen`), and is rounded to a
value as that quotient.

- **Counting digits** (`lt_pow_digitCount`, `pow_le_of_lt_digitCount`): a number between powers of
  ten.
- **Digits with an exponent** (`Binary64.ofDecimal_eq_ofRatio`): they are rounded as the quotient
  that they denote, however far the exponent lies.
- **Leading digits** (`scientificDigits_le`, `scientificDigits_whole`): there are as many as asked
  for, and nothing is rounded when a whole number has no more.
- **Rounding to digits** (`Binary64.roundToDigits_whole`, `Binary64.isFinite_roundToDigits_iff`):
  whole numbers that are kept, and numbers that become infinite.
-/

namespace MessageTemplate

/-! ## Counting digits -/

section Counting

variable {n k : Nat}

theorem digitCount_eq (n : Nat) : digitCount n = Nat.log 10 n + 1 := length_toDigits (by decide) n

theorem digitCount_pos (n : Nat) : 0 < digitCount n := by
  rw [digitCount_eq]
  omega

theorem lt_pow_digitCount (n : Nat) : n < 10 ^ digitCount n := by
  rw [digitCount_eq]
  exact Nat.lt_pow_succ_log_self (by decide) n

theorem pow_le_of_lt_digitCount (hn : n ≠ 0) (h : k < digitCount n) : 10 ^ k ≤ n := by
  rw [digitCount_eq] at h
  exact Nat.le_trans (Nat.pow_le_pow_right (by decide) (by omega)) (Nat.pow_log_le_self 10 hn)

theorem digitCount_le (hk : 0 < k) (h : n < 10 ^ k) : digitCount n ≤ k := by
  have := Nat.log_lt_of_lt_pow' (by omega) h
  rw [digitCount_eq]
  omega

theorem lt_digitCount (h : 10 ^ k ≤ n) : k < digitCount n := by
  have := (Nat.pow_lt_pow_iff_right (by decide)).1 (Nat.lt_of_le_of_lt h (lt_pow_digitCount n))
  exact this

end Counting

/-! ## Digits with an exponent -/

theorem scaleTen_natCast (num den k : Nat) : scaleTen num den k = (num * 10 ^ k, den) :=
  if_pos (Int.natCast_nonneg k)

theorem scaleTen_neg (num den k : Nat) : scaleTen num den (-k) = (num, den * 10 ^ k) := by
  rcases Nat.eq_zero_or_pos k with rfl | hk
  · exact (scaleTen_natCast num den 0).trans (by rw [Nat.pow_zero, Nat.mul_one, Nat.mul_one])
  · have hneg : ¬(0 : Int) ≤ -k := by omega
    rw [scaleTen, if_neg hneg, Int.neg_neg, Int.toNat_natCast]
    rfl

theorem scaleTen_snd_pos (num : Nat) {den : Nat} (hden : 0 < den) (places : Int) :
    0 < (scaleTen num den places).2 := by
  obtain ⟨k, rfl | rfl⟩ := places.eq_nat_or_neg
  · rwa [scaleTen_natCast]
  · rw [scaleTen_neg]
    exact Nat.mul_pos hden (Nat.pow_pos (by decide))

section Magnitude

variable {digits k : Nat} {exponent : Int}

/-- The exponent of the first digit from below. -/
theorem pow_mul_le_scaleTen (hne : digits ≠ 0) (h : k < digitCount digits + exponent) :
    10 ^ k * (scaleTen digits 1 exponent).2 ≤ (scaleTen digits 1 exponent).1 := by
  obtain ⟨j, rfl | rfl⟩ := exponent.eq_nat_or_neg
  · have hpos := digitCount_pos digits
    have hfirst : 10 ^ (k - j) ≤ digits := pow_le_of_lt_digitCount hne (by omega)
    rw [scaleTen_natCast, Nat.mul_one]
    calc 10 ^ k ≤ 10 ^ (k - j + j) := Nat.pow_le_pow_right (by decide) (by omega)
      _ = 10 ^ (k - j) * 10 ^ j := Nat.pow_add ..
      _ ≤ digits * 10 ^ j := Nat.mul_le_mul_right _ hfirst
  · have hfirst : 10 ^ (k + j) ≤ digits := pow_le_of_lt_digitCount hne (by omega)
    rwa [scaleTen_neg, Nat.one_mul, ← Nat.pow_add]

/-- The exponent of the first digit from above. -/
theorem scaleTen_mul_pow_lt (h : digitCount digits + exponent ≤ -k) :
    (scaleTen digits 1 exponent).1 * 10 ^ k < (scaleTen digits 1 exponent).2 := by
  have hpos := digitCount_pos digits
  obtain ⟨j, rfl | rfl⟩ := exponent.eq_nat_or_neg
  · omega
  · rw [scaleTen_neg, Nat.one_mul]
    calc digits * 10 ^ k < 10 ^ digitCount digits * 10 ^ k :=
        Nat.mul_lt_mul_of_pos_right (lt_pow_digitCount digits) (Nat.pow_pos (by decide))
      _ = 10 ^ (digitCount digits + k) := (Nat.pow_add ..).symm
      _ ≤ 10 ^ j := Nat.pow_le_pow_right (by decide) (by omega)

end Magnitude

namespace Binary64

variable {negative : Bool} {digits : Nat} {exponent : Int}

theorem two_mul_unit_lt : 2 * unit < 10 ^ 401 := by decide +kernel

theorem overflowBound_le : overflowBound ≤ 10 ^ 400 := by decide +kernel

/-- **Digits with an exponent** are rounded as the quotient that they denote: beyond the magnitudes
at which the exponent is looked at alone, that is infinite or zero. -/
theorem ofDecimal_eq_ofRatio (negative : Bool) (digits : Nat) (exponent : Int) :
    ofDecimal negative digits exponent =
      ofRatio negative (scaleTen digits 1 exponent).1 (scaleTen digits 1 exponent).2 := by
  have hden := scaleTen_snd_pos digits Nat.one_pos exponent
  have hzero : ofRatio negative 0 1 = zero negative :=
    ofRatio_of_tiny (by rw [Nat.zero_mul]; decide)
  have hpos (k : Nat) : 0 < 10 ^ k := Nat.pow_pos (by decide)
  unfold ofDecimal ofDecimalBy
  by_cases hdigits : digits = 0
  · rw [if_pos hdigits, hzero]
    refine (ofRatio_of_tiny ?_).symm
    obtain ⟨k, rfl | rfl⟩ := exponent.eq_nat_or_neg
    · rwa [scaleTen_natCast, hdigits, Nat.zero_mul, Nat.zero_mul]
    · rw [scaleTen_neg] at hden ⊢
      rwa [hdigits, Nat.zero_mul]
  rw [if_neg hdigits]
  dsimp only
  split
  next hlarge =>
    have hpow := pow_mul_le_scaleTen (k := 400) hdigits hlarge
    exact (ofRatio_of_overflow hden
      (Nat.le_trans (Nat.mul_le_mul_right _ overflowBound_le) hpow)).symm
  split
  next hsmall =>
    have hpow := scaleTen_mul_pow_lt (k := 401) (by omega : digitCount digits + exponent ≤ _)
    refine hzero.trans (ofRatio_of_tiny ?_).symm
    calc 2 * ((scaleTen digits 1 exponent).1 * unit)
      _ = (scaleTen digits 1 exponent).1 * (2 * unit) := Nat.mul_left_comm ..
      _ ≤ (scaleTen digits 1 exponent).1 * 10 ^ 401 :=
        Nat.mul_le_mul_left _ (Nat.le_of_lt two_mul_unit_lt)
      _ < _ := hpow
  split
  next hle => rw [scaleTen, if_pos hle]
  next hneg => rw [scaleTen, if_neg hneg, Nat.one_mul]

end Binary64

/-! ## Leading digits -/

section Leading

variable {num den places : Nat}

theorem leadingExponent_of_le (h : den ≤ num) :
    leadingExponent num den = digitCount (num / den) - 1 := if_pos h

theorem leadingExponent_of_lt (h : num < den) :
    leadingExponent num den = -(digitCount ((den - 1) / num)) := if_neg (Nat.not_le_of_lt h)

/-- Scaled by its leading exponent, a number has one digit more than places. -/
theorem scaleTen_leadingExponent_le (hnum : 0 < num) (hden : 0 < den) (places : Nat) :
    (scaleTen num den (places - leadingExponent num den)).1 ≤
      10 ^ (places + 1) * (scaleTen num den (places - leadingExponent num den)).2 := by
  rcases Nat.lt_or_ge num den with hlt | hge
  · have hquotient : 10 ^ (digitCount ((den - 1) / num) - 1) ≤ (den - 1) / num :=
      pow_le_of_lt_digitCount (Nat.ne_of_gt (Nat.div_pos (by omega) hnum))
        (Nat.sub_one_lt (Nat.ne_of_gt (digitCount_pos _)))
    have hpos := digitCount_pos ((den - 1) / num)
    rw [leadingExponent_of_lt hlt]
    generalize digitCount ((den - 1) / num) = count at *
    have hexp : (places : Int) - -(count : Int) = (places + count : Nat) := by omega
    rw [Nat.le_div_iff_mul_le hnum] at hquotient
    rw [hexp, scaleTen_natCast]
    calc num * 10 ^ (places + count) = 10 ^ (places + 1) * (10 ^ (count - 1) * num) := by
          have hsum : places + count = places + 1 + (count - 1) := by omega
          rw [hsum, Nat.pow_add, Nat.mul_comm num, Nat.mul_assoc]
      _ ≤ 10 ^ (places + 1) * den := Nat.mul_le_mul_left _ (by omega)
  · have hquotient := lt_pow_digitCount (num / den)
    have hpos := digitCount_pos (num / den)
    rw [leadingExponent_of_le hge]
    generalize digitCount (num / den) = count at *
    have hlt := (Nat.div_lt_iff_lt_mul hden).1 hquotient
    rcases Nat.le_total (count - 1) places with hle | hle
    · have hexp : (places : Int) - (count - 1) = (places - (count - 1) : Nat) := by omega
      rw [hexp, scaleTen_natCast]
      calc num * 10 ^ (places - (count - 1)) ≤ 10 ^ count * den * 10 ^ (places - (count - 1)) :=
          Nat.mul_le_mul_right _ (Nat.le_of_lt hlt)
        _ = 10 ^ (places + 1) * den := by
          have hsum : places + 1 = count + (places - (count - 1)) := by omega
          rw [hsum, Nat.pow_add, Nat.mul_right_comm]
    · have hexp : (places : Int) - (count - 1) = -((count - 1 - places : Nat) : Int) := by omega
      rw [hexp, scaleTen_neg]
      calc num ≤ 10 ^ count * den := Nat.le_of_lt hlt
        _ = 10 ^ (places + 1) * (den * 10 ^ (count - 1 - places)) := by
          have hsum : count = places + 1 + (count - 1 - places) := by omega
          rw [Nat.mul_left_comm, ← Nat.pow_add, ← hsum, Nat.mul_comm]

theorem leadingExponent_lt {k : Nat} (hden : 0 < den) (h : num < 10 ^ k * den) :
    leadingExponent num den < k := by
  rcases Nat.lt_or_ge num den with hlt | hge
  · have := digitCount_pos ((den - 1) / num)
    rw [leadingExponent_of_lt hlt]
    omega
  · have hk : 0 < k := by
      rcases Nat.eq_zero_or_pos k with rfl | hk
      · rw [Nat.pow_zero, Nat.one_mul] at h
        omega
      · exact hk
    have := digitCount_le hk ((Nat.div_lt_iff_lt_mul hden).2 h)
    rw [leadingExponent_of_le hge]
    omega

theorem scaleTen_le {digits m k : Nat} {exponent : Int} (h : digits ≤ 10 ^ m)
    (hk : m + exponent ≤ k) :
    (scaleTen digits 1 exponent).1 ≤ 10 ^ k * (scaleTen digits 1 exponent).2 := by
  have hmono {a b : Nat} (h : a ≤ b) : 10 ^ a ≤ 10 ^ b := Nat.pow_le_pow_right (by decide) h
  obtain ⟨j, rfl | rfl⟩ := exponent.eq_nat_or_neg
  · rw [scaleTen_natCast, Nat.mul_one]
    calc digits * 10 ^ j ≤ 10 ^ m * 10 ^ j := Nat.mul_le_mul_right _ h
      _ = 10 ^ (m + j) := (Nat.pow_add ..).symm
      _ ≤ 10 ^ k := hmono (by omega)
  · rw [scaleTen_neg, Nat.one_mul, ← Nat.pow_add]
    exact Nat.le_trans h (hmono (by omega))

theorem scientificDigits_eq {digits : Nat} {top : Int} (hnum : num ≠ 0)
    (htop : leadingExponent num den = top)
    (hdigits : roundDiv (scaleTen num den (places - top)).1 (scaleTen num den (places - top)).2 =
      digits) :
    scientificDigits num den places =
      if digits = 10 ^ (places + 1) then (10 ^ places, top + 1) else (digits, top) := by
  subst htop hdigits
  rw [scientificDigits, if_neg hnum]
  rfl

/-- Rounding to leading digits may reach the next power of ten, but does not pass it. -/
theorem scientificDigits_le {k digits : Nat} {top : Int} (hden : 0 < den) (h : num < 10 ^ k * den)
    (hdigits : scientificDigits num den places = (digits, top)) :
    (scaleTen digits 1 (top - places)).1 ≤ 10 ^ k * (scaleTen digits 1 (top - places)).2 := by
  rcases Nat.eq_zero_or_pos num with rfl | hnum
  · cases hdigits
    exact scaleTen_le (Nat.zero_le (10 ^ 0)) (by omega)
  have hk := leadingExponent_lt hden h
  have hround := roundDiv_le (scaleTen_snd_pos num hden (places - leadingExponent num den))
    (scaleTen_leadingExponent_le hnum hden places)
  rw [scientificDigits_eq (Nat.ne_of_gt hnum) rfl rfl] at hdigits
  split at hdigits
  next => cases hdigits; exact scaleTen_le (Nat.le_refl _) (by omega)
  next => cases hdigits; exact scaleTen_le hround (by omega)

/-- A whole number that ends in zeros behind its leading digits is not rounded. -/
theorem scientificDigits_whole {n : Nat} (hn : 0 < n) (hden : 0 < den)
    (hdvd : 10 ^ (digitCount n - (places + 1)) ∣ n) :
    ∃ digits, scientificDigits (n * den) den places = (digits, (digitCount n : Int) - 1) ∧
      (scaleTen digits 1 (digitCount n - 1 - places)).1 =
        n * (scaleTen digits 1 (digitCount n - 1 - places)).2 := by
  have htop : leadingExponent (n * den) den = digitCount n - 1 := by
    rw [leadingExponent_of_le (Nat.le_mul_of_pos_left den hn), Nat.mul_div_cancel n hden]
  have hne : n * den ≠ 0 := Nat.ne_of_gt (Nat.mul_pos hn hden)
  have hlt := lt_pow_digitCount n
  have hpos := digitCount_pos n
  have hpow (k : Nat) : 0 < 10 ^ k := Nat.pow_pos (by decide)
  generalize digitCount n = count at *
  rcases Nat.le_total count (places + 1) with hle | hle
  · -- All digits are leading ones, and zeros are put behind them.
    obtain ⟨k, hk⟩ := Nat.exists_eq_add_of_le hle
    have hplaces : (places : Int) - (count - 1) = k := by omega
    have hexp : (count : Int) - 1 - places = -k := by omega
    have hbelow : n * 10 ^ k < 10 ^ (places + 1) := by
      rw [hk, Nat.pow_add]
      exact Nat.mul_lt_mul_of_pos_right hlt (hpow k)
    refine ⟨n * 10 ^ k, ?_, ?_⟩
    · rw [scientificDigits_eq hne htop rfl, hplaces, scaleTen_natCast, Nat.mul_right_comm,
        roundDiv_mul _ hden, if_neg (Nat.ne_of_lt hbelow)]
    · rw [hexp, scaleTen_neg, Nat.one_mul]
  · obtain ⟨k, rfl⟩ := Nat.exists_eq_add_of_le hle
    obtain ⟨digits, rfl⟩ := hdvd
    have hplaces : (places : Int) - ((places + 1 + k : Nat) - 1) = -k := by omega
    have hexp : ((places + 1 + k : Nat) : Int) - 1 - places = k := by omega
    rw [Nat.add_sub_cancel_left] at *
    have hbelow : digits < 10 ^ (places + 1) := by
      rw [Nat.pow_add, Nat.mul_comm] at hlt
      exact Nat.lt_of_mul_lt_mul_right hlt
    refine ⟨digits, ?_, ?_⟩
    · rw [scientificDigits_eq hne htop rfl, hplaces, scaleTen_neg, Nat.mul_comm _ digits,
        Nat.mul_assoc, Nat.mul_comm _ den, roundDiv_mul _ (Nat.mul_pos hden (hpow k)),
        if_neg (Nat.ne_of_lt hbelow)]
    · rw [hexp, scaleTen_natCast, Nat.mul_one, Nat.mul_comm]

end Leading

/-! ## Rounding to digits -/

namespace Binary64

variable {x : Binary64} {places : Nat}

theorem ofDecimal_of_eq {n digits : Nat} {exponent : Int} (hfinite : x.isFinite = true)
    (hunits : x.units = n * unit)
    (hscale : (scaleTen digits 1 exponent).1 = n * (scaleTen digits 1 exponent).2) :
    ofDecimal x.isNegative digits exponent = x := by
  cases x with
  | finite negative significand shift hcanonical =>
    have hden := scaleTen_snd_pos digits Nat.one_pos exponent
    have hvalue : significand * 2 ^ shift = n * unit := hunits
    rw [ofDecimal_eq_ofRatio, hscale]
    generalize (scaleTen digits 1 exponent).2 = den at *
    refine ofRatio_of_eq hden hcanonical ?_
    rw [Nat.mul_left_comm significand, hvalue, Nat.mul_comm n den, Nat.mul_assoc]
  | _ => cases hfinite

theorem leadingDigits_eq (hfinite : x.isFinite = true) (places : Nat) :
    leadingDigits places x = scientificDigits x.units unit places := by
  cases x with
  | finite => rfl
  | _ => cases hfinite

/-- Rounding to digits keeps a whole number that ends in zeros behind them. -/
theorem roundToDigits_whole {n : Nat} (hfinite : x.isFinite = true) (hunits : x.units = n * unit)
    (hdvd : 10 ^ (digitCount n - (places + 1)) ∣ n) : roundToDigits (some (places + 1)) x = x := by
  rw [roundToDigits]
  rcases Nat.eq_zero_or_pos n with rfl | hn
  · have hdigits : leadingDigits places x = (0, 0) := by
      rw [leadingDigits_eq hfinite, hunits, Nat.zero_mul]
      rfl
    rw [hdigits]
    refine ofDecimal_of_eq hfinite hunits ?_
    rw [Int.zero_sub, scaleTen_neg, Nat.zero_mul]
  · obtain ⟨digits, hdigits, hscale⟩ := scientificDigits_whole hn unit_pos hdvd
    rw [leadingDigits_eq hfinite, hunits, hdigits]
    exact ofDecimal_of_eq hfinite hunits hscale

theorem units_lt (x : Binary64) : x.units < 2 ^ 1024 * unit := by
  cases x with
  | finite negative significand shift hcanonical =>
    have hunit : 2 ^ 53 * 2 ^ 2045 = 2 ^ 1024 * unit := by decide +kernel
    rw [units, ← hunit]
    exact Canonical.mul_two_pow_lt hcanonical hcanonical.2.1
  | _ => exact (by decide +kernel : 0 < 2 ^ 1024 * unit)

theorem isFinite_ofDecimal_iff {negative : Bool} {digits : Nat} {exponent : Int} :
    (ofDecimal negative digits exponent).isFinite = true ↔
      (scaleTen digits 1 exponent).1 < overflowBound * (scaleTen digits 1 exponent).2 := by
  rw [ofDecimal_eq_ofRatio, isFinite_ofRatio_iff (scaleTen_snd_pos digits Nat.one_pos exponent)]

/-- Rounding to digits overflows if it does on the grid of the greatest exponent `k`: below it
rounding reaches no more than the `k`-th power of ten. -/
theorem isFinite_roundToDigits {k : Nat} (hfinite : x.isFinite = true)
    (hbound : 10 ^ k < overflowBound) (hunits : x.units < 10 ^ (k + 1) * unit)
    (hplaces : places ≤ k) :
    (roundToDigits (some (places + 1)) x).isFinite = true ↔
      roundDiv x.units (unit * 10 ^ (k - places)) * 10 ^ (k - places) < overflowBound := by
  have hunit := unit_pos
  have hpow (j : Nat) : 0 < 10 ^ j := Nat.pow_pos (by decide)
  have hscale : 10 ^ places * 10 ^ (k - places) = 10 ^ k := by
    rw [← Nat.pow_add, Nat.add_sub_cancel' hplaces]
  rw [roundToDigits, leadingDigits_eq hfinite]
  dsimp only
  rw [isFinite_ofDecimal_iff]
  generalize x.units = units at *
  rcases Nat.lt_or_ge units (10 ^ k * unit) with hsmall | hlarge
  · have hbelow : roundDiv units (unit * 10 ^ (k - places)) * 10 ^ (k - places) ≤ 10 ^ k := by
      rw [← hscale]
      refine Nat.mul_le_mul_right _ (roundDiv_le (Nat.mul_pos hunit (hpow _)) ?_)
      rw [Nat.mul_left_comm, hscale, Nat.mul_comm]
      exact Nat.le_of_lt hsmall
    refine iff_of_true ?_ (Nat.lt_of_le_of_lt hbelow hbound)
    generalize hdigits : scientificDigits units unit places = digits
    refine Nat.lt_of_le_of_lt (scientificDigits_le hunit hsmall hdigits) ?_
    exact Nat.mul_lt_mul_of_pos_right hbound (scaleTen_snd_pos _ Nat.one_pos _)
  · have htop : leadingExponent units unit = k := by
      have hquotient : units / unit < 10 ^ (k + 1) := (Nat.div_lt_iff_lt_mul hunit).2 hunits
      have hlower := lt_digitCount ((Nat.le_div_iff_mul_le hunit).2 hlarge)
      have hupper := digitCount_le (Nat.succ_pos k) hquotient
      rw [leadingExponent_of_le (Nat.le_trans (Nat.le_mul_of_pos_left _ (hpow k)) hlarge)]
      omega
    have hexp : (k : Int) - places = (k - places : Nat) := by omega
    have hcarry : (k : Int) + 1 - places = (k - places + 1 : Nat) := by omega
    have hneg : (places : Int) - k = -(k - places : Nat) := by omega
    have hne : units ≠ 0 :=
      Nat.ne_of_gt (Nat.lt_of_lt_of_le (Nat.mul_pos (hpow k) hunit) hlarge)
    rw [scientificDigits_eq hne htop rfl, hneg, scaleTen_neg]
    dsimp only
    generalize roundDiv units (unit * 10 ^ (k - places)) = digits
    split
    next h =>
      rw [hcarry, scaleTen_natCast, h, Nat.mul_one, Nat.pow_succ, Nat.pow_succ, Nat.mul_assoc,
        Nat.mul_comm _ 10]
    next h => rw [hexp, scaleTen_natCast, Nat.mul_one]

theorem isFinite_roundToDigits_iff (hfinite : x.isFinite = true) (hplaces : places ≤ 308) :
    (roundToDigits (some (places + 1)) x).isFinite = true ↔
      roundDiv x.units (unit * 10 ^ (308 - places)) * 10 ^ (308 - places) < overflowBound := by
  have hunits : 2 ^ 1024 * unit ≤ 10 ^ (308 + 1) * unit := by decide +kernel
  exact isFinite_roundToDigits hfinite (by decide +kernel) (Nat.lt_of_lt_of_le (units_lt x) hunits)
    hplaces

end Binary64

end MessageTemplate
