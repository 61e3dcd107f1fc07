import Mathlib.Algebra.Group.Nat.Defs
import Mathlib.Data.Nat.Log
import MessageTemplate.Number.Numeral

/-!
# Rounding to floating-point values

A quotient is rounded once, to the nearest value. What is a value already stays as it is, and what
is too large becomes infinite.

- **Nearest integers** (`roundDiv_le`, `le_roundDiv`, `roundDiv_lt_iff`): a rounded quotient against
  an integer.
- **The nearest value** (`nearestParts_spec`): its significand and its shift are those of a finite
  value as long as the shift is not too large.
- **Exactness** (`Binary64.ofRatio_of_eq`): a quotient that a value stands for is rounded to it.
- **Overflow** (`Binary64.isFinite_ofRatio_iff`): a quotient is rounded to something finite exactly
  below half a step past the greatest value.
- **Sign and magnitude** (`Binary64.units_ofRatio`, `Binary64.isZero_ofRatio`): a finite result is
  the quotient in units, rounded on one scale, and is zero only below one unit.
- **Values of 24 bits** (`Binary64.isSingle_of_readSingle?`): what is read as a value of 32 bits is
  one; it is not rounded again when it is made a value of 64 bits.
-/

namespace MessageTemplate

/-! ## Nearest integers -/

section RoundDiv

variable {num den q : Nat}

/-- A quotient is rounded down, or up from the half on. -/
theorem roundDiv_cases (num den : Nat) :
    roundDiv num den = num / den ∧ 2 * (num % den) ≤ den ∨
    roundDiv num den = num / den + 1 ∧ den ≤ 2 * (num % den) := by
  unfold roundDiv
  dsimp only
  split
  · exact .inl ⟨rfl, by omega⟩
  split
  · exact .inr ⟨rfl, by omega⟩
  · rcases Nat.mod_two_eq_zero_or_one (num / den) with h | h <;> rw [h]
    · exact .inl ⟨rfl, by omega⟩
    · exact .inr ⟨rfl, by omega⟩

theorem roundDiv_mul (q : Nat) (hden : 0 < den) : roundDiv (q * den) den = q := by
  rcases roundDiv_cases (q * den) den with ⟨heq, -⟩ | ⟨-, hle⟩
  · rw [heq, Nat.mul_div_cancel q hden]
  · rw [Nat.mul_mod_left] at hle
    omega

theorem roundDiv_one (n : Nat) : roundDiv n 1 = n := by
  have := roundDiv_mul n Nat.one_pos
  rwa [Nat.mul_one] at this

theorem roundDiv_mul_mul {k : Nat} (hk : 0 < k) :
    roundDiv (num * k) (den * k) = roundDiv num den := by
  have hlt (a b : Nat) : a * k < b * k ↔ a < b := Nat.mul_lt_mul_right hk
  simp only [roundDiv, Nat.mul_div_mul_right num den hk, Nat.mul_mod_mul_right, ← Nat.mul_assoc,
    hlt]

theorem le_roundDiv (hden : 0 < den) (h : q * den ≤ num) : q ≤ roundDiv num den := by
  have hdiv : q ≤ num / den := (Nat.le_div_iff_mul_le hden).2 h
  rcases roundDiv_cases num den with ⟨heq, -⟩ | ⟨heq, -⟩ <;> omega

theorem roundDiv_le (hden : 0 < den) (h : num ≤ q * den) : roundDiv num den ≤ q := by
  rcases Nat.eq_or_lt_of_le h with rfl | hlt
  · rw [roundDiv_mul q hden]
  · have hdiv : num / den < q := (Nat.div_lt_iff_lt_mul hden).2 hlt
    rcases roundDiv_cases num den with ⟨heq, -⟩ | ⟨heq, -⟩ <;> omega

/-- The half before an even number goes to that number. -/
theorem roundDiv_lt_iff (hden : 0 < den) (heven : q % 2 = 0) :
    roundDiv num den < q ↔ 2 * num + den < 2 * q * den := by
  have hdivMod := Nat.div_add_mod num den
  have hmod := Nat.mod_lt num hden
  rcases Nat.lt_or_ge num (q * den) with hlt | hge
  · have hdiv : num / den < q := (Nat.div_lt_iff_lt_mul hden).2 hlt
    rcases Nat.lt_or_ge (num / den + 1) q with hbelow | hlast
    · -- One whole step lies between the quotient and the number.
      have hstep : (num / den + 2) * den ≤ q * den := Nat.mul_le_mul_right den hbelow
      rw [Nat.add_mul, Nat.mul_comm (num / den)] at hstep
      rcases roundDiv_cases num den with ⟨heq, -⟩ | ⟨heq, -⟩ <;> rw [heq, Nat.mul_assoc] <;> omega
    · obtain rfl : q = num / den + 1 := by omega
      have hproduct : (num / den + 1) * den = den * (num / den) + den := by
        rw [Nat.add_mul, Nat.one_mul, Nat.mul_comm]
      have hodd : num / den % 2 = 1 := by omega
      rw [Nat.mul_assoc, hproduct]
      unfold roundDiv
      dsimp only
      split
      · omega
      split <;> omega
  · have hge' := le_roundDiv hden hge
    rw [Nat.mul_assoc]
    omega

end RoundDiv

/-! ## The nearest value -/

namespace Binary64

theorem mul_two_pow_pos {n : Nat} (h : 0 < n) (k : Nat) : 0 < n * 2 ^ k :=
  Nat.mul_pos h (Nat.two_pow_pos k)

theorem mul_two_pow_add (n k s : Nat) : n * 2 ^ (k + s) = 2 ^ k * (n * 2 ^ s) := by
  rw [Nat.pow_add, Nat.mul_left_comm]

/-- The quotient is rounded on a scale on which it has the asked number of bits, or on the finest
one if it has fewer. A carry into one bit more is taken back by a larger shift. -/
theorem nearestParts_spec {bits den : Nat} (num : Nat) (hbits : 0 < bits) (hden : 0 < den) :
    ∃ shift, nearestParts bits num den =
      (if roundDiv num (den * 2 ^ shift) = 2 ^ bits then (2 ^ (bits - 1), shift + 1)
        else (roundDiv num (den * 2 ^ shift), shift)) ∧
    num < 2 ^ bits * (den * 2 ^ shift) ∧
    (shift = 0 ∨ 2 ^ (bits - 1) * (den * 2 ^ shift) ≤ num) := by
  refine ⟨Nat.log2 (num / den) + 1 - bits, rfl, ?_, ?_⟩
  · have hlog : num / den < 2 ^ (bits + (Nat.log2 (num / den) + 1 - bits)) :=
      Nat.lt_of_lt_of_le Nat.lt_log2_self (Nat.pow_le_pow_right (by decide) (by omega))
    rw [Nat.div_lt_iff_lt_mul hden, Nat.mul_comm, mul_two_pow_add] at hlog
    exact hlog
  · rcases Nat.eq_zero_or_pos (Nat.log2 (num / den) + 1 - bits) with hzero | hpos
    · exact .inl hzero
    · have hne : num / den ≠ 0 := by
        intro hquotient
        rw [hquotient, Nat.log2_zero] at hpos
        omega
      have hexp : bits - 1 + (Nat.log2 (num / den) + 1 - bits) = Nat.log2 (num / den) := by omega
      have hlog : 2 ^ (bits - 1 + (Nat.log2 (num / den) + 1 - bits)) ≤ num / den := by
        rw [hexp]
        exact Nat.log2_self_le hne
      rw [Nat.le_div_iff_mul_le hden, Nat.mul_comm, mul_two_pow_add] at hlog
      exact .inr hlog

theorem nearestParts_lt {bits den : Nat} (num : Nat) (hbits : 0 < bits) (hden : 0 < den) :
    (nearestParts bits num den).1 < 2 ^ bits := by
  obtain ⟨scale, hparts, hlt, -⟩ := nearestParts_spec num hbits hden
  have hle : roundDiv num (den * 2 ^ scale) ≤ 2 ^ bits :=
    roundDiv_le (mul_two_pow_pos hden scale) (Nat.le_of_lt hlt)
  rw [hparts]
  split
  next => exact Nat.pow_lt_pow_right (by decide) (by omega)
  next hcarry => exact Nat.lt_of_le_of_ne hle hcarry

variable {negative : Bool} {num den significand shift : Nat}

theorem ofParts_of_canonical (h : Canonical significand shift) :
    ofParts negative (significand, shift) = .finite negative significand shift h := dif_pos h

theorem ofParts_of_not_canonical {parts : Nat × Nat} (h : ¬Canonical parts.1 parts.2) :
    ofParts negative parts = .infinite negative := dif_neg h

/-- **Exactness.** A quotient that a value stands for is rounded to that value. -/
theorem ofRatio_of_eq (hden : 0 < den) (h : Canonical significand shift)
    (heq : num * unit = significand * (den * 2 ^ shift)) :
    ofRatio negative num den = .finite negative significand shift h := by
  obtain ⟨s, hparts, hlt, hge⟩ := nearestParts_spec (num * unit) (by decide : 0 < 53) hden
  have hcanonical : significand < 2 ^ 53 ∧ shift ≤ 2045 ∧ (shift = 0 ∨ 2 ^ 52 ≤ significand) := h
  have hpos := mul_two_pow_pos hden
  have hscale : s = shift := by
    rw [heq] at hlt hge
    have hle : shift ≤ s := by
      rcases hcanonical.2.2 with hzero | hnormal
      · omega
      · have hfull := Nat.lt_of_le_of_lt (Nat.mul_le_mul_right (den * 2 ^ shift) hnormal) hlt
        rw [← mul_two_pow_add, ← mul_two_pow_add] at hfull
        have := (Nat.pow_lt_pow_iff_right (by decide)).1 (Nat.lt_of_mul_lt_mul_left hfull)
        omega
    have hge : s ≤ shift := by
      rcases hge with hzero | hge
      · omega
      · have hfull := Nat.lt_of_le_of_lt hge (Nat.mul_lt_mul_of_pos_right hcanonical.1 (hpos shift))
        rw [← mul_two_pow_add, ← mul_two_pow_add] at hfull
        have := (Nat.pow_lt_pow_iff_right (by decide)).1 (Nat.lt_of_mul_lt_mul_left hfull)
        omega
    omega
  subst hscale
  rw [heq, roundDiv_mul _ (hpos s), if_neg (Nat.ne_of_lt hcanonical.1)] at hparts
  rw [ofRatio, heq, hparts, ofParts_of_canonical h]

/-! ## Overflow -/

theorem two_pow_eq_unit : 2 ^ 1074 = unit := by decide +kernel

theorem two_pow_eq_two_mul_unit : 2 ^ 1075 = 2 * unit := by decide +kernel

theorem unit_pos : 0 < unit := by decide +kernel

/-- The middle between the greatest finite value and the power of two after it. -/
def overflowBound : Nat := 2 ^ 1024 - 2 ^ 970

theorem isFinite_ofParts_iff {parts : Nat × Nat} :
    (ofParts negative parts).isFinite = true ↔ Canonical parts.1 parts.2 := by
  unfold ofParts
  split
  next h => exact ⟨fun _ => h, fun _ => rfl⟩
  next h => exact ⟨nofun, fun hcanonical => absurd hcanonical h⟩

/-- A value is finite as long as its shift is not too large. -/
theorem canonical_nearestParts_iff (hden : 0 < den) :
    Canonical (nearestParts 53 num den).1 (nearestParts 53 num den).2 ↔
      2 * num + den * 2 ^ 2045 < 2 ^ 54 * (den * 2 ^ 2045) := by
  obtain ⟨s, hparts, hlt, hge⟩ := nearestParts_spec num (by decide : 0 < 53) hden
  have hpos := mul_two_pow_pos hden
  have hmono {j k : Nat} (h : j ≤ k) : den * 2 ^ j ≤ den * 2 ^ k :=
    Nat.mul_le_mul_left den (Nat.pow_le_pow_right (by decide) h)
  have hnext (k : Nat) : den * 2 ^ (k + 1) = 2 * (den * 2 ^ k) := by
    rw [Nat.pow_succ, Nat.mul_comm (2 ^ k), Nat.mul_left_comm]
  have hle : roundDiv num (den * 2 ^ s) ≤ 2 ^ 53 := roundDiv_le (hpos s) (Nat.le_of_lt hlt)
  have hnormal : s = 0 ∨ 2 ^ 52 ≤ roundDiv num (den * 2 ^ s) := hge.imp_right (le_roundDiv (hpos s))
  -- A carry leaves the least significand of all bits, on the next scale.
  have hcanonical : Canonical (nearestParts 53 num den).1 (nearestParts 53 num den).2 ↔
      s + (if roundDiv num (den * 2 ^ s) = 2 ^ 53 then 1 else 0) ≤ 2045 := by
    have hdef (m k : Nat) : Canonical m k ↔ m < 2 ^ 53 ∧ k ≤ 2045 ∧ (k = 0 ∨ 2 ^ 52 ≤ m) := Iff.rfl
    rw [hparts, hdef]
    split <;> dsimp only <;> omega
  rw [hcanonical]
  rcases Nat.lt_trichotomy s 2045 with hsmall | rfl | hlarge
  · have hbound := hmono (Nat.le_of_lt_succ hsmall)
    have htwice := hnext 2044
    split <;> omega
  · have hround : roundDiv num (den * 2 ^ 2045) < 2 ^ 53 ↔
        2 * num + den * 2 ^ 2045 < 2 ^ 54 * (den * 2 ^ 2045) :=
      roundDiv_lt_iff (hpos 2045) (by decide)
    rw [← hround]
    split <;> omega
  · have hbound := hmono hlarge
    have htwice := hnext 2045
    omega

/-- **Overflow.** A quotient is rounded to a finite value exactly if it stays below the bound. -/
theorem isFinite_ofRatio_iff (hden : 0 < den) :
    (ofRatio negative num den).isFinite = true ↔ num < overflowBound * den := by
  have hpos (k : Nat) : 0 < 2 ^ k := Nat.two_pow_pos k
  have hunit : 2 * (num * unit) = num * 2 ^ 1075 := by
    rw [two_pow_eq_two_mul_unit, Nat.mul_left_comm]
  have hscale {a b c top : Nat} (h : a * top = b * c + top) :
      a * (den * top) = b * den * c + den * top := by
    rw [Nat.mul_left_comm, h, Nat.mul_add, Nat.mul_comm b den, Nat.mul_assoc]
  have hbound : 2 ^ 54 * (den * 2 ^ 2045) = overflowBound * den * 2 ^ 1075 + den * 2 ^ 2045 :=
    hscale (by decide +kernel)
  calc (ofRatio negative num den).isFinite = true
    _ ↔ 2 * (num * unit) + den * 2 ^ 2045 < 2 ^ 54 * (den * 2 ^ 2045) :=
      isFinite_ofParts_iff.trans (canonical_nearestParts_iff hden)
    _ ↔ num * 2 ^ 1075 < overflowBound * den * 2 ^ 1075 := by
      rw [hunit, hbound, Nat.add_lt_add_iff_right]
    _ ↔ num < overflowBound * den := Nat.mul_lt_mul_right (hpos 1075)

theorem ofRatio_of_overflow (hden : 0 < den) (h : overflowBound * den ≤ num) :
    ofRatio negative num den = .infinite negative := by
  have hnot : ¬(ofRatio negative num den).isFinite = true :=
    mt (isFinite_ofRatio_iff hden).1 (Nat.not_lt_of_le h)
  rw [ofRatio] at hnot ⊢
  exact ofParts_of_not_canonical (mt isFinite_ofParts_iff.2 hnot)

/-! ## Sign and magnitude -/

/-- A significand has at most 53 bits, on whatever scale. -/
theorem Canonical.mul_two_pow_lt {k : Nat} (h : Canonical significand shift) (hk : shift ≤ k) :
    significand * 2 ^ shift < 2 ^ 53 * 2 ^ k :=
  Nat.mul_lt_mul_of_lt_of_le h.1 (Nat.pow_le_pow_right (by decide) hk) (Nat.two_pow_pos k)

/-- The magnitude of a finite value in units. -/
def units : Binary64 → Nat
  | .finite _ significand shift _ => significand * 2 ^ shift
  | .infinite _ | .nan => 0

theorem isNegative_ofRatio (negative : Bool) (num den : Nat) :
    (ofRatio negative num den).isNegative = negative := by
  unfold ofRatio
  generalize nearestParts 53 (num * unit) den = parts
  unfold ofParts
  split <;> rfl

/-- A finite result is the quotient in units, rounded on one scale. -/
theorem units_ofRatio (hden : 0 < den) (hfinite : (ofRatio negative num den).isFinite = true) :
    ∃ scale, (ofRatio negative num den).units =
        roundDiv (num * unit) (den * 2 ^ scale) * 2 ^ scale ∧
      (scale = 0 ∨ 2 ^ 52 * (den * 2 ^ scale) ≤ num * unit) := by
  obtain ⟨scale, hparts, -, hge⟩ :=
    nearestParts_spec (num * unit) (by decide : 0 < 53) hden
  refine ⟨scale, ?_, hge⟩
  rw [ofRatio] at hfinite ⊢
  have hcanonical := isFinite_ofParts_iff.1 hfinite
  generalize nearestParts 53 (num * unit) den = parts at *
  obtain ⟨significand, shift⟩ := parts
  rw [ofParts_of_canonical hcanonical, units]
  split at hparts <;> cases hparts
  next hcarry => rw [hcarry, ← Nat.pow_add, ← Nat.pow_add, Nat.add_comm scale, ← Nat.add_assoc]
  next => rfl

theorem isZero_eq {x : Binary64} (hfinite : x.isFinite = true) : x.isZero = (x.units == 0) := by
  cases x with
  | finite negative significand shift h =>
    have hscale : 2 ^ shift ≠ 0 := Nat.ne_of_gt (Nat.two_pow_pos shift)
    rw [isZero, units, Bool.eq_iff_iff, beq_iff_eq, beq_iff_eq, Nat.mul_eq_zero, or_iff_left hscale]
  | _ => cases hfinite

/-- What is at least one unit is not rounded to zero. -/
theorem isZero_ofRatio (hden : 0 < den) (h : den ≤ num * unit) :
    (ofRatio negative num den).isZero = false := by
  rcases hfinite : (ofRatio negative num den).isFinite with _ | _
  · generalize ofRatio negative num den = x at *
    cases x with
    | finite => cases hfinite
    | _ => rfl
  · obtain ⟨scale, hunits, hge⟩ := units_ofRatio hden hfinite
    have hpos (k : Nat) : 0 < 2 ^ k := Nat.two_pow_pos k
    have hone : 1 ≤ roundDiv (num * unit) (den * 2 ^ scale) := by
      refine le_roundDiv (Nat.mul_pos hden (hpos scale)) ?_
      rcases hge with rfl | hge
      · simpa using h
      · exact Nat.le_trans (Nat.mul_le_mul_right _ (by decide)) hge
    have hunits_pos := Nat.mul_pos hone (hpos scale)
    rw [isZero_eq hfinite, hunits, beq_eq_false_iff_ne]
    exact Nat.ne_of_gt hunits_pos

/-- What is less than half a unit is rounded to zero. -/
theorem ofRatio_of_tiny (h : 2 * (num * unit) < den) :
    ofRatio negative num den = zero negative := by
  obtain ⟨scale, hparts, -, hge⟩ :=
    nearestParts_spec (num * unit) (by decide : 0 < 53) (by omega : 0 < den)
  rw [ofRatio]
  generalize num * unit = size at *
  have hscale : scale = 0 := by
    refine hge.resolve_right fun hlarge => ?_
    have hpos : 0 < 2 ^ 52 * 2 ^ scale := Nat.mul_pos (Nat.two_pow_pos 52) (Nat.two_pow_pos scale)
    have hle : den * (2 ^ 52 * 2 ^ scale) ≤ size := by
      rwa [Nat.mul_left_comm]
    have := Nat.le_mul_of_pos_right den hpos
    omega
  have hround : roundDiv size (den * 2 ^ scale) = 0 := by
    rw [hscale, Nat.pow_zero, Nat.mul_one]
    unfold roundDiv
    dsimp only
    rw [Nat.mod_eq_of_lt (by omega), Nat.div_eq_of_lt (by omega), if_pos h]
  rw [hparts, hround, hscale]
  rfl

/-! ## Values of 24 bits -/

/-- The value is one of 32 bits as well: it is not finite, or has a significand of 24 bits on a
scale whose finest step is `2 ^ -149`. -/
inductive IsSingle : Binary64 → Prop
  | nan : IsSingle .nan
  | infinite (negative : Bool) : IsSingle (.infinite negative)
  | finite {x : Binary64} {significand shift : Nat} (hfinite : x.isFinite = true)
      (hsignificand : significand < 2 ^ 24) (hshift : shift ≤ 253)
      (hunits : x.units = significand * 2 ^ (shift + 925)) : IsSingle x

theorem two_pow_eq_singleUnit : 2 ^ 149 = singleUnit := by decide +kernel

/-- What has 24 bits is not rounded again when it is made a value of 53 bits. -/
theorem units_ofRatio_of_single (hsignificand : significand < 2 ^ 24) (hshift : shift ≤ 253) :
    (ofRatio negative (significand * 2 ^ shift) singleUnit).isFinite = true ∧
      (ofRatio negative (significand * 2 ^ shift) singleUnit).units =
        significand * 2 ^ (shift + 925) := by
  have hden : 0 < singleUnit := by decide +kernel
  have hlt : significand * 2 ^ shift < 2 ^ 24 * 2 ^ shift :=
    Nat.mul_lt_mul_of_pos_right hsignificand (Nat.two_pow_pos shift)
  have hfinite : (ofRatio negative (significand * 2 ^ shift) singleUnit).isFinite = true := by
    have htop : 2 ^ 24 * 2 ^ 253 ≤ overflowBound * singleUnit := by decide +kernel
    have hle := Nat.mul_le_mul_left (2 ^ 24) (Nat.pow_le_pow_right (by decide : 0 < 2) hshift)
    exact (isFinite_ofRatio_iff hden).2 (Nat.lt_of_lt_of_le hlt (Nat.le_trans hle htop))
  refine ⟨hfinite, ?_⟩
  obtain ⟨scale, hunits, hge⟩ := units_ofRatio hden hfinite
  have hvalue (k : Nat) (hk : k ≤ shift + 925) : significand * 2 ^ shift * unit =
      significand * 2 ^ (shift + 925 - k) * (singleUnit * 2 ^ k) := by
    have hexp : shift + 1074 = shift + 925 - k + (149 + k) := by omega
    rw [← two_pow_eq_unit, ← two_pow_eq_singleUnit, Nat.mul_assoc, Nat.mul_assoc, ← Nat.pow_add,
      ← Nat.pow_add, ← Nat.pow_add, hexp]
  -- The scale has to leave 53 bits of what has 24 on its own scale.
  have hscale : scale ≤ shift + 925 := by
    rcases hge with hzero | hge
    · omega
    · have hbits : 2 ^ (52 + (149 + scale)) < 2 ^ (24 + shift + 1074) := by
        calc 2 ^ (52 + (149 + scale)) = 2 ^ 52 * (singleUnit * 2 ^ scale) := by
              rw [← two_pow_eq_singleUnit, ← Nat.pow_add, ← Nat.pow_add]
          _ ≤ significand * 2 ^ shift * unit := hge
          _ < 2 ^ 24 * 2 ^ shift * unit := Nat.mul_lt_mul_of_pos_right hlt unit_pos
          _ = 2 ^ (24 + shift + 1074) := by
              rw [← two_pow_eq_unit, ← Nat.pow_add, ← Nat.pow_add]
      have := (Nat.pow_lt_pow_iff_right (by decide)).1 hbits
      omega
  rw [hunits, hvalue scale hscale, roundDiv_mul _ (mul_two_pow_pos hden scale), Nat.mul_assoc,
    ← Nat.pow_add, Nat.sub_add_cancel hscale]

/-- **One rounding.** A quotient that is rounded to 24 bits is a value of 32 bits. -/
theorem isSingle_ofSingleRatio (negative : Bool) (num : Nat) (hden : 0 < den) :
    (ofSingleRatio negative num den).IsSingle := by
  have hsignificand := nearestParts_lt (num * singleUnit) (by decide : 0 < 24) hden
  rw [ofSingleRatio, ofSingleParts]
  split
  next => exact .infinite negative
  next hshift =>
    have hshift := Nat.le_of_not_lt hshift
    obtain ⟨hfinite, hunits⟩ := units_ofRatio_of_single hsignificand hshift
    exact .finite hfinite hsignificand hshift hunits

theorem isSingle_ofDecimalBy {round : Nat → Nat → Binary64} {overflow : Binary64}
    (hround : ∀ num den, 0 < den → (round num den).IsSingle) (hoverflow : overflow.IsSingle)
    (digits : Nat) (exponent : Int) : (ofDecimalBy round overflow digits exponent).IsSingle := by
  have hone (num : Nat) : (round num 1).IsSingle := hround num 1 (by decide)
  unfold ofDecimalBy
  split
  next => exact hone 0
  next =>
    dsimp only
    split
    next => exact hoverflow
    split
    next => exact hone 0
    split
    next => exact hone _
    next => exact hround _ _ (Nat.pow_pos (by decide))

/-- **Reading.** What is read as a value of 32 bits is one. -/
theorem isSingle_of_readSingle? {cs : List Char} {x : Binary64} (h : readSingle? cs = some x) :
    x.IsSingle := by
  unfold readSingle? readBy? at h
  extract_lets negative body word at h
  split at h
  next =>
    cases h
    exact .infinite _
  split at h
  next =>
    cases h
    exact .nan
  obtain ⟨parts, -, rfl⟩ := Option.map_eq_some_iff.1 h
  exact isSingle_ofDecimalBy (fun num den => isSingle_ofSingleRatio _ num) (.infinite _) _ _

/-- The value of 32 bits next to a tenth is not the one of 64 bits. -/
example : readSingle? "0.1".toList = read? "0.100000001490116119384765625".toList ∧
    readSingle? "0.1".toList ≠ read? "0.1".toList := by
  decide +kernel

end Binary64

end MessageTemplate
