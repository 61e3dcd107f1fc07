import MessageTemplate.Proofs.Number.NumeralParts

/-!
# Texts of finite values

Two forms of floating-point values take a detour: the percent form over a hundred times the value,
the general form over the value rounded to some digits. Either may be infinite though the value is
not.

- **Hundredfold values** (`Binary64.isFinite_mul_hundred_iff`, `Binary64.isBelowZero_mul_hundred`):
  when they are infinite, and that they are not rounded to zero.
- **Overflow** (`Overflows`): where one of the detours is infinite.
- **Finite texts** (`formatFloat_finite`): everywhere else the text is that of a finite number.
-/

namespace MessageTemplate

/-! ## Hundredfold values -/

namespace Binary64

variable {x y : Binary64}

/-- The product of finite values is the exact one, rounded once. -/
theorem mul_eq_ofRatio (hx : x.isFinite = true) (hy : y.isFinite = true) :
    x.mul y = ofRatio (x.isNegative != y.isNegative) (x.units * y.units) (unit * unit) := by
  cases x with
  | finite a m s h =>
    cases y with
    | finite b n t h' =>
      have hunits : m * 2 ^ s * (n * 2 ^ t) = m * n * 2 ^ (s + t) := by
        rw [Nat.pow_add, Nat.mul_mul_mul_comm]
      exact congrArg (ofRatio (a != b) · (unit * unit)) hunits.symm
    | _ => cases hy
  | _ => cases hx

theorem mul_hundred (hfinite : x.isFinite = true) :
    x.mul (ofInt 100) = ofRatio x.isNegative (x.units * (100 * unit)) (unit * unit) := by
  have hlt : (100 : Int).natAbs < 2 ^ 64 := by decide
  obtain ⟨w, hunits, -, hexact, -⟩ := exists_whole_ofInt hlt
  obtain rfl : w = 100 := hexact (by decide)
  have hnegative : (ofInt 100).isNegative = false := isNegative_ofRatio ..
  rw [mul_eq_ofRatio hfinite (isFinite_ofInt hlt), hunits, hnegative, Bool.bne_false]

theorem isFinite_mul_hundred_iff (hfinite : x.isFinite = true) :
    (x.mul (ofInt 100)).isFinite = true ↔ 100 * x.units < overflowBound * unit := by
  have hsquare := Nat.mul_pos unit_pos unit_pos
  rw [mul_hundred hfinite, isFinite_ofRatio_iff hsquare, Nat.mul_left_comm,
    ← Nat.mul_assoc, ← Nat.mul_assoc, Nat.mul_lt_mul_right unit_pos]

theorem isNegative_mul_hundred (hfinite : x.isFinite = true) :
    (x.mul (ofInt 100)).isNegative = x.isNegative := by
  rw [mul_hundred hfinite, isNegative_ofRatio]

/-- A hundredfold value is below zero if the value is: it is not rounded to zero. -/
theorem isBelowZero_mul_hundred (hfinite : x.isFinite = true) :
    (x.mul (ofInt 100)).isBelowZero = x.isBelowZero := by
  have hsquare := Nat.mul_pos unit_pos unit_pos
  have hzero : (x.mul (ofInt 100)).isZero = x.isZero := by
    rw [mul_hundred hfinite, isZero_eq hfinite]
    rcases Nat.eq_zero_or_pos x.units with hunits | hunits
    · rw [hunits, Nat.zero_mul, ofRatio_of_tiny (by rwa [Nat.zero_mul])]
      rfl
    · rw [isZero_ofRatio hsquare, beq_eq_false_iff_ne.2 (Nat.ne_of_gt hunits)]
      refine Nat.mul_le_mul_right unit ?_
      calc unit ≤ 100 * unit := Nat.le_mul_of_pos_left unit (by decide)
        _ ≤ x.units * (100 * unit) := Nat.le_mul_of_pos_left _ hunits
  rw [isBelowZero, isNegative_mul_hundred hfinite, hzero, isBelowZero]

end Binary64

/-! ## Finite texts -/

/-- What two of the forms pass through is not finite: a hundred times the value, or the value
rounded to a positive number of digits. -/
def Overflows (form : NumericForm) (precision : Nat) (x : Binary64) : Prop :=
  form = .percent ∧ Binary64.overflowBound * Binary64.unit ≤ 100 * x.units ∨
  form = .general ∧ 0 < precision ∧ Binary64.overflowBound ≤
    roundDiv x.units (Binary64.unit * 10 ^ (309 - precision)) * 10 ^ (309 - precision)

instance (form : NumericForm) (precision : Nat) (x : Binary64) :
    Decidable (Overflows form precision x) := inferInstanceAs (Decidable (_ ∨ _))

/-- What is written then. -/
def overflowText (form : NumericForm) (negative : Bool) : String :=
  if form = .percent then "inf %" else if negative then "-inf" else "inf"

/-- The text is that of a finite number: it has digits, spells none of the words, and has the sign
of the value as long as a digit is left that can have one. -/
structure IsFiniteText (form : NumericForm) (x : Binary64) (text : String) : Prop where
  digit : ∃ c ∈ text.toList, c.isDigit = true
  words : ∀ word ∈ ["inf", "NaN"], ¬word.toList <:+: text.toList
  sign : x.isBelowZero = true → (∃ c ∈ beforeLetters text.toList, IsNonzeroDigit c) →
    text.toList.head? = some '-'
  only : form = .fixed ∨ form = .grouped ∨ form = .percent → text.toList.head? = some '-' →
    x.isBelowZero = true ∧ ∃ c ∈ beforeLetters text.toList, IsNonzeroDigit c

section FiniteTexts

variable {separators : Separators} {s : Specifier} {form : NumericForm} {x : Binary64}

theorem Binary64.ofRatio_eq_infinite {negative : Bool} {num den : Nat} (hden : 0 < den)
    (h : (ofRatio negative num den).isFinite = false) :
    ofRatio negative num den = .infinite negative := by
  refine ofRatio_of_overflow hden (Nat.le_of_not_lt fun hlt => ?_)
  cases h.symm.trans ((isFinite_ofRatio_iff hden).2 hlt)

theorem Binary64.isNegative_roundToDigits (precision : Option Nat) (x : Binary64) :
    (roundToDigits precision x).isNegative = x.isNegative := by
  match precision with
  | none | some 0 => rfl
  | some (places + 1) =>
    rw [roundToDigits]
    dsimp only
    rw [ofDecimal_eq_ofRatio, isNegative_ofRatio]

theorem Binary64.isFinite_roundToDigits_of_not_overflows {precision : Option Nat}
    (hprecision : precision.getD 0 ≤ 99) (hfinite : x.isFinite = true)
    (hno : ¬Overflows .general (precision.getD 0) x) :
    (roundToDigits precision x).isFinite = true := by
  match precision with
  | none | some 0 => exact hfinite
  | some (places + 1) =>
    have hplaces : places + 1 ≤ 99 := hprecision
    have hgrid : 309 - (places + 1) = 308 - places := by omega
    refine (isFinite_roundToDigits_iff hfinite (by omega)).2 (Nat.lt_of_not_le fun hle => hno ?_)
    refine .inr ⟨rfl, Nat.succ_pos places, ?_⟩
    rwa [Option.getD_some, hgrid]

/-- The numeral has the sign of the value as long as a digit is left that can have one, and in three
of the forms no other sign. -/
structure NumeralParts.HasSignOf (form : NumericForm) (x : Binary64) {cs : List Char}
    (p : NumeralParts separators cs) : Prop where
  sign : x.isBelowZero = true → (∃ c ∈ p.digits, IsNonzeroDigit c) → p.negative = true
  only : form = .fixed ∨ form = .grouped ∨ form = .percent → p.negative = true →
    x.isBelowZero = true ∧ ∃ c ∈ p.digits, IsNonzeroDigit c

/-- The three forms with a fixed number of places write the value or its hundredfold. -/
theorem exists_hasSignOf_fixedPlaces (hdecimal : separators.decimal.isAlphanum = false)
    (hgroup : separators.group.isAlphanum = false) (grouped : Bool) (places : Nat) {y : Binary64}
    (hfinite : y.isFinite = true) (hbelow : y.isBelowZero = x.isBelowZero) (rest : List Char)
    (hrest : ∀ c ∈ rest, c.isAlphanum = false) :
    ∃ p : NumeralParts separators (fixedPlaces separators grouped places y ++ rest),
      p.HasSignOf form x := by
  obtain ⟨p, hp⟩ := exists_parts_fixedPlaces hdecimal hgroup grouped places hfinite rest hrest
  rw [hbelow] at hp
  exact ⟨p, fun hx hc => hp.2 ⟨hx, hc⟩, fun _ => hp.1⟩

/-- The other two have the sign of the value, be it zero or not. -/
theorem NumeralParts.HasSignOf.of_negative (hform : form = .exponent ∨ form = .general)
    {cs : List Char} {p : NumeralParts separators cs} (hp : p.negative = x.isNegative) :
    p.HasSignOf form x where
  sign hx _ := hp.trans (Bool.and_eq_true_iff.1 hx).1
  only h := by rcases hform with rfl | rfl <;> simp at h

/-- The parts of what is written under a specifier, and whether it has a sign. -/
theorem exists_parts_formatFloatBy (hdecimal : separators.decimal.isAlphanum = false)
    (hgroup : separators.group.isAlphanum = false)
    (hform : NumericForm.ofLetter? s.letter = some form) (hfractional : form.isFractional = true)
    (hprecision : s.precision.getD 0 ≤ 99) (hfinite : x.isFinite = true)
    (hno : ¬Overflows form (s.precision.getD 0) x) :
    ∃ cs, formatFloatBy separators s x = .ok cs ∧
      ∃ p : NumeralParts separators cs, p.HasSignOf form x := by
  cases form with
  | decimal | hex => cases hfractional
  | fixed =>
    refine ⟨_, ?_, exists_hasSignOf_fixedPlaces hdecimal hgroup false
      (s.precision.getD defaultPlaces) hfinite rfl [] nofun⟩
    unfold formatFloatBy
    simp only [hform, hfinite, Bool.not_true, Bool.false_eq_true, if_false, List.append_nil]
  | grouped =>
    refine ⟨_, ?_, exists_hasSignOf_fixedPlaces hdecimal hgroup true
      (s.precision.getD defaultPlaces) hfinite rfl [] nofun⟩
    unfold formatFloatBy
    simp only [hform, hfinite, Bool.not_true, Bool.false_eq_true, if_false, List.append_nil]
  | percent =>
    have hlt : 100 * x.units < Binary64.overflowBound * Binary64.unit :=
      Nat.lt_of_not_le fun hle => hno (.inl ⟨rfl, hle⟩)
    refine ⟨_, ?_, exists_hasSignOf_fixedPlaces hdecimal hgroup true
      (s.precision.getD defaultPlaces) ((Binary64.isFinite_mul_hundred_iff hfinite).2 hlt)
      (Binary64.isBelowZero_mul_hundred hfinite) [' ', '%']
      (List.forall_mem_cons.2 ⟨rfl, List.forall_mem_singleton.2 rfl⟩)⟩
    unfold formatFloatBy
    simp only [hform, hfinite, Bool.not_true, Bool.false_eq_true, if_false]
  | exponent =>
    have hletter : s.letter = 'E' ∨ s.letter = 'e' := NumericForm.ofLetter?_eq_some_iff.1 hform
    obtain ⟨p, hp⟩ := exists_parts_exponentForm separators
      (s.precision.getD defaultExponentPlaces) hletter x
    refine ⟨_, ?_, p, .of_negative (.inl rfl) hp⟩
    unfold formatFloatBy
    simp only [hform, hfinite, Bool.not_true, Bool.false_eq_true, if_false]
  | general =>
    obtain ⟨p, hp⟩ := exists_parts_numeral separators
      (Binary64.isFinite_roundToDigits_of_not_overflows hprecision hfinite hno)
    rw [Binary64.isNegative_roundToDigits] at hp
    exact ⟨_, formatFloatBy_general separators hform hfinite, p, .of_negative (.inr rfl) hp⟩

/-- What is written when there is an overflow. -/
theorem formatFloatBy_of_overflows (hform : NumericForm.ofLetter? s.letter = some form)
    (hprecision : s.precision.getD 0 ≤ 99) (hfinite : x.isFinite = true)
    (h : Overflows form (s.precision.getD 0) x) :
    formatFloatBy separators s x = .ok (overflowText form x.isNegative).toList := by
  rcases h with ⟨rfl, hlarge⟩ | ⟨rfl, hpos, hlarge⟩
  · have hinfinite : x.mul (.ofInt 100) = .infinite x.isNegative := by
      have hnot := mt (Binary64.isFinite_mul_hundred_iff hfinite).1 (Nat.not_lt_of_le hlarge)
      rw [Binary64.mul_hundred hfinite] at hnot ⊢
      exact Binary64.ofRatio_eq_infinite (Nat.mul_pos Binary64.unit_pos Binary64.unit_pos)
        (Bool.eq_false_iff.2 hnot)
    unfold formatFloatBy
    simp only [hform, hfinite, Bool.not_true, Bool.false_eq_true, if_false, hinfinite]
    cases x.isNegative <;> rfl
  · obtain ⟨places, hplaces⟩ : ∃ places, s.precision = some (places + 1) := by
      cases hvalue : s.precision with
      | none => rw [hvalue] at hpos; cases hpos
      | some precision =>
        rw [hvalue] at hpos
        exact ⟨precision - 1, congrArg some (Nat.sub_add_cancel hpos).symm⟩
    rw [hplaces, Option.getD_some] at hlarge hprecision
    have hgrid : 309 - (places + 1) = 308 - places := by omega
    rw [hgrid] at hlarge
    have hinfinite : roundToDigits s.precision x = .infinite x.isNegative := by
      have hnot := mt (Binary64.isFinite_roundToDigits_iff hfinite (by omega)).1
        (Nat.not_lt_of_le hlarge)
      rw [hplaces, roundToDigits]
      rw [roundToDigits] at hnot
      dsimp only at hnot ⊢
      rw [Binary64.ofDecimal_eq_ofRatio] at hnot ⊢
      exact Binary64.ofRatio_eq_infinite (scaleTen_snd_pos _ Nat.one_pos _)
        (Bool.eq_false_iff.2 hnot)
    rw [formatFloatBy_general separators hform hfinite, hinfinite]
    cases x.isNegative <;> rfl

theorem IsFiniteText.of_parts {cs : List Char} (hdecimal : separators.decimal.isAlphanum = false)
    (hgroup : separators.group.isAlphanum = false) (p : NumeralParts separators cs)
    (hp : p.HasSignOf form x) :
    IsFiniteText form x (String.ofList cs) where
  digit := by
    rw [String.toList_ofList]
    exact p.exists_digit
  words word hword hin := by
    have hletter : ∃ c ∈ word.toList, c.isAlpha = true ∧ ¬(c = 'E' ∨ c = 'e') := by
      rcases List.mem_cons.1 hword with rfl | hword
      · exact ⟨'n', by decide +kernel, rfl, by decide⟩
      · rw [List.mem_singleton.1 hword]
        exact ⟨'N', by decide +kernel, rfl, by decide⟩
    obtain ⟨c, hc, halpha, hmark⟩ := hletter
    rw [String.toList_ofList] at hin
    exact hmark (p.isMark_of_mem hdecimal hgroup (hin.subset hc) halpha)
  sign hx hdigit := by
    rw [String.toList_ofList] at hdigit ⊢
    exact p.head?_eq_iff.2 (hp.sign hx ((p.exists_nonzeroDigit_iff hdecimal hgroup).1 hdigit))
  only hform hhead := by
    rw [String.toList_ofList] at hhead ⊢
    exact (hp.only hform (p.head?_eq_iff.1 hhead)).imp_right
      (p.exists_nonzeroDigit_iff hdecimal hgroup).2

theorem formatFloat_of_spelled {spec : String} {letter : Char} {digits cs : List Char}
    (hspec : Specifier.Spelled spec letter digits)
    (hform : NumericForm.ofLetter? letter = some form) (hfractional : form.isFractional = true)
    (hwrite : formatFloatBy separators (.ofDigits letter digits) x = .ok cs) :
    formatFloat separators spec x = .ok (String.ofList cs) := by
  have hletter : letter.isAlpha = true := (goesByLetter_formatFloatBy separators x).isAlpha letter
    (mem_floatLetters_iff.2 ⟨form, hform, hfractional⟩)
  rw [formatFloat, Specifier.parse_of_spelled hspec hletter]
  simp only [bind, Except.bind, hwrite, pure, Except.pure]

end FiniteTexts

/-- **Finite numbers have finite texts**, as long as what the form passes through is finite. That is
always so for the forms `F`, `N` and `E`; where it is not so for `P` and `G`, a word is written. -/
theorem formatFloat_finite {separators : Separators}
    (hdecimal : separators.decimal.isAlphanum = false)
    (hgroup : separators.group.isAlphanum = false) {spec : String} {letter : Char}
    {digits : List Char} (hspec : Specifier.Spelled spec letter digits) {form : NumericForm}
    (hform : NumericForm.ofLetter? letter = some form) (hfractional : form.isFractional = true)
    {x : Binary64} (hfinite : x.isFinite = true) :
    ∃ text, formatFloat separators spec x = .ok text ∧
      (¬Overflows form (digitsValue digits) x → IsFiniteText form x text) ∧
      (Overflows form (digitsValue digits) x → text = overflowText form x.isNegative) := by
  have hprecision : (Specifier.ofDigits letter digits).precision.getD 0 = digitsValue digits :=
    Specifier.precision_getD_zero letter digits
  have hle : (Specifier.ofDigits letter digits).precision.getD 0 ≤ 99 := hprecision ▸ hspec.le
  rw [← hprecision]
  by_cases hoverflow : Overflows form ((Specifier.ofDigits letter digits).precision.getD 0) x
  · have hwrite : formatFloatBy separators _ x = _ :=
      formatFloatBy_of_overflows hform hle hfinite hoverflow
    exact ⟨_, formatFloat_of_spelled hspec hform hfractional hwrite,
      fun hno => absurd hoverflow hno, fun _ => String.ofList_toList⟩
  · obtain ⟨cs, hwrite, p, hp⟩ := exists_parts_formatFloatBy hdecimal hgroup hform
      hfractional hle hfinite hoverflow
    exact ⟨_, formatFloat_of_spelled hspec hform hfractional hwrite,
      fun _ => .of_parts hdecimal hgroup p hp, fun h => absurd h hoverflow⟩

/-- A small negative value in percent, and two large ones that become infinite on the way. -/
theorem formatFloat_finite_extremes :
    (∃ text, formatFloat .invariant "p1" (.ofDecimal true 5 (-4)) = .ok text ∧
      IsFiniteText .percent (.ofDecimal true 5 (-4)) text) ∧
    formatFloat .invariant "P" (.ofDecimal true 1 308) = .ok "inf %" ∧
    formatFloat .invariant "G03" (.ofDecimal true 17976931348623157 292) = .ok "-inf" := by
  have hdecimal : Separators.invariant.decimal.isAlphanum = false := by decide
  have hgroup : Separators.invariant.group.isAlphanum = false := by decide
  have hpercent : NumericForm.ofLetter? 'P' = some .percent := rfl
  have hpercent' : NumericForm.ofLetter? 'p' = some .percent := rfl
  have hgeneral : NumericForm.ofLetter? 'G' = some .general := rfl
  have hone : Specifier.Spelled "p1" 'p' ['1'] :=
    ⟨by decide +kernel, List.all_eq_true.1 (by decide), by decide +kernel⟩
  have hnone : Specifier.Spelled "P" 'P' [] := ⟨by decide +kernel, nofun, by decide⟩
  have hthree : Specifier.Spelled "G03" 'G' ['0', '3'] :=
    ⟨by decide +kernel, List.all_eq_true.1 (by decide), by decide +kernel⟩
  obtain ⟨small, hsmall, hfinite, -⟩ := formatFloat_finite hdecimal hgroup hone hpercent' rfl
    (x := .ofDecimal true 5 (-4)) (by decide +kernel)
  obtain ⟨hundred, hhundred, -, hword⟩ := formatFloat_finite hdecimal hgroup hnone hpercent rfl
    (x := .ofDecimal true 1 308) (by decide +kernel)
  obtain ⟨rounded, hrounded, -, hword'⟩ := formatFloat_finite hdecimal hgroup hthree hgeneral rfl
    (x := .ofDecimal true 17976931348623157 292) (by decide +kernel)
  refine ⟨⟨small, hsmall, hfinite (by decide +kernel)⟩, ?_, ?_⟩
  · rw [hhundred, hword (by decide +kernel)]
    decide +kernel
  · rw [hrounded, hword' (by decide +kernel)]
    decide +kernel

/-- A negative value of which the percent form writes neither a digit nor the sign. -/
theorem formatFloat_percent_overflow :
    (Binary64.ofDecimal true 1 308).isFinite = true ∧
    formatFloat .invariant "P0" (.ofDecimal true 1 308) = .ok "inf %" := by
  constructor <;> decide +kernel

end MessageTemplate
