import MessageTemplate.Proofs.Number.WholeValues

/-!
# The general form of integers

Without a precision the general form of an integer is its decimal text. With one it is the default
text of a floating-point value, so it is exact for integers that are such values and are told apart
from the next ones by their digits.

- **Writers** (`formatFloatBy_general`, `formatIntegerBy_general`): the general form of values and
  of integers.
- **Integers** (`formatWith_general`): what is written when there are digits enough.
-/

namespace MessageTemplate

/-! ## Writers -/

section Writers

variable {s : Specifier} {a : Argument} {n : Int}

theorem localizePoint_of_not_mem {separators : Separators} {cs : List Char} (h : '.' ∉ cs) :
    localizePoint separators cs = cs := by
  have hself : ∀ c ∈ cs, (if c = '.' then separators.decimal else c) = c := fun c hc =>
    if_neg fun hpoint => h (by rwa [hpoint] at hc)
  rw [localizePoint, List.map_congr_left hself, List.map_id']

theorem formatFloatBy_general {x : Binary64} (separators : Separators)
    (hform : NumericForm.ofLetter? s.letter = some .general) (hfinite : x.isFinite = true) :
    formatFloatBy separators s x =
      .ok (localizePoint separators ((roundToDigits s.precision x).numeral .plain)) := by
  unfold formatFloatBy
  simp only [hform, hfinite, Bool.not_true, Bool.false_eq_true, if_false]

theorem formatIntegerBy_general (separators : Separators) (n : Int)
    (hform : NumericForm.ofLetter? s.letter = some .general) : formatIntegerBy separators s n =
      if s.precision.isNone then .ok (integerText n)
      else formatFloatBy separators s (.ofInt n) := by
  unfold formatIntegerBy
  rw [hform]

theorem Argument.natAbs_lt_of_integer? (h : a.integer? = some n) : n.natAbs < 2 ^ 64 := by
  cases a with
  | int m =>
    cases h
    have := And.intro m.le_toInt m.toInt_lt
    omega
  | uint m =>
    cases h
    have := m.toNat_lt
    omega
  | _ => cases h

/-- With enough digits the default text of the nearest value is written. -/
theorem formatIntegerBy_digits (separators : Separators) {places : Nat}
    (hform : NumericForm.ofLetter? s.letter = some .general)
    (hprecision : s.precision = some (places + 1)) (hn : n.natAbs < 2 ^ 64)
    (hplaces : digitCount n.natAbs ≤ places + 1) :
    formatIntegerBy separators s n = .ok ((Binary64.ofInt n).numeral .plain) := by
  obtain ⟨⟨m, hm⟩, -⟩ := Binary64.numeral_ofInt hn
  have hpoint : '.' ∉ (Binary64.ofInt n).numeral .plain := by
    rw [hm]
    intro hmem
    rcases List.mem_append.1 hmem with hsign | hdigit
    · rw [signText] at hsign
      split at hsign
      · exact absurd (List.mem_singleton.1 hsign) (by decide)
      · cases hsign
    · exact absurd (isDigit_of_mem_decimalDigits hdigit) (by decide)
  rw [formatIntegerBy_general separators n hform, hprecision,
    formatFloatBy_general separators hform (Binary64.isFinite_ofInt hn), hprecision,
    Binary64.roundToDigits_ofInt hn hplaces, localizePoint_of_not_mem hpoint]
  rfl

end Writers

/-! ## Integers -/

/-- **The general form.** Without a precision an integer is written exactly. With one that is enough
for its digits, the text is that of the nearest floating-point value: the integer itself up to
`2 ^ 53`, and something else for every odd integer beyond. -/
theorem formatWith_general (separators : Separators) {spec : String} {letter : Char}
    {digits : List Char} (hspec : Specifier.Spelled spec letter digits)
    (hletter : letter = 'G' ∨ letter = 'g') {a : Argument} {n : Int} (h : a.integer? = some n) :
    (digits = [] → a.formatWith separators spec = some (.ok (String.ofList (integerText n)))) ∧
    (digitCount n.natAbs ≤ digitsValue digits →
      a.formatWith separators spec = some (.ok (Binary64.ofInt n).text)) ∧
    (n.natAbs ≤ 2 ^ 53 → (Binary64.ofInt n).text = String.ofList (integerText n)) ∧
    (2 ^ 53 < n.natAbs → n % 2 = 1 →
      (Binary64.ofInt n).text ≠ String.ofList (integerText n)) := by
  have hform : NumericForm.ofLetter? letter = some .general :=
    NumericForm.ofLetter?_eq_some_iff.2 hletter
  have hn := Argument.natAbs_lt_of_integer? h
  obtain ⟨-, hsmall, hodd⟩ := Binary64.numeral_ofInt hn
  refine ⟨?_, fun hdigits => ?_, fun hle => congrArg String.ofList (hsmall hle),
    fun hlt hmod heq => hodd hlt hmod (String.ofList_inj.1 heq)⟩
  · rintro rfl
    exact a.formatWith_of_spelled hspec h (formatIntegerBy_general separators n hform)
  · have hpos := digitCount_pos n.natAbs
    obtain ⟨places, hplaces⟩ := Nat.exists_eq_succ_of_ne_zero (by omega : digitsValue digits ≠ 0)
    have hprecision : (Specifier.ofDigits letter digits).precision = some (places + 1) := by
      have hne : digits ≠ [] := fun hnil => by
        rw [hnil] at hplaces
        cases hplaces
      rw [Specifier.ofDigits, if_neg (mt List.isEmpty_iff.1 hne), hplaces]
    exact a.formatWith_of_spelled hspec h
      (formatIntegerBy_digits separators hform hprecision hn (by omega))

/-- The limit itself in as many digits as it has, and the next odd integer in all that there are. -/
theorem formatWith_general_limit :
    (Argument.uint 9007199254740992).formatWith .invariant "G16" =
      some (.ok "9007199254740992") ∧
    (Argument.int (-9007199254740993)).formatWith ⟨',', ' '⟩ "g99" =
      some (.ok (Binary64.ofInt (-9007199254740993)).text) ∧
    (Binary64.ofInt (-9007199254740993)).text ≠ "-9007199254740993" ∧
    (Argument.int Int64.minValue).formatWith .invariant "g" =
      some (.ok "-9223372036854775808") := by
  have hsixteen : Specifier.Spelled "G16" 'G' ['1', '6'] :=
    ⟨by decide +kernel, List.all_eq_true.1 (by decide), by decide +kernel⟩
  have hmost : Specifier.Spelled "g99" 'g' ['9', '9'] :=
    ⟨by decide +kernel, List.all_eq_true.1 (by decide), by decide +kernel⟩
  have hnone : Specifier.Spelled "g" 'g' [] := ⟨by decide +kernel, nofun, by decide⟩
  obtain ⟨-, hlimit, hexact, -⟩ := formatWith_general .invariant hsixteen (.inl rfl)
    (a := .uint 9007199254740992) rfl
  obtain ⟨-, hbeyond, -, hodd⟩ := formatWith_general ⟨',', ' '⟩ hmost (.inr rfl)
    (a := .int (-9007199254740993)) rfl
  obtain ⟨hplain, -⟩ := formatWith_general .invariant hnone (.inr rfl)
    (a := .int Int64.minValue) rfl
  refine ⟨?_, hbeyond (by decide +kernel), hodd (by decide) (by decide), hplain rfl⟩
  rw [hlimit (by decide +kernel), hexact (by decide)]
  rfl

/-- All of the sixteen digits are asked for, and the last one is not kept. -/
theorem formatWith_general_odd :
    digitCount 9007199254740993 = 16 ∧
    (Argument.int 9007199254740993).formatWith .invariant "G16" = some (.ok "9007199254740992") ∧
    (Argument.int 9007199254740993).formatWith .invariant "G" = some (.ok "9007199254740993") := by
  refine ⟨?_, ?_, ?_⟩ <;> decide +kernel

end MessageTemplate
