import MessageTemplate.Proofs.Number.WholeNumbers

/-!
# Integers with decimal places

The fixed and the grouped form of an integer are exact: its digits, and nothing but zeros behind the
decimal separator.

- **Digits without zeros in front** (`IsDecimalOf`): how a number is usually written.
- **Groups** (`IsGrouping`): three digits each, of which the first may lack one or two. Digits are
  separated into such groups (`exists_grouping`), and they are what is left when the separators are
  taken out (`filter_intercalate`).
- **The two forms** (`formatWith_places`): arguments are written so.
-/

namespace MessageTemplate

/-! ## Digits without zeros in front -/

/-- The decimal digits of a number, without zeros in front. -/
structure IsDecimalOf (n : Nat) (digits : List Char) : Prop where
  isDigits : IsDigits digits
  value : digitsValue digits = n
  head : digits.head? = some '0' → digits = ['0']

theorem head?_decimalDigits {n : Nat} (h : (decimalDigits n).head? = some '0') : n = 0 := by
  induction n using Nat.strongRecOn with
  | ind n ih =>
    rw [decimalDigits, Nat.toDigits_eq_if (by decide)] at h
    split at h
    next => exact Nat.digitChar_eq_zero.1 (Option.some.inj h)
    next hle =>
      -- The first digit is the one of the number without its last digit, which is smaller.
      have hhead : (decimalDigits (n / 10)).head? = some '0' := by
        cases hdigits : Nat.toDigits 10 (n / 10) with
        | nil => exact absurd hdigits Nat.toDigits_ne_nil
        | cons c cs =>
          rw [hdigits] at h
          rw [decimalDigits, hdigits]
          exact h
      have := ih (n / 10) (by omega) hhead
      omega

theorem isDecimalOf_decimalDigits (n : Nat) : IsDecimalOf n (decimalDigits n) where
  isDigits := ⟨decimalDigits_ne_nil n, fun _ hc => isDigit_of_mem_decimalDigits hc⟩
  value := (ofDigitChars_eq_digitsValue _).symm.trans Nat.ofDigitChars_ten_toDigits
  head h := by rw [head?_decimalDigits h]; rfl

/-! ## Groups -/

/-- Groups of three, of which only the first may be shorter; it is not empty. -/
def IsGrouping : List (List Char) → Prop
  | [] => False
  | first :: rest => (1 ≤ first.length ∧ first.length ≤ 3) ∧ ∀ g ∈ rest, g.length = 3

section Groups

variable {separator : Char} {first : List Char} {rest groups : List (List Char)}

theorem length_flatten_of_forall (h : ∀ g ∈ rest, g.length = 3) :
    rest.flatten.length = 3 * rest.length := by
  induction rest with
  | nil => rfl
  | cons g rest ih =>
    obtain ⟨hg, hrest⟩ := List.forall_mem_cons.1 h
    rw [List.flatten_cons, List.length_append, hg, ih hrest, List.length_cons]
    omega

theorem exists_grouping (separator : Char) {digits : List Char} (hne : digits ≠ []) :
    ∃ groups, IsGrouping groups ∧ groups.flatten = digits ∧
      groupDigits separator digits = [separator].intercalate groups := by
  have hsingle (c : Char) : 1 ≤ [c].length ∧ [c].length ≤ 3 := by simp
  induction digits with
  | nil => exact absurd rfl hne
  | cons c digits ih =>
    by_cases hnil : digits = []
    · subst hnil
      exact ⟨[[c]], ⟨hsingle c, nofun⟩, rfl, rfl⟩
    obtain ⟨groups, hgroups, hflatten, hintercalate⟩ := ih hnil
    cases groups with
    | nil => cases hgroups
    | cons first rest =>
      obtain ⟨⟨hpos, hle⟩, hrest⟩ := hgroups
      have hlength : digits.length = first.length + 3 * rest.length := by
        rw [← hflatten, List.flatten_cons, List.length_append, length_flatten_of_forall hrest]
      rw [groupDigits, hintercalate]
      split
      next hfull =>
        -- The first group of the rest is full, and the digit begins a group of its own.
        have hfirst : first.length = 3 := by
          have : digits.length % 3 = 0 := by simp_all
          omega
        refine ⟨[c] :: first :: rest,
          ⟨hsingle c, List.forall_mem_cons.2 ⟨hfirst, hrest⟩⟩, ?_, ?_⟩
        · rw [List.flatten_cons, hflatten, List.singleton_append]
        · rw [List.intercalate_cons_cons]
          rfl
      next hopen =>
        have hfirst : first.length < 3 := by
          have : digits.length % 3 ≠ 0 := by simp_all
          omega
        refine ⟨(c :: first) :: rest, ⟨?_, hrest⟩, ?_, List.intercalate_cons_cons_left.symm⟩
        · rw [List.length_cons]
          omega
        · rw [List.flatten_cons, List.cons_append, ← List.flatten_cons, hflatten]

example : groupDigits ',' "1234567".toList = "1,234,567".toList := by decide +kernel

theorem filter_of_not_mem {cs : List Char} (h : separator ∉ cs) :
    cs.filter (· != separator) = cs :=
  List.filter_eq_self.2 fun _ hc => bne_iff_ne.2 fun heq => h (heq ▸ hc)

/-- What is left when separators are taken out that do not occur in the groups. -/
theorem filter_intercalate (h : separator ∉ groups.flatten) :
    ([separator].intercalate groups).filter (· != separator) = groups.flatten := by
  induction groups with
  | nil => rfl
  | cons g rest ih =>
    rw [List.flatten_cons, List.mem_append, not_or] at h
    cases rest with
    | nil => rw [List.intercalate_singleton, filter_of_not_mem h.1, List.flatten_singleton]
    | cons g' rest =>
      rw [List.intercalate_cons_cons, List.filter_append, List.filter_append,
        filter_of_not_mem h.1, ih h.2, List.filter_cons_of_neg (by simp), List.filter_nil,
        List.append_nil, ← List.flatten_cons]

end Groups

/-! ## Arguments -/

/-- Zeros in the places behind the decimal separator, and nothing at all for no places. -/
def zeroPlaces (separators : Separators) (places : Nat) : List Char :=
  if places = 0 then [] else separators.decimal :: List.replicate places '0'

/-- The places that the digits of a precision ask for. -/
def placesOf (digits : List Char) : Nat := if digits = [] then 2 else digitsValue digits

section Arguments

variable {s : Specifier} (separators : Separators) (n : Int)

theorem assemble_zeros (grouped : Bool) (whole : List Char) (places : Nat) :
    assemble separators grouped (n < 0) whole (List.replicate places '0') =
      signText n ++ (if grouped then groupDigits separators.group whole else whole) ++
        zeroPlaces separators places := by
  cases places <;> simp [assemble, signText, zeroPlaces, List.replicate_succ]

theorem formatIntegerBy_fixed (hform : NumericForm.ofLetter? s.letter = some .fixed) :
    formatIntegerBy separators s n = .ok (signText n ++ decimalDigits n.natAbs ++
      zeroPlaces separators (s.precision.getD defaultPlaces)) := by
  unfold formatIntegerBy
  rw [hform]
  exact congrArg Except.ok (assemble_zeros separators n false _ _)

theorem formatIntegerBy_grouped (hform : NumericForm.ofLetter? s.letter = some .grouped) :
    formatIntegerBy separators s n =
      .ok (signText n ++ groupDigits separators.group (decimalDigits n.natAbs) ++
        zeroPlaces separators (s.precision.getD defaultPlaces)) := by
  unfold formatIntegerBy
  rw [hform]
  exact congrArg Except.ok (assemble_zeros separators n true _ _)

end Arguments

/-- **Exact, in groups of three.** The format `F` writes an integer with its sign, its decimal
digits without zeros in front, and as many zeros behind the decimal separator as the precision says,
two by default; no places have no separator either. The format `N` does the same with the digits in
groups, which give back the number when the separators are taken out, unless these are digits
themselves. -/
theorem formatWith_places (separators : Separators) {spec : String} {letter : Char}
    {digits : List Char} (hspec : Specifier.Spelled spec letter digits) {a : Argument} {n : Int}
    (h : a.integer? = some n) :
    (letter = 'F' ∨ letter = 'f' → ∃ whole, IsDecimalOf n.natAbs whole ∧
      a.formatWith separators spec = some (.ok (String.ofList
        (signText n ++ whole ++ zeroPlaces separators (placesOf digits)))) ∧
      (separators.group.isDigit = false → whole.filter (· != separators.group) = whole)) ∧
    (letter = 'N' ∨ letter = 'n' → ∃ groups, IsGrouping groups ∧
      IsDecimalOf n.natAbs groups.flatten ∧
      a.formatWith separators spec = some (.ok (String.ofList
        (signText n ++ [separators.group].intercalate groups ++
          zeroPlaces separators (placesOf digits)))) ∧
      (separators.group.isDigit = false →
        ([separators.group].intercalate groups).filter (· != separators.group) =
          groups.flatten)) := by
  have hplaces : (Specifier.ofDigits letter digits).precision.getD defaultPlaces =
      placesOf digits := Specifier.ofDigits_precision_getD letter digits defaultPlaces
  -- Digits hold no separator that is none itself.
  have hother {cs : List Char} (hcs : IsDigits cs) (hseparator : separators.group.isDigit = false) :
      separators.group ∉ cs := fun hmem => by cases hseparator.symm.trans (hcs.2 _ hmem)
  rw [← hplaces]
  constructor
  · intro hletter
    have hfixed : NumericForm.ofLetter? letter = some .fixed :=
      NumericForm.ofLetter?_eq_some_iff.2 hletter
    have hdecimal := isDecimalOf_decimalDigits n.natAbs
    exact ⟨_, hdecimal,
      a.formatWith_of_spelled hspec h (formatIntegerBy_fixed separators n hfixed),
      fun hseparator => filter_of_not_mem (hother hdecimal.isDigits hseparator)⟩
  · intro hletter
    have hgrouped : NumericForm.ofLetter? letter = some .grouped :=
      NumericForm.ofLetter?_eq_some_iff.2 hletter
    obtain ⟨groups, hgroups, hflatten, hintercalate⟩ :=
      exists_grouping separators.group (decimalDigits_ne_nil n.natAbs)
    have hdecimal : IsDecimalOf n.natAbs groups.flatten :=
      hflatten ▸ isDecimalOf_decimalDigits n.natAbs
    have hwrite := formatIntegerBy_grouped (s := .ofDigits letter digits) separators n hgrouped
    rw [hintercalate] at hwrite
    exact ⟨groups, hgroups, hdecimal, a.formatWith_of_spelled hspec h hwrite,
      fun hseparator => filter_intercalate (hother hdecimal.isDigits hseparator)⟩

/-- A separator of two bytes between the groups, and places as asked for and by default. -/
theorem formatWith_places_space :
    let separators : Separators := ⟨',', '\u00A0'⟩
    (∃ groups, IsGrouping groups ∧ IsDecimalOf 1234567 groups.flatten ∧
      (Argument.int (-1234567)).formatWith separators "n01" =
        some (.ok (String.ofList (['-'] ++ ['\u00A0'].intercalate groups ++ [',', '0']))) ∧
      (['\u00A0'].intercalate groups).filter (· != '\u00A0') = groups.flatten) ∧
    ∃ whole, IsDecimalOf 7 whole ∧ (Argument.uint 7).formatWith separators "F" =
      some (.ok (String.ofList ([] ++ whole ++ [',', '0', '0']))) := by
  intro separators
  have hgrouped : Specifier.Spelled "n01" 'n' ['0', '1'] :=
    ⟨by decide +kernel, List.all_eq_true.1 (by decide), by decide +kernel⟩
  have hfixed : Specifier.Spelled "F" 'F' [] := ⟨by decide +kernel, nofun, by decide⟩
  have hone : zeroPlaces separators (placesOf ['0', '1']) = [',', '0'] := by decide +kernel
  have htwo : zeroPlaces separators (placesOf []) = [',', '0', '0'] := by decide +kernel
  obtain ⟨groups, hgroups, hdecimal, hformat, hfilter⟩ :=
    (formatWith_places separators hgrouped (a := .int (-1234567)) rfl).2 (.inr rfl)
  obtain ⟨whole, hwhole, hformat', -⟩ :=
    (formatWith_places separators hfixed (a := .uint 7) rfl).1 (.inl rfl)
  rw [hone] at hformat
  rw [htwo] at hformat'
  exact ⟨⟨groups, hgroups, hdecimal, hformat, hfilter (by decide)⟩, whole, hwhole, hformat'⟩

end MessageTemplate
