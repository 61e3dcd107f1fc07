import MessageTemplate.Proofs.Number.GeneralForm

/-!
# The parts of numerals

A numeral of a finite value is a sign or none, digits with separators among them, and perhaps an
exponent or a percent sign. Separators that are neither letters nor digits are not mistaken for
other parts.

- **The digits** (`IsMantissa`): how the whole part and the fraction are put together.
- **Parts** (`NumeralParts`): what can be read off a text that is put together so, such as whether
  it begins with a minus sign (`NumeralParts.head?_eq_iff`).
- **Forms** (`exists_parts_fixedPlaces`, `exists_parts_exponentForm`, `exists_parts_numeral`): the
  forms of floating-point values have such parts, and when they have a sign.
-/

namespace MessageTemplate

/-! ## The digits of a numeral -/

/-- A digit other than zero. -/
def IsNonzeroDigit (c : Char) : Prop := c.isDigit = true ∧ c ≠ '0'

/-- The digits of a numeral with the separators among them; a digit comes first. -/
structure IsMantissa (separators : Separators) (cs : List Char) : Prop where
  head : ∃ c, cs.head? = some c ∧ c.isDigit = true
  chars : ∀ c ∈ cs, c.isDigit = true ∨ c = separators.decimal ∨ c = separators.group

section Mantissa

variable {separators : Separators} {separator c : Char} {cs whole fraction : List Char}

theorem mem_of_mem_groupDigits (h : c ∈ groupDigits separator cs) : c ∈ cs ∨ c = separator := by
  induction cs with
  | nil => cases h
  | cons d cs ih =>
    rw [groupDigits] at h
    split at h
    · rcases List.mem_cons.1 h with rfl | hrest
      · exact .inl List.mem_cons_self
      rcases List.mem_cons.1 hrest with rfl | hrest
      · exact .inr rfl
      · exact (ih hrest).imp_left (List.mem_cons_of_mem d)
    · rcases List.mem_cons.1 h with rfl | hrest
      · exact .inl List.mem_cons_self
      · exact (ih hrest).imp_left (List.mem_cons_of_mem d)

theorem subset_groupDigits (separator : Char) (cs : List Char) :
    cs ⊆ groupDigits separator cs := by
  induction cs with
  | nil => exact List.nil_subset _
  | cons d cs ih =>
    rw [groupDigits]
    split
    · exact List.cons_subset_cons d (List.subset_cons_of_subset _ ih)
    · exact List.cons_subset_cons d ih

theorem head?_groupDigits (separator : Char) (cs : List Char) :
    (groupDigits separator cs).head? = cs.head? := by
  cases cs with
  | nil => rfl
  | cons d cs =>
    rw [groupDigits]
    split <;> rfl

/-- A whole part, grouped or not, and a fraction behind it. -/
theorem IsMantissa.of_digits (grouped : Bool) (hwhole : IsDigits whole)
    (hfraction : ∀ c ∈ fraction, c.isDigit = true) : IsMantissa separators
      ((if grouped then groupDigits separators.group whole else whole) ++
        (if fraction.isEmpty then [] else separators.decimal :: fraction)) where
  head := by
    obtain ⟨c, cs, rfl⟩ := List.exists_cons_of_ne_nil hwhole.1
    have hhead : (if grouped then groupDigits separators.group (c :: cs) else c :: cs).head? =
        some c := by
      split
      · exact head?_groupDigits _ _
      · rfl
    refine ⟨c, ?_, hwhole.2 c List.mem_cons_self⟩
    rw [List.head?_append, hhead]
    rfl
  chars c hc := by
    rcases List.mem_append.1 hc with hmem | hmem
    · split at hmem
      · rcases mem_of_mem_groupDigits hmem with hdigit | hgroup
        · exact .inl (hwhole.2 c hdigit)
        · exact .inr (.inr hgroup)
      · exact .inl (hwhole.2 c hmem)
    · split at hmem
      · cases hmem
      · rcases List.mem_cons.1 hmem with hdecimal | hdigit
        · exact .inr (.inl hdecimal)
        · exact .inl (hfraction c hdigit)

/-- The separators are no digits, so the digits are those of the two parts. -/
theorem exists_nonzeroDigit_iff (hdecimal : separators.decimal.isAlphanum = false)
    (hgroup : separators.group.isAlphanum = false) (grouped : Bool) :
    (∃ c ∈ (if grouped then groupDigits separators.group whole else whole) ++
      (if fraction.isEmpty then [] else separators.decimal :: fraction), IsNonzeroDigit c) ↔
    (whole ++ fraction).any (fun c => c.isDigit && c != '0') = true := by
  have hno {d : Char} (hd : d.isAlphanum = false) (hdigit : d.isDigit = true) : False := by
    rw [Char.isAlphanum, hdigit, Bool.or_true] at hd
    cases hd
  simp only [List.any_eq_true, Bool.and_eq_true, bne_iff_ne]
  constructor
  · rintro ⟨c, hc, hnonzero⟩
    refine ⟨c, List.mem_append.2 ?_, hnonzero⟩
    rcases List.mem_append.1 hc with hmem | hmem
    · split at hmem
      · rcases mem_of_mem_groupDigits hmem with hwhole | rfl
        · exact .inl hwhole
        · exact (hno hgroup hnonzero.1).elim
      · exact .inl hmem
    · split at hmem
      · cases hmem
      · rcases List.mem_cons.1 hmem with rfl | hfraction
        · exact (hno hdecimal hnonzero.1).elim
        · exact .inr hfraction
  · rintro ⟨c, hc, hnonzero⟩
    refine ⟨c, List.mem_append.2 ?_, hnonzero⟩
    rcases List.mem_append.1 hc with hwhole | hfraction
    · refine .inl ?_
      split
      · exact subset_groupDigits _ _ hwhole
      · exact hwhole
    · refine .inr ?_
      rw [if_neg (mt List.isEmpty_iff.1 (List.ne_nil_of_mem hfraction))]
      exact List.mem_cons_of_mem _ hfraction

end Mantissa

/-- Digits stand before all letters. -/
theorem isAlpha_of_isDigit {c : Char} (h : c.isDigit = true) : c.isAlpha = false := by
  have hle : c.val ≤ '9'.val := by
    simp only [Char.isDigit, Bool.and_eq_true, decide_eq_true_eq] at h
    exact h.2
  have hno (letter : Char) (hletter : '9'.val < letter.val) : ¬letter.val ≤ c.val := fun hc =>
    absurd (UInt32.le_trans hc hle) (UInt32.not_le.2 hletter)
  have hupper : c.isUpper = false := decide_eq_false fun h => hno 'A' (by decide) h.1
  have hlower : c.isLower = false := by
    rw [Bool.eq_false_iff]
    exact fun h => hno 'a' (by decide) (of_decide_eq_true (Bool.and_eq_true_iff.1 h).1)
  exact Bool.or_eq_false_iff.2 ⟨hupper, hlower⟩

/-- The part of a text before any letter, and so before any exponent. -/
def beforeLetters (cs : List Char) : List Char := cs.takeWhile fun c => !c.isAlpha

/-- A numeral in its parts: an optional sign, the digits with separators, and what stands behind
them. The only letters are marks of exponents, and before them there are no other digits. -/
structure NumeralParts (separators : Separators) (cs : List Char) where
  negative : Bool
  digits : List Char
  rest : List Char
  eq : cs = (if negative then ['-'] else []) ++ digits ++ rest
  isMantissa : IsMantissa separators digits
  isMark : ∀ c ∈ rest, c.isAlpha = true → c = 'E' ∨ c = 'e'
  isRest : ∀ c ∈ beforeLetters rest, c.isDigit = false

theorem eq_of_mem_sign {negative : Bool} {c : Char} (h : c ∈ (if negative then ['-'] else [])) :
    c = '-' := by
  cases negative with
  | true => exact List.mem_singleton.1 h
  | false => cases h

namespace NumeralParts

variable {separators : Separators} {cs : List Char}

theorem exists_digit (p : NumeralParts separators cs) : ∃ c ∈ cs, c.isDigit = true := by
  obtain ⟨c, hc, hdigit⟩ := p.isMantissa.head
  rw [p.eq]
  exact ⟨c, List.mem_append_left _ (List.mem_append_right _ (List.mem_of_head? hc)), hdigit⟩

theorem head?_eq_iff (p : NumeralParts separators cs) :
    cs.head? = some '-' ↔ p.negative = true := by
  obtain ⟨c, hc, hdigit⟩ := p.isMantissa.head
  have heq := p.eq
  cases hsign : p.negative with
  | true =>
    rw [hsign] at heq
    rw [heq]
    exact iff_of_true rfl rfl
  | false =>
    rw [hsign] at heq
    have hhead : cs.head? = some c := by
      rw [heq, if_neg Bool.false_ne_true, List.nil_append, List.head?_append, hc, Option.some_or]
    rw [hhead, Option.some_inj]
    exact iff_of_false (ne_of_isDigit hdigit rfl) Bool.false_ne_true

variable (hdecimal : separators.decimal.isAlphanum = false)
  (hgroup : separators.group.isAlphanum = false)

include hdecimal hgroup

theorem isAlpha_of_mem_front (p : NumeralParts separators cs) {c : Char}
    (hc : c ∈ (if p.negative then ['-'] else []) ++ p.digits) : c.isAlpha = false := by
  have hseparator {d : Char} (hd : d.isAlphanum = false) : d.isAlpha = false :=
    (Bool.or_eq_false_iff.1 hd).1
  rcases List.mem_append.1 hc with hsign | hdigits
  · rw [eq_of_mem_sign hsign]
    rfl
  · rcases p.isMantissa.chars c hdigits with hdigit | rfl | rfl
    · exact isAlpha_of_isDigit hdigit
    · exact hseparator hdecimal
    · exact hseparator hgroup

theorem isMark_of_mem (p : NumeralParts separators cs) {c : Char} (hc : c ∈ cs)
    (halpha : c.isAlpha = true) : c = 'E' ∨ c = 'e' := by
  rw [p.eq] at hc
  rcases List.mem_append.1 hc with hfront | hrest
  · cases (p.isAlpha_of_mem_front hdecimal hgroup hfront).symm.trans halpha
  · exact p.isMark c hrest halpha

theorem exists_nonzeroDigit_iff (p : NumeralParts separators cs) :
    (∃ c ∈ beforeLetters cs, IsNonzeroDigit c) ↔ ∃ c ∈ p.digits, IsNonzeroDigit c := by
  have hfront : ∀ c ∈ (if p.negative then ['-'] else []) ++ p.digits, (!c.isAlpha) = true :=
    fun c hc => by rw [p.isAlpha_of_mem_front hdecimal hgroup hc]; rfl
  have hbefore : beforeLetters cs =
      (if p.negative then ['-'] else []) ++ p.digits ++ beforeLetters p.rest := by
    have heq := congrArg beforeLetters p.eq
    rw [heq, beforeLetters, List.takeWhile_append_of_pos hfront, beforeLetters]
  rw [hbefore]
  constructor
  · rintro ⟨c, hc, hnonzero⟩
    refine ⟨c, ?_, hnonzero⟩
    rcases List.mem_append.1 hc with hc | hrest
    · rcases List.mem_append.1 hc with hsign | hdigits
      · rw [eq_of_mem_sign hsign] at hnonzero
        cases hnonzero.1
      · exact hdigits
    · cases (p.isRest c hrest).symm.trans hnonzero.1
  · rintro ⟨c, hc, hnonzero⟩
    exact ⟨c, List.mem_append_left _ (List.mem_append_right _ hc), hnonzero⟩

end NumeralParts

/-! ## The parts of the forms -/

section Forms

variable {separators : Separators} {x : Binary64} {digits : List Char}

theorem fixedPlaces_eq (grouped : Bool) (places : Nat) (hfinite : x.isFinite = true) :
    fixedPlaces separators grouped places x =
      assemble separators grouped
        (x.isBelowZero && ((fixedDigits x.units Binary64.unit places).1 ++
          (fixedDigits x.units Binary64.unit places).2).any fun c => c.isDigit && c != '0')
        (fixedDigits x.units Binary64.unit places).1
        (fixedDigits x.units Binary64.unit places).2 := by
  cases x with
  | finite => rfl
  | _ => cases hfinite

theorem isDigits_fixedDigits (num den places : Nat) : IsDigits (fixedDigits num den places).1 ∧
    ∀ c ∈ (fixedDigits num den places).2, c.isDigit = true := by
  refine ⟨(isDecimalOf_decimalDigits _).isDigits, fun c hc => ?_⟩
  rw [fixedDigits] at hc
  dsimp only at hc
  split at hc
  · cases hc
  · exact (isDigits_leftpad _ _).2 c hc

/-- What `assemble` puts together are parts of a numeral. -/
def NumeralParts.assembled {whole fraction rest : List Char} (grouped negative : Bool)
    (hwhole : IsDigits whole) (hfraction : ∀ c ∈ fraction, c.isDigit = true)
    (hmark : ∀ c ∈ rest, c.isAlpha = true → c = 'E' ∨ c = 'e')
    (hrest : ∀ c ∈ beforeLetters rest, c.isDigit = false) :
    NumeralParts separators (assemble separators grouped negative whole fraction ++ rest) where
  negative := negative
  digits := (if grouped then groupDigits separators.group whole else whole) ++
    (if fraction.isEmpty then [] else separators.decimal :: fraction)
  rest := rest
  eq := congrArg (· ++ rest) (List.append_assoc ..)
  isMantissa := .of_digits grouped hwhole hfraction
  isMark := hmark
  isRest := hrest

/-- Fixed places have a sign if the value is below zero and not all digits are zeros. -/
theorem exists_parts_fixedPlaces (hdecimal : separators.decimal.isAlphanum = false)
    (hgroup : separators.group.isAlphanum = false) (grouped : Bool) (places : Nat)
    (hfinite : x.isFinite = true) (rest : List Char) (hrest : ∀ c ∈ rest, c.isAlphanum = false) :
    ∃ p : NumeralParts separators (fixedPlaces separators grouped places x ++ rest),
      p.negative = true ↔ x.isBelowZero = true ∧ ∃ c ∈ p.digits, IsNonzeroDigit c := by
  obtain ⟨hwhole, hfraction⟩ := isDigits_fixedDigits x.units Binary64.unit places
  have hmark : ∀ c ∈ rest, c.isAlpha = true → c = 'E' ∨ c = 'e' := fun c hc halpha => by
    cases (Bool.or_eq_false_iff.1 (hrest c hc)).1.symm.trans halpha
  have hdigit : ∀ c ∈ beforeLetters rest, c.isDigit = false := fun c hc =>
    (Bool.or_eq_false_iff.1 (hrest c ((List.takeWhile_prefix _).subset hc))).2
  rw [fixedPlaces_eq grouped places hfinite]
  refine ⟨.assembled grouped _ hwhole hfraction hmark hdigit, ?_⟩
  rw [NumeralParts.assembled, Bool.and_eq_true, exists_nonzeroDigit_iff hdecimal hgroup]

/-- The exponent form has the sign of the value. -/
theorem exists_parts_exponentForm (separators : Separators) (places : Nat) {letter : Char}
    (hletter : letter = 'E' ∨ letter = 'e') (x : Binary64) :
    ∃ p : NumeralParts separators (exponentForm separators places letter x),
      p.negative = x.isNegative := by
  have hdigits := isDigits_leftpad (places + 1) (leadingDigits places x).1
  obtain ⟨c, cs, hcons⟩ := List.exists_cons_of_ne_nil hdigits.1
  have hmem : ∀ d ∈ c :: cs, d.isDigit = true := hcons ▸ hdigits.2
  have hform : exponentForm separators places letter x =
      assemble separators false x.isNegative [c] cs ++
        letter :: (if (leadingDigits places x).2 < 0 then '-' else '+') ::
          (decimalDigits (leadingDigits places x).2.natAbs).leftpad 3 '0' := by
    rw [exponentForm]
    dsimp only
    rw [hcons, List.append_assoc]
    rfl
  rw [hform]
  refine ⟨.assembled false x.isNegative (isDigits_singleton (hmem c List.mem_cons_self))
    (fun d hd => hmem d (List.mem_cons_of_mem c hd)) ?_ ?_, rfl⟩
  · intro d hd halpha
    rcases List.mem_cons.1 hd with rfl | hd
    · exact hletter
    rcases List.mem_cons.1 hd with rfl | hd
    · split at halpha <;> cases halpha
    · cases (isAlpha_of_isDigit ((isDigits_leftpad _ _).2 d hd)).symm.trans halpha
  · have halpha : (!letter.isAlpha) = false := by rcases hletter with rfl | rfl <;> rfl
    rw [beforeLetters, List.takeWhile_cons, if_neg (by rw [halpha]; exact Bool.false_ne_true)]
    exact nofun

theorem isDigits_replicate {k : Nat} {c : Char} (h : c ∈ List.replicate k '0') :
    c.isDigit = true := by
  rw [List.eq_of_mem_replicate h]
  rfl

/-- In positions there are digits before the point, and none but digits behind it. -/
theorem isMantissa_positional (hdigits : IsDigits digits) (top : Int) :
    IsMantissa separators (localizePoint separators (Numeral.positional false digits top)) := by
  have hwhole : IsDigits (if top < 0 then ['0']
      else (digits.take (top.toNat + 1)).rightpad (top.toNat + 1) '0') := by
    split
    · exact isDigits_singleton rfl
    · refine ⟨?_, fun c hc => ?_⟩
      · obtain ⟨c, cs, rfl⟩ := List.exists_cons_of_ne_nil hdigits.1
        rw [List.take_succ_cons]
        exact List.cons_ne_nil _ _
      · rcases List.mem_append.1 hc with htake | hzero
        · exact hdigits.2 c (List.mem_of_mem_take htake)
        · exact isDigits_replicate hzero
  have hfraction : ∀ c ∈ (if top < 0 then List.replicate (-top - 1).toNat '0' ++ digits
      else digits.drop (top.toNat + 1)), c.isDigit = true := by
    intro c hc
    split at hc
    · rcases List.mem_append.1 hc with hzero | hdigit
      · exact isDigits_replicate hzero
      · exact hdigits.2 c hdigit
    · exact hdigits.2 c (List.mem_of_mem_drop hc)
  rw [Numeral.positional]
  generalize (if top < 0 then ['0'] else _) = whole at *
  generalize (if top < 0 then _ else digits.drop _) = fraction at *
  have hself {cs : List Char} (h : ∀ c ∈ cs, c.isDigit = true) : localizePoint separators cs = cs :=
    localizePoint_of_not_mem fun hpoint => by cases h '.' hpoint
  have hparts : IsMantissa separators _ := .of_digits false hwhole hfraction
  rw [localizePoint, List.map_append, ← localizePoint, ← localizePoint, hself hwhole.2]
  cases fraction with
  | nil => exact hparts
  | cons c cs =>
    have hrest : localizePoint separators ('.' :: c :: cs) = separators.decimal :: c :: cs :=
      congrArg (separators.decimal :: ·) (hself hfraction)
    exact hrest ▸ hparts

theorem isDigits_significantDigits (n : Nat) : IsDigits (Numeral.significantDigits n) := by
  rw [Numeral.significantDigits]
  split
  next => exact isDigits_singleton rfl
  next hne =>
    refine ⟨mt List.isEmpty_iff.2 hne, fun c hc => ?_⟩
    have hkept := (List.dropWhile_suffix _).subset (List.mem_reverse.1 hc)
    exact isDigit_of_mem_decimalDigits (List.mem_reverse.1 hkept)

/-- The default text of a finite value has its sign. -/
theorem exists_parts_numeral (separators : Separators) (hfinite : x.isFinite = true) :
    ∃ p : NumeralParts separators (localizePoint separators (x.numeral .plain)),
      p.negative = x.isNegative := by
  cases x with
  | finite negative significand shift h =>
    have hnumeral : ∃ ds top, IsDigits ds ∧
        (Binary64.finite negative significand shift h).numeral .plain =
          (if negative then ['-'] else []) ++ Numeral.positional false ds top :=
      ⟨_, _, isDigits_significantDigits _, rfl⟩
    obtain ⟨ds, top, hds, hnumeral⟩ := hnumeral
    have hsign : localizePoint separators (if negative then ['-'] else []) =
        if negative then ['-'] else [] := by cases negative <;> rfl
    refine ⟨⟨negative, _, [], ?_, isMantissa_positional hds top, nofun, nofun⟩, rfl⟩
    rw [hnumeral, localizePoint, List.map_append, ← localizePoint, ← localizePoint, hsign,
      List.append_nil]
  | _ => cases hfinite

end Forms

end MessageTemplate
