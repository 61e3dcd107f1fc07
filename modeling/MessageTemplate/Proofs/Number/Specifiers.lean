import MessageTemplate.Proofs.Number.Decimal
import MessageTemplate.Render.Weave

/-!
# The formats that numbers accept

Whether a number can be written in a format is up to the format alone: all integers accept the same
specifiers, and so do all floating-point values.

- **Spelling** (`Specifier.Spelled`): a letter and the decimal digits of the precision.
  `Specifier.parse_of_spelled` and `Specifier.spelled_of_parse` say that nothing else is read.
- **Letters** (`integerLetters`, `floatLetters`): those that mean something for a kind of number.
  The writers of numbers look at nothing else (`Specifier.GoesByLetter`).
- **Refusals** (`Specifier.refusal`): a text is accepted or refused, and a refusal does not depend
  on the number either (`Specifier.GoesByLetter.writeBy_of_not_accepted`).
- **One answer for all numbers** (`formats_accepted`): the same for arguments and for holes.
-/

namespace MessageTemplate

namespace Specifier

/-! ## Spelling -/

/-- The text is a letter with decimal digits behind it. They denote at most 99; no digits are as
good as a zero here. -/
structure Spelled (spec : String) (letter : Char) (digits : List Char) : Prop where
  toList : spec.toList = letter :: digits
  isDigit : ∀ c ∈ digits, c.isDigit = true
  le : digitsValue digits ≤ 99

/-- The specifier that a letter and digits spell. -/
def ofDigits (letter : Char) (digits : List Char) : Specifier :=
  ⟨letter, if digits.isEmpty then none else some (digitsValue digits)⟩

/-- The precision that digits spell; none leave it at a default. -/
theorem ofDigits_precision_getD (letter : Char) (digits : List Char) (default : Nat) :
    (ofDigits letter digits).precision.getD default =
      if digits = [] then default else digitsValue digits := by
  cases digits <;> rfl

theorem precision_getD_zero (letter : Char) (digits : List Char) :
    (ofDigits letter digits).precision.getD 0 = digitsValue digits := by
  cases digits <;> rfl

section Parse

variable {spec : String} {letter : Char} {digits : List Char} {s : Specifier}

theorem parse_of_spelled (h : Spelled spec letter digits) (hletter : letter.isAlpha = true) :
    parse spec = .ok (ofDigits letter digits) := by
  have hdigits : digits.all Char.isDigit = true := List.all_eq_true.2 h.isDigit
  unfold parse
  simp only [h.toList, hletter, hdigits, ofDigitChars_eq_digitsValue, Bool.not_true, Bool.or_self,
    Bool.false_eq_true, if_false, ofDigits]
  split
  · rfl
  · rw [if_pos (show digitsValue digits ≤ maxPrecision from h.le)]

theorem spelled_of_parse (h : parse spec = .ok s) :
    ∃ digits, Spelled spec s.letter digits ∧ s = ofDigits s.letter digits := by
  unfold parse at h
  split at h
  next => cases h
  next letter digits hspec =>
    split at h
    · cases h
    next hform =>
      have hdigits : ∀ c ∈ digits, c.isDigit = true := by simp_all
      split at h
      next hempty =>
        cases h
        obtain rfl : digits = [] := List.isEmpty_iff.1 hempty
        exact ⟨[], ⟨hspec, hdigits, by decide⟩, rfl⟩
      next hne =>
        rw [ofDigitChars_eq_digitsValue] at h
        dsimp only at h
        split at h
        next hle =>
          cases h
          exact ⟨digits, ⟨hspec, hdigits, hle⟩, by rw [ofDigits, if_neg hne]⟩
        next => cases h

end Parse

/-! ## Writers that go by the letter -/

/-- The text is a specifier with one of the letters. -/
def Accepted (letters : List Char) (spec : String) : Prop :=
  ∃ letter digits, Spelled spec letter digits ∧ letter ∈ letters

/-- What a text that is not accepted is refused with. -/
def refusal (spec : String) : Error :=
  match parse spec with
  | .ok _ => .unsupported
  | .error e => e

/-- The text that a writer makes of the specifier that is read from `spec`. -/
def writeBy (write : Specifier → Except Error (List Char)) (spec : String) :
    Except Error String := do
  let s ← parse spec
  return String.ofList (← write s)

/-- The writer takes the specifiers that have one of the letters, whatever their precision. -/
structure GoesByLetter (letters : List Char) (write : Specifier → Except Error (List Char)) :
    Prop where
  isAlpha : ∀ c ∈ letters, c.isAlpha = true
  writes : ∀ s, s.letter ∈ letters → ∃ cs, write s = .ok cs
  refuses : ∀ s, s.letter ∉ letters → write s = .error .unsupported

namespace GoesByLetter

variable {letters : List Char} {write : Specifier → Except Error (List Char)} {spec : String}

theorem writeBy_of_accepted (h : GoesByLetter letters write) (hspec : Accepted letters spec) :
    ∃ text, writeBy write spec = .ok text := by
  obtain ⟨letter, digits, hspelled, hmem⟩ := hspec
  obtain ⟨cs, hcs⟩ := h.writes (ofDigits letter digits) hmem
  refine ⟨String.ofList cs, ?_⟩
  rw [writeBy, parse_of_spelled hspelled (h.isAlpha letter hmem)]
  simp only [bind, Except.bind, hcs, pure, Except.pure]

theorem writeBy_of_not_accepted (h : GoesByLetter letters write)
    (hspec : ¬Accepted letters spec) : writeBy write spec = .error (refusal spec) := by
  unfold writeBy refusal
  cases hparse : parse spec with
  | error e => rfl
  | ok s =>
    obtain ⟨digits, hspelled, -⟩ := spelled_of_parse hparse
    have hletter : s.letter ∉ letters := fun hmem => hspec ⟨_, _, hspelled, hmem⟩
    simp only [bind, Except.bind, h.refuses s hletter]

theorem exists_writeBy_iff (h : GoesByLetter letters write) :
    (∃ text, writeBy write spec = .ok text) ↔ Accepted letters spec := by
  refine ⟨fun ⟨text, htext⟩ => ?_, h.writeBy_of_accepted⟩
  by_contra hspec
  cases (h.writeBy_of_not_accepted hspec).symm.trans htext

end GoesByLetter

end Specifier

/-! ## The letters of numbers -/

/-- The capital letter of a form. -/
def NumericForm.capital : NumericForm → Char
  | .decimal => 'D'
  | .hex => 'X'
  | .fixed => 'F'
  | .grouped => 'N'
  | .general => 'G'
  | .exponent => 'E'
  | .percent => 'P'

/-- The letters of the formats that integers have. -/
def integerLetters : List Char :=
  ['D', 'd', 'X', 'x', 'F', 'f', 'N', 'n', 'E', 'e', 'P', 'p', 'G', 'g']

/-- The letters of the formats that floating-point values have. -/
def floatLetters : List Char := ['F', 'f', 'N', 'n', 'E', 'e', 'P', 'p', 'G', 'g']

/-- A letter whose capital is `d` is `d` itself or stands as far behind it as `a` behind `A`. -/
theorem eq_or_val_eq_of_toUpper {c d : Char} (h : c.toUpper = d) :
    c = d ∨ c.val = d.val - ('A'.val - 'a'.val) := by
  unfold Char.toUpper at h
  split at h
  · refine .inr ?_
    rw [← h, UInt32.add_sub_cancel]
  · exact .inl h

/-- A form is asked for by its capital letter and by the small one. -/
theorem NumericForm.ofLetter?_eq_some_iff {letter : Char} {form : NumericForm} :
    ofLetter? letter = some form ↔ letter = form.capital ∨ letter = form.capital.toLower := by
  constructor
  · intro h
    have hcapital : letter.toUpper = form.capital := by
      unfold ofLetter? at h
      split at h <;> cases h <;> assumption
    rcases eq_or_val_eq_of_toUpper hcapital with heq | hval
    · exact .inl heq
    · exact .inr (Char.ext (hval.trans (by cases form <;> rfl)))
  · rintro (rfl | rfl) <;> cases form <;> rfl

theorem mem_integerLetters_iff {letter : Char} :
    letter ∈ integerLetters ↔ ∃ form, NumericForm.ofLetter? letter = some form := by
  have hforms : integerLetters.all (fun c => (NumericForm.ofLetter? c).isSome) = true := by decide
  constructor
  · exact fun h => Option.isSome_iff_exists.1 (List.all_eq_true.1 hforms letter h)
  · rintro ⟨form, h⟩
    rcases NumericForm.ofLetter?_eq_some_iff.1 h with rfl | rfl <;> cases form <;> decide

/-- Whether the form leaves room for a fraction. -/
def NumericForm.isFractional : NumericForm → Bool
  | .decimal | .hex => false
  | .fixed | .grouped | .general | .exponent | .percent => true

theorem mem_floatLetters_iff {letter : Char} : letter ∈ floatLetters ↔
    ∃ form, NumericForm.ofLetter? letter = some form ∧ form.isFractional = true := by
  have hforms : floatLetters.all
      (fun c => (NumericForm.ofLetter? c).any NumericForm.isFractional) = true := by decide
  constructor
  · exact fun h => (Option.any_eq_true _ _).1 (List.all_eq_true.1 hforms letter h)
  · rintro ⟨form, h, hfractional⟩
    rcases NumericForm.ofLetter?_eq_some_iff.1 h with rfl | rfl <;> cases form <;>
      first | decide | cases hfractional

/-! ## The writers of numbers -/

theorem formatFloatBy_of_mem (separators : Separators) (x : Binary64) (s : Specifier)
    (h : s.letter ∈ floatLetters) : ∃ cs, formatFloatBy separators s x = .ok cs := by
  obtain ⟨form, hform, hfractional⟩ := mem_floatLetters_iff.1 h
  unfold formatFloatBy
  rw [hform]
  cases form with
  | decimal | hex => cases hfractional
  | fixed | grouped | general | exponent | percent =>
    dsimp only
    split <;> exact ⟨_, rfl⟩

theorem goesByLetter_formatFloatBy (separators : Separators) (x : Binary64) :
    Specifier.GoesByLetter floatLetters (formatFloatBy separators · x) where
  isAlpha := List.all_eq_true.1 (by decide)
  writes := formatFloatBy_of_mem separators x
  refuses s h := by
    have hnone (form : NumericForm) (hform : NumericForm.ofLetter? s.letter = some form) :
        form.isFractional = false := by
      simpa using fun hfractional => h (mem_floatLetters_iff.2 ⟨form, hform, hfractional⟩)
    unfold formatFloatBy
    cases hform : NumericForm.ofLetter? s.letter with
    | none => rfl
    | some form =>
      have hfractional := hnone form hform
      cases form with
      | decimal | hex => rfl
      | fixed | grouped | general | exponent | percent => cases hfractional

theorem goesByLetter_formatIntegerBy (separators : Separators) (n : Int) :
    Specifier.GoesByLetter integerLetters (formatIntegerBy separators · n) where
  isAlpha := List.all_eq_true.1 (by decide)
  writes s h := by
    obtain ⟨form, hform⟩ := mem_integerLetters_iff.1 h
    -- What integers do not write themselves is left to the writer of floating-point values.
    have hfloat (hfractional : form.isFractional = true) :
        ∃ cs, formatFloatBy separators s (.ofInt n) = .ok cs :=
      formatFloatBy_of_mem separators _ s (mem_floatLetters_iff.2 ⟨form, hform, hfractional⟩)
    unfold formatIntegerBy
    rw [hform]
    cases form with
    | decimal | hex | fixed | grouped => exact ⟨_, rfl⟩
    | exponent | percent => exact hfloat rfl
    | general =>
      dsimp only
      split
      · exact ⟨_, rfl⟩
      · exact hfloat rfl
  refuses s h := by
    have hnone : NumericForm.ofLetter? s.letter = none :=
      Option.eq_none_iff_forall_ne_some.2 fun form hform =>
        h (mem_integerLetters_iff.2 ⟨form, hform⟩)
    unfold formatIntegerBy
    rw [hnone]

/-! ## Arguments and holes -/

/-- The letters of the formats of numbers of the argument's kind, if it is a number. -/
def Argument.letters? : Argument → Option (List Char)
  | .int _ | .uint _ => some integerLetters
  | .float _ => some floatLetters
  | .null | .bool _ | .char _ | .str _ | .dateTime _ | .list _ | .record _ | .custom _ => none

namespace Argument

variable {a : Argument} {letters : List Char} {spec : String}

/-- A number is written by a writer that goes by the letters of its kind. -/
theorem exists_writeBy (separators : Separators) (h : a.letters? = some letters) (spec : String) :
    ∃ write, Specifier.GoesByLetter letters write ∧ a.formatWith separators spec =
      some ((Specifier.writeBy write spec).mapError (specifierError spec)) := by
  cases a with
  | int n =>
    cases h
    exact ⟨_, goesByLetter_formatIntegerBy separators n.toInt, rfl⟩
  | uint n =>
    cases h
    exact ⟨_, goesByLetter_formatIntegerBy separators n.toNat, rfl⟩
  | float x =>
    cases h
    exact ⟨_, goesByLetter_formatFloatBy separators x, rfl⟩
  | _ => cases h

theorem formatWith_of_accepted (separators : Separators) (h : a.letters? = some letters)
    (hspec : Specifier.Accepted letters spec) :
    ∃ text, a.formatWith separators spec = some (.ok text) := by
  obtain ⟨write, hwrite, hformat⟩ := exists_writeBy separators h spec
  obtain ⟨text, htext⟩ := hwrite.writeBy_of_accepted hspec
  exact ⟨text, by rw [hformat, htext]; rfl⟩

theorem formatWith_of_not_accepted (separators : Separators) (h : a.letters? = some letters)
    (hspec : ¬Specifier.Accepted letters spec) : a.formatWith separators spec =
      some (.error (.invalidFormat spec ((Specifier.refusal spec).message spec))) := by
  obtain ⟨write, hwrite, hformat⟩ := exists_writeBy separators h spec
  rw [hformat, hwrite.writeBy_of_not_accepted hspec]
  rfl

theorem display_of_letters? (h : a.letters? = some letters) : ∃ text, a.display = .ok text := by
  cases a with
  | int n | uint n | float x => exact ⟨_, rfl⟩
  | _ => cases h

theorem isPrimitive_of_letters? (h : a.letters? = some letters) : a.isPrimitive = true := by
  cases a with
  | int n | uint n | float x => rfl
  | _ => cases h

end Argument

/-- The hole has a text for every number whose kind has formats with these letters: it asks for the
default text, or for a format that is accepted. -/
def Hole.ShowsNumbers (hole : Hole) (letters : List Char) : Prop :=
  hole.isStringify = true ∨ hole.format = "" ∨ Specifier.Accepted letters hole.format

section Holes

variable {options : Options} {hole : Hole} {a : Argument} {letters : List Char}

theorem renderValue_of_letters? (hprovider : options.provider.formatter? = none)
    (h : a.letters? = some letters) : (renderValue options hole a).result =
      if hole.isStringify || hole.format.isEmpty then a.display
      else (a.formatWith options.provider.separators hole.format).getD a.display := by
  unfold renderValue
  rw [Argument.isPrimitive_of_letters? h, hprovider]
  cases hole.isStringify with
  | true => rfl
  | false =>
    cases hole.format.isEmpty with
    | true => simp
    | false => cases a.formatWith options.provider.separators hole.format <;> simp

theorem renderValue_of_showsNumbers (hprovider : options.provider.formatter? = none)
    (hshows : hole.ShowsNumbers letters) (h : a.letters? = some letters) :
    ∃ text, (renderValue options hole a).result = .ok text := by
  rw [renderValue_of_letters? hprovider h]
  split
  next => exact Argument.display_of_letters? h
  next hformat =>
    obtain ⟨hstringify, hne⟩ : hole.isStringify = false ∧ hole.format ≠ "" := by simpa using hformat
    rcases hshows with htrue | hempty | hspec
    · cases hstringify.symm.trans htrue
    · exact absurd hempty hne
    · obtain ⟨text, htext⟩ := Argument.formatWith_of_accepted options.provider.separators h hspec
      exact ⟨text, by rw [htext]; rfl⟩

theorem renderValue_of_not_showsNumbers (hprovider : options.provider.formatter? = none)
    (hshows : ¬hole.ShowsNumbers letters) (h : a.letters? = some letters) :
    (renderValue options hole a).result = .error
      (.invalidFormat hole.format ((Specifier.refusal hole.format).message hole.format)) := by
  simp only [Hole.ShowsNumbers, not_or] at hshows
  obtain ⟨hstringify, hne, hspec⟩ := hshows
  rw [renderValue_of_letters? hprovider h, if_neg (by simp [hstringify, hne]),
    Argument.formatWith_of_not_accepted _ h hspec]
  rfl

end Holes

/-- **One answer for all numbers.** An integer can be written in a format exactly if the format is
one of the letters D, X, F, N, E, P and G, capital or small, with any decimal digits behind it that
denote at most 99. A floating-point value can be written exactly if the letter is none of the first
two. A number that cannot be written fails with the error that names the format, which is the same
for all of them; so in a hole either all numbers of a kind have a text or all fail in one way. -/
theorem formats_accepted (spec : String) :
    (∀ separators n, (∃ text, formatInteger separators spec n = .ok text) ↔
      Specifier.Accepted integerLetters spec) ∧
    (∀ separators x, (∃ text, formatFloat separators spec x = .ok text) ↔
      Specifier.Accepted floatLetters spec) ∧
    ∃ message, (RenderError.invalidFormat spec message).kind = "FormatError" ∧
      (∀ separators a letters, Argument.letters? a = some letters →
        (Specifier.Accepted letters spec →
          ∃ text, a.formatWith separators spec = some (.ok text)) ∧
        (¬Specifier.Accepted letters spec →
          a.formatWith separators spec = some (.error (.invalidFormat spec message)))) ∧
      ∀ (options : Options) (hole : Hole) letters, options.provider.formatter? = none →
        hole.format = spec →
        (hole.ShowsNumbers letters → ∀ a, Argument.letters? a = some letters →
          ∃ text, (renderValue options hole a).result = .ok text) ∧
        (¬hole.ShowsNumbers letters → ∀ a, Argument.letters? a = some letters →
          (renderValue options hole a).result = .error (.invalidFormat spec message)) := by
  refine ⟨fun separators n => (goesByLetter_formatIntegerBy separators n).exists_writeBy_iff,
    fun separators x => (goesByLetter_formatFloatBy separators x).exists_writeBy_iff,
    (Specifier.refusal spec).message spec, rfl, fun separators a letters h =>
      ⟨Argument.formatWith_of_accepted separators h,
        Argument.formatWith_of_not_accepted separators h⟩, ?_⟩
  rintro options hole letters hprovider rfl
  exact ⟨fun hshows a h => renderValue_of_showsNumbers hprovider hshows h,
    fun hshows a h => renderValue_of_not_showsNumbers hprovider hshows h⟩

/-- Zeros in front of the precision do not matter, however many there are. All integers have this
format, no floating-point value has it. -/
theorem formats_accepted_zeros :
    let spec := "x000000000000000000000012"
    let hole : Hole := ⟨⟨0, 29⟩, 0, "\x7b0:x000000000000000000000012\x7d", "0", "", spec⟩
    (∃ text, (Argument.uint 255).formatWith .invariant spec = some (.ok text)) ∧
      (∃ text, (renderValue {} hole (.int (-1))).result = .ok text) ∧
      ∃ message, (Argument.float (.zero true)).formatWith .invariant spec =
          some (.error (.invalidFormat spec message)) ∧
        (renderValue {} hole (.float .nan)).result = .error (.invalidFormat spec message) := by
  intro spec hole
  have hintegers : Specifier.Accepted integerLetters spec :=
    ⟨'x', "000000000000000000000012".toList,
      ⟨by decide +kernel, List.all_eq_true.1 (by decide +kernel), by decide +kernel⟩, by decide⟩
  have hfloats : ¬Specifier.Accepted floatLetters spec := by
    rintro ⟨letter, digits, hspelled, hmem⟩
    have hletter : letter = 'x' := by
      have hhead : spec.toList.head? = some letter := by rw [hspelled.toList]; rfl
      exact Option.some.inj (hhead.symm.trans (by decide +kernel))
    rw [hletter] at hmem
    exact absurd hmem (by decide)
  have hhole : ¬hole.ShowsNumbers floatLetters := by
    rintro (hstringify | hempty | hspec)
    · exact absurd hstringify (by decide +kernel)
    · exact absurd hempty (by decide +kernel)
    · exact hfloats hspec
  obtain ⟨-, -, message, -, hformat, hrender⟩ := formats_accepted spec
  exact ⟨(hformat .invariant (.uint 255) _ rfl).1 hintegers,
    (hrender {} hole _ rfl rfl).1 (.inr (.inr hintegers)) (.int (-1)) rfl, message,
    (hformat .invariant (.float (.zero true)) _ rfl).2 hfloats,
    (hrender {} hole _ rfl rfl).2 hhole (.float .nan) rfl⟩

end MessageTemplate
