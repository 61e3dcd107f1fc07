import Mathlib.Data.Nat.Log
import MessageTemplate.Proofs.Number.Specifiers

/-!
# Integers in full digits

The decimal and the hexadecimal form of an integer lose nothing of it: the digits denote the number,
or its complement of 64 bits, and there are as many as are needed or asked for.

- **Notation** (`placeValue`): what digits denote in a base. The digits of a number denote it
  (`placeValue_toDigits`), and zeros in front do not matter (`placeValue_leftpad`).
- **The two forms** (`IsDecimalForm`, `IsHexForm`): the texts that a number may have in at least
  some number of digits. A text belongs to one number (`IsDecimalForm.unique`).
- **Nothing is lost** (`formatWith_lossless`): arguments have these forms.
-/

namespace MessageTemplate

/-! ## Digits in a base -/

/-- The number that digits denote in a base; `value` is what each of them stands for. -/
def placeValue (base : Nat) (value : Char → Nat) (digits : List Char) : Nat :=
  Nat.ofDigits base (digits.reverse.map value)

section PlaceValue

variable {base : Nat} {value : Char → Nat}

theorem placeValue_concat (digits : List Char) (c : Char) :
    placeValue base value (digits ++ [c]) = value c + base * placeValue base value digits := by
  rw [placeValue, List.reverse_append, List.reverse_singleton, List.singleton_append, List.map_cons,
    Nat.ofDigits_cons, placeValue]

theorem placeValue_map (f : Char → Char) (digits : List Char) :
    placeValue base value (digits.map f) = placeValue base (fun c => value (f c)) digits := by
  rw [placeValue, ← List.map_reverse, List.map_map, placeValue, Function.comp_def]

/-- The digits of a number denote it. -/
theorem placeValue_toDigits (hbase : 1 < base) (hvalue : ∀ d < base, value d.digitChar = d)
    (n : Nat) : placeValue base value (Nat.toDigits base n) = n := by
  induction n using Nat.strongRecOn with
  | ind n ih =>
    rw [Nat.toDigits_eq_if hbase]
    split
    next hlt =>
      have hsingle : placeValue base value ([] ++ [n.digitChar]) =
          value n.digitChar + base * placeValue base value [] := placeValue_concat [] _
      rw [List.nil_append, hvalue n hlt] at hsingle
      exact hsingle
    next hle =>
      have hmod : n % base < base := Nat.mod_lt _ (by omega)
      have hdiv : n / base < n := Nat.div_lt_self (by omega) hbase
      rw [placeValue_concat, hvalue _ hmod, ih _ hdiv, Nat.mod_add_div]

/-- Zeros in front do not matter. -/
theorem placeValue_leftpad (hzero : value '0' = 0) (width : Nat) (digits : List Char) :
    placeValue base value (digits.leftpad width '0') = placeValue base value digits := by
  rw [placeValue, List.leftpad, List.reverse_append, List.reverse_replicate, List.map_append,
    List.map_replicate, hzero, Nat.ofDigits_append_replicate_zero, placeValue]

/-- The digits of a number are those of the base. -/
theorem exists_of_mem_toDigits (hbase : 1 < base) {n : Nat} {c : Char}
    (h : c ∈ Nat.toDigits base n) : ∃ d < base, c = d.digitChar := by
  induction n using Nat.strongRecOn with
  | ind n ih =>
    rw [Nat.toDigits_eq_if hbase] at h
    split at h
    next hlt => exact ⟨n, hlt, List.mem_singleton.1 h⟩
    next hle =>
      rcases List.mem_append.1 h with hmem | hlast
      · exact ih _ (Nat.div_lt_self (by omega) hbase) hmem
      · exact ⟨n % base, Nat.mod_lt _ (by omega), List.mem_singleton.1 hlast⟩

theorem length_toDigits (hbase : 1 < base) (n : Nat) :
    (Nat.toDigits base n).length = Nat.log base n + 1 := by
  induction n using Nat.strongRecOn with
  | ind n ih =>
    rw [Nat.toDigits_eq_if hbase]
    split
    next hlt => rw [Nat.log_of_lt hlt, List.length_singleton]
    next hle =>
      have hdiv : n / base < n := Nat.div_lt_self (by omega) hbase
      rw [List.length_append, ih _ hdiv, List.length_singleton,
        Nat.log_of_one_lt_of_le hbase (Nat.le_of_not_lt hle)]

end PlaceValue

/-! ## The decimal form -/

/-- The sign of a negative number; others have none. -/
def signText (n : Int) : List Char := if n < 0 then ['-'] else []

/-- The text is the sign of the number and the decimal digits of its magnitude: as many as these are
without zeros in front, or as `width` asks for if that is more. -/
def IsDecimalForm (n : Int) (width : Nat) (text : String) : Prop :=
  ∃ digits, text.toList = signText n ++ digits ∧ IsDigits digits ∧
    digitsValue digits = n.natAbs ∧ digits.length = max width (Nat.log 10 n.natAbs + 1)

theorem isDigits_leftpad (width n : Nat) : IsDigits ((decimalDigits n).leftpad width '0') := by
  refine ⟨?_, fun c hc => ?_⟩
  · rw [List.leftpad]
    exact List.append_ne_nil_of_right_ne_nil _ (decimalDigits_ne_nil n)
  · rcases List.mem_append.1 hc with hzero | hdigit
    · rw [List.eq_of_mem_replicate hzero]
      rfl
    · exact isDigit_of_mem_decimalDigits hdigit

theorem digitsValue_leftpad (width n : Nat) :
    digitsValue ((decimalDigits n).leftpad width '0') = n := by
  have hvalue : ∀ d < 10, d.digitChar.toNat - '0'.toNat = d := by decide
  exact (placeValue_leftpad (by decide) width _).trans
    (placeValue_toDigits (by decide) hvalue n)

theorem isDecimalForm_leftpad (n : Int) (width : Nat) : IsDecimalForm n width
    (String.ofList (signText n ++ (decimalDigits n.natAbs).leftpad width '0')) :=
  ⟨_, String.toList_ofList, isDigits_leftpad width _, digitsValue_leftpad width _, by
    rw [List.length_leftpad, decimalDigits, length_toDigits (by decide)]⟩

/-- A text is the decimal form of one number. -/
theorem IsDecimalForm.unique {m n : Int} {width width' : Nat} {text : String}
    (hm : IsDecimalForm m width text) (hn : IsDecimalForm n width' text) : m = n := by
  obtain ⟨ds, hds, hdigits, hvalue, -⟩ := hm
  obtain ⟨es, hes, hdigits', hvalue', -⟩ := hn
  have htext : signText m ++ ds = signText n ++ es := hds.symm.trans hes
  have hno {cs : List Char} (h : IsDigits ('-' :: cs)) : False :=
    absurd (h.2 '-' List.mem_cons_self) (by decide)
  unfold signText at htext
  split at htext <;> split at htext
  · obtain rfl : ds = es := List.cons_inj_right _ |>.1 htext
    omega
  · rw [List.nil_append] at htext
    exact (hno (htext ▸ hdigits')).elim
  · rw [List.nil_append] at htext
    exact (hno (htext ▸ hdigits)).elim
  · obtain rfl : ds = es := htext
    omega

/-! ## The hexadecimal form -/

/-- The hexadecimal digits in their order, with capital or with small letters. -/
def hexAlphabet (capital : Bool) : List Char :=
  if capital then "0123456789ABCDEF".toList else "0123456789abcdef".toList

/-- The text is the number in hexadecimal digits: as many as it has without zeros in front, or as
`width` asks for if that is more. -/
structure IsHexForm (capital : Bool) (n width : Nat) (text : String) : Prop where
  digits : ∀ c ∈ text.toList, c ∈ hexAlphabet capital
  value : placeValue 16 (hexAlphabet capital).idxOf text.toList = n
  length : text.length = max width (Nat.log 16 n + 1)

/-- A digit in the asked case. -/
def inCase (capital : Bool) (c : Char) : Char := if capital then c.toUpper else c

theorem inCase_digitChar_mem (capital : Bool) :
    ∀ d < 16, inCase capital d.digitChar ∈ hexAlphabet capital := by
  cases capital <;> decide +kernel

theorem idxOf_inCase_digitChar (capital : Bool) :
    ∀ d < 16, (hexAlphabet capital).idxOf (inCase capital d.digitChar) = d := by
  cases capital <;> decide +kernel

theorem isHexForm_leftpad (capital : Bool) (n width : Nat) : IsHexForm capital n width
    (String.ofList (((hexDigits n).map (inCase capital)).leftpad width '0')) where
  digits c hc := by
    rw [String.toList_ofList] at hc
    rcases List.mem_append.1 hc with hzero | hdigit
    · rw [List.eq_of_mem_replicate hzero]
      cases capital <;> decide +kernel
    · obtain ⟨e, he, rfl⟩ := List.mem_map.1 hdigit
      obtain ⟨d, hd, rfl⟩ := exists_of_mem_toDigits (by decide) he
      exact inCase_digitChar_mem capital d hd
  value := by
    have hzero : (hexAlphabet capital).idxOf '0' = 0 := by cases capital <;> decide +kernel
    rw [String.toList_ofList, placeValue_leftpad hzero, placeValue_map]
    exact placeValue_toDigits (by decide) (idxOf_inCase_digitChar capital) n
  length := by
    rw [String.length_ofList, List.length_leftpad, List.length_map, hexDigits,
      length_toDigits (by decide)]

/-! ## Arguments -/

/-- The integer that an argument is, if it is of one of the two kinds of integers. -/
def Argument.integer? : Argument → Option Int
  | .int n => some n.toInt
  | .uint n => some n.toNat
  | .null | .bool _ | .char _ | .float _ | .str _ | .dateTime _ | .list _ | .record _
  | .custom _ => none

section Arguments

variable {spec : String} {letter : Char} {digits : List Char} {a : Argument} {n : Int}

theorem Argument.formatWith_of_integer? (separators : Separators) (h : a.integer? = some n)
    (spec : String) : a.formatWith separators spec =
      some ((formatInteger separators spec n).mapError (specifierError spec)) := by
  cases a with
  | int | uint => cases h; rfl
  | _ => cases h

/-- An integer in a format that is spelled with a letter of some form. -/
theorem Argument.formatWith_of_spelled {separators : Separators} {cs : List Char}
    (hspec : Specifier.Spelled spec letter digits) (h : a.integer? = some n)
    (hwrite : formatIntegerBy separators (.ofDigits letter digits) n = .ok cs) :
    a.formatWith separators spec = some (.ok (String.ofList cs)) := by
  have hwriter := goesByLetter_formatIntegerBy separators n
  have hletter : letter ∈ integerLetters := by
    by_contra hmem
    cases (hwriter.refuses (.ofDigits letter digits) hmem).symm.trans hwrite
  have hparse := Specifier.parse_of_spelled hspec (hwriter.isAlpha letter hletter)
  rw [formatWith_of_integer? separators h, formatInteger]
  simp only [hparse, hwrite, bind, Except.bind, pure, Except.pure, Except.mapError]

theorem formatIntegerBy_decimal {s : Specifier} (separators : Separators) (n : Int)
    (hform : NumericForm.ofLetter? s.letter = some .decimal) : formatIntegerBy separators s n =
      .ok (signText n ++ (decimalDigits n.natAbs).leftpad (s.precision.getD 0) '0') := by
  unfold formatIntegerBy
  rw [hform, signText]

theorem formatIntegerBy_hex {s : Specifier} (separators : Separators) (n : Int)
    (hform : NumericForm.ofLetter? s.letter = some .hex) : formatIntegerBy separators s n =
      .ok (((hexDigits (n % UInt64.size).toNat).map (inCase (s.letter == 'X'))).leftpad
        (s.precision.getD 0) '0') := by
  unfold formatIntegerBy
  rw [hform]
  by_cases hcapital : s.letter = 'X'
  · have hcase : inCase (s.letter == 'X') = Char.toUpper := by rw [hcapital]; rfl
    simp only [hcapital, if_true, ← hcase]
  · have hcase : inCase (s.letter == 'X') = id := by
      rw [beq_eq_false_iff_ne.2 hcapital]
      rfl
    simp only [hcapital, if_false, hcase, List.map_id]

theorem Argument.exists_decimalForm (separators : Separators)
    (hspec : Specifier.Spelled spec letter digits) (hletter : letter = 'D' ∨ letter = 'd')
    (h : a.integer? = some n) : ∃ text, a.formatWith separators spec = some (.ok text) ∧
      IsDecimalForm n (digitsValue digits) text := by
  have hform : NumericForm.ofLetter? letter = some .decimal :=
    NumericForm.ofLetter?_eq_some_iff.2 hletter
  rw [← Specifier.precision_getD_zero letter]
  exact ⟨_, a.formatWith_of_spelled hspec h (formatIntegerBy_decimal separators n hform),
    isDecimalForm_leftpad n _⟩

theorem Argument.exists_hexForm (separators : Separators)
    (hspec : Specifier.Spelled spec letter digits) (hletter : letter = 'X' ∨ letter = 'x')
    (h : a.integer? = some n) : ∃ text, a.formatWith separators spec = some (.ok text) ∧
      IsHexForm (letter == 'X') (n % UInt64.size).toNat (digitsValue digits) text := by
  have hform : NumericForm.ofLetter? letter = some .hex :=
    NumericForm.ofLetter?_eq_some_iff.2 hletter
  rw [← Specifier.precision_getD_zero letter]
  exact ⟨_, a.formatWith_of_spelled hspec h (formatIntegerBy_hex separators n hform),
    isHexForm_leftpad _ _ _⟩

/-- Arguments that are written alike share a text, and all that is known of either's. -/
theorem Argument.exists_common_text {separators : Separators} {a b : Argument}
    {p q : String → Prop}
    (ha : ∃ text, a.formatWith separators spec = some (.ok text) ∧ p text)
    (hb : ∃ text, b.formatWith separators spec = some (.ok text) ∧ q text)
    (heq : a.formatWith separators spec = b.formatWith separators spec) :
    ∃ text, p text ∧ q text := by
  obtain ⟨text, htext, hp⟩ := ha
  obtain ⟨text', htext', hq⟩ := hb
  rw [htext, htext', Option.some.injEq, Except.ok.injEq] at heq
  exact ⟨text, hp, heq ▸ hq⟩

end Arguments

/-- **Nothing is lost.** The format `D` writes an integer with its sign and its decimal digits, `X`
the hexadecimal digits of its complement of 64 bits; either fills with zeros up to the precision and
leaves no digit out. So two integers of the same text under `D` are the same, of whatever kinds they
are, and so are two of one kind under `X`. -/
theorem formatWith_lossless (separators : Separators) {spec : String} {letter : Char}
    {digits : List Char} (hspec : Specifier.Spelled spec letter digits) :
    (letter = 'D' ∨ letter = 'd' →
      (∀ a n, Argument.integer? a = some n → ∃ text,
        a.formatWith separators spec = some (.ok text) ∧
          IsDecimalForm n (digitsValue digits) text) ∧
      ∀ a b m n, Argument.integer? a = some m → Argument.integer? b = some n →
        a.formatWith separators spec = b.formatWith separators spec → m = n) ∧
    (letter = 'X' ∨ letter = 'x' →
      (∀ a n, Argument.integer? a = some n → ∃ text,
        a.formatWith separators spec = some (.ok text) ∧
          IsHexForm (letter == 'X') (n % UInt64.size).toNat (digitsValue digits) text) ∧
      (∀ m n : Int64, (Argument.int m).formatWith separators spec =
        (Argument.int n).formatWith separators spec → m = n) ∧
      ∀ m n : UInt64, (Argument.uint m).formatWith separators spec =
        (Argument.uint n).formatWith separators spec → m = n) := by
  constructor
  · intro hletter
    have hform {a : Argument} {n : Int} (h : a.integer? = some n) :=
      a.exists_decimalForm separators hspec hletter h
    refine ⟨fun a n h => hform h, fun a b m n ha hb heq => ?_⟩
    obtain ⟨text, hm, hn⟩ := Argument.exists_common_text (hform ha) (hform hb) heq
    exact hm.unique hn
  · intro hletter
    have hform {a : Argument} {n : Int} (h : a.integer? = some n) :=
      a.exists_hexForm separators hspec hletter h
    -- Equal texts belong to integers that are equal up to a multiple of `2 ^ 64`.
    have hresidue {a b : Argument} {m n : Int} (ha : a.integer? = some m) (hb : b.integer? = some n)
        (heq : a.formatWith separators spec = b.formatWith separators spec) :
        (m % UInt64.size).toNat = (n % UInt64.size).toNat := by
      obtain ⟨text, hm, hn⟩ := Argument.exists_common_text (hform ha) (hform hb) heq
      rw [← hm.value, ← hn.value]
    refine ⟨fun a n h => hform h, fun m n heq => ?_, fun m n heq => ?_⟩
    · have hmod := hresidue rfl rfl heq
      have hm := And.intro m.le_toInt m.toInt_lt
      have hn := And.intro n.le_toInt n.toInt_lt
      rw [UInt64.size] at hmod
      exact Int64.toInt_inj.1 (by omega)
    · have hmod := hresidue rfl rfl heq
      have hm := m.toNat_lt
      have hn := n.toNat_lt
      rw [UInt64.size] at hmod
      exact UInt64.toNat_inj.1 (by omega)

/-- The least integer of 64 bits in 25 digits, and the greatest number of 64 bits as the complement
of the greatest negative one. The sign tells apart what the digits do not. -/
theorem formatWith_lossless_extremes :
    (∃ text, (Argument.int Int64.minValue).formatWith .invariant "D025" = some (.ok text) ∧
      IsDecimalForm (-9223372036854775808) 25 text) ∧
    (Argument.int (-1)).formatWith .invariant "D025" ≠
      (Argument.uint 1).formatWith .invariant "D025" ∧
    (∃ text, (Argument.int (-1)).formatWith .invariant "x" = some (.ok text) ∧
      IsHexForm false 18446744073709551615 0 text) ∧
    (Argument.int (-1)).formatWith .invariant "x" ≠
      (Argument.int 4294967295).formatWith .invariant "x" ∧
    (Argument.uint 1).formatWith .invariant "x" ≠ (Argument.uint 16).formatWith .invariant "x" := by
  have hdecimal : Specifier.Spelled "D025" 'D' ['0', '2', '5'] :=
    ⟨by decide +kernel, List.all_eq_true.1 (by decide), by decide +kernel⟩
  have hhex : Specifier.Spelled "x" 'x' [] := ⟨by decide +kernel, nofun, by decide⟩
  obtain ⟨hform, hinj⟩ := (formatWith_lossless .invariant hdecimal).1 (.inl rfl)
  obtain ⟨hform', hinj', hinj''⟩ := (formatWith_lossless .invariant hhex).2 (.inr rfl)
  have hwidth : digitsValue ['0', '2', '5'] = 25 := by decide +kernel
  have hleast := hform (.int Int64.minValue) _ rfl
  have hgreatest := hform' (.int (-1)) _ rfl
  rw [hwidth] at hleast
  refine ⟨hleast, fun heq => ?_, hgreatest, fun heq => ?_, fun heq => ?_⟩
  · exact absurd (hinj (.int (-1)) (.uint 1) _ _ rfl rfl heq) (by decide)
  · exact absurd (hinj' _ _ heq) (by decide)
  · exact absurd (hinj'' _ _ heq) (by decide)

end MessageTemplate
