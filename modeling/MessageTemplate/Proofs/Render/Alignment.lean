import MessageTemplate.Proofs.Number.Decimal
import MessageTemplate.Proofs.Render.Independence

/-!
# Fields are filled and never cut

The text of a hole stands in a field whose width its alignment gives. Spaces fill the field on one
side; a text that is too long is left as it is.

- **Widths** (`FieldWidth`): the absolute value of a number of 32 bits; an alignment that is no such
  number asks for nothing. `fieldWidth_iff` says that this is the width that a hole has.
- **Fields** (`Fills`): a text and the spaces around it. `fills_align` is the alignment of any text,
  be it the text of a value or a diagnostic.
- **Holes** (`weave_fills`): what a hole adds to the output, with a value and without one.
-/

namespace MessageTemplate

/-! ## Widths -/

/-- The field width that an alignment asks for. -/
inductive FieldWidth (lining : List Char) : Nat → Prop
  | number {n : Int} (h : DenotesInt lining n) (hlow : -2147483648 ≤ n) (hhigh : n ≤ 2147483647) :
      FieldWidth lining n.natAbs
  | other (h : ∀ n, DenotesInt lining n → ¬(-2147483648 ≤ n ∧ n ≤ 2147483647)) :
      FieldWidth lining 0

section Fields

variable {hole : Hole} {text : String} {width : Nat}

theorem fieldWidth_iff : FieldWidth hole.lining.toList width ↔ hole.width?.getD 0 = width := by
  unfold Hole.width?
  cases hread : readInt32? hole.lining.toList with
  | none =>
    have hother (n : Int) (h : DenotesInt hole.lining.toList n) :
        ¬(-2147483648 ≤ n ∧ n ≤ 2147483647) := by
      intro hbounds
      rw [readInt32?_eq_some_iff.2 ⟨h, hbounds⟩] at hread
      cases hread
    constructor
    · rintro (⟨h, hlow, hhigh⟩ | -)
      · exact absurd ⟨hlow, hhigh⟩ (hother _ h)
      · rfl
    · rintro rfl
      exact .other hother
  | some n =>
    obtain ⟨hdenotes, hlow, hhigh⟩ := readInt32?_eq_some_iff.1 hread
    constructor
    · rintro (⟨h, hlow', hhigh'⟩ | h)
      · rw [readInt32?_eq_some_iff.2 ⟨h, hlow', hhigh'⟩] at hread
        obtain rfl := Option.some.inj hread
        rfl
      · exact absurd ⟨hlow, hhigh⟩ (h n hdenotes)
    · rintro rfl
      exact .number hdenotes hlow hhigh

theorem existsUnique_fieldWidth (hole : Hole) : ∃! width, FieldWidth hole.lining.toList width :=
  ⟨hole.width?.getD 0, fieldWidth_iff.2 rfl, fun _ h => (fieldWidth_iff.1 h).symm⟩

/-! ## Fields -/

/-- A number of spaces. -/
def spaces (n : Nat) : String := String.ofList (List.replicate n ' ')

@[simp] theorem length_spaces (n : Nat) : (spaces n).length = n := by simp [spaces]

/-- The text `field` is `text` in the field of a hole. -/
structure Fills (hole : Hole) (text field : String) : Prop where
  /-- The field has its width, unless the text is longer. -/
  length : ∀ width, FieldWidth hole.lining.toList width → field.length = max text.length width
  /-- Without an alignment there are no spaces. -/
  bare : hole.lining = "" → field = text
  /-- A hyphen puts the spaces behind the text, -/
  left : hole.lining.toList.head? = some '-' → ∃ n, field = text ++ spaces n
  /-- and anything else before it. -/
  right : hole.lining ≠ "" → hole.lining.toList.head? ≠ some '-' → ∃ n, field = spaces n ++ text

theorem length_padding (hole : Hole) (text : String) :
    (padding hole text).length = hole.width?.getD 0 - text.length := by
  simp [padding]

theorem isLeftJustified_iff : hole.isLeftJustified = true ↔ hole.lining.toList.head? = some '-' := by
  simp [Hole.isLeftJustified]

theorem isRightJustified_iff : hole.isRightJustified = true ↔
    hole.lining ≠ "" ∧ hole.lining.toList.head? ≠ some '-' := by
  rw [Hole.isRightJustified, Bool.and_eq_true, Bool.not_eq_true', Bool.not_eq_true',
    ← Bool.not_eq_true, ← Bool.not_eq_true, isLeftJustified_iff, String.isEmpty_iff]

theorem align_of_left (h : hole.lining.toList.head? = some '-') :
    align hole text = text ++ padding hole text := by
  have hright : hole.isRightJustified = false :=
    Bool.eq_false_iff.2 fun hright => (isRightJustified_iff.1 hright).2 h
  rw [align, hright, isLeftJustified_iff.2 h, if_neg Bool.false_ne_true, if_pos rfl]

theorem align_of_right (hne : hole.lining ≠ "") (h : hole.lining.toList.head? ≠ some '-') :
    align hole text = padding hole text ++ text := by
  rw [align, if_pos (isRightJustified_iff.2 ⟨hne, h⟩)]

theorem align_of_bare (h : hole.lining = "") : align hole text = text := by
  simp [align, Hole.isRightJustified, Hole.isLeftJustified, h]

theorem width?_of_bare (h : hole.lining = "") : hole.width? = none := by
  rw [Hole.width?, h]
  rfl

/-- Aligned text stands in the field of its hole. -/
theorem fills_align (hole : Hole) (text : String) : Fills hole text (align hole text) where
  length width hwidth := by
    obtain rfl := fieldWidth_iff.1 hwidth
    by_cases hbare : hole.lining = ""
    · rw [align_of_bare hbare, width?_of_bare hbare, Option.getD_none, Nat.max_zero]
    by_cases hleft : hole.lining.toList.head? = some '-'
    · rw [align_of_left hleft, String.length_append, length_padding]
      omega
    · rw [align_of_right hbare hleft, String.length_append, length_padding]
      omega
  bare := align_of_bare
  left h := ⟨_, align_of_left h⟩
  right hne h := ⟨_, align_of_right hne h⟩

end Fields

/-! ## Holes -/

/-- What a hole shows for a value: the text of the value, or the diagnostic in its place. -/
def shownText (options : Options) (hole : Hole) (value : Argument) : String :=
  match (renderValue options hole value).result with
  | .ok text => text
  | .error e => diagnostic hole e

/-- **Fields are filled and never cut.** Every alignment asks for one width. A hole that has a value
adds a field of that width with the text of the value or with a diagnostic, and a longer one if the
text needs it; a hole without a value adds the fallback or its marker, whatever the alignment. -/
theorem weave_fills (options : Options) (tokens : List Token) (arguments : List Argument) :
    (weave options tokens arguments).result =
      String.join (tokens.map (piece options (.ofTokens tokens) arguments)) ∧
    ∀ hole,
      (∃! width, FieldWidth hole.lining.toList width) ∧
      (∀ value, arguments[(Binding.ofTokens tokens).position hole]? = some value →
        value.isNull = false →
        Fills hole (shownText options hole value)
          (piece options (.ofTokens tokens) arguments (.hole hole))) ∧
      (AbsentAt arguments ((Binding.ofTokens tokens).position hole) →
        piece options (.ofTokens tokens) arguments (.hole hole) =
          options.fallback?.getD hole.marker) := by
  refine ⟨weave_result options tokens arguments, fun hole => ?_⟩
  refine ⟨existsUnique_fieldWidth hole, fun value hvalue hnull => ?_, fun habsent => ?_⟩
  · rw [piece_of_some (valueAt?_eq_some.2 ⟨hvalue, hnull⟩)]
    exact fills_align hole (shownText options hole value)
  · exact piece_of_none (valueAt?_eq_none.2 habsent)

/-- The lowest number of 32 bits asks for a field one wider than the highest one could, and the
number after the highest one asks for none. -/
theorem weave_fills_lowest :
    let lowest : Hole := ⟨⟨0, 15⟩, 0, "\x7b0,-2147483648\x7d", "0", "-2147483648", ""⟩
    let beyond : Hole := ⟨⟨15, 29⟩, 1, "\x7b1,2147483648\x7d", "1", "2147483648", ""⟩
    let tokens : List Token := [.hole lowest, .hole beyond]
    (∃ n, (weave {} tokens [.str "été", .str "x"]).result = ("été" ++ spaces n) ++ "x" ∧
      ("été" ++ spaces n).length = 2147483648) ∧
    (weave {} tokens [.null, .str "x"]).result = "\x7b0,-2147483648\x7dx" := by
  intro lowest beyond tokens
  have hindex : Binding.ofTokens tokens = .index := by decide +kernel
  have hlowest : Binding.index.position lowest = 0 := by decide +kernel
  have hbeyond : Binding.index.position beyond = 1 := by decide +kernel
  have hwidth : FieldWidth lowest.lining.toList 2147483648 := fieldWidth_iff.2 (by decide +kernel)
  have hnone : FieldWidth beyond.lining.toList 0 := fieldWidth_iff.2 (by decide +kernel)
  have htext (hole : Hole) (text : String) : shownText {} hole (.str text) = text := by
    rw [shownText, renderValue_str rfl]
  -- Whatever the first hole adds, the second one adds its text alone.
  have hsecond (first : Argument) : (weave {} tokens [first, .str "x"]).result =
      piece {} .index [first, .str "x"] (.hole lowest) ++ "x" := by
    obtain ⟨hjoin, hholes⟩ := weave_fills {} tokens [first, .str "x"]
    rw [hindex] at hjoin hholes
    have hfills := (hholes beyond).2.1 (.str "x") (by rw [hbeyond]; rfl) rfl
    obtain ⟨n, hn⟩ := hfills.right (by decide) (by decide +kernel)
    have hlength := hfills.length 0 hnone
    rw [hn, String.length_append, length_spaces, htext] at hlength
    obtain rfl : n = 0 := by omega
    have hpiece : piece {} .index [first, .str "x"] (.hole beyond) = "x" := by
      rw [hn, htext]
      rfl
    rw [hjoin]
    simp only [tokens, List.map_cons, List.map_nil, hpiece]
    simp [String.join]
  constructor
  · obtain ⟨-, hholes⟩ := weave_fills {} tokens [.str "été", .str "x"]
    rw [hindex] at hholes
    have hfills := (hholes lowest).2.1 (.str "été") (by rw [hlowest]; rfl) rfl
    rw [htext] at hfills
    obtain ⟨n, hn⟩ := hfills.left (by decide +kernel)
    have hlength := hfills.length 2147483648 hwidth
    rw [hn] at hlength
    exact ⟨n, by rw [hsecond, hn], hlength⟩
  · obtain ⟨-, hholes⟩ := weave_fills {} tokens [.null, .str "x"]
    rw [hindex] at hholes
    rw [hsecond, (hholes lowest).2.2 (.inr (by rw [hlowest]; rfl))]
    rfl

end MessageTemplate
