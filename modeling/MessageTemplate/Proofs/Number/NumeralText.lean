import MessageTemplate.Json.Value

/-!
# The characters of numerals

* `IsNumeralChar`: digits, signs, a point, the mark of an exponent and the letters of the words for
  what is not finite.
* `isNumeralText_numeral`: the numeral of a floating-point value in any style has no others.
* `JsonNumber.isNumeralText_text`: neither has the text of a number.
-/

namespace MessageTemplate

/-- What stands in numerals beside digits. -/
def numeralMarks : List Char := ['-', '+', '.', 'e', 'i', 'n', 'f', 'N', 'a']

/-- A character that numerals are made of. -/
def IsNumeralChar (c : Char) : Prop := c.isDigit = true ∨ c ∈ numeralMarks

instance (c : Char) : Decidable (IsNumeralChar c) := inferInstanceAs (Decidable (_ ∨ _))

/-- All characters are those of numerals. -/
def IsNumeralText (cs : List Char) : Prop := ∀ c ∈ cs, IsNumeralChar c

instance (cs : List Char) : Decidable (IsNumeralText cs) := List.decidableBAll IsNumeralChar cs

section Texts

variable {cs ds : List Char} {c : Char}

theorem IsNumeralText.append (hcs : IsNumeralText cs) (hds : IsNumeralText ds) :
    IsNumeralText (cs ++ ds) := List.forall_mem_append.2 ⟨hcs, hds⟩

theorem IsNumeralText.cons (hc : IsNumeralChar c) (hcs : IsNumeralText cs) :
    IsNumeralText (c :: cs) := List.forall_mem_cons.2 ⟨hc, hcs⟩

theorem IsNumeralText.of_subset (hcs : IsNumeralText cs) (h : ds ⊆ cs) : IsNumeralText ds :=
  fun c hc => hcs c (h hc)

/-- A part that is there only on a condition. -/
theorem IsNumeralText.ite {p : Prop} [Decidable p] (hcs : IsNumeralText cs)
    (hds : IsNumeralText ds) : IsNumeralText (if p then cs else ds) := by
  split
  · exact hcs
  · exact hds

theorem isNumeralText_replicate (n : Nat) (hc : IsNumeralChar c) :
    IsNumeralText (List.replicate n c) := by
  intro d hd
  rwa [List.eq_of_mem_replicate hd]

theorem isNumeralText_decimalDigits (n : Nat) : IsNumeralText (decimalDigits n) :=
  fun _ hc => .inl (Nat.isDigit_of_mem_toDigits (by decide) (by decide) hc)

theorem isNumeralText_integerText (n : Int) : IsNumeralText (integerText n) :=
  .append (.ite (by decide) (by decide)) (isNumeralText_decimalDigits _)

end Texts

namespace Numeral

variable {digits : List Char}

theorem isNumeralText_significantDigits (n : Nat) : IsNumeralText (significantDigits n) := by
  refine .ite (by decide) ((isNumeralText_decimalDigits n).of_subset fun c hc => ?_)
  have hkept : c ∈ (decimalDigits n).reverse :=
    (List.dropWhile_sublist _).subset (List.mem_reverse.1 hc)
  exact List.mem_reverse.1 hkept

theorem isNumeralText_positional (pointZero : Bool) (top : Int) (h : IsNumeralText digits) :
    IsNumeralText (positional pointZero digits top) := by
  have hzeros (n : Nat) : IsNumeralText (List.replicate n '0') :=
    isNumeralText_replicate n (by decide)
  have hwhole : IsNumeralText ((digits.take (top.toNat + 1)).rightpad (top.toNat + 1) '0') :=
    .append (h.of_subset (List.take_subset _ _)) (hzeros _)
  have hfraction : IsNumeralText (if top < 0 then List.replicate (-top - 1).toNat '0' ++ digits
      else digits.drop (top.toNat + 1)) :=
    .ite (.append (hzeros _) h) (h.of_subset (List.drop_subset _ _))
  exact .append (.ite (by decide) hwhole)
    (.ite (.ite (by decide) (by decide)) (.cons (by decide) hfraction))

theorem isNumeralText_scientific (plusSign : Bool) (top : Int) (h : IsNumeralText digits) :
    IsNumeralText (scientific plusSign digits top) := by
  have hfraction : IsNumeralText (digits.drop 1) := h.of_subset (List.drop_subset _ _)
  have hplaces : IsNumeralText
      (if (digits.drop 1).isEmpty then [] else '.' :: digits.drop 1) :=
    .ite (by decide) (.cons (by decide) hfraction)
  have hsign : IsNumeralText (if plusSign && 0 ≤ top then ['+'] else []) :=
    .ite (by decide) (by decide)
  exact .append (.append (.append (.append (h.of_subset (List.take_subset _ _)) hplaces)
    (by decide)) hsign) (isNumeralText_integerText top)

theorem isNumeralText_write (style : Style) (digits : Nat) (exponent : Int) :
    IsNumeralText (write style digits exponent) :=
  .ite (isNumeralText_positional _ _ (isNumeralText_significantDigits digits))
    (isNumeralText_scientific _ _ (isNumeralText_significantDigits digits))

end Numeral

theorem isNumeralText_numeral (style : Numeral.Style) (x : Binary64) :
    IsNumeralText (x.numeral style) := by
  cases x with
  | nan =>
    rw [Binary64.numeral]
    decide
  | infinite negative =>
    rw [Binary64.numeral]
    exact .append (.ite (by decide) (by decide)) (by decide)
  | finite negative significand shift =>
    rw [Binary64.numeral]
    exact .append (.ite (by decide) (by decide)) (Numeral.isNumeralText_write style _ _)

theorem JsonNumber.isNumeralText_text (n : JsonNumber) : IsNumeralText n.text := by
  cases n with
  | natural n => exact isNumeralText_decimalDigits _
  | negative n => exact isNumeralText_integerText _
  | real x => exact isNumeralText_numeral _ x

end MessageTemplate
