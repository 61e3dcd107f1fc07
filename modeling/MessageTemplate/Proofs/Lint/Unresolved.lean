import Mathlib.Data.List.Nodup
import MessageTemplate.Proofs.Lint.Warnings
import MessageTemplate.Proofs.Render.Independence
import MessageTemplate.Proofs.Template.Lossless
import MessageTemplate.Render.Format

/-!
# Unresolved warnings tell which holes get no value

A check knows the template and the number of arguments, a rendering knows the arguments. When no
argument is null, the holes with an unresolved warning are those that the rendering leaves to the
fallback.

- **Holes and spans** (`hole_eq_of_span`): a hole is known by its span.
- **Two outcomes** (`FallsBack`, `ShowsValue`): what a hole shows is the fallback or the text of an
  argument, under all options. Which one it is depends on the bound value alone
  (`fallsBack_iff`, `showsValue_iff`).
- **The fallback matters** (`weave_fallback`, `weave_ne_of_fallback`): it does not when every hole has
  a value; otherwise a longer fallback makes a longer text.
- **Prediction** (`unresolved_iff_fallsBack`): the warnings are exact, hole by hole and for the
  template as a whole.
-/

namespace MessageTemplate

/-! ## Holes and spans -/

/-- No two holes of a template have the same span. -/
theorem hole_eq_of_span {template : String} {first second : Hole}
    (hfirst : first ∈ holesOf (tokenize template)) (hsecond : second ∈ holesOf (tokenize template))
    (hspan : first.span = second.span) : first = second := by
  have htoken : Token.hole first = Token.hole second :=
    List.inj_on_of_nodup_map (covers_tokenize template).tile.nodup (mem_holesOf.1 hfirst)
      (mem_holesOf.1 hsecond) hspan
  exact Token.hole.inj htoken

/-! ## What a hole shows -/

/-- The hole shows the fallback or, where there is none, its marker. -/
def FallsBack (tokens : List Token) (arguments : List Argument) (hole : Hole) : Prop :=
  ∀ options, piece options (.ofTokens tokens) arguments (.hole hole) =
    options.fallback?.getD hole.marker

/-- The hole shows one of the arguments: its text, or the diagnostic of an argument without one. -/
def ShowsValue (tokens : List Token) (arguments : List Argument) (hole : Hole) : Prop :=
  ∃ value ∈ arguments, ∀ options, piece options (.ofTokens tokens) arguments (.hole hole) =
    settle hole (renderValue options hole value).result

section Outcomes

variable {options : Options} {binding : Binding} {tokens : List Token} {arguments : List Argument}
  {hole : Hole} {value : Argument}

/-- The text of a value does not depend on the fallback. -/
theorem renderValue_fallback (fallback? : Option String) :
    renderValue { options with fallback? } hole value = renderValue options hole value := rfl

/-- No value shows the fallback under all options: it would show two different ones. -/
theorem settle_ne_fallback : ¬∀ options : Options,
    settle hole (renderValue options hole value).result = options.fallback?.getD hole.marker := by
  intro h
  have hempty : settle hole (renderValue {} hole value).result = "" := h { fallback? := some "" }
  have hdash : settle hole (renderValue {} hole value).result = "-" := h { fallback? := some "-" }
  exact absurd (hempty.symm.trans hdash) (by decide)

theorem fallsBack_iff :
    FallsBack tokens arguments hole ↔ boundValue? (.ofTokens tokens) arguments hole = none := by
  constructor
  · intro hfalls
    cases h : boundValue? (.ofTokens tokens) arguments hole with
    | none => rfl
    | some value =>
      exact absurd (fun options => (piece_of_some h).symm.trans (hfalls options)) settle_ne_fallback
  · exact fun h options => piece_of_none h

theorem showsValue_iff :
    ShowsValue tokens arguments hole ↔ boundValue? (.ofTokens tokens) arguments hole ≠ none := by
  constructor
  · rintro ⟨value, -, hvalue⟩ hnone
    exact settle_ne_fallback fun options => (hvalue options).symm.trans (piece_of_none hnone)
  · intro h
    obtain ⟨value, hvalue⟩ := Option.ne_none_iff_exists'.1 h
    obtain ⟨hget, -⟩ := valueAt?_eq_some.1 hvalue
    exact ⟨value, List.mem_of_getElem? hget, fun options => piece_of_some hvalue⟩

/-- Among arguments that are not null, the holes without a value are those beyond the last one. -/
theorem boundValue?_eq_none_iff (hnull : ∀ value ∈ arguments, value.isNull = false) :
    boundValue? binding arguments hole = none ↔ arguments.length ≤ binding.position hole := by
  rw [boundValue?_eq, valueAt?_eq_none, AbsentAt, List.getElem?_eq_none_iff]
  constructor
  · rintro (h | h)
    · exact h
    · cases hnull _ (List.mem_of_getElem? h)
  · exact .inl

/-! ## Whether the fallback matters -/

theorem result_formatWith (options : Options) (template : String) (arguments : List Argument) :
    (formatWith options template arguments).result =
      options.truncate (weave options (tokenize template) (Argument.expand arguments)).result := rfl

/-- When every hole has a value, the fallback does not matter. -/
theorem weave_fallback (fallback? : Option String)
    (h : ∀ hole ∈ holesOf tokens, boundValue? (.ofTokens tokens) arguments hole ≠ none) :
    weave { options with fallback? } tokens arguments = weave options tokens arguments := by
  have hsame : renderTokens { options with fallback? } (.ofTokens tokens) arguments tokens =
      renderTokens options (.ofTokens tokens) arguments tokens := by
    refine renderTokens_congr (List.forall₂_same.2 fun token htoken => ?_)
    cases token with
    | literal l => rfl
    | hole hole =>
      obtain ⟨value, hvalue⟩ := Option.ne_none_iff_exists'.1 (h hole (mem_holesOf.2 htoken))
      simp only [renderToken, hvalue, renderHole, renderValue_fallback]
  rw [weave, hsame, weave]

/-- When some hole has no value, a longer fallback makes a longer text. -/
theorem weave_ne_of_fallback (hmem : hole ∈ holesOf tokens)
    (h : boundValue? (.ofTokens tokens) arguments hole = none) :
    (weave { fallback? := some "" } tokens arguments).result ≠
      (weave { fallback? := some "-" } tokens arguments).result := by
  refine weave_ne_of_length_lt (fun token _ => ?_) ⟨.hole hole, mem_holesOf.1 hmem, ?_⟩
  · cases token with
    | literal l => exact Nat.le_refl _
    | hole other =>
      cases hother : boundValue? (.ofTokens tokens) arguments other with
      | none => rw [piece_of_none hother, piece_of_none hother]; exact Nat.zero_le _
      | some value => rw [piece_of_some hother, piece_of_some hother]; exact Nat.le_refl _
  · rw [piece_of_none h, piece_of_none h]
    have hshorter : "".length < "-".length := by decide
    exact hshorter

end Outcomes

namespace Lint

/-! ## Prediction -/

/-- Some warning of the category is about the hole. -/
def Carries (warnings : List Warning) (category : Category) (hole : Hole) : Prop :=
  ∃ w ∈ warnings, w.category = category ∧ w.span = hole.span

theorem carries_unresolved_iff {template : String} {count : Nat} {hole : Hole}
    (hmem : hole ∈ holesOf (tokenize template)) :
    Carries (check template (some count)) .unresolved hole ↔
      count ≤ (Binding.ofTokens (tokenize template)).position hole := by
  constructor
  · rintro ⟨w, hw, hcategory, hspan⟩
    obtain ⟨other, hother, hle, rfl⟩ := mem_check_unresolved.1 ⟨hw, hcategory⟩
    rwa [hole_eq_of_span hmem hother hspan.symm]
  · intro hle
    obtain ⟨hw, hcategory⟩ := mem_check_unresolved.2 ⟨hole, hmem, hle, rfl⟩
    exact ⟨_, hw, hcategory, rfl⟩

/-- **Unresolved warnings are exact.** Among arguments that are not null, the holes with such a
warning are those that show the fallback, the others show an argument, and there is no such warning
about anything else. So there is none exactly if no change of the fallback changes the text. -/
theorem unresolved_iff_fallsBack (template : String) (arguments : List Argument)
    (hnull : ∀ value ∈ Argument.expand arguments, value.isNull = false) :
    (∀ hole ∈ holesOf (tokenize template),
      (Carries (check template (some (Argument.expand arguments).length)) .unresolved hole ↔
        FallsBack (tokenize template) (Argument.expand arguments) hole) ∧
      (¬Carries (check template (some (Argument.expand arguments).length)) .unresolved hole ↔
        ShowsValue (tokenize template) (Argument.expand arguments) hole)) ∧
    (∀ w ∈ check template (some (Argument.expand arguments).length), w.category = .unresolved →
      ∃ hole ∈ holesOf (tokenize template), w.span = hole.span) ∧
    ((∀ w ∈ check template (some (Argument.expand arguments).length), w.category ≠ .unresolved) ↔
      ∀ options : Options, options.isLimited = false → ∀ fallback?,
        (formatWith { options with fallback? } template arguments).result =
          (formatWith options template arguments).result) := by
  have hbound (hole : Hole) (hmem : hole ∈ holesOf (tokenize template)) :
      Carries (check template (some (Argument.expand arguments).length)) .unresolved hole ↔
        boundValue? (.ofTokens (tokenize template)) (Argument.expand arguments) hole = none := by
    rw [carries_unresolved_iff hmem, boundValue?_eq_none_iff hnull]
  refine ⟨fun hole hmem => ⟨?_, ?_⟩, fun w hw hcategory => ?_, ?_, ?_⟩
  · rw [hbound hole hmem, fallsBack_iff]
  · rw [hbound hole hmem, showsValue_iff]
  · obtain ⟨hole, hmem, -, rfl⟩ := mem_check_unresolved.1 ⟨hw, hcategory⟩
    exact ⟨hole, hmem, rfl⟩
  · intro hclean options _ fallback?
    have hvalues : ∀ hole ∈ holesOf (tokenize template),
        boundValue? (.ofTokens (tokenize template)) (Argument.expand arguments) hole ≠ none := by
      intro hole hmem hnone
      obtain ⟨w, hw, hcategory, -⟩ := (hbound hole hmem).2 hnone
      exact hclean w hw hcategory
    simp only [result_formatWith, weave_fallback fallback? hvalues]
    rfl
  · intro hsame w hw hcategory
    obtain ⟨hole, hmem, hle, -⟩ := mem_check_unresolved.1 ⟨hw, hcategory⟩
    have hnone : boundValue? (.ofTokens (tokenize template)) (Argument.expand arguments) hole =
        none := (boundValue?_eq_none_iff hnull).2 hle
    exact weave_ne_of_fallback hmem hnone (hsame { fallback? := some "-" } rfl (some ""))

/-- A list of two items resolves two of three holes, even if the second item is a list of more. -/
theorem unresolved_iff_fallsBack_nested :
    let template := "\x7b0\x7d \x7b1\x7d \x7b2\x7d"
    let arguments : List Argument := [.list [.int 1, .list [.int 2, .int 3]]]
    Argument.expand arguments = [.int 1, .list [.int 2, .int 3]] ∧
      (∀ value ∈ Argument.expand arguments, value.isNull = false) ∧
      ∃ first second third, holesOf (tokenize template) = [first, second, third] ∧
        ShowsValue (tokenize template) (Argument.expand arguments) first ∧
        ShowsValue (tokenize template) (Argument.expand arguments) second ∧
        FallsBack (tokenize template) (Argument.expand arguments) third := by
  intro template arguments
  have hexpand : Argument.expand arguments = [.int 1, .list [.int 2, .int 3]] := by
    rw [Argument.expand_list, Argument.expand_nil, List.append_nil]
  have hnull : ∀ value ∈ Argument.expand arguments, value.isNull = false := by
    rw [hexpand]
    simp [Argument.isNull]
  have hholes : holesOf (tokenize template) =
      [⟨⟨0, 3⟩, 0, "\x7b0\x7d", "0", "", ""⟩, ⟨⟨4, 7⟩, 1, "\x7b1\x7d", "1", "", ""⟩,
        ⟨⟨8, 11⟩, 2, "\x7b2\x7d", "2", "", ""⟩] := by
    decide +kernel
  have hcheck : check template (some (Argument.expand arguments).length) =
      [⟨.unresolved, "'\x7b2\x7d' reads argument 2 but only 2 given", ⟨8, 11⟩⟩] := by decide +kernel
  obtain ⟨hexact, -, -⟩ := unresolved_iff_fallsBack template arguments hnull
  rw [hholes, hcheck] at hexact
  refine ⟨hexpand, hnull, _, _, _, hholes, ?_, ?_, ?_⟩
  · exact (hexact _ (by simp)).2.1 (by simp [Carries])
  · exact (hexact _ (by simp)).2.1 (by simp [Carries])
  · exact (hexact _ (by simp)).1.1 (by simp [Carries])

end Lint

end MessageTemplate
