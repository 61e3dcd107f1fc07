import MessageTemplate.Lint.Check

/-!
# Where warnings come from

The warnings about a template are those of four checks, one after another. The category of a warning
tells which of them it comes from.

- **Unresolved** (`mem_check_unresolved`): the warnings of this category, and the holes that they are
  about.
- **Unused** (`mem_check_unused`): the warnings of this category, and the arguments that they name.
- **By category** (`filter_check_malformed`, `filter_check_unresolved`, `filter_check_unused`): the
  warnings of a category are those of its check, in order.
-/

namespace MessageTemplate.Lint

variable {template : String} {tokens : List Token} {binding : Binding} {count : Nat} {w : Warning}

/-! ## One check at a time -/

theorem category_malformed (h : w ∈ malformedWarnings template tokens) :
    w.category = .malformed := by
  obtain ⟨token, -, hw⟩ := List.mem_filterMap.1 h
  cases token with
  | literal l =>
    obtain ⟨r, -, rfl⟩ := Option.map_eq_some_iff.1 hw
    rfl
  | hole hole => cases hw

theorem category_binding (h : w ∈ bindingWarnings tokens) : w.category = .binding := by
  obtain ⟨hole, -, rfl⟩ := List.mem_map.1 h
  rfl

theorem mem_unresolvedWarnings : w ∈ unresolvedWarnings binding count tokens ↔
    ∃ hole ∈ holesOf tokens, count ≤ binding.position hole ∧
      w = unresolvedWarning (binding.position hole) count hole := by
  simp only [unresolvedWarnings, List.mem_map, List.mem_filter, decide_eq_true_eq, and_assoc]
  constructor
  · rintro ⟨hole, hmem, hle, rfl⟩
    exact ⟨hole, hmem, hle, rfl⟩
  · rintro ⟨hole, hmem, hle, rfl⟩
    exact ⟨hole, hmem, hle, rfl⟩

theorem mem_unusedWarnings : w ∈ unusedWarnings template count tokens ↔
    ∃ i < count, (∀ hole ∈ holesOf tokens, hole.effectiveIndex ≠ i) ∧
      w = unusedWarning template i := by
  simp only [unusedWarnings, List.mem_map, List.mem_filter, List.mem_range, Bool.not_eq_true',
    List.contains_eq_mem, decide_eq_false_iff_not]
  constructor
  · rintro ⟨i, ⟨hi, hunused⟩, rfl⟩
    exact ⟨i, hi, fun hole hhole heq => hunused ⟨hole, hhole, heq⟩, rfl⟩
  · rintro ⟨i, hi, hunused, rfl⟩
    exact ⟨i, ⟨hi, fun ⟨hole, hhole, heq⟩ => hunused hole hhole heq⟩, rfl⟩

theorem category_unresolved (h : w ∈ unresolvedWarnings binding count tokens) :
    w.category = .unresolved := by
  obtain ⟨hole, -, -, rfl⟩ := mem_unresolvedWarnings.1 h
  rfl

theorem category_unused (h : w ∈ unusedWarnings template count tokens) : w.category = .unused := by
  obtain ⟨i, -, -, rfl⟩ := mem_unusedWarnings.1 h
  rfl

/-! ## All checks -/

theorem mem_check : w ∈ check template (some count) ↔
    w ∈ malformedWarnings template (tokenize template) ∨
    (Binding.ofTokens (tokenize template) = .rank ∧ w ∈ bindingWarnings (tokenize template)) ∨
    w ∈ unresolvedWarnings (.ofTokens (tokenize template)) count (tokenize template) ∨
    (Binding.ofTokens (tokenize template) = .index ∧
      w ∈ unusedWarnings template count (tokenize template)) := by
  simp only [check, List.mem_append]
  cases Binding.ofTokens (tokenize template) with
  | index => simp
  | rank => simp [or_assoc]

/-- The unresolved warnings are about the holes whose position is beyond the arguments. -/
theorem mem_check_unresolved :
    w ∈ check template (some count) ∧ w.category = .unresolved ↔
      ∃ hole ∈ holesOf (tokenize template),
        count ≤ (Binding.ofTokens (tokenize template)).position hole ∧
        w = unresolvedWarning ((Binding.ofTokens (tokenize template)).position hole) count hole := by
  rw [mem_check, ← mem_unresolvedWarnings]
  constructor
  · rintro ⟨h | ⟨-, h⟩ | h | ⟨-, h⟩, hcategory⟩
    · cases (category_malformed h).symm.trans hcategory
    · cases (category_binding h).symm.trans hcategory
    · exact h
    · obtain ⟨i, -, -, rfl⟩ := mem_unusedWarnings.1 h
      cases hcategory
  · intro h
    obtain ⟨hole, -, -, hw⟩ := mem_unresolvedWarnings.1 h
    exact ⟨.inr (.inr (.inl h)), by rw [hw]; rfl⟩

/-- The unused warnings are about the arguments that no hole reads. -/
theorem mem_check_unused (hindex : Binding.ofTokens (tokenize template) = .index) :
    w ∈ check template (some count) ∧ w.category = .unused ↔
      ∃ i < count, (∀ hole ∈ holesOf (tokenize template), hole.effectiveIndex ≠ i) ∧
        w = unusedWarning template i := by
  rw [mem_check, ← mem_unusedWarnings]
  constructor
  · rintro ⟨h | ⟨-, h⟩ | h | ⟨-, h⟩, hcategory⟩
    · cases (category_malformed h).symm.trans hcategory
    · cases (category_binding h).symm.trans hcategory
    · obtain ⟨hole, -, -, rfl⟩ := mem_unresolvedWarnings.1 h
      cases hcategory
    · exact h
  · intro h
    obtain ⟨i, -, -, hw⟩ := mem_unusedWarnings.1 h
    exact ⟨.inr (.inr (.inr ⟨hindex, h⟩)), by rw [hw]; rfl⟩

/-! ## One category at a time -/

section Categories

variable {warnings : List Warning} {c : Category}

theorem filter_category (h : ∀ w ∈ warnings, w.category = c) (d : Category) :
    warnings.filter (fun w => w.category == d) = if c = d then warnings else [] := by
  split
  next heq => exact List.filter_eq_self.2 fun w hw => by simp [h w hw, heq]
  next hne => exact List.filter_eq_nil_iff.2 fun w hw => by simp [h w hw, hne]

theorem filter_malformedWarnings (d : Category) :
    (malformedWarnings template tokens).filter (fun w => w.category == d) =
      if .malformed = d then malformedWarnings template tokens else [] :=
  filter_category (fun _ => category_malformed) d

theorem filter_bindingWarnings (d : Category) :
    (bindingWarnings tokens).filter (fun w => w.category == d) =
      if .binding = d then bindingWarnings tokens else [] :=
  filter_category (fun _ => category_binding) d

theorem filter_unresolvedWarnings (d : Category) :
    (unresolvedWarnings binding count tokens).filter (fun w => w.category == d) =
      if .unresolved = d then unresolvedWarnings binding count tokens else [] :=
  filter_category (fun _ => category_unresolved) d

theorem filter_unusedWarnings (d : Category) :
    (unusedWarnings template count tokens).filter (fun w => w.category == d) =
      if .unused = d then unusedWarnings template count tokens else [] :=
  filter_category (fun _ => category_unused) d

theorem filter_check_malformed {count? : Option Nat} :
    (check template count?).filter (fun w => w.category == .malformed) =
      malformedWarnings template (tokenize template) := by
  cases count? <;> cases hof : Binding.ofTokens (tokenize template) <;>
    simp [check, hof, List.filter_append, filter_malformedWarnings, filter_bindingWarnings,
      filter_unresolvedWarnings, filter_unusedWarnings]

theorem filter_check_unresolved :
    (check template (some count)).filter (fun w => w.category == .unresolved) =
      unresolvedWarnings (.ofTokens (tokenize template)) count (tokenize template) := by
  cases hof : Binding.ofTokens (tokenize template) <;>
    simp [check, hof, List.filter_append, filter_malformedWarnings, filter_bindingWarnings,
      filter_unresolvedWarnings, filter_unusedWarnings]

theorem filter_check_unused (hindex : Binding.ofTokens (tokenize template) = .index) :
    (check template (some count)).filter (fun w => w.category == .unused) =
      unusedWarnings template count (tokenize template) := by
  simp [check, hindex, List.filter_append, filter_malformedWarnings, filter_unresolvedWarnings,
    filter_unusedWarnings]

end Categories

end MessageTemplate.Lint
