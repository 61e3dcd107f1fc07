import Mathlib.Algebra.Order.BigOperators.Group.List
import Mathlib.Algebra.Order.Group.Nat
import MessageTemplate.Proofs.Lint.Warnings
import MessageTemplate.Proofs.Render.Independence

/-!
# Unused warnings tell which arguments have no influence

When holes are bound by number, a check knows which arguments are read. Those that it calls unused
are the ones that no rendering depends on.

- **What is reported** (`reportsUnused_iff`): the positions below the count that no hole reads.
- **Long words** (`piece_word`): a string that fills the fields of all holes is shown as it is, so
  that its length shows in the output.
- **No influence** (`unused_iff_no_influence`): arguments that differ only where they are unused
  give the same text and the same relations, and any other argument changes some text.
-/

namespace MessageTemplate

/-! ## Words that fill their fields -/

/-- A word of the given length. -/
def word (length : Nat) : String := String.ofList (List.replicate length 'a')

@[simp] theorem length_word (n : Nat) : (word n).length = n := by simp [word]

/-- Some length is enough for all fields. -/
theorem exists_width_le (holes : List Hole) : ∃ n, ∀ hole ∈ holes, hole.width?.getD 0 ≤ n :=
  ⟨(holes.map fun hole => hole.width?.getD 0).sum,
    fun hole hmem => List.le_sum_of_mem (List.mem_map.2 ⟨hole, hmem, rfl⟩)⟩

section Words

variable {binding : Binding} {arguments : List Argument} {hole : Hole} {text : String}

theorem align_of_width_le (h : hole.width?.getD 0 ≤ text.length) : align hole text = text := by
  have hpadding : padding hole text = "" := by
    rw [padding, Nat.sub_eq_zero_of_le h]
    rfl
  simp [align, hpadding]

/-- A hole shows a word that fills its field as it is. -/
theorem piece_word {n : Nat} (hwidth : hole.width?.getD 0 ≤ n)
    (h : arguments[binding.position hole]? = some (.str (word n))) :
    piece {} binding arguments (.hole hole) = word n := by
  rw [piece_of_some (valueAt?_eq_some.2 ⟨h, rfl⟩), renderValue_str rfl, settle,
    align_of_width_le (by rwa [length_word])]

end Words

namespace Lint

variable {template : String} {count i : Nat}

/-! ## What is reported -/

/-- Some warning says that the argument is unused. -/
def ReportsUnused (template : String) (count i : Nat) : Prop :=
  ∃ w ∈ check template (some count), w.category = .unused ∧
    w.message = "argument " ++ numberText i ++ " is never referenced"

theorem reportsUnused_iff (hindex : Binding.ofTokens (tokenize template) = .index) :
    ReportsUnused template count i ↔
      i < count ∧ ∀ hole ∈ holesOf (tokenize template), hole.effectiveIndex ≠ i := by
  constructor
  · rintro ⟨w, hw, hcategory, hmessage⟩
    obtain ⟨j, hj, hunused, rfl⟩ := (mem_check_unused hindex).1 ⟨hw, hcategory⟩
    have hnumber : "argument " ++ numberText j = "argument " ++ numberText i :=
      (String.append_left_inj _).1 hmessage
    obtain rfl := numberText_injective ((String.append_right_inj _).1 hnumber)
    exact ⟨hj, hunused⟩
  · rintro ⟨hi, hunused⟩
    obtain ⟨hw, hcategory⟩ := (mem_check_unused hindex).2 ⟨i, hi, hunused, rfl⟩
    exact ⟨_, hw, hcategory, rfl⟩

/-! ## Influence -/

/-- Arguments that agree where they are used hold the same at the position of every hole. -/
theorem valueAt?_of_agree (hindex : Binding.ofTokens (tokenize template) = .index)
    {a b : List Argument} (ha : a.length = count) (hb : b.length = count)
    (hagree : ∀ i < count, ¬ReportsUnused template count i → a[i]? = b[i]?) {hole : Hole}
    (hmem : hole ∈ holesOf (tokenize template)) :
    valueAt? a hole.effectiveIndex = valueAt? b hole.effectiveIndex := by
  unfold valueAt?
  by_cases hlt : hole.effectiveIndex < count
  · have hused : ¬ReportsUnused template count hole.effectiveIndex := fun h =>
      ((reportsUnused_iff hindex).1 h).2 hole hmem rfl
    rw [hagree _ hlt hused]
  · rw [List.getElem?_eq_none (by omega), List.getElem?_eq_none (by omega)]

/-- A longer word at a position that some hole reads makes a longer text. -/
theorem weave_ne_of_read (hindex : Binding.ofTokens (tokenize template) = .index)
    {hole : Hole} (hmem : hole ∈ holesOf (tokenize template))
    (hlt : hole.effectiveIndex < count) {n : Nat}
    (hn : ∀ hole ∈ holesOf (tokenize template), hole.width?.getD 0 ≤ n) :
    (weave {} (tokenize template) (List.replicate count (.str (word n)))).result ≠
      (weave {} (tokenize template) ((List.replicate count (.str (word n))).set hole.effectiveIndex
        (.str (word (n + 1))))).result := by
  have hread {other : Hole} (hother : other ∈ holesOf (tokenize template))
      (heq : other.effectiveIndex = hole.effectiveIndex) :
      piece {} .index (List.replicate count (.str (word n))) (.hole other) = word n ∧
      piece {} .index ((List.replicate count (.str (word n))).set hole.effectiveIndex
        (.str (word (n + 1)))) (.hole other) = word (n + 1) := by
    constructor
    · exact piece_word (hn other hother) (by simp [Binding.position, heq, hlt])
    · exact piece_word (Nat.le_succ_of_le (hn other hother)) (by simp [Binding.position, heq, hlt])
  refine weave_ne_of_length_lt (fun token htoken => ?_) ⟨.hole hole, mem_holesOf.1 hmem, ?_⟩
  all_goals rw [hindex]
  · cases hreads : token.reads .index hole.effectiveIndex with
    | false => rw [piece_set {} _ _ hreads]
    | true =>
      cases token with
      | literal l => cases hreads
      | hole other =>
        obtain ⟨hshort, hlong⟩ := hread (mem_holesOf.2 htoken)
          (by simpa [Token.reads, Binding.position] using hreads)
        rw [hshort, hlong, length_word, length_word]
        omega
  · obtain ⟨hshort, hlong⟩ := hread hmem rfl
    rw [hshort, hlong, length_word, length_word]
    omega

/-- **Unused arguments are those without influence.** When holes are bound by number, argument lists
that differ only in unused places cannot be told apart by any rendering or by the relations, and for
every other place there are two lists that differ only there and have different texts. -/
theorem unused_iff_no_influence (template : String)
    (hindex : Binding.ofTokens (tokenize template) = .index) (count : Nat) :
    (∀ (options : Options) (a b : List Argument), a.length = count → b.length = count →
      (∀ i < count, ¬ReportsUnused template count i → a[i]? = b[i]?) →
      weave options (tokenize template) a = weave options (tokenize template) b ∧
        relationsOf (tokenize template) a = relationsOf (tokenize template) b) ∧
    ∀ i < count, ¬ReportsUnused template count i → ∃ a b : List Argument,
      a.length = count ∧ b.length = count ∧ (∀ j, j ≠ i → a[j]? = b[j]?) ∧
        (weave {} (tokenize template) a).result ≠ (weave {} (tokenize template) b).result := by
  constructor
  · intro options a b ha hb hagree
    have hbound : ∀ hole ∈ holesOf (tokenize template),
        boundValue? (.ofTokens (tokenize template)) a hole =
          boundValue? (.ofTokens (tokenize template)) b hole := by
      intro hole hmem
      rw [hindex]
      exact valueAt?_of_agree hindex ha hb hagree hmem
    exact ⟨weave_congr hbound, relationsOf_congr hbound⟩
  · intro i hi hused
    obtain ⟨hole, hmem, rfl⟩ : ∃ hole ∈ holesOf (tokenize template), hole.effectiveIndex = i := by
      by_contra hnone
      exact hused ((reportsUnused_iff hindex).2 ⟨hi, fun hole hmem heq => hnone ⟨hole, hmem, heq⟩⟩)
    obtain ⟨n, hn⟩ := exists_width_le (holesOf (tokenize template))
    refine ⟨_, _, ?_, ?_, fun j hj => ?_, weave_ne_of_read hindex hmem hi hn⟩
    · simp
    · simp
    · rw [List.getElem?_set_ne hj.symm]

/-- Of three arguments the second one is not read: it may as well be null. The third one matters. -/
theorem unused_iff_no_influence_middle :
    let template := "\x7b0,3\x7d \x7b2\x7d"
    Binding.ofTokens (tokenize template) = .index ∧ ReportsUnused template 3 1 ∧
      weave {} (tokenize template) [.int 1, .int 2, .int 3] =
        weave {} (tokenize template) [.int 1, .null, .int 3] ∧
      ∃ a b : List Argument, a.length = 3 ∧ b.length = 3 ∧ (∀ j, j ≠ 2 → a[j]? = b[j]?) ∧
        (weave {} (tokenize template) a).result ≠ (weave {} (tokenize template) b).result := by
  intro template
  have hindex : Binding.ofTokens (tokenize template) = .index := by decide +kernel
  have hcheck : check template (some 3) =
      [⟨.unused, "argument 1 is never referenced", ⟨9, 9⟩⟩] := by decide +kernel
  have hsecond : ReportsUnused template 3 1 :=
    ⟨⟨.unused, "argument 1 is never referenced", ⟨9, 9⟩⟩, by simp [hcheck], rfl, by decide +kernel⟩
  have hthird : ¬ReportsUnused template 3 2 := by
    rintro ⟨w, hw, -, hmessage⟩
    rw [hcheck, List.mem_singleton] at hw
    rw [hw] at hmessage
    exact absurd hmessage (by decide +kernel)
  obtain ⟨hsound, hcomplete⟩ := unused_iff_no_influence template hindex 3
  refine ⟨hindex, hsecond, (hsound {} _ _ rfl rfl fun i hi hused => ?_).1,
    hcomplete 2 (by decide) hthird⟩
  by_cases hone : i = 1
  · exact absurd (hone ▸ hsecond) hused
  obtain rfl | rfl : i = 0 ∨ i = 2 := by omega
  · rfl
  · rfl

end Lint

end MessageTemplate
