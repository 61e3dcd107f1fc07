import Mathlib.Data.Finset.Sort
import MessageTemplate.Proofs.Lint.Warnings
import MessageTemplate.Proofs.Template.Lossless

/-!
# Templates without warnings

A check that finds nothing says that the template and the number of its arguments fit: there is no
rejected candidate, and either the holes read all arguments by number and nothing else, or they have
names and there are enough arguments for them.

- **One check at a time** (`malformedWarnings_eq_nil_iff`, `bindingWarnings_eq_nil_iff`,
  `unresolvedWarnings_eq_nil_iff`, `unusedWarnings_eq_nil_iff`): when each of them finds nothing.
- **Ranks** (`unresolvedWarnings_rank`): holes that are bound by rank have the arguments in their
  order, so the unresolved ones are the last.
- **Numbers** (`unusedWarnings_eq`): when holes are bound by number, the unused arguments are the
  difference of two sets, in increasing order.
- **Messages** (`unresolvedWarning_eq`, `unusedWarning_eq`): what the warnings say, and where.
- **Clean templates** (`check_clean`): when the whole check finds nothing, and which arguments are
  left over when it finds something.
-/

namespace MessageTemplate.Lint

variable {template : String} {tokens : List Token} {binding : Binding} {count : Nat}

/-- The positions that holes read when they are bound by number. -/
def numbersRead (tokens : List Token) : Finset Nat :=
  ((holesOf tokens).map Binding.index.position).toFinset

theorem mem_numbersRead {i : Nat} :
    i ∈ numbersRead tokens ↔ ∃ hole ∈ holesOf tokens, Binding.index.position hole = i := by
  simp [numbersRead]

/-- The template and the number of arguments fit. -/
structure Fits (tokens : List Token) (count : Nat) : Prop where
  /-- There is no rejected candidate. -/
  accepted : ∀ l, .literal l ∈ tokens → l.malformed = none
  /-- Either the holes are bound by number and read each argument and nothing else, or they are
  bound by rank, have names and are not too many. -/
  holes : (Binding.ofTokens tokens = .index ∧ numbersRead tokens = Finset.range count) ∨
    (Binding.ofTokens tokens = .rank ∧ (∀ hole ∈ holesOf tokens, hole.isNumbered = false) ∧
      (holesOf tokens).length ≤ count)

/-! ## One check at a time -/

theorem malformedWarnings_eq_nil_iff :
    malformedWarnings template tokens = [] ↔ ∀ l, .literal l ∈ tokens → l.malformed = none := by
  rw [malformedWarnings, List.filterMap_eq_nil_iff]
  constructor
  · intro h l hmem
    simpa [malformedWarning?] using h _ hmem
  · intro h token hmem
    cases token with
    | literal l => simp [malformedWarning?, h l hmem]
    | hole hole => rfl

theorem bindingWarnings_eq_nil_iff :
    bindingWarnings tokens = [] ↔ ∀ hole ∈ holesOf tokens, hole.isNumbered = false := by
  simp [bindingWarnings, List.filter_eq_nil_iff]

theorem unresolvedWarnings_eq_nil_iff : unresolvedWarnings binding count tokens = [] ↔
    ∀ hole ∈ holesOf tokens, binding.position hole < count := by
  simp [unresolvedWarnings, List.filter_eq_nil_iff]

theorem unusedWarnings_eq_nil_iff : unusedWarnings template count tokens = [] ↔
    ∀ i < count, i ∈ numbersRead tokens := by
  simp [unusedWarnings, List.filter_eq_nil_iff, mem_numbersRead, Binding.position]

/-- Bound by number, the holes read all arguments and nothing else when neither an argument nor a
hole is left over. -/
theorem numbersRead_eq_range_iff : numbersRead tokens = Finset.range count ↔
    unresolvedWarnings .index count tokens = [] ∧ unusedWarnings template count tokens = [] := by
  rw [unresolvedWarnings_eq_nil_iff, unusedWarnings_eq_nil_iff, Finset.ext_iff]
  constructor
  · intro h
    refine ⟨fun hole hmem => ?_, fun i hi => (h i).2 (Finset.mem_range.2 hi)⟩
    exact Finset.mem_range.1 ((h _).1 (mem_numbersRead.2 ⟨hole, hmem, rfl⟩))
  · rintro ⟨hresolved, hused⟩ i
    rw [Finset.mem_range]
    constructor
    · intro hi
      obtain ⟨hole, hmem, rfl⟩ := mem_numbersRead.1 hi
      exact hresolved hole hmem
    · exact hused i

/-! ## Ranks -/

/-- Of holes with consecutive ranks, those whose rank is not below the count come last. -/
theorem filter_le_rank {holes : List Hole} {first : Nat}
    (h : holes.map Hole.rank = List.range' first holes.length) (count : Nat) :
    (holes.filter fun hole => count ≤ hole.rank) = holes.drop (count - first) := by
  induction holes generalizing first with
  | nil => simp
  | cons hole holes ih =>
    rw [List.map_cons, List.length_cons, List.range'_succ, List.cons.injEq] at h
    obtain ⟨hfirst, hrest⟩ := h
    have ih := ih hrest
    by_cases hle : count ≤ first
    · rw [List.filter_cons_of_pos (by simpa [hfirst] using hle), ih]
      simp [show count - first = 0 by omega, show count - (first + 1) = 0 by omega]
    · rw [List.filter_cons_of_neg (by simpa [hfirst] using hle), ih]
      obtain ⟨n, hn⟩ : ∃ n, count - first = n + 1 := ⟨count - first - 1, by omega⟩
      rw [hn, List.drop_succ_cons, show count - (first + 1) = n by omega]

theorem unresolvedWarnings_rank (template : String) (count : Nat) :
    unresolvedWarnings .rank count (tokenize template) =
      ((holesOf (tokenize template)).drop count).map fun hole =>
        unresolvedWarning hole.rank count hole := by
  have hlast := filter_le_rank (covers_tokenize template).ranks count
  show ((holesOf (tokenize template)).filter fun hole => count ≤ hole.rank).map _ = _
  rw [hlast, Nat.sub_zero]
  rfl

/-! ## Numbers -/

theorem sort_filter_range (count : Nat) (p : Nat → Bool) :
    ((Finset.range count).filter fun i => p i).sort (· ≤ ·) = (List.range count).filter p := by
  have hset : ((Finset.range count).filter fun i => p i) = ((List.range count).filter p).toFinset := by
    ext i
    simp
  rw [hset]
  exact (List.toFinset_sort (· ≤ ·) (List.nodup_range.filter p)).2 (List.pairwise_le_range.filter p)

theorem unusedWarnings_eq : unusedWarnings template count tokens =
    ((Finset.range count \ numbersRead tokens).sort (· ≤ ·)).map (unusedWarning template) := by
  have hset : Finset.range count \ numbersRead tokens = (Finset.range count).filter
      fun i => !((holesOf tokens).map Hole.effectiveIndex).contains i := by
    ext i
    simp [mem_numbersRead, Binding.position]
  rw [hset, sort_filter_range, unusedWarnings]

/-! ## What the warnings say -/

theorem unresolvedWarning_eq (position count : Nat) (hole : Hole) :
    unresolvedWarning position count hole = ⟨.unresolved, "'" ++ hole.marker ++ "'" ++
      " reads argument " ++ numberText position ++ " but only " ++ numberText count ++ " given",
      hole.span⟩ := rfl

/-- An unused argument is reported at the end of the template. -/
theorem unusedWarning_eq (template : String) (i : Nat) :
    unusedWarning template i = ⟨.unused, "argument " ++ numberText i ++ " is never referenced",
      ⟨template.utf8ByteSize, template.utf8ByteSize⟩⟩ := by
  rw [unusedWarning, byteLength_toList]
  rfl

/-! ## Clean templates -/

theorem check_eq_nil_iff : check template (some count) = [] ↔ Fits (tokenize template) count := by
  have hfits : Fits (tokenize template) count ↔ _ ∧ _ :=
    ⟨fun h => ⟨h.accepted, h.holes⟩, fun h => ⟨h.1, h.2⟩⟩
  rw [hfits, ← @malformedWarnings_eq_nil_iff template]
  cases hof : Binding.ofTokens (tokenize template) with
  | index =>
    rw [@numbersRead_eq_range_iff template]
    simp [check, hof]
  | rank =>
    rw [← bindingWarnings_eq_nil_iff]
    simp [check, hof, unresolvedWarnings_rank]

/-- **Clean templates.** A check finds nothing exactly if the template and the number of its
arguments fit. Bound by rank, the holes after the last argument are unresolved; bound by number, the
arguments outside the set of positions that are read are unused, and no more than one number of
arguments fits. Each warning names its hole or its argument. -/
theorem check_clean (template : String) (count : Nat) :
    (check template (some count) = [] ↔ Fits (tokenize template) count) ∧
    (Binding.ofTokens (tokenize template) = .rank →
      (check template (some count)).filter (fun w => w.category == .unresolved) =
        ((holesOf (tokenize template)).drop count).map fun hole =>
          ⟨.unresolved, "'" ++ hole.marker ++ "'" ++ " reads argument " ++ numberText hole.rank ++
            " but only " ++ numberText count ++ " given", hole.span⟩) ∧
    (Binding.ofTokens (tokenize template) = .index →
      (check template (some count)).filter (fun w => w.category == .unused) =
        ((Finset.range count \ numbersRead (tokenize template)).sort (· ≤ ·)).map (fun i =>
          ⟨.unused, "argument " ++ numberText i ++ " is never referenced",
            ⟨template.utf8ByteSize, template.utf8ByteSize⟩⟩) ∧
      ∀ other, check template (some count) = [] → check template (some other) = [] →
        other = count) := by
  refine ⟨check_eq_nil_iff, fun hrank => ?_, fun hindex => ⟨?_, fun other hcount hother => ?_⟩⟩
  · rw [filter_check_unresolved, hrank, unresolvedWarnings_rank]
    exact List.map_congr_left fun hole _ => unresolvedWarning_eq hole.rank count hole
  · rw [filter_check_unused hindex, unusedWarnings_eq]
    exact List.map_congr_left fun i _ => unusedWarning_eq template i
  · have hread {n : Nat} (h : check template (some n) = []) :
        numbersRead (tokenize template) = Finset.range n := by
      rcases (check_eq_nil_iff.1 h).holes with ⟨-, hread⟩ | ⟨hrank, -⟩
      · exact hread
      · rw [hindex] at hrank
        cases hrank
    have hcard := congrArg Finset.card ((hread hother).symm.trans (hread hcount))
    rwa [Finset.card_range, Finset.card_range] at hcard

/-- Two numbers leave out the arguments between and after them; of three names the last has no
argument when there are two. -/
theorem check_clean_leftOver :
    let numbered := "\x7b0\x7d \x7b2\x7d \x7b0\x7d"
    let named := "\x7ba\x7d \x7bb\x7d \x7bc\x7d"
    Binding.ofTokens (tokenize numbered) = .index ∧ Binding.ofTokens (tokenize named) = .rank ∧
      ((check numbered (some 4)).filter fun w => w.category == .unused) =
        [⟨.unused, "argument 1 is never referenced", ⟨11, 11⟩⟩,
          ⟨.unused, "argument 3 is never referenced", ⟨11, 11⟩⟩] ∧
      ((check named (some 2)).filter fun w => w.category == .unresolved) =
        [⟨.unresolved, "'\x7bc\x7d' reads argument 2 but only 2 given", ⟨8, 11⟩⟩] ∧
      check named (some 3) = [] := by
  intro numbered named
  have hindex : Binding.ofTokens (tokenize numbered) = .index := by decide +kernel
  have hrank : Binding.ofTokens (tokenize named) = .rank := by decide +kernel
  have hunused : Finset.range 4 \ numbersRead (tokenize numbered) = [1, 3].toFinset := by
    decide +kernel
  have hholes : (holesOf (tokenize named)).drop 2 =
      [⟨⟨8, 11⟩, 2, "\x7bc\x7d", "c", "", ""⟩] := by decide +kernel
  have hfits : Fits (tokenize named) 3 :=
    ⟨malformedWarnings_eq_nil_iff.1 (by decide +kernel : malformedWarnings named _ = []),
      .inr ⟨hrank, by decide +kernel, by decide +kernel⟩⟩
  obtain ⟨hnumbered, -⟩ := (check_clean numbered 4).2.2 hindex
  have hnamed := (check_clean named 2).2.1 hrank
  rw [hunused, (List.toFinset_sort (· ≤ ·) (by decide)).2 (by decide)] at hnumbered
  rw [hholes] at hnamed
  exact ⟨hindex, hrank, hnumbered.trans (by decide +kernel), hnamed.trans (by decide +kernel),
    (check_clean named 3).1.2 hfits⟩

end MessageTemplate.Lint
