import Mathlib.Data.Finset.Card
import Mathlib.Data.Finset.Dedup
import MessageTemplate.Proofs.Render.Relations
import MessageTemplate.Proofs.Template.Numbering
import MessageTemplate.Template.Tokens

/-!
# Relations as a table

Relations are built hole by hole, and a number is looked up among the relations before it. The
outcome can be written down without any lookup.

- **Bound by number** (`numberedRelations`): the numbers of the holes without their repetitions, in
  the order in which they occur first. `toList_addRelation_index` is one hole,
  `toList_foldl_index` a run.
- **Labels of ranks** (`rankLabel`): what a declaration gives without its mark, read off its
  characters; `holeLabel_rank` finds it in the labels of holes.
- **Bound by rank** (`rankedRelations`): the holes as they are, repeated names included.
- **Lookup** (`Relations.FindsFirst`): the ways to look up a label agree, and lead to the first
  relation of that label.
- **The table** (`relationsOf_table`): all of this for every token list and its arguments.
-/

namespace MessageTemplate

/-! ## Lists without repetitions -/

theorem eraseDups_concat (ns : List Nat) (n : Nat) :
    (ns ++ [n]).eraseDups = if n ∈ ns then ns.eraseDups else ns.eraseDups ++ [n] := by
  rw [List.eraseDups_append]
  split
  next h => simp [List.removeAll, h]
  next h => simp [List.removeAll, h, List.eraseDups_cons]

theorem nodup_eraseDups (ns : List Nat) : ns.eraseDups.Nodup := by
  induction ns using List.reverseRecOn with
  | nil => simp
  | append_singleton ns n ih =>
    rw [eraseDups_concat]
    split
    next => exact ih
    next h => exact List.concat_eq_append ▸ ih.concat (mt List.mem_eraseDups.1 h)

theorem length_eraseDups (ns : List Nat) : ns.eraseDups.length = ns.toFinset.card := by
  have hsame : ns.eraseDups.toFinset = ns.toFinset := by
    ext n
    simp
  rw [← hsame, List.toFinset_card_of_nodup (nodup_eraseDups ns)]

/-! ## Labels of ranks -/

/-- A declaration without the `@` or the `$` that it may begin with. -/
def withoutMark (declaration : List Char) : List Char :=
  if declaration.head? = some '@' ∨ declaration.head? = some '$' then declaration.tail
  else declaration

/-- The text denotes a natural number of 31 bits. -/
def IsIndex (cs : List Char) : Prop := ∃ n : Nat, DenotesInt cs n ∧ n ≤ 2147483647

theorem isIndex_iff {cs : List Char} : IsIndex cs ↔ ∃ n : Nat, readInt32? cs = some (n : Int) := by
  refine exists_congr fun n => ?_
  rw [readInt32?_eq_some_iff]
  refine and_congr_right fun _ => ?_
  omega

theorem any_readInt32?_iff {cs : List Char} :
    ((readInt32? cs).any fun z => 0 ≤ z) = true ↔ IsIndex cs := by
  rw [isIndex_iff, Option.any_eq_true]
  constructor
  · rintro ⟨z, hread, hz⟩
    obtain ⟨n, rfl⟩ := Int.eq_ofNat_of_zero_le (of_decide_eq_true hz)
    exact ⟨n, hread⟩
  · rintro ⟨n, hread⟩
    exact ⟨n, hread, decide_eq_true (Int.natCast_nonneg n)⟩

instance (cs : List Char) : Decidable (IsIndex cs) := decidable_of_iff _ any_readInt32?_iff

/-- The label of a hole that is bound by rank: with its rank if the declaration has a number, else
the declaration without its mark. -/
def rankLabel (hole : Hole) : String :=
  if IsIndex (withoutMark hole.symbol.toList) then valueLabel hole.rank
  else String.ofList (withoutMark hole.symbol.toList)

theorem toList_name (hole : Hole) : hole.name.toList = withoutMark hole.symbol.toList := by
  unfold Hole.name Hole.modifier? Body.stringifyMark Body.spreadMark
  cases h : hole.symbol.toList with
  | nil => exact h
  | cons c cs =>
    by_cases hstringify : c = '$'
    · simp [withoutMark, hstringify]
    · by_cases hspread : c = '@'
      · simp [withoutMark, hspread]
      · simp [withoutMark, hstringify, hspread, h]

theorem isNumbered_iff_isIndex (hole : Hole) :
    hole.isNumbered = true ↔ IsIndex (withoutMark hole.symbol.toList) := by
  rw [Hole.isNumbered, Option.isSome_iff_exists, isIndex_iff, ← toList_name]
  exact exists_congr fun n => Hole.number?_eq_some_iff_read

theorem holeLabel_rank (hole : Hole) : holeLabel .rank hole = rankLabel hole := by
  rw [holeLabel, rankLabel, Hole.effectiveLabel, ← toList_name, String.ofList_toList]
  by_cases h : hole.isNumbered = true
  · rw [if_pos h, if_pos (toList_name hole ▸ (isNumbered_iff_isIndex hole).1 h)]
  · rw [if_neg h, if_neg h, if_neg (toList_name hole ▸ mt (isNumbered_iff_isIndex hole).2 h)]

/-! ## The two tables -/

/-- The relations of holes that are bound by number: one for each number, at its first occurrence. -/
def numberedRelations (arguments : List Argument) (holes : List Hole) : List Relation :=
  (holes.map Hole.effectiveIndex).eraseDups.map fun n => ⟨valueLabel n, valueAt? arguments n⟩

/-- The relations of holes that are bound by rank: one for each hole. -/
def rankedRelations (arguments : List Argument) (holes : List Hole) : List Relation :=
  holes.map fun hole => ⟨rankLabel hole, valueAt? arguments hole.rank⟩

section Tables

variable {arguments : List Argument} {holes before : List Hole} {rs : Relations}

theorem contains_valueLabel_iff (h : rs.toList = numberedRelations arguments before) {n : Nat} :
    rs.contains (valueLabel n) = true ↔ n ∈ before.map Hole.effectiveIndex := by
  rw [Relations.contains_eq_true_iff, h, numberedRelations]
  constructor
  · rintro ⟨r, hr, hlabel⟩
    obtain ⟨m, hm, rfl⟩ := List.mem_map.1 hr
    obtain rfl := valueLabel_injective hlabel
    exact List.mem_eraseDups.1 hm
  · intro hn
    exact ⟨_, List.mem_map_of_mem (List.mem_eraseDups.2 hn), rfl⟩

/-- One hole more: its number is looked up among the labels, which stand for the numbers before. -/
theorem toList_addRelation_index (h : rs.toList = numberedRelations arguments before) (hole : Hole) :
    (addRelation .index arguments rs hole).toList =
      numberedRelations arguments (before ++ [hole]) := by
  have hconcat := eraseDups_concat (before.map Hole.effectiveIndex) hole.effectiveIndex
  rw [numberedRelations, List.map_append, List.map_singleton, hconcat]
  by_cases hmem : hole.effectiveIndex ∈ before.map Hole.effectiveIndex
  · have hcontains := (contains_valueLabel_iff h).2 hmem
    rw [if_pos hmem, addRelation, holeLabel, if_pos (by simpa using hcontains), h, numberedRelations]
  · have hcontains := mt (contains_valueLabel_iff h).1 hmem
    rw [if_neg hmem, addRelation, holeLabel, if_neg (by simpa using hcontains),
      Relations.toList_push, h, numberedRelations, List.map_append, boundValue?_eq]
    rfl

theorem toList_foldl_index (holes : List Hole) :
    ∀ {before : List Hole} {rs : Relations}, rs.toList = numberedRelations arguments before →
      (holes.foldl (addRelation .index arguments) rs).toList =
        numberedRelations arguments (before ++ holes) := by
  induction holes with
  | nil => intro before rs h; simpa using h
  | cons hole holes ih =>
    intro before rs h
    rw [List.foldl_cons, ih (toList_addRelation_index h hole), List.append_assoc,
      List.singleton_append]

theorem toList_relationsOf_index {tokens : List Token} (h : Binding.ofTokens tokens = .index) :
    (relationsOf tokens arguments).toList = numberedRelations arguments (holesOf tokens) := by
  have hempty : Relations.empty.toList = numberedRelations arguments [] := rfl
  rw [relationsOf, h, toList_foldl_index _ hempty, List.nil_append]

theorem toList_relationsOf_rank {tokens : List Token} (h : Binding.ofTokens tokens = .rank) :
    (relationsOf tokens arguments).toList = rankedRelations arguments (holesOf tokens) := by
  rw [relationsOf, h, toList_foldl_rank, Relations.empty, List.nil_append, rankedRelations]
  refine List.map_congr_left fun hole _ => ?_
  rw [holeLabel_rank, boundValue?_eq]
  rfl

/-- The labels of numbers are all different, one for each number. -/
theorem labels_numberedRelations (h : rs.toList = numberedRelations arguments holes) :
    rs.labels.Nodup ∧ rs.size = (holes.map Hole.effectiveIndex).toFinset.card := by
  have hlabels : rs.labels = (holes.map Hole.effectiveIndex).eraseDups.map valueLabel := by
    rw [Relations.labels, h, numberedRelations, List.map_map]
    rfl
  constructor
  · rw [hlabels]
    exact (nodup_eraseDups _).map fun m n => valueLabel_injective
  · rw [Relations.size, h, numberedRelations, List.length_map, length_eraseDups]

end Tables

/-! ## Lookup -/

/-- The ways to look up a label agree, and lead to its first relation. -/
structure Relations.FindsFirst (rs : Relations) (label : String) : Prop where
  contains_iff : rs.contains label = true ↔ label ∈ rs.labels
  isSome_indexOf? : (rs.indexOf? label).isSome = rs.contains label
  isSome_byLabel? : (rs.byLabel? label).isSome = rs.contains label
  /-- The relation at the position that is found is the one that is found. -/
  get?_indexOf? : (rs.indexOf? label).bind rs.get? = rs.byLabel? label
  label_eq : ∀ r, rs.byLabel? label = some r → r.label = label
  /-- No relation before it has the label. -/
  first : ∀ i, rs.indexOf? label = some i → ∀ j < i, ∀ r, rs.get? j = some r → r.label ≠ label

theorem Relations.findsFirst (rs : Relations) (label : String) : rs.FindsFirst label where
  contains_iff := by simp [contains_eq_true_iff, labels]
  isSome_indexOf? := rfl
  isSome_byLabel? := by
    rw [Bool.eq_iff_iff, contains_eq_true_iff, byLabel?, List.find?_isSome]
    simp
  get?_indexOf? := by
    cases h : rs.indexOf? label with
    | none =>
      have hnone : rs.byLabel? label = none := by
        rw [byLabel?, List.find?_eq_none]
        simpa [indexOf?] using h
      rw [hnone, Option.bind_none]
    | some i =>
      obtain ⟨hi, hlabel, hbefore⟩ := List.findIdx?_eq_some_iff_getElem.1 h
      have hsome : rs.byLabel? label = some rs.toList[i] :=
        List.find?_eq_some_iff_getElem.2 ⟨hlabel, i, hi, rfl, fun j hj => by simpa using hbefore j hj⟩
      rw [hsome, Option.bind_some, get?, List.getElem?_eq_getElem hi]
  label_eq r h := by simpa using List.find?_some h
  first i h j hj r hr := by
    obtain ⟨hi, -, hbefore⟩ := List.findIdx?_eq_some_iff_getElem.1 h
    obtain ⟨-, rfl⟩ := List.getElem?_eq_some_iff.1 hr
    simpa using hbefore j hj

/-! ## The table -/

/-- **Relations are a table.** Holes that are bound by number have one relation for each number, in
the order of first occurrence and under different labels. Holes that are bound by rank have one
each, in order, under what is declared behind the mark, or under the rank if that is a number. A
label leads to its first relation. -/
theorem relationsOf_table (tokens : List Token) (arguments : List Argument) :
    (Binding.ofTokens tokens = .index →
      (relationsOf tokens arguments).toList = numberedRelations arguments (holesOf tokens) ∧
      (relationsOf tokens arguments).labels.Nodup ∧
      (relationsOf tokens arguments).size =
        ((holesOf tokens).map Hole.effectiveIndex).toFinset.card) ∧
    (Binding.ofTokens tokens = .rank →
      (relationsOf tokens arguments).toList = rankedRelations arguments (holesOf tokens)) ∧
    ∀ label, (relationsOf tokens arguments).FindsFirst label := by
  refine ⟨fun hindex => ?_, toList_relationsOf_rank, (relationsOf tokens arguments).findsFirst⟩
  have htable : (relationsOf tokens arguments).toList =
      numberedRelations arguments (holesOf tokens) := toList_relationsOf_index hindex
  exact ⟨htable, labels_numberedRelations htable⟩

/-- A number is the same with a leading zero or behind a mark, and another one with a zero behind
it; a null is no value. A name is the same behind a mark, and a number among names stands for its
rank. -/
theorem relationsOf_table_marks :
    let numbered := tokenize "\x7b01\x7d\x7b10\x7d\x7b@1\x7d\x7b$0\x7d"
    let named := tokenize "\x7buser\x7d\x7b5\x7d\x7b@user\x7d\x7b$id\x7d"
    (Binding.ofTokens numbered = .index ∧
      (relationsOf numbered [.null, .int 7]).toList =
        [⟨"Value1", some (.int 7)⟩, ⟨"Value10", none⟩, ⟨"Value0", none⟩] ∧
      (relationsOf numbered [.null, .int 7]).size = 3) ∧
    Binding.ofTokens named = .rank ∧
      (relationsOf named [.int 7, .null, .bool true]).toList =
        [⟨"user", some (.int 7)⟩, ⟨"Value1", none⟩, ⟨"user", some (.bool true)⟩, ⟨"id", none⟩] := by
  intro numbered named
  have hindex : Binding.ofTokens numbered = .index := by decide +kernel
  have hnumbers : (holesOf numbered).map Hole.effectiveIndex = [1, 10, 1, 0] := by decide +kernel
  obtain ⟨htable, -, hsize⟩ := (relationsOf_table numbered [.null, .int 7]).1 hindex
  rw [numberedRelations, hnumbers] at htable
  rw [hnumbers] at hsize
  have hrank : Binding.ofTokens named = .rank := by decide +kernel
  have hlabels : (holesOf named).map (fun hole => (rankLabel hole, hole.rank)) =
      [("user", 0), ("Value1", 1), ("user", 2), ("id", 3)] := by decide +kernel
  have hranked := (relationsOf_table named [.int 7, .null, .bool true]).2.1 hrank
  have hpairs : rankedRelations [.int 7, .null, .bool true] (holesOf named) =
      ((holesOf named).map fun hole => (rankLabel hole, hole.rank)).map fun p =>
        ⟨p.1, valueAt? [.int 7, .null, .bool true] p.2⟩ := by
    rw [rankedRelations, List.map_map]
    rfl
  rw [hpairs, hlabels] at hranked
  exact ⟨⟨hindex, htable, hsize⟩, hrank, hranked⟩

end MessageTemplate
