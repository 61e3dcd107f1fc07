import MessageTemplate.Render.Relations

/-!
# The rendering read off the relations

The weaver and the relations decide by themselves which value a hole stands for. They agree: a
token list can be rendered without the arguments, from its relations alone.

- **Labels** (`valueLabel_injective`): distinct numbers have distinct labels.
- **The tabulation** (`Tabulates`): going through the holes of an index-bound list keeps, for every
  number, at most the one value that each hole of that number reads; `Tabulates.step` is one hole
  and `tabulates_foldl` is a run.
- **The lookup** (`forHole?_relationsOf`): it finds a relation for every hole, with the value that
  the hole is bound to.
- **The rendering** (`weave_ofRelations`): the lookup never misses, and the texts that it
  leads to are those of `weave`.
-/

namespace MessageTemplate

/-! ## Labels -/

theorem numberText_injective {m n : Nat} (h : numberText m = numberText n) : m = n := by
  have hd : decimalDigits m = decimalDigits n := String.ofList_injective h
  unfold decimalDigits at hd
  rw [← Nat.ofDigitChars_ten_toDigits (n := m), hd, Nat.ofDigitChars_ten_toDigits]

theorem valueLabel_injective {m n : Nat} (h : valueLabel m = valueLabel n) : m = n := by
  unfold valueLabel at h
  exact numberText_injective ((String.append_right_inj "Value").1 h)

/-! ## Bound values -/

/-- The argument at a position, if it is there and not null. -/
def valueAt? (arguments : List Argument) (position : Nat) : Option Argument :=
  arguments[position]?.filter fun value => !value.isNull

theorem boundValue?_eq (binding : Binding) (arguments : List Argument) (hole : Hole) :
    boundValue? binding arguments hole = valueAt? arguments (binding.position hole) := rfl

/-! ## Lookup -/

namespace Relations

theorem contains_eq_true_iff {rs : Relations} {label : String} :
    rs.contains label = true ↔ ∃ r ∈ rs.toList, r.label = label := by
  simp [contains, indexOf?]

@[simp] theorem toList_push (rs : Relations) (r : Relation) :
    (rs.push r).toList = rs.toList ++ [r] := rfl

/-- A label that is there leads to a relation of that label. -/
theorem byLabel?_of_contains {rs : Relations} {label : String} (h : rs.contains label = true) :
    ∃ r ∈ rs.toList, rs.byLabel? label = some r ∧ r.label = label := by
  obtain ⟨r, hr, hl⟩ := contains_eq_true_iff.1 h
  unfold byLabel?
  have hf : (rs.toList.find? fun r => r.label == label).isSome = true :=
    List.find?_isSome.2 ⟨r, hr, by simpa using hl⟩
  obtain ⟨s, hs⟩ := Option.isSome_iff_exists.1 hf
  exact ⟨s, List.mem_of_find?_eq_some hs, hs, by simpa using List.find?_some hs⟩

/-- The relation that stands for a hole with `k` holes before it. -/
def forHole? (rs : Relations) (binding : Binding) (k : Nat) (hole : Hole) : Option Relation :=
  match binding with
  | .index => rs.byLabel? (valueLabel hole.effectiveIndex)
  | .rank => rs.get? k

end Relations

/-! ## Holes bound by number -/

/-- The relations after some holes that are bound by number: whatever is found under the label of
a number is the argument at that position, and every number of the holes is there. -/
structure Tabulates (arguments : List Argument) (holes : List Hole) (rs : Relations) : Prop where
  values : ∀ r ∈ rs.toList, ∀ n, r.label = valueLabel n → r.value? = valueAt? arguments n
  labels : ∀ hole ∈ holes, rs.contains (valueLabel hole.effectiveIndex) = true

theorem contains_addRelation {binding : Binding} {arguments : List Argument} {rs : Relations}
    {label : String} (hole : Hole) (h : rs.contains label = true) :
    (addRelation binding arguments rs hole).contains label = true := by
  unfold addRelation
  split
  · exact h
  · obtain ⟨r, hr, hl⟩ := Relations.contains_eq_true_iff.1 h
    exact Relations.contains_eq_true_iff.2
      ⟨r, by simp [hr], hl⟩

theorem contains_addRelation_self (arguments : List Argument) (rs : Relations) (hole : Hole) :
    (addRelation .index arguments rs hole).contains (valueLabel hole.effectiveIndex) = true := by
  by_cases h : rs.contains (valueLabel hole.effectiveIndex) = true
  · exact contains_addRelation hole h
  · simp [addRelation, holeLabel, h, Relations.contains_eq_true_iff]

/-- One hole more. A number that is already there is skipped, so the first relation of a number
has to do for all its holes; it does, as they read the same position. -/
theorem Tabulates.step {arguments : List Argument} {holes : List Hole} {rs : Relations}
    (h : Tabulates arguments holes rs) (hole : Hole) :
    Tabulates arguments (holes ++ [hole]) (addRelation .index arguments rs hole) where
  values := by
    intro r hr n hn
    unfold addRelation at hr
    split at hr
    · exact h.values r hr n hn
    · rw [Relations.toList_push, List.mem_append, List.mem_singleton] at hr
      obtain hr | rfl := hr
      · exact h.values r hr n hn
      · have hi : hole.effectiveIndex = n := valueLabel_injective hn
        rw [← hi]
        exact boundValue?_eq .index arguments hole
  labels := by
    intro x hx
    obtain hx | rfl := List.mem_append.1 hx |>.imp_right List.mem_singleton.1
    · exact contains_addRelation hole (h.labels x hx)
    · exact contains_addRelation_self arguments rs x

theorem tabulates_foldl {arguments : List Argument} (holes : List Hole) :
    ∀ {before : List Hole} {rs : Relations}, Tabulates arguments before rs →
      Tabulates arguments (before ++ holes) (holes.foldl (addRelation .index arguments) rs) := by
  induction holes with
  | nil => intro before rs h; simpa using h
  | cons hole holes ih =>
    intro before rs h
    have := ih (h.step hole)
    rwa [List.append_assoc] at this

theorem tabulates_empty (arguments : List Argument) : Tabulates arguments [] .empty where
  values := by intro r hr; cases hr
  labels := by intro hole h; cases h

theorem Tabulates.byLabel? {arguments : List Argument} {holes : List Hole} {rs : Relations}
    (h : Tabulates arguments holes rs) {hole : Hole} (hh : hole ∈ holes) :
    ∃ r, rs.byLabel? (valueLabel hole.effectiveIndex) = some r ∧
      r.value? = boundValue? .index arguments hole := by
  obtain ⟨r, hr, hf, hl⟩ := Relations.byLabel?_of_contains (h.labels hole hh)
  exact ⟨r, hf, h.values r hr _ hl⟩

/-! ## Holes bound by rank -/

theorem toList_foldl_rank (arguments : List Argument) (holes : List Hole) :
    ∀ rs : Relations, (holes.foldl (addRelation .rank arguments) rs).toList = rs.toList ++
      holes.map fun hole => ⟨holeLabel .rank hole, boundValue? .rank arguments hole⟩ := by
  induction holes with
  | nil => intro rs; simp
  | cons hole holes ih =>
    intro rs
    have hs : addRelation .rank arguments rs hole =
        rs.push ⟨holeLabel .rank hole, boundValue? .rank arguments hole⟩ := rfl
    rw [List.foldl_cons, ih, hs, Relations.toList_push, List.append_assoc]
    rfl

/-! ## Every hole finds its value -/

/-- The relations have, for each hole of the list, the value that the hole is bound to. -/
theorem forHole?_relationsOf (tokens : List Token) (arguments : List Argument) {k : Nat}
    {hole : Hole} (h : (holesOf tokens)[k]? = some hole) :
    ∃ r, (relationsOf tokens arguments).forHole? (.ofTokens tokens) k hole = some r ∧
      r.value? = boundValue? (.ofTokens tokens) arguments hole := by
  unfold relationsOf
  cases Binding.ofTokens tokens with
  | index =>
    have ht := tabulates_foldl (holesOf tokens) (tabulates_empty arguments)
    exact ht.byLabel? (List.mem_of_getElem? h)
  | rank =>
    refine ⟨⟨holeLabel .rank hole, boundValue? .rank arguments hole⟩, ?_, rfl⟩
    have hl := toList_foldl_rank arguments (holesOf tokens) .empty
    unfold Relations.forHole? Relations.get?
    rw [hl]
    simp [Relations.empty, h]

/-! ## Rendering from relations -/

/-- The text of a hole that a relation stands for. -/
def relationText (options : Options) (hole : Hole) (r : Relation) : String :=
  match r.value? with
  | none => options.fallback?.getD hole.marker
  | some value => settle hole (renderValue options hole value).result

/-- The text of tokens with `k` holes before them, from relations. There is none if some hole has
no relation. -/
def weaveFrom? (options : Options) (binding : Binding) (rs : Relations) :
    Nat → List Token → Option String
  | _, [] => some ""
  | k, .literal l :: tokens => (weaveFrom? options binding rs k tokens).map (l.text ++ ·)
  | k, .hole hole :: tokens => do
    let r ← rs.forHole? binding k hole
    let rest ← weaveFrom? options binding rs (k + 1) tokens
    pure (relationText options hole r ++ rest)

theorem relationText_eq {options : Options} {hole : Hole} {r : Relation}
    {value? : Option Argument} (h : r.value? = value?) :
    relationText options hole r = (renderHole options hole value?).result := by
  unfold relationText
  rw [h]
  cases value? <;> rfl

/-- Relations that have a value for every hole render as the weaver does. -/
theorem weaveFrom?_eq {options : Options} {binding : Binding} {arguments : List Argument}
    {rs : Relations} (tokens : List Token) :
    ∀ k, (∀ i hole, (holesOf tokens)[i]? = some hole → ∃ r,
        rs.forHole? binding (k + i) hole = some r ∧ r.value? = boundValue? binding arguments hole) →
      weaveFrom? options binding rs k tokens =
        some (String.join (renderTokens options binding arguments tokens).result) := by
  induction tokens with
  | nil => intro k _; rfl
  | cons token tokens ih =>
    intro k h
    cases token with
    | literal l =>
      have hr := ih k h
      simp only [weaveFrom?, hr, Option.map_some, renderTokens, renderToken, Traced.result_bind,
        Traced.result_pure, String.join_cons]
    | hole hole =>
      obtain ⟨r, hf, hv⟩ := h 0 hole rfl
      have hr := ih (k + 1) fun i x hx => by
        obtain ⟨s, hs⟩ := h (i + 1) x hx
        exact ⟨s, by rwa [Nat.add_right_comm, Nat.add_assoc]⟩
      simp only [weaveFrom?, Nat.add_zero] at hf ⊢
      rw [hf, hr]
      simp only [renderTokens, renderToken, Traced.result_bind, Traced.result_pure,
        String.join_cons, relationText_eq hv, Option.bind_eq_bind, Option.bind_some]
      rfl

/-- **The relations carry the rendering.** The text of any token list is the one that is read off
its relations, and every hole has a relation. -/
theorem weave_ofRelations (options : Options) (tokens : List Token)
    (arguments : List Argument) :
    weaveFrom? options (.ofTokens tokens) (relationsOf tokens arguments) 0 tokens =
      some (weave options tokens arguments).result := by
  refine weaveFrom?_eq tokens 0 fun i hole h => ?_
  rw [Nat.zero_add]
  exact forHole?_relationsOf tokens arguments h

end MessageTemplate
