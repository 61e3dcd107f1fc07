import Mathlib.Data.List.Basic
import MessageTemplate.Serializer

/-!
# The depth of a serializer prunes

The built-in serializer leaves out arrays and what is nested too deeply. It writes an object as if
these parts were not there, and all that is left of it is written.

- **Pruned values** (`Json.prune?`): a value without arrays and without objects nested too deeply.
  `Json.prune?_shallow` says that nothing of these is left, `Json.prune?_of_shallow` that nothing
  else is lost.
- **Whole texts** (`Serializer.wholeText`): the text of a value with all of its members. By
  `Serializer.valueText?_eq` and `Serializer.documentText_eq` it is what the serializer writes of a
  pruned value.
- **Arguments** (`Argument.document?`): the value that a serializer shows of an argument.
- **Depths** (`Serializer.serialize_prune`): a depth is as good as pruning.
-/

namespace MessageTemplate

namespace Json

/-- **Values from their parts.** What holds of a value when it holds of the items of an array or the
values of the members of an object holds of every value. -/
theorem value_induction {motive : Json → Prop} (null : motive .null) (bool : ∀ b, motive (.bool b))
    (number : ∀ n, motive (.number n)) (string : ∀ s, motive (.string s))
    (array : ∀ items, (∀ item ∈ items, motive item) → motive (.array items))
    (object : ∀ members, (∀ m ∈ members, motive m.2) → motive (.object members))
    (value : Json) : motive value :=
  @Json.rec motive (fun items => ∀ item ∈ items, motive item)
    (fun members => ∀ m ∈ members, motive m.2) (fun m => motive m.2)
    null bool number string array object nofun
    (fun _ _ hitem hrest => List.forall_mem_cons.2 ⟨hitem, hrest⟩) nofun
    (fun _ _ hmember hrest => List.forall_mem_cons.2 ⟨hmember, hrest⟩)
    (fun _ _ hvalue => hvalue) value

/-! ## Pruned values -/

mutual

/-- What is left of a member's value; `depth` levels of objects are kept, and no array is. -/
def prune? (depth : Nat) : Json → Option Json
  | .array _ => none
  | .object members =>
    match depth with
    | 0 => none
    | depth + 1 => some (.object (pruneMembers depth members))
  | value => some value

/-- The members of which something is left, in their order. -/
def pruneMembers (depth : Nat) : List (String × Json) → List (String × Json)
  | [] => []
  | (name, value) :: rest =>
    match prune? depth value with
    | some value => (name, value) :: pruneMembers depth rest
    | none => pruneMembers depth rest

end

/-- What is left of a whole value under a depth. An object is always left, and in place of null
there is one without members. -/
def pruneDocument (depth : Nat) : Json → Json
  | .object members => .object (pruneMembers depth members)
  | .null => .object []
  | value => value

mutual

/-- Whether there is an array in the value. -/
def hasArray : Json → Bool
  | .array _ => true
  | .object members => anyArray members
  | _ => false

/-- Whether there is an array in one of the members. -/
def anyArray : List (String × Json) → Bool
  | [] => false
  | (_, value) :: rest => hasArray value || anyArray rest

end

mutual

/-- How many objects stand inside one another, the value itself counted. -/
def objectLevels : Json → Nat
  | .object members => nesting members + 1
  | _ => 0

/-- How deeply objects are nested in the members of an object. -/
def nesting : List (String × Json) → Nat
  | [] => 0
  | (_, value) :: rest => max (objectLevels value) (nesting rest)

end

section Pruning

variable {depth : Nat} {value pruned : Json} {members : List (String × Json)}

theorem pruneMembers_eq (depth : Nat) (members : List (String × Json)) :
    pruneMembers depth members =
      members.filterMap fun m => (prune? depth m.2).map (Prod.mk m.1) := by
  induction members with
  | nil => rfl
  | cons m rest ih =>
    rw [pruneMembers, List.filterMap_cons, ih]
    cases prune? depth m.2 <;> rfl

theorem mem_pruneMembers {m : String × Json} : m ∈ pruneMembers depth members ↔
    ∃ value, (m.1, value) ∈ members ∧ prune? depth value = some m.2 := by
  obtain ⟨name, pruned⟩ := m
  simp only [pruneMembers_eq, List.mem_filterMap, Option.map_eq_some_iff, Prod.mk.injEq]
  constructor
  · rintro ⟨⟨_, value⟩, hmem, _, hvalue, rfl, rfl⟩
    exact ⟨value, hmem, hvalue⟩
  · rintro ⟨value, hmem, hvalue⟩
    exact ⟨(name, value), hmem, pruned, hvalue, rfl, rfl⟩

theorem anyArray_eq_false_iff : anyArray members = false ↔ ∀ m ∈ members, hasArray m.2 = false := by
  induction members with
  | nil => simp [anyArray]
  | cons m rest ih => rw [anyArray, Bool.or_eq_false_iff, ih, List.forall_mem_cons]

theorem nesting_le_iff : nesting members ≤ depth ↔ ∀ m ∈ members, objectLevels m.2 ≤ depth := by
  induction members with
  | nil => simp [nesting]
  | cons m rest ih => rw [nesting, Nat.max_le, ih, List.forall_mem_cons]

/-- Nothing is left that is not to be shown. -/
theorem prune?_shallow (h : prune? depth value = some pruned) :
    hasArray pruned = false ∧ objectLevels pruned ≤ depth := by
  induction value using value_induction generalizing depth pruned with
  | null => cases h; exact ⟨rfl, depth.zero_le⟩
  | bool b => cases h; exact ⟨rfl, depth.zero_le⟩
  | number n => cases h; exact ⟨rfl, depth.zero_le⟩
  | string s => cases h; exact ⟨rfl, depth.zero_le⟩
  | array items => cases h
  | object members ih =>
    cases depth with
    | zero => cases h
    | succ depth =>
      obtain rfl : Json.object (pruneMembers depth members) = pruned := Option.some.inj h
      have hmembers : ∀ m ∈ pruneMembers depth members,
          hasArray m.2 = false ∧ objectLevels m.2 ≤ depth := by
        intro m hm
        obtain ⟨value, hmem, hvalue⟩ := mem_pruneMembers.1 hm
        exact ih _ hmem hvalue
      exact ⟨anyArray_eq_false_iff.2 fun m hm => (hmembers m hm).1,
        Nat.succ_le_succ (nesting_le_iff.2 fun m hm => (hmembers m hm).2)⟩

theorem anyArray_pruneMembers (depth : Nat) (members : List (String × Json)) :
    anyArray (pruneMembers depth members) = false := by
  refine anyArray_eq_false_iff.2 fun m hm => ?_
  obtain ⟨_, -, hvalue⟩ := mem_pruneMembers.1 hm
  exact (prune?_shallow hvalue).1

theorem nesting_pruneMembers_le (depth : Nat) (members : List (String × Json)) :
    nesting (pruneMembers depth members) ≤ depth := by
  refine nesting_le_iff.2 fun m hm => ?_
  obtain ⟨_, -, hvalue⟩ := mem_pruneMembers.1 hm
  exact (prune?_shallow hvalue).2

theorem pruneMembers_of_forall (h : ∀ m ∈ members, prune? depth m.2 = some m.2) :
    pruneMembers depth members = members := by
  have hsame : ∀ m ∈ members, (prune? depth m.2).map (Prod.mk m.1) = some m := by
    intro m hm
    rw [h m hm]
    rfl
  rw [pruneMembers_eq, List.filterMap_congr hsame, List.filterMap_some]

/-- A value without arrays whose objects are not nested too deeply is kept as it is. -/
theorem prune?_of_shallow (harray : hasArray value = false) (hlevels : objectLevels value ≤ depth) :
    prune? depth value = some value := by
  induction value using value_induction generalizing depth with
  | null => rfl
  | bool b => rfl
  | number n => rfl
  | string s => rfl
  | array items => cases harray
  | object members ih =>
    obtain ⟨depth, rfl⟩ : ∃ d, depth = d + 1 := Nat.exists_eq_add_one.2 (by
      rw [objectLevels] at hlevels
      omega)
    have hmembers : pruneMembers depth members = members := by
      refine pruneMembers_of_forall fun m hm => ih m hm ?_ ?_
      · exact anyArray_eq_false_iff.1 harray m hm
      · exact nesting_le_iff.1 (Nat.le_of_succ_le_succ hlevels) m hm
    rw [prune?, hmembers]

theorem pruneMembers_of_shallow (harray : anyArray members = false)
    (hnesting : nesting members ≤ depth) : pruneMembers depth members = members :=
  pruneMembers_of_forall fun m hm =>
    prune?_of_shallow (anyArray_eq_false_iff.1 harray m hm) (nesting_le_iff.1 hnesting m hm)

end Pruning

end Json

/-! ## Whole texts -/

namespace Serializer

/-- A name and the text of its value. -/
def memberText (name : String) (text : List Char) : List Char := name.toList ++ ':' :: ' ' :: text

mutual

/-- The text of a value with all members of its objects. -/
def wholeText (separators : Separators) : Json → List Char
  | .object members => bracketed (wholeMembers separators members)
  | value => (valueText? separators 0 value).getD []

/-- The texts of all members. -/
def wholeMembers (separators : Separators) : List (String × Json) → List (List Char)
  | [] => []
  | (name, value) :: rest =>
    memberText name (wholeText separators value) :: wholeMembers separators rest

end

section Texts

variable {separators : Separators} {depth : Nat} {members : List (String × Json)}

theorem wholeMembers_eq (separators : Separators) (members : List (String × Json)) :
    wholeMembers separators members =
      members.map fun m => memberText m.1 (wholeText separators m.2) := by
  induction members with
  | nil => rfl
  | cons m rest ih => rw [wholeMembers, List.map_cons, ih]

theorem memberTexts_eq_filterMap (separators : Separators) (depth : Nat)
    (members : List (String × Json)) : memberTexts separators depth members =
      members.filterMap fun m => (valueText? separators depth m.2).map (memberText m.1) := by
  induction members with
  | nil => rfl
  | cons m rest ih =>
    rw [memberTexts, List.filterMap_cons, ih]
    cases valueText? separators depth m.2 <;> rfl

theorem memberTexts_of_forall (h : ∀ m ∈ members, valueText? separators depth m.2 =
      (Json.prune? depth m.2).map (wholeText separators)) :
    memberTexts separators depth members =
      wholeMembers separators (Json.pruneMembers depth members) := by
  rw [memberTexts_eq_filterMap, wholeMembers_eq, Json.pruneMembers_eq, List.map_filterMap]
  refine List.filterMap_congr fun m hm => ?_
  rw [h m hm, Option.map_map, Option.map_map]
  rfl

/-- What is written of a value is all that is left of it. -/
theorem valueText?_eq (separators : Separators) (depth : Nat) (value : Json) :
    valueText? separators depth value =
      (Json.prune? depth value).map (wholeText separators) := by
  induction value using Json.value_induction generalizing depth with
  | null => rfl
  | bool b => rfl
  | number n => cases n <;> rfl
  | string s => rfl
  | array items => rfl
  | object members ih =>
    cases depth with
    | zero => rfl
    | succ depth =>
      rw [valueText?, memberTexts_of_forall fun m hm => ih m hm depth]
      rfl

theorem documentText_object (separators : Separators) (depth : Nat)
    (members : List (String × Json)) : documentText separators depth (.object members) =
      wholeText separators (.object (Json.pruneMembers depth members)) := by
  rw [documentText, memberTexts_of_forall fun m _ => valueText?_eq separators depth m.2, wholeText]

/-- What is written of a whole value is all that is left of it. -/
theorem documentText_eq (separators : Separators) (depth : Nat) (document : Json) :
    documentText separators depth document =
      wholeText separators (Json.pruneDocument depth document) := by
  cases document with
  | null => rfl
  | bool b => rfl
  | number n => cases n <;> rfl
  | string s => rfl
  | array items => rfl
  | object members => exact documentText_object separators depth members

end Texts

end Serializer

/-! ## Arguments -/

/-- The value that a serializer shows of a structure of the user's; null stands for one that shows
nothing. -/
def Argument.document? : Argument → Option Json
  | .record value => some value
  | .custom value => some (value.fields.getD .null)
  | _ => none

namespace Serializer

section Arguments

variable {argument : Argument} {document : Json}

theorem serialize_document (depth : Nat) (provider : FormatProvider) (format lining : String)
    (h : argument.document? = some document) :
    serialize (.fields depth) provider format lining argument =
      .ok (String.ofList (documentText provider.separators depth document)) := by
  cases argument with
  | record value => cases h; rfl
  | custom value => cases h; rfl
  | _ => cases h

end Arguments

/-- **Depths prune.** Under a depth an object has the text that its pruned form has under the same
and every larger depth. If it holds no array and no object nested more deeply, then no member is
left out, whatever the larger depth. -/
theorem serialize_prune {depth limit : Nat} (hle : depth ≤ limit) (provider : FormatProvider)
    (format lining : String) {members : List (String × Json)} {whole pruned : Argument}
    (hwhole : whole.document? = some (.object members))
    (hpruned : pruned.document? = some (.object (Json.pruneMembers depth members))) :
    (∃ text, serialize (.fields depth) provider format lining whole = .ok text ∧
      serialize (.fields limit) provider format lining pruned = .ok text) ∧
    (Json.anyArray members = false → Json.nesting members ≤ depth →
      ∃ text, serialize (.fields depth) provider format lining whole = .ok text ∧
        serialize (.fields limit) provider format lining whole = .ok text ∧
        text.toList = bracketed (members.map fun m =>
          memberText m.1 (wholeText provider.separators m.2))) := by
  have hkept : Json.pruneMembers limit (Json.pruneMembers depth members) =
      Json.pruneMembers depth members :=
    Json.pruneMembers_of_shallow (Json.anyArray_pruneMembers depth members)
      (Nat.le_trans (Json.nesting_pruneMembers_le depth members) hle)
  simp only [serialize_document _ _ _ _ hwhole, serialize_document _ _ _ _ hpruned,
    documentText_object, hkept]
  refine ⟨⟨_, rfl, rfl⟩, fun harray hnesting => ?_⟩
  have hdepth := Json.pruneMembers_of_shallow harray hnesting
  have hlimit := Json.pruneMembers_of_shallow harray (Nat.le_trans hnesting hle)
  rw [hdepth, hlimit]
  refine ⟨_, rfl, rfl, ?_⟩
  rw [String.toList_ofList, wholeText, wholeMembers_eq]

/-- One level of objects is kept, the second one and the array are not; two levels are all that
there is without the array. -/
theorem serialize_prune_nested :
    let deep : Json := .object [("d", .bool true)]
    let nested : Json := .object [("c", deep), ("e", .string "x")]
    let members := [("a", .array [.null]), ("b", nested), ("f", .null)]
    let pruned := [("b", .object [("e", .string "x")]), ("f", .null)]
    (serialize (.fields 1) .invariant "" "" (.record (.object members)) =
        .ok "[b: [e: \"x\"]; f: null]" ∧
      serialize (.fields 3) .invariant "" "" (.record (.object pruned)) =
        .ok "[b: [e: \"x\"]; f: null]") ∧
    serialize (.fields 2) .invariant "" "" (.record nested) =
        .ok "[c: [d: true]; e: \"x\"]" ∧
      serialize (.fields 9) .invariant "" "" (.record nested) =
        .ok "[c: [d: true]; e: \"x\"]" := by
  intro deep nested members pruned
  obtain ⟨⟨text, hwhole, hpruned⟩, -⟩ := serialize_prune (by decide : 1 ≤ 3) .invariant "" ""
    (rfl : Argument.document? (.record (.object members)) = some (.object members))
    (rfl : Argument.document? (.record (.object pruned)) = some _)
  obtain ⟨-, hall⟩ := serialize_prune (by decide : 2 ≤ 9) .invariant "" ""
    (rfl : Argument.document? (.record nested) = some (.object [("c", deep), ("e", .string "x")]))
    (rfl : Argument.document? (.record nested) = some _)
  obtain ⟨text', htwo, hnine, htext⟩ := hall rfl (by decide)
  have hshown : text = "[b: [e: \"x\"]; f: null]" := by
    rw [Except.ok.inj (hwhole.symm.trans (serialize_document 1 .invariant "" "" rfl))]
    decide +kernel
  have hshown' : text' = "[c: [d: true]; e: \"x\"]" := by
    rw [← String.toList_inj, htext]
    decide +kernel
  subst hshown hshown'
  exact ⟨⟨hwhole, hpruned⟩, htwo, hnine⟩

end Serializer

end MessageTemplate
