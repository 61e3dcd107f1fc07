import Mathlib.Data.List.Forall2
import MessageTemplate.Render.Weave

/-!
# The texts of nested lists

A list shows its items in brackets, and an item may be a list again. Only values of the user's own
refuse to be shown. Of those that do, the one that is read first speaks for the whole list, and
nothing of the other items is shown.

- **Places** (`Argument.at?`): what stands where in nested lists. `Argument.Precedes` is the order in
  which places are read, a list before its items and each item to its end before the next one.
- **Items** (`Argument.displayItems_eq_ok_iff`, `Argument.exists_first_of_displayItems`): items have a
  text each, or the first of those that have none gives the error and ends the attempt.
- **Refusals** (`Argument.RefusesAt`, `Argument.RefusesFirst`): a refusal at any place leaves no text
  (`Argument.RefusesAt.exists_error`), and an error is that of the first refusal
  (`Argument.exists_refusesFirst`), of which there is one only (`Argument.RefusesFirst.unique`).
- **Nested texts** (`Argument.display_nested`): all of this for every argument, with the texts of all
  lists in it where nothing refuses, and what a hole shows where something does.
-/

namespace MessageTemplate

namespace Argument

/-- **Arguments from their items.** What holds of all arguments but lists, and of a list when it
holds of its items, holds of every argument. -/
theorem nested_induction {motive : Argument → Prop}
    (single : ∀ a, (∀ items, a ≠ .list items) → motive a)
    (list : ∀ items, (∀ item ∈ items, motive item) → motive (.list items)) (a : Argument) :
    motive a :=
  @Argument.rec motive (fun items => ∀ item ∈ items, motive item)
    (single _ nofun) (fun _ => single _ nofun) (fun _ => single _ nofun)
    (fun _ => single _ nofun) (fun _ => single _ nofun) (fun _ => single _ nofun)
    (fun _ => single _ nofun) (fun _ => single _ nofun) list
    (fun _ => single _ nofun) (fun _ => single _ nofun) nofun
    (fun _ _ hitem hrest => List.forall_mem_cons.2 ⟨hitem, hrest⟩) a

/-! ## Places -/

/-- What stands at a place. A place tells, from the outside in, which item of each list to take; at
the empty place stands the argument itself. -/
def at? : Argument → List Nat → Option Argument
  | a, [] => some a
  | .list items, i :: place => items[i]?.bind (at? · place)
  | _, _ :: _ => none

/-- Whether the place is read before the other: a list comes before its items, and all of an item
before the next item. -/
def Precedes (place other : List Nat) : Prop := List.Lex (· < ·) place other

section Places

variable {a b : Argument} {items : List Argument} {i : Nat} {place other : List Nat}

@[simp] theorem at?_nil (a : Argument) : a.at? [] = some a := by
  cases a <;> rfl

/-- Only a list has anything inside. -/
theorem at?_cons_eq_some_iff : a.at? (i :: place) = some b ↔
    ∃ items item, a = .list items ∧ items[i]? = some item ∧ item.at? place = some b := by
  constructor
  · intro h
    cases a with
    | list items =>
      obtain ⟨item, hitem, hb⟩ := Option.bind_eq_some_iff.1 h
      exact ⟨items, item, rfl, hitem, hb⟩
    | _ => cases h
  · rintro ⟨items, item, rfl, hitem, hb⟩
    exact Option.bind_eq_some_iff.2 ⟨item, hitem, hb⟩

/-- A place inside what stands at a place. -/
theorem at?_append (h : a.at? place = some b) (rest : List Nat) :
    a.at? (place ++ rest) = b.at? rest := by
  induction place generalizing a with
  | nil =>
    obtain rfl : a = b := Option.some.inj (a.at?_nil.symm.trans h)
    rfl
  | cons i place ih =>
    obtain ⟨items, item, rfl, hitem, hb⟩ := at?_cons_eq_some_iff.1 h
    rw [List.cons_append, at?, hitem, Option.bind_some, ih hb]

/-- Of two places one is read first. -/
theorem Precedes.eq_of_not (h : ¬Precedes place other) (h' : ¬Precedes other place) :
    place = other :=
  List.lex_trichotomous (fun _ _ hle hge => by omega) h' h

end Places

/-! ## Items -/

section Items

variable {item : Argument} {items : List Argument} {texts : List String} {text : String}
  {e : RenderError}

theorem display_list_eq_ok_iff : (list items).display = .ok text ↔
    ∃ texts, displayItems items = .ok texts ∧ bracketed texts = text := by
  rw [display]
  cases displayItems items <;> simp [Except.map]

theorem display_list_eq_error_iff :
    (list items).display = .error e ↔ displayItems items = .error e := by
  rw [display]
  cases displayItems items <;> simp [Except.map]

theorem displayItems_cons_eq_ok_iff : displayItems (item :: items) = .ok texts ↔
    ∃ text rest, item.display = .ok text ∧ displayItems items = .ok rest ∧ texts = text :: rest := by
  rw [displayItems]
  cases item.display <;> cases displayItems items <;> simp [bind, Except.bind, eq_comm]

/-- After an item that is not shown no other one is tried. -/
theorem displayItems_cons_eq_error_iff : displayItems (item :: items) = .error e ↔
    item.display = .error e ∨ ∃ text, item.display = .ok text ∧ displayItems items = .error e := by
  rw [displayItems]
  cases item.display <;> cases displayItems items <;> simp [bind, Except.bind]

/-- Items are shown if each of them is. -/
theorem displayItems_eq_ok_iff : displayItems items = .ok texts ↔
    List.Forall₂ (fun item text => item.display = .ok text) items texts := by
  induction items generalizing texts with
  | nil => cases texts <;> simp [displayItems]
  | cons item items ih =>
    simp only [displayItems_cons_eq_ok_iff, List.forall₂_cons_left_iff, ih]

/-- Each item has its text at its own index. -/
theorem exists_getElem?_of_displayItems {i : Nat} (h : displayItems items = .ok texts)
    (hitem : items[i]? = some item) : ∃ text, texts[i]? = some text ∧ item.display = .ok text := by
  have hall := displayItems_eq_ok_iff.1 h
  obtain ⟨hi, rfl⟩ := List.getElem?_eq_some_iff.1 hitem
  have hi' : i < texts.length := hall.length_eq ▸ hi
  exact ⟨texts[i], List.getElem?_eq_getElem hi', hall.get hi hi'⟩

/-- If items are not all shown, the error is that of the first one that is not. -/
theorem exists_first_of_displayItems (h : displayItems items = .error e) :
    ∃ (i : Nat) (item : Argument), items[i]? = some item ∧ item.display = .error e ∧
      ∀ j < i, ∀ other, items[j]? = some other → ∃ text, other.display = .ok text := by
  induction items with
  | nil => cases h
  | cons item items ih =>
    rcases displayItems_cons_eq_error_iff.1 h with hitem | ⟨text, hitem, hrest⟩
    · exact ⟨0, item, rfl, hitem, nofun⟩
    · obtain ⟨i, item', hget, herror, hbefore⟩ := ih hrest
      refine ⟨i + 1, item', hget, herror, fun j hj other hother => ?_⟩
      cases j with
      | zero =>
        cases hother
        exact ⟨text, hitem⟩
      | succ j => exact hbefore j (Nat.lt_of_succ_lt_succ hj) other hother

end Items

/-! ## Refusals -/

/-- At the place stands a value of the user's own that refuses to be shown. -/
def RefusesAt (a : Argument) (place : List Nat) (e : RenderError) : Prop :=
  ∃ value, a.at? place = some (.custom value) ∧ value.display = .error e

/-- The value at the place refuses to be shown, and none that is read before it does. -/
structure RefusesFirst (a : Argument) (place : List Nat) (e : RenderError) : Prop where
  refuses : a.RefusesAt place e
  first : ∀ other e', Precedes other place → ¬a.RefusesAt other e'

section Refusals

variable {a b : Argument} {items : List Argument} {i : Nat} {place other : List Nat}
  {e e' : RenderError}

theorem refusesAt_cons_iff : a.RefusesAt (i :: place) e ↔
    ∃ items item, a = .list items ∧ items[i]? = some item ∧ item.RefusesAt place e := by
  constructor
  · rintro ⟨value, hvalue, he⟩
    obtain ⟨items, item, hlist, hitem, hat⟩ := at?_cons_eq_some_iff.1 hvalue
    exact ⟨items, item, hlist, hitem, value, hat, he⟩
  · rintro ⟨items, item, hlist, hitem, value, hat, he⟩
    exact ⟨value, at?_cons_eq_some_iff.2 ⟨items, item, hlist, hitem, hat⟩, he⟩

theorem not_refusesAt_list_nil : ¬(list items).RefusesAt [] e := by
  rintro ⟨value, hvalue, -⟩
  cases hvalue

/-- What refuses inside a part refuses inside the whole. -/
theorem RefusesAt.of_part (h : a.at? place = some b) (hb : b.RefusesAt other e) :
    a.RefusesAt (place ++ other) e := by
  obtain ⟨value, hvalue, he⟩ := hb
  exact ⟨value, (at?_append h other).trans hvalue, he⟩

/-- A refusal, wherever it is, leaves no text. -/
theorem RefusesAt.exists_error (h : a.RefusesAt place e) : ∃ e', a.display = .error e' := by
  induction place generalizing a with
  | nil =>
    obtain ⟨value, hvalue, he⟩ := h
    obtain rfl : a = .custom value := Option.some.inj (a.at?_nil.symm.trans hvalue)
    exact ⟨e, he⟩
  | cons i place ih =>
    obtain ⟨items, item, rfl, hitem, hrefuses⟩ := refusesAt_cons_iff.1 h
    obtain ⟨e', he'⟩ := ih hrefuses
    cases hitems : displayItems items with
    | error e'' => exact ⟨e'', display_list_eq_error_iff.2 hitems⟩
    | ok texts =>
      obtain ⟨text, -, htext⟩ := exists_getElem?_of_displayItems hitems hitem
      cases he'.symm.trans htext

/-- An error is that of the first refusal. -/
theorem exists_refusesFirst (h : a.display = .error e) : ∃ place, a.RefusesFirst place e := by
  induction a using nested_induction with
  | single a hsingle =>
    cases a with
    | custom value => exact ⟨[], ⟨value, rfl, h⟩, nofun⟩
    | list items => exact absurd rfl (hsingle items)
    | _ => cases h
  | list items ih =>
    obtain ⟨i, item, hitem, herror, hbefore⟩ :=
      exists_first_of_displayItems (display_list_eq_error_iff.1 h)
    obtain ⟨place, hrefuses, hfirst⟩ := ih item (List.mem_of_getElem? hitem) herror
    refine ⟨i :: place, refusesAt_cons_iff.2 ⟨items, item, rfl, hitem, hrefuses⟩, ?_⟩
    -- What is read before is the list itself, an item before, or a part of the same item.
    intro other e' hprecedes hother
    cases hprecedes with
    | nil => exact not_refusesAt_list_nil hother
    | rel hlt =>
      obtain ⟨_, item', hlist, hitem', hrefuses'⟩ := refusesAt_cons_iff.1 hother
      cases hlist
      obtain ⟨text, htext⟩ := hbefore _ hlt item' hitem'
      obtain ⟨e'', he''⟩ := hrefuses'.exists_error
      cases htext.symm.trans he''
    | cons hprecedes =>
      obtain ⟨_, item', hlist, hitem', hrefuses'⟩ := refusesAt_cons_iff.1 hother
      cases hlist
      obtain rfl : item = item' := Option.some.inj (hitem.symm.trans hitem')
      exact hfirst _ e' hprecedes hrefuses'

/-- There is only one first refusal. -/
theorem RefusesFirst.unique (h : a.RefusesFirst place e) (h' : a.RefusesFirst other e') :
    place = other ∧ e = e' := by
  obtain rfl : place = other := Precedes.eq_of_not (fun hlt => h'.first place e hlt h.refuses)
    fun hlt => h.first other e' hlt h'.refuses
  obtain ⟨value, hvalue, he⟩ := h.refuses
  obtain ⟨value', hvalue', he'⟩ := h'.refuses
  cases hvalue.symm.trans hvalue'
  exact ⟨rfl, Except.error.inj (he.symm.trans he')⟩

theorem display_eq_error_iff : a.display = .error e ↔ ∃ place, a.RefusesFirst place e := by
  refine ⟨exists_refusesFirst, ?_⟩
  rintro ⟨place, hfirst⟩
  obtain ⟨e', he'⟩ := hfirst.refuses.exists_error
  obtain ⟨other, hother⟩ := exists_refusesFirst he'
  obtain ⟨-, rfl⟩ := hfirst.unique hother
  exact he'

theorem exists_display_of_not_refusesAt (h : ∀ place e, ¬a.RefusesAt place e) :
    ∃ text, a.display = .ok text := by
  cases hdisplay : a.display with
  | ok text => exact ⟨text, rfl⟩
  | error e =>
    obtain ⟨place, hfirst⟩ := exists_refusesFirst hdisplay
    exact absurd hfirst.refuses (h place e)

end Refusals

/-! ## Nested texts -/

/-- The text of a list. -/
structure Brackets (items : List Argument) (texts : List String) (text : String) : Prop where
  /-- Each item has a text. -/
  shown : List.Forall₂ (fun item text => item.display = .ok text) items texts
  /-- That of a null is empty. -/
  nulls : ∀ i : Nat, items[i]? = some .null → texts[i]? = some ""
  /-- The texts stand in brackets, with commas between. -/
  joined : text = "[" ++ String.intercalate ", " texts ++ "]"

theorem exists_brackets {items : List Argument} {text : String}
    (h : (list items).display = .ok text) : ∃ texts, Brackets items texts text := by
  obtain ⟨texts, hitems, rfl⟩ := display_list_eq_ok_iff.1 h
  refine ⟨texts, displayItems_eq_ok_iff.1 hitems, fun i hi => ?_, rfl⟩
  obtain ⟨text, hget, htext⟩ := exists_getElem?_of_displayItems hitems hi
  cases htext
  exact hget

/-- A hole that asks for nothing special shows the default text, and calls nothing for it. -/
theorem renderValue_eq_display {hole : Hole} {value : Argument} (options : Options)
    (h : hole.isStringify = true ∨ value.isPrimitive = true ∧ hole.format = "") :
    renderValue options hole value = pure value.display := by
  unfold renderValue
  split
  · rfl
  next hstringify =>
    obtain ⟨hprimitive, hformat⟩ := h.resolve_left hstringify
    rw [if_neg (by simp [hprimitive]), if_pos (by simp [hformat])]

/-- What becomes of an argument that may be a list of lists. -/
structure ShownThroughout (a : Argument) : Prop where
  /-- It has no text if and only if a value somewhere in it refuses. -/
  fails : (∃ e, a.display = .error e) ↔ ∃ place e, a.RefusesAt place e
  /-- The error is that of the value that refuses first. -/
  first : ∀ e, a.display = .error e ↔ ∃ place, a.RefusesFirst place e
  /-- If none refuses, all lists in it have texts, made up of the texts of their items. -/
  lists : (∀ place e, ¬a.RefusesAt place e) → ∀ place items, a.at? place = some (.list items) →
    ∃ texts text, (list items).display = .ok text ∧ Brackets items texts text
  /-- If one refuses, a hole tells of the first that does, and shows nothing of the others. -/
  told : ∀ (options : Options) (hole : Hole) (place : List Nat) (e : RenderError),
    hole.isStringify = true ∨ a.isPrimitive = true ∧ hole.format = "" →
    a.RefusesFirst place e → renderHole options hole (some a) =
      pure (align hole ("[" ++ hole.marker ++ " => " ++ e.kind ++ ": \"" ++ e.message ++ "\"]"))

/-- **The first refusal speaks for the whole.** Every argument, however deeply its lists are nested,
has a text unless a value of the user's own in it refuses, and then the error is that of the first
which does. -/
theorem display_nested (a : Argument) : ShownThroughout a where
  fails := by
    constructor
    · rintro ⟨e, he⟩
      obtain ⟨place, hfirst⟩ := exists_refusesFirst he
      exact ⟨place, e, hfirst.refuses⟩
    · rintro ⟨place, e, hrefuses⟩
      exact hrefuses.exists_error
  first := fun _ => display_eq_error_iff
  lists := by
    intro hnone place items hlist
    obtain ⟨text, htext⟩ : ∃ text, (list items).display = .ok text :=
      exists_display_of_not_refusesAt fun other e hother => hnone _ e (hother.of_part hlist)
    obtain ⟨texts, hbrackets⟩ := exists_brackets htext
    exact ⟨texts, text, htext, hbrackets⟩
  told := by
    intro options hole place e hhole hfirst
    rw [renderHole, renderValue_eq_display options hhole, display_eq_error_iff.2 ⟨place, hfirst⟩]
    rfl

/-- Two values refuse, the one that is nested more deeply first, as it cannot be written. Without
them the list has a text, in which the null leaves nothing before the first comma. -/
theorem display_nested_inner :
    let calm : Argument := .custom ⟨0, .ok "x", fun _ _ => none, none⟩
    let loud : Argument := .custom ⟨1, .error .unwritable, fun _ _ => none, none⟩
    let late : Argument := .custom ⟨2, .error (.custom "Late" "never"), fun _ _ => none, none⟩
    let hole : Hole := ⟨⟨0, 3⟩, 0, "\x7b0\x7d", "0", "", ""⟩
    let refusing : Argument := .list [.null, .list [calm, loud], late]
    let shown : List Argument := [.null, .list [calm, .int 7]]
    refusing.RefusesFirst [1, 1] .unwritable ∧
    refusing.display = .error .unwritable ∧
    (renderHole {} hole (some refusing)).result =
      "[\x7b0\x7d => ConversionError: \"value formatting failed\"]" ∧
    (∀ place e, ¬(Argument.list shown).RefusesAt place e) ∧
    ∃ texts, Brackets shown texts "[, [x, 7]]" := by
  intro calm loud late hole refusing shown
  have hfirst : refusing.RefusesFirst [1, 1] .unwritable := by
    refine ⟨⟨_, rfl, rfl⟩, ?_⟩
    -- Before the place stand the two lists, the null and the value that has a text.
    intro other e' hprecedes hother
    cases hprecedes with
    | nil => exact not_refusesAt_list_nil hother
    | @rel i place _ _ hlt =>
      obtain rfl : i = 0 := Nat.lt_one_iff.1 hlt
      have hnull : Argument.null.RefusesAt place e' := hother
      obtain ⟨_, herror⟩ := hnull.exists_error
      cases herror
    | cons hprecedes =>
      cases hprecedes with
      | nil =>
        have hinner : (Argument.list [calm, loud]).RefusesAt [] e' := hother
        exact not_refusesAt_list_nil hinner
      | @rel i place _ _ hlt =>
        obtain rfl : i = 0 := Nat.lt_one_iff.1 hlt
        have hcalm : calm.RefusesAt place e' := hother
        obtain ⟨_, herror⟩ := hcalm.exists_error
        cases herror
      | cons hprecedes => cases hprecedes
  have htext : (Argument.list shown).display = .ok "[, [x, 7]]" := by decide +kernel
  have hnone : ∀ place e, ¬(Argument.list shown).RefusesAt place e := by
    intro place e hrefuses
    obtain ⟨e', he'⟩ := (display_nested (.list shown)).fails.2 ⟨place, e, hrefuses⟩
    cases htext.symm.trans he'
  refine ⟨hfirst, ((display_nested refusing).first _).2 ⟨_, hfirst⟩, ?_, hnone, ?_⟩
  · rw [(display_nested refusing).told {} hole [1, 1] _ (.inr ⟨rfl, rfl⟩) hfirst]
    decide +kernel
  · obtain ⟨texts, text, hdisplay, hbrackets⟩ :=
      (display_nested (.list shown)).lists hnone [] shown rfl
    cases htext.symm.trans hdisplay
    exact ⟨texts, hbrackets⟩

end Argument

end MessageTemplate
