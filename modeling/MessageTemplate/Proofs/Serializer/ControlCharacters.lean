import MessageTemplate.Proofs.Number.NumeralText
import MessageTemplate.Proofs.Serializer.Pruning
import MessageTemplate.Text.CodePoints

/-!
# Control characters in serialized text

The built-in serializer spells out the control characters of strings, so that a record cannot break
a line of a log. It writes the names of members as they are, control characters and all.

- **Members at any depth** (`Json.fields`, `Json.values`): all members of a value and all values in
  it, arrays not looked into.
- **Spelling out** (`Serializer.SpellsOut`): control characters as escapes of four digits.
- **Where they come from** (`Serializer.controls_wholeText`): the control characters of a text are
  those of the names in it.
- **The serializer** (`Serializer.serialize_controls`): strings never leak a control character,
  names leak all of theirs.
-/

namespace MessageTemplate

namespace Json

mutual

/-- The members of a value at any depth, in the order in which their names are written. Arrays are
not looked into. -/
def fields : Json → List (String × Json)
  | .object members => allFields members
  | _ => []

/-- The members, and after each one those of its value. -/
def allFields : List (String × Json) → List (String × Json)
  | [] => []
  | (name, value) :: rest => (name, value) :: fields value ++ allFields rest

end

theorem allFields_eq (members : List (String × Json)) :
    allFields members = members.flatMap fun m => m :: fields m.2 := by
  induction members with
  | nil => rfl
  | cons m rest ih => rw [allFields, List.flatMap_cons, ih]

/-- The value itself and those of its members at any depth. -/
def values (value : Json) : List Json := value :: (fields value).map Prod.snd

theorem mem_values_object {part : Json} {members : List (String × Json)} :
    part ∈ values (.object members) ↔
      part = .object members ∨ ∃ m ∈ members, part ∈ values m.2 := by
  rw [values, List.mem_cons, fields, allFields_eq, List.map_flatMap]
  simp only [List.mem_flatMap, List.map_cons, values]

end Json

namespace Serializer

/-- The control characters of a text, in their order. -/
def controls (cs : List Char) : List Char := cs.filter isControl

/-- `body` is `cs` with an escape of four hexadecimal digits in place of every control
character. -/
inductive SpellsOut : List Char → List Char → Prop
  | nil : SpellsOut [] []
  | plain {c : Char} {cs body : List Char} (hc : isControl c = false) (h : SpellsOut cs body) :
      SpellsOut (c :: cs) (c :: body)
  | control {c : Char} {cs digits body : List Char} (hc : isControl c = true)
      (hlength : digits.length = 4)
      (hcode : (digits.mapM hexValue?).map (List.foldl (16 * · + ·) 0) = some c.toNat)
      (h : SpellsOut cs body) : SpellsOut (c :: cs) ('\\' :: 'u' :: digits ++ body)

/-! ## Strings -/

section Strings

variable {c : Char} {cs : List Char}

theorem controls_eq_nil_iff : controls cs = [] ↔ ∀ c ∈ cs, isControl c = false := by
  simp only [controls, List.filter_eq_nil_iff, Bool.not_eq_true]

theorem controls_append (cs ds : List Char) : controls (cs ++ ds) = controls cs ++ controls ds :=
  List.filter_append ..

theorem toNat_lt_of_isControl (hc : isControl c = true) : c.toNat < 160 := by
  simp only [isControl, Bool.or_eq_true, Bool.and_eq_true, decide_eq_true_eq] at hc
  omega

/-- The codes of control characters have two digits at most; the others are zeros. -/
theorem hexDigits_of_lt {n : Nat} (h : n < 160) :
    ((hexDigits n).leftpad 4 '0').length = 4 ∧
      (((hexDigits n).leftpad 4 '0').mapM hexValue?).map (List.foldl (16 * · + ·) 0) = some n ∧
      controls ((hexDigits n).leftpad 4 '0') = [] := by
  revert n
  decide +kernel

theorem spellsOut_escapeControl (cs : List Char) : SpellsOut cs (cs.flatMap escapeControl) := by
  induction cs with
  | nil => exact .nil
  | cons c cs ih =>
    rw [List.flatMap_cons, escapeControl]
    split
    next hc =>
      obtain ⟨hlength, hcode, -⟩ := hexDigits_of_lt (toNat_lt_of_isControl hc)
      exact .control hc hlength hcode ih
    next hc => exact .plain ((Bool.not_eq_true _).mp hc) ih

theorem controls_escapeControl (c : Char) : controls (escapeControl c) = [] := by
  rw [escapeControl]
  split
  next hc =>
    rw [controls_append, (hexDigits_of_lt (toNat_lt_of_isControl hc)).2.2]
    decide
  next hc => simpa [controls] using hc

theorem controls_quotedText (s : String) : controls (quotedText s) = [] := by
  have hbody : ∀ c ∈ s.toList.flatMap escapeControl, isControl c = false := by
    intro c hc
    obtain ⟨d, -, hcd⟩ := List.mem_flatMap.1 hc
    exact controls_eq_nil_iff.1 (controls_escapeControl d) c hcd
  rw [quotedText, controls_append, ← List.singleton_append, controls_append,
    controls_eq_nil_iff.2 hbody]
  decide

end Strings

/-! ## Numbers -/

section Numbers

theorem isControl_of_isNumeralChar {c : Char} (h : IsNumeralChar c) : isControl c = false := by
  obtain hdigit | hmark := h
  · obtain ⟨hlow, hhigh⟩ : 48 ≤ c.toNat ∧ c.toNat ≤ 57 := by
      simpa [Char.isDigit, UInt32.le_iff_toNat_le] using hdigit
    simp only [isControl, Bool.or_eq_false_iff, Bool.and_eq_false_iff, decide_eq_false_iff_not]
    omega
  · have hmarks : numeralMarks.all (fun c => !isControl c) = true := by decide
    simpa using List.all_eq_true.1 hmarks c hmark

theorem controls_numeral {cs : List Char} (h : IsNumeralText cs) : controls cs = [] :=
  controls_eq_nil_iff.2 fun c hc => isControl_of_isNumeralChar (h c hc)

theorem controls_localizePoint {separators : Separators} {cs : List Char}
    (hdecimal : isControl separators.decimal = false) (h : IsNumeralText cs) :
    controls (localizePoint separators cs) = [] := by
  refine controls_eq_nil_iff.2 fun d hd => ?_
  obtain ⟨c, hc, rfl⟩ := List.mem_map.1 hd
  split
  · exact hdecimal
  · exact isControl_of_isNumeralChar (h c hc)

end Numbers

/-! ## Objects -/

section Objects

variable {separators : Separators}

theorem controls_memberText (name : String) (text : List Char) :
    controls (memberText name text) = controls name.toList ++ controls text :=
  controls_append name.toList (':' :: ' ' :: text)

theorem controls_intercalate (texts : List (List Char)) :
    controls ([';', ' '].intercalate texts) = texts.flatMap controls := by
  induction texts with
  | nil => rfl
  | cons text rest ih =>
    cases rest with
    | nil => simp
    | cons next rest =>
      have hseparator : controls [';', ' '] = [] := by decide
      rw [List.intercalate_cons_cons, controls_append, controls_append, ih, hseparator,
        List.append_nil]
      rfl

theorem controls_bracketed (texts : List (List Char)) :
    controls (bracketed texts) = texts.flatMap controls := by
  rw [← controls_intercalate]
  exact (controls_append ('[' :: [';', ' '].intercalate texts) [']']).trans (List.append_nil _)

/-- The control characters of a value's text are those of the names in it. -/
theorem controls_wholeText (hdecimal : isControl separators.decimal = false) (value : Json) :
    controls (wholeText separators value) =
      (Json.fields value).flatMap fun m => controls m.1.toList := by
  induction value using Json.value_induction with
  | null => rfl
  | bool b => cases b <;> rfl
  | number n =>
    cases n with
    | natural n => exact controls_numeral (JsonNumber.natural n).isNumeralText_text
    | negative n => exact controls_numeral (JsonNumber.negative n).isNumeralText_text
    | real x => exact controls_localizePoint hdecimal (isNumeralText_numeral .json x)
  | string s => exact controls_quotedText s
  | array items => rfl
  | object members ih =>
    rw [wholeText, controls_bracketed, wholeMembers_eq, List.flatMap_map, Json.fields,
      Json.allFields_eq, List.flatMap_assoc]
    refine List.flatMap_congr fun m hm => ?_
    rw [controls_memberText, ih m hm, List.flatMap_cons]

theorem infix_intercalate {separator text : List Char} {texts : List (List Char)}
    (h : text ∈ texts) : text <:+: separator.intercalate texts := by
  induction texts with
  | nil => cases h
  | cons first rest ih =>
    cases rest with
    | nil =>
      obtain rfl := List.mem_singleton.1 h
      exact ⟨[], [], by simp⟩
    | cons next rest =>
      rw [List.intercalate_cons_cons]
      obtain rfl | hrest := List.mem_cons.1 h
      · rw [List.append_assoc]
        exact (List.prefix_append ..).isInfix
      · exact (ih hrest).trans (List.suffix_append ..).isInfix

theorem infix_bracketed {text : List Char} {texts : List (List Char)} (h : text ∈ texts) :
    text <:+: bracketed texts :=
  (infix_intercalate h).trans ⟨['['], [']'], rfl⟩

/-- Every string in a value is written in quotes. -/
theorem infix_wholeText {s : String} {value : Json} (h : .string s ∈ value.values) :
    quotedText s <:+: wholeText separators value := by
  induction value using Json.value_induction with
  | string t =>
    obtain rfl : s = t := Json.string.inj (List.mem_singleton.1 h)
    exact List.infix_rfl
  | object members ih =>
    obtain h | ⟨m, hm, hmem⟩ := Json.mem_values_object.1 h
    · cases h
    · have hmember : memberText m.1 (wholeText separators m.2) ∈
          wholeMembers separators members := by
        rw [wholeMembers_eq]
        exact List.mem_map_of_mem hm
      have hvalue : wholeText separators m.2 <:+: memberText m.1 (wholeText separators m.2) :=
        ((List.suffix_append [':', ' '] _).trans (List.suffix_append ..)).isInfix
      exact ((ih m hm hmem).trans hvalue).trans (infix_bracketed hmember)
  | _ => cases List.mem_singleton.1 h

end Objects

/-- **Only names leak control characters.** The control characters of a structure's text are those
of the names in it, so there are none if and only if no name that is written has one. Every string
that is written, at any depth, stands in quotes with its control characters spelled out. -/
theorem serialize_controls (depth : Nat) (provider : FormatProvider) (format lining : String)
    {argument : Argument} {document : Json} (hdocument : argument.document? = some document)
    (hdecimal : isControl provider.separators.decimal = false) :
    ∃ text, serialize (.fields depth) provider format lining argument = .ok text ∧
      controls text.toList =
        (Json.pruneDocument depth document).fields.flatMap (fun m => controls m.1.toList) ∧
      ((∀ c ∈ text.toList, isControl c = false) ↔
        ∀ m ∈ (Json.pruneDocument depth document).fields, ∀ c ∈ m.1.toList, isControl c = false) ∧
      ∀ s, Json.string s ∈ (Json.pruneDocument depth document).values →
        ∃ body, SpellsOut s.toList body ∧ '"' :: body ++ ['"'] <:+: text.toList := by
  have hcontrols := controls_wholeText hdecimal (Json.pruneDocument depth document)
  refine ⟨_, serialize_document depth provider format lining hdocument, ?_⟩
  rw [documentText_eq, String.toList_ofList]
  refine ⟨hcontrols, ?_, fun s hs => ⟨_, spellsOut_escapeControl s.toList, infix_wholeText hs⟩⟩
  simp only [← controls_eq_nil_iff, hcontrols, List.flatMap_eq_nil_iff]

/-- The tab in the inner string is spelled out, the line break in the outer name is not. -/
theorem serialize_controls_nested :
    let document : Json := .object [("o", .object [("k", .string "a\tb")]), ("n\n", .null)]
    ∃ text, serialize (.fields 1) .invariant "" "" (.record document) = .ok text ∧
      controls text.toList = ['\n'] ∧
      ∃ body, SpellsOut "a\tb".toList body ∧ '"' :: body ++ ['"'] <:+: text.toList := by
  intro document
  obtain ⟨text, htext, hcontrols, -, hstrings⟩ := serialize_controls 1 .invariant "" ""
    (rfl : Argument.document? (.record document) = some document) (by decide)
  have hinner : Json.string "a\tb" ∈ (Json.pruneDocument 1 document).values :=
    .tail _ (.tail _ (.head _))
  exact ⟨text, htext, hcontrols.trans (by decide), hstrings _ hinner⟩

/-- A line break in a name is written as it is, so the text has two lines. -/
theorem serialize_name_lineBreak :
    serialize (.fields 1) .invariant "" "" (.record (.object [("a\nb", .number (.natural 1))])) =
        .ok "[a\nb: 1]" ∧
      isControl '\n' = true ∧ '\n' ∈ "[a\nb: 1]".toList := by
  refine ⟨?_, by decide, by decide⟩
  rw [serialize_document 1 .invariant "" "" rfl]
  exact congrArg Except.ok (by decide +kernel)

end Serializer

end MessageTemplate
