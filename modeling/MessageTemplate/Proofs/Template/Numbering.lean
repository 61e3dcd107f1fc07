import MessageTemplate.Proofs.Template.Concatenation
import MessageTemplate.Proofs.Template.Renumbering

/-!
# Numbers and names of holes

A hole goes by a number if its name is one of 31 bits. The grammar of holes admits more than
decimal digits in a name, and less than the reader of numbers does, so neither of them alone says
which names are numbers.

* `declared_tokensFrom`: the holes of a template are declared by a modifier and a name.
* `Declared.number?_eq_some_iff`: the number of a declared hole, if it has one.
* `Hole.Classified`: what a hole goes by; `Declared.classified` says it of every declared hole.
* `tokenize_numbering`: the holes of a template, and how they are bound.
-/

namespace MessageTemplate

/-! ## Declarations -/

/-- The symbol that is read from a hole body is a declaration. -/
theorem declared_of_parseChars {body : List Char} {fields : Body.Fields} {hole : Hole}
    (h : Body.parseChars body = .ok fields) (hsymbol : hole.symbol = fields.symbol) :
    ∃ mark name, Declared hole mark name := by
  obtain ⟨s, -, rfl⟩ := Body.parseChars_ok_iff.1 h
  obtain ⟨mark, name, hdeclaration, hmark, hne, hname⟩ := s.isDeclaration
  refine ⟨mark, name, ?_, hmark, hne, hname⟩
  rw [hsymbol, ← hdeclaration]
  exact String.toList_ofList

theorem declared_tokensFrom (start rank : Nat) (cs : List Char) :
    ∀ hole ∈ holesOf (tokensFrom start rank cs), ∃ mark name, Declared hole mark name := by
  induction cs using tokensFrom_induction generalizing start rank with
  | nil =>
    rw [tokensFrom_nil]
    nofun
  | plain raw text cs htokens ih =>
    rw [htokens, holesOf_addText]
    exact ih _ _
  | candidate body cs hhead hclose ih =>
    cases hbody : Body.parseChars body with
    | ok fields =>
      rw [tokensFrom_hole hhead hclose hbody, holesOf_cons_hole, List.forall_mem_cons]
      exact ⟨declared_of_parseChars hbody rfl, ih _ _⟩
    | error r =>
      rw [tokensFrom_rejected hhead hclose hbody, holesOf_cons_literal]
      exact ih _ _
  | unterminated cs hhead hclose =>
    rw [tokensFrom_unterminated hhead hclose]
    nofun

/-! ## Numbers -/

namespace Hole

variable {hole : Hole} {n : Nat}

/-- The name consists of decimal digits, and they denote a number of 31 bits. -/
def NamesNumber (hole : Hole) : Prop :=
  IsDigits hole.name.toList ∧ digitsValue hole.name.toList ≤ 2147483647

instance (hole : Hole) : Decidable hole.NamesNumber := inferInstanceAs (Decidable (_ ∧ _))

theorem number?_eq_some_iff_read :
    hole.number? = some n ↔ readInt32? hole.name.toList = some (n : Int) := by
  unfold number?
  cases readInt32? hole.name.toList with
  | none => exact ⟨nofun, nofun⟩
  | some z =>
    cases z with
    | ofNat m => simp
    | negSucc m => exact ⟨nofun, nofun⟩

/-- What a hole goes by: its number, or else its rank and its name. -/
structure Classified (hole : Hole) : Prop where
  /-- The name is the declaration without its modifier, -/
  symbol : ∃ mark, Body.IsMark [Body.spreadMark, Body.stringifyMark] mark ∧
    hole.symbol.toList = mark ++ hole.name.toList
  /-- and it is not empty. -/
  ne_empty : hole.name ≠ ""
  /-- A modifier is no character of a name, so there is none left in it. -/
  isName : ∀ c ∈ hole.name.toList, Body.isNameChar c = true
  /-- The hole is numbered if the name is a number of 31 bits. -/
  numbered : hole.isNumbered = true ↔ hole.NamesNumber
  /-- It then has that index and no label. -/
  number : hole.NamesNumber →
    hole.effectiveIndex = digitsValue hole.name.toList ∧ hole.effectiveLabel = ""
  /-- Any other hole has its rank for an index and its name for a label. -/
  other : ¬hole.NamesNumber → hole.effectiveIndex = hole.rank ∧ hole.effectiveLabel = hole.name

end Hole

namespace Declared

variable {hole : Hole} {mark name : List Char} {n : Nat}

theorem isNameChar_of_mem (h : Declared hole mark name) :
    ∀ c ∈ hole.name.toList, Body.isNameChar c = true := by
  rw [h.name_eq, String.toList_ofList]
  exact h.isName

/-- A name holds no sign, so the digits are all that it can denote a number by. -/
theorem denotesInt_iff (h : Declared hole mark name) {z : Int} :
    DenotesInt hole.name.toList z ↔
      IsDigits hole.name.toList ∧ z = digitsValue hole.name.toList := by
  have hname := h.isNameChar_of_mem
  constructor
  · intro hdenotes
    generalize hole.name.toList = cs at hname hdenotes
    cases hdenotes with
    | unsigned hdigits => exact ⟨hdigits, rfl⟩
    | plus => exact absurd (hname '+' List.mem_cons_self) (by decide)
    | minus => exact absurd (hname '-' List.mem_cons_self) (by decide)
  · rintro ⟨hdigits, rfl⟩
    exact .unsigned hdigits

theorem number?_eq_some_iff (h : Declared hole mark name) :
    hole.number? = some n ↔ hole.NamesNumber ∧ n = digitsValue hole.name.toList := by
  rw [Hole.number?_eq_some_iff_read, readInt32?_eq_some_iff, h.denotesInt_iff, Hole.NamesNumber]
  constructor
  · rintro ⟨⟨hdigits, heq⟩, -, hle⟩
    exact ⟨⟨hdigits, by omega⟩, by omega⟩
  · rintro ⟨⟨hdigits, hle⟩, rfl⟩
    exact ⟨⟨hdigits, rfl⟩, by omega, by omega⟩

theorem classified (h : Declared hole mark name) : hole.Classified where
  symbol := ⟨mark, h.isMark, by rw [h.name_eq, String.toList_ofList, h.symbol]⟩
  ne_empty := by
    rw [h.name_eq]
    exact fun hempty => h.ne_nil (String.ofList_eq_empty_iff.1 hempty)
  isName := h.isNameChar_of_mem
  numbered := by
    rw [Hole.isNumbered, Option.isSome_iff_exists]
    exact ⟨fun ⟨n, hn⟩ => (h.number?_eq_some_iff.1 hn).1,
      fun hnumber => ⟨_, h.number?_eq_some_iff.2 ⟨hnumber, rfl⟩⟩⟩
  number hnumber := by
    have hread : hole.number? = some (digitsValue hole.name.toList) :=
      h.number?_eq_some_iff.2 ⟨hnumber, rfl⟩
    rw [Hole.effectiveIndex, Hole.effectiveLabel, Hole.isNumbered, hread]
    exact ⟨rfl, rfl⟩
  other hother := by
    have hread : hole.number? = none :=
      Option.eq_none_iff_forall_ne_some.2 fun n hn => hother (h.number?_eq_some_iff.1 hn).1
    rw [Hole.effectiveIndex, Hole.effectiveLabel, Hole.isNumbered, hread]
    exact ⟨rfl, rfl⟩

end Declared

/-! ## Templates -/

theorem classified_of_mem {template : String} {hole : Hole}
    (h : hole ∈ holesOf (tokenize template)) : hole.Classified := by
  obtain ⟨mark, name, hdeclared⟩ := declared_tokensFrom 0 0 template.toList hole h
  exact hdeclared.classified

theorem ofTokens_eq_index_iff {tokens : List Token} :
    Binding.ofTokens tokens = .index ↔ ∀ hole ∈ holesOf tokens, hole.isNumbered = true := by
  rw [Binding.ofTokens, ← List.all_eq_true]
  cases (holesOf tokens).all Hole.isNumbered <;> simp

/-- **Numbers and names.** A hole is numbered exactly if its name is made of decimal digits that
denote at most `2 ^ 31 - 1`. The holes of a template are bound by number exactly if all of them are
so; one name that is no number, or one number that is too large, binds every hole by its rank. -/
theorem tokenize_numbering (template : String) :
    (∀ hole ∈ holesOf (tokenize template), hole.Classified) ∧
    (Binding.ofTokens (tokenize template) = .index ↔
      ∀ hole ∈ holesOf (tokenize template), hole.NamesNumber) ∧
    ∀ hole ∈ holesOf (tokenize template),
      (∃ c ∈ hole.name.toList, c.isDigit = false) ∨
        (IsDigits hole.name.toList ∧ 2147483647 < digitsValue hole.name.toList) →
      ∀ other ∈ holesOf (tokenize template),
        (Binding.ofTokens (tokenize template)).position other = other.rank := by
  have hbinding : Binding.ofTokens (tokenize template) = .index ↔
      ∀ hole ∈ holesOf (tokenize template), hole.NamesNumber := by
    rw [ofTokens_eq_index_iff]
    exact forall₂_congr fun hole hmem => (classified_of_mem hmem).numbered
  refine ⟨fun hole hmem => classified_of_mem hmem, hbinding, fun hole hmem hname other _ => ?_⟩
  have hother : ¬hole.NamesNumber := by
    rintro ⟨hdigits, hle⟩
    rcases hname with ⟨c, hc, hdigit⟩ | ⟨-, hlt⟩
    · exact Bool.false_ne_true (hdigit.symm.trans (hdigits.2 c hc))
    · omega
  have hrank : Binding.ofTokens (tokenize template) = .rank := by
    cases hof : Binding.ofTokens (tokenize template) with
    | index => exact absurd (hbinding.1 hof hole hmem) hother
    | rank => rfl
  rw [hrank]
  rfl

/-- Zeros in front do not matter, the least number of 32 bits is too large, and digits of other
scripts are none. -/
theorem tokenize_numbering_limit :
    let low : Hole := ⟨⟨0, 15⟩, 0, "\x7b@002147483647\x7d", "@002147483647", "", ""⟩
    let high : Hole := ⟨⟨15, 27⟩, 1, "\x7b2147483648\x7d", "2147483648", "", ""⟩
    let script : Hole := ⟨⟨27, 31⟩, 2, "\x7b\u0663\x7d", "\u0663", "", ""⟩
    let template := low.marker ++ high.marker ++ script.marker
    holesOf (tokenize low.marker) = [low] ∧ Binding.ofTokens (tokenize low.marker) = .index ∧
      low.effectiveIndex = 2147483647 ∧ low.effectiveLabel = "" ∧
      holesOf (tokenize template) = [low, high, script] ∧
      high.effectiveIndex = 1 ∧ high.effectiveLabel = "2147483648" ∧
      script.effectiveIndex = 2 ∧ script.effectiveLabel = "\u0663" ∧
      (Binding.ofTokens (tokenize template)).position low = 0 := by
  intro low high script template
  have halone : holesOf (tokenize low.marker) = [low] := by decide +kernel
  have hholes : holesOf (tokenize template) = [low, high, script] := by decide +kernel
  have hlow : low.NamesNumber := by decide +kernel
  have hhigh : IsDigits high.name.toList ∧ 2147483647 < digitsValue high.name.toList := by
    decide +kernel
  have hscript : ¬script.NamesNumber := by decide +kernel
  obtain ⟨-, hbinding, -⟩ := tokenize_numbering low.marker
  obtain ⟨hclassified, -, hranks⟩ := tokenize_numbering template
  rw [halone] at hbinding
  rw [hholes] at hclassified hranks
  have hlow' := (hclassified low (by simp)).number hlow
  have hhigh' := (hclassified high (by simp)).other fun h => absurd h.2 (Nat.not_le.2 hhigh.2)
  have hscript' := (hclassified script (by simp)).other hscript
  have hvalue : digitsValue low.name.toList = 2147483647 := by decide +kernel
  have hhighName : high.name = "2147483648" := by decide +kernel
  have hscriptName : script.name = "\u0663" := by decide +kernel
  exact ⟨halone, hbinding.2 (by simpa using hlow), hlow'.1.trans hvalue, hlow'.2, hholes, hhigh'.1,
    hhigh'.2.trans hhighName, hscript'.1, hscript'.2.trans hscriptName,
    hranks high (by simp) (.inr hhigh) low (by simp)⟩

end MessageTemplate
