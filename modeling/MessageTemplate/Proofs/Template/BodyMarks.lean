import MessageTemplate.Proofs.Text.Slices
import MessageTemplate.Template.Body

/-!
# Hole bodies by byte marks

A hole body can be read without taking it apart: a cursor goes over it from left to right and notes
the bytes at which its parts begin and end. The parts are sliced out when the end is reached, if
nothing was rejected and there is a name.

* `Body.Marks`: what the cursor notes; `Marks.step` moves it over one character, `Body.mark` over a
  whole body.
* `Body.Parts`: the parts of the text that the cursor has passed; `Parts.marks` are their marks.
* `Parts.agree`: one step of the cursor is one step of the readers.
* `Parts.run_marks`, `markChars_parts`: so are all of them, and the cursor ends with the marks of
  the parts that the readers give.
* `Parts.cuts_marks`: the marks slice these parts out of the body.
-/

namespace MessageTemplate.Body

open Segment (isBrace)

/-! ## The cursor -/

/-- The part of a body that the cursor is in. -/
inductive Stage where
  | declaration
  | alignment
  | format
deriving DecidableEq, Repr

/-- What the cursor has noted: whether there is a name, and the bytes where parts begin and end. -/
structure Marks where
  stage : Stage
  named : Bool
  symbolEnd : Nat
  liningStart? : Option Nat
  liningEnd : Nat
  formatStart? : Option Nat
deriving DecidableEq, Repr

namespace Marks

/-- The marks before the first character of a body of `size` bytes. -/
def initial (size : Nat) : Marks := ⟨.declaration, false, size, none, size, none⟩

/-- The marks after a comma at byte `start` that ends the declaration. -/
def openAlignment (m : Marks) (start : Nat) : Marks :=
  { m with stage := .alignment, symbolEnd := start, liningStart? := some (start + 1) }

/-- The marks after a colon at byte `start` that ends the declaration or the alignment. -/
def openFormat (m : Marks) (start : Nat) : Marks :=
  let m := if m.stage = .declaration then { m with symbolEnd := start }
    else { m with liningEnd := start }
  { m with stage := .format, formatStart? := some (start + 1) }

/-- Moves the cursor over the character `c` at byte `start`. -/
def step (m : Marks) (start : Nat) (c : Char) : Except Rejection Marks :=
  if isBrace c then .error (blame .strayBrace start c)
  else if m.stage = .declaration ∧ c = ',' then .ok (m.openAlignment start)
  else if m.stage ≠ .format ∧ c = ':' then .ok (m.openFormat start)
  else match m.stage with
    | .declaration =>
      if c = stringifyMark ∨ c = spreadMark then
        if 0 < start then .error (blame (.misplacedModifier c) start c) else .ok m
      else if isNameChar c then .ok { m with named := true }
      else .error (blame (.invalidName c) start c)
    | .alignment =>
      if c = '-' then
        if some start = m.liningStart? then .ok m else .error (blame .misplacedHyphen start c)
      else if c.isDigit then .ok m
      else .error (blame (.invalidAlignment c) start c)
    | .format => .ok m

/-- Moves the cursor over text that begins at byte `start`. -/
def run (m : Marks) (start : Nat) : List Char → Except Rejection Marks
  | [] => .ok m
  | c :: cs => m.step start c >>= fun m' => m'.run (start + c.utf8Size) cs

/-- The bytes of the declaration. -/
def symbol (m : Marks) : Span := ⟨0, m.symbolEnd⟩

/-- The bytes of the alignment, if a comma has opened one. -/
def lining? (m : Marks) : Option Span := m.liningStart?.map (⟨·, m.liningEnd⟩)

/-- The bytes of the format, if a colon has opened one, in a body of `size` bytes. -/
def format? (m : Marks) (size : Nat) : Option Span := m.formatStart?.map (⟨·, size⟩)

/-- The marks slice the fields out of the body. A field without marks is empty. -/
structure Cuts (m : Marks) (body : String) (fields : Fields) : Prop where
  symbol : m.symbol.Slices body fields.symbol
  lining : m.lining?.elim (fields.lining = "") (·.Slices body fields.lining)
  format : (m.format? body.utf8ByteSize).elim (fields.format = "") (·.Slices body fields.format)

end Marks

/-- The marks of a body given as characters, or why it is none. -/
def markChars (body : List Char) : Except Rejection Marks :=
  if body.isEmpty then .error ⟨.empty, ⟨0, 0⟩⟩
  else do
    let m ← (Marks.initial (byteLength body)).run 0 body
    if m.named then .ok m else .error ⟨.missingName, m.symbol⟩

/-- The marks of a body, or why it is none. -/
def mark (body : String) : Except Rejection Marks := markChars body.toList

/-- Letters of two bytes in the declaration and in the format. -/
example : (mark "größe,-5:é").toOption =
    some ⟨.format, true, 7, some 8, 10, some 11⟩ := by decide +kernel

/-! ## What has been read -/

/-- The parts of a body as far as it has been read. Nothing is asked of their characters. -/
inductive Parts where
  | declaration (symbol : List Char)
  | alignment (symbol lining : List Char)
  | format (symbol : List Char) (lining? : Option (List Char)) (text : List Char)

namespace Parts

/-- The text that has been read. -/
def write : Parts → List Char
  | .declaration symbol => symbol
  | .alignment symbol lining => symbol ++ ',' :: lining
  | .format symbol none text => symbol ++ ':' :: text
  | .format symbol (some lining) text => symbol ++ ',' :: (lining ++ ':' :: text)

/-- The texts of the three parts, where an absent part is empty. -/
def texts : Parts → List Char × List Char × List Char
  | .declaration symbol => (symbol, [], [])
  | .alignment symbol lining => (symbol, lining, [])
  | .format symbol lining? text => (symbol, lining?.getD [], text)

/-- The parts as fields. -/
def fields (p : Parts) : Fields :=
  ⟨String.ofList p.texts.1, String.ofList p.texts.2.1, String.ofList p.texts.2.2⟩

/-- The parts after one more character. -/
def push (c : Char) : Parts → Parts
  | .declaration symbol =>
    if c = ',' then .alignment symbol []
    else if c = ':' then .format symbol none []
    else .declaration (symbol ++ [c])
  | .alignment symbol lining =>
    if c = ':' then .format symbol (some lining) [] else .alignment symbol (lining ++ [c])
  | .format symbol lining? text => .format symbol lining? (text ++ [c])

/-- The marks of the parts, in a body of `size` bytes that begins with them. -/
def marks (size : Nat) : Parts → Marks
  | .declaration symbol => ⟨.declaration, symbol.any isNameChar, size, none, size, none⟩
  | .alignment symbol _ =>
    ⟨.alignment, symbol.any isNameChar, byteLength symbol, some (byteLength symbol + 1), size, none⟩
  | .format symbol none _ =>
    ⟨.format, symbol.any isNameChar, byteLength symbol, none, size, some (byteLength symbol + 1)⟩
  | .format symbol (some lining) _ =>
    ⟨.format, symbol.any isNameChar, byteLength symbol, some (byteLength symbol + 1),
      byteLength (symbol ++ ',' :: lining), some (byteLength (symbol ++ ',' :: lining) + 1)⟩

/-- What the readers make of the parts and the text after them, which begins at byte `start`. -/
def readOn (start : Nat) (cs : List Char) :
    Parts → Except Rejection (List Char × List Char × List Char)
  | .declaration symbol =>
    (readDeclaration start cs).map fun texts => (symbol ++ texts.1, texts.2)
  | .alignment symbol lining =>
    (readAlignment lining.isEmpty start cs).map fun texts => (symbol, lining ++ texts.1, texts.2)
  | .format symbol lining? text =>
    (readFormat start cs).map fun more => (symbol, lining?.getD [], text ++ more)

theorem write_push (p : Parts) (c : Char) : (p.push c).write = p.write ++ [c] := by
  match p with
  | .declaration symbol => grind [push, write]
  | .alignment symbol lining => grind [push, write]
  | .format symbol none text | .format symbol (some lining) text => simp [push, write]

theorem byteLength_write_push (p : Parts) (c : Char) :
    byteLength (p.push c).write = byteLength p.write + c.utf8Size := by
  rw [write_push, byteLength_append, byteLength_cons, byteLength_nil, Nat.add_zero]

theorem readOn_nil (p : Parts) (start : Nat) : p.readOn start [] = .ok p.texts := by
  cases p <;> simp [readOn, readDeclaration, readAlignment, readFormat, texts, Except.map]

theorem named_marks (p : Parts) (size : Nat) : (p.marks size).named = p.texts.1.any isNameChar := by
  match p with
  | .declaration symbol | .alignment symbol lining | .format symbol none text
  | .format symbol (some lining) text => rfl

theorem symbol_marks (p : Parts) :
    (p.marks (byteLength p.write)).symbol = .ofText 0 p.texts.1 := by
  match p with
  | .declaration symbol | .alignment symbol lining | .format symbol none text
  | .format symbol (some lining) text =>
    simp [marks, Marks.symbol, write, texts, Span.ofText, Span.ofLength]

/-! ## One step -/

/-- The cursor and the readers do the same with the character `c` after the parts: both blame it, or
both go on with the parts that it makes. -/
def Agree (size : Nat) (p : Parts) (c : Char) : Prop :=
  (∃ cause, (p.marks size).step (byteLength p.write) c =
      .error (blame cause (byteLength p.write) c) ∧
    ∀ cs, p.readOn (byteLength p.write) (c :: cs) =
      .error (blame cause (byteLength p.write) c)) ∨
  ((p.marks size).step (byteLength p.write) c = .ok ((p.push c).marks size) ∧
    ∀ cs, p.readOn (byteLength p.write) (c :: cs) =
      (p.push c).readOn (byteLength p.write + c.utf8Size) cs)

private theorem comma_utf8Size : ','.utf8Size = 1 := rfl

private theorem colon_utf8Size : ':'.utf8Size = 1 := rfl

section Step

variable {ε α β γ : Type} {size : Nat} {c : Char} {symbol lining text : List Char}
  {lining? : Option (List Char)}

private theorem map_map (f : α → β) (g : β → γ) (x : Except ε α) :
    (x.map f).map g = x.map fun a => g (f a) := by
  cases x <;> rfl

/-- The next byte is the first one of the alignment exactly if nothing of it has been read. -/
theorem byteLength_write_alignment_eq_iff :
    byteLength (write (.alignment symbol lining)) = byteLength symbol + 1 ↔ lining = [] := by
  rw [write, byteLength_append, byteLength_cons, comma_utf8Size]
  constructor
  · intro h
    by_cases hne : lining = []
    · exact hne
    · have := byteLength_pos hne
      omega
  · rintro rfl
    rfl

theorem agree_format : Agree size (.format symbol lining? text) c := by
  have hstage : (marks size (.format symbol lining? text)).stage = .format := by
    cases lining? <;> rfl
  have hmarks : marks size (.format symbol lining? (text ++ [c])) =
      marks size (.format symbol lining? text) := by
    cases lining? <;> rfl
  by_cases hbrace : isBrace c
  · refine .inl ⟨.strayBrace, if_pos hbrace, fun cs => ?_⟩
    rw [readOn, readFormat, if_pos hbrace, Except.map]
  refine .inr ⟨?_, fun cs => ?_⟩
  · simp [Marks.step, hbrace, hstage, push, hmarks]
  · simp [readOn, readFormat, hbrace, push, map_map]

theorem agree_alignment : Agree size (.alignment symbol lining) c := by
  by_cases hbrace : isBrace c
  · refine .inl ⟨.strayBrace, if_pos hbrace, fun cs => ?_⟩
    rw [readOn, readAlignment, if_pos hbrace, Except.map]
  by_cases hcolon : c = ':'
  · subst hcolon
    refine .inr ⟨?_, fun cs => ?_⟩
    · simp [Marks.step, hbrace, marks, push, Marks.openFormat, write]
    · simp [readOn, readAlignment, hbrace, push, map_map, colon_utf8Size]
  by_cases hhyphen : c = '-'
  · subst hhyphen
    by_cases hlining : lining = []
    · subst hlining
      refine .inr ⟨?_, fun cs => ?_⟩
      · simp [Marks.step, hbrace, marks, push, byteLength_write_alignment_eq_iff]
      · simp [readOn, readAlignment, hbrace, push, map_map]
    · refine .inl ⟨.misplacedHyphen, ?_, fun cs => ?_⟩
      · simp [Marks.step, hbrace, marks, byteLength_write_alignment_eq_iff, hlining]
      · simp [readOn, readAlignment, hbrace, hlining, Except.map]
  by_cases hdigit : c.isDigit
  · have hnext : (lining ++ [c]).isEmpty = false := by simp
    refine .inr ⟨?_, fun cs => ?_⟩
    · simp [Marks.step, hbrace, hcolon, hhyphen, hdigit, marks, push]
    · simp [readOn, readAlignment, hbrace, hcolon, hhyphen, hdigit, push, hnext, map_map]
  · refine .inl ⟨.invalidAlignment c, ?_, fun cs => ?_⟩
    · simp [Marks.step, hbrace, hcolon, hhyphen, hdigit, marks]
    · simp [readOn, readAlignment, hbrace, hcolon, hhyphen, hdigit, Except.map]

theorem agree_declaration : Agree size (.declaration symbol) c := by
  by_cases hbrace : isBrace c
  · refine .inl ⟨.strayBrace, if_pos hbrace, fun cs => ?_⟩
    rw [readOn, readDeclaration, if_pos hbrace, Except.map]
  by_cases hcomma : c = ','
  · subst hcomma
    refine .inr ⟨?_, fun cs => ?_⟩
    · simp [Marks.step, hbrace, marks, push, Marks.openAlignment, write]
    · simp [readOn, readDeclaration, hbrace, push, map_map, comma_utf8Size, write]
  by_cases hcolon : c = ':'
  · subst hcolon
    refine .inr ⟨?_, fun cs => ?_⟩
    · simp [Marks.step, hbrace, marks, push, Marks.openFormat, write]
    · simp [readOn, readDeclaration, hbrace, push, map_map, colon_utf8Size, write]
  by_cases hmark : c = stringifyMark ∨ c = spreadMark
  · have hname : isNameChar c = false := by rcases hmark with rfl | rfl <;> decide
    by_cases hstart : byteLength symbol = 0
    · refine .inr ⟨?_, fun cs => ?_⟩
      · simp [Marks.step, hbrace, hcomma, hcolon, hmark, hname, hstart, marks, push, write]
      · simp [readOn, readDeclaration, hbrace, hcomma, hcolon, hmark, hstart, push, map_map, write]
    · refine .inl ⟨.misplacedModifier c, ?_, fun cs => ?_⟩
      · simp [Marks.step, hbrace, hcomma, hcolon, hmark, Nat.pos_of_ne_zero hstart, marks, write]
      · simp [readOn, readDeclaration, hbrace, hcomma, hcolon, hmark, hstart, Except.map, write]
  by_cases hname : isNameChar c
  · refine .inr ⟨?_, fun cs => ?_⟩
    · simp [Marks.step, hbrace, hcomma, hcolon, hmark, hname, marks, push]
    · simp [readOn, readDeclaration, hbrace, hcomma, hcolon, hmark, hname, push, map_map]
  · refine .inl ⟨.invalidName c, ?_, fun cs => ?_⟩
    · simp [Marks.step, hbrace, hcomma, hcolon, hmark, hname, marks]
    · simp [readOn, readDeclaration, hbrace, hcomma, hcolon, hmark, hname, Except.map]

end Step

/-- **One step of the cursor is one step of the readers**, whatever has been read. -/
theorem agree (size : Nat) (p : Parts) (c : Char) : p.Agree size c := by
  cases p with
  | declaration symbol => exact agree_declaration
  | alignment symbol lining => exact agree_alignment
  | format symbol lining? text => exact agree_format

/-! ## A whole run -/

/-- The cursor and the readers reject a text for the same reason, or the cursor ends with the marks
of the parts that the readers give. These make up all that has been read. -/
theorem run_marks (size : Nat) (p : Parts) (cs : List Char) :
    (∃ r, (p.marks size).run (byteLength p.write) cs = .error r ∧
      p.readOn (byteLength p.write) cs = .error r) ∨
    ∃ q : Parts, (p.marks size).run (byteLength p.write) cs = .ok (q.marks size) ∧
      q.write = p.write ++ cs ∧ p.readOn (byteLength p.write) cs = .ok q.texts := by
  induction cs generalizing p with
  | nil => exact .inr ⟨p, rfl, (List.append_nil _).symm, p.readOn_nil _⟩
  | cons c cs ih =>
    rcases p.agree size c with ⟨cause, hstep, hread⟩ | ⟨hstep, hread⟩
    · exact .inl ⟨_, by rw [Marks.run, hstep]; rfl, hread cs⟩
    have hrun : (p.marks size).run (byteLength p.write) (c :: cs) =
        ((p.push c).marks size).run (byteLength (p.push c).write) cs := by
      rw [Marks.run, hstep, byteLength_write_push]
      rfl
    rw [hrun, hread, ← byteLength_write_push]
    refine (ih (p.push c)).imp_right ?_
    rintro ⟨q, hq, hwrite, htexts⟩
    exact ⟨q, hq, by rw [hwrite, write_push, List.append_assoc]; rfl, htexts⟩

end Parts

theorem run_initial (body : List Char) :
    (∃ r, (Marks.initial (byteLength body)).run 0 body = .error r ∧
      readDeclaration 0 body = .error r) ∨
    ∃ p : Parts, (Marks.initial (byteLength body)).run 0 body = .ok (p.marks (byteLength body)) ∧
      p.write = body ∧ readDeclaration 0 body = .ok p.texts := by
  have hread : Parts.readOn 0 body (.declaration []) = readDeclaration 0 body := by
    cases h : readDeclaration 0 body <;> simp [Parts.readOn, h, Except.map]
  rw [← hread]
  exact Parts.run_marks (byteLength body) (.declaration []) body

/-- **The cursor reads bodies as the readers do.** Both reject a body for the same reason, or the
cursor has the marks of the parts whose fields the readers give. -/
theorem markChars_parts (body : List Char) :
    (∃ r, markChars body = .error r ∧ parseChars body = .error r) ∨
    ∃ p : Parts, p.write = body ∧ markChars body = .ok (p.marks (byteLength body)) ∧
      parseChars body = .ok p.fields := by
  unfold markChars parseChars
  by_cases hempty : body.isEmpty
  · exact .inl ⟨_, if_pos hempty, if_pos hempty⟩
  rw [if_neg hempty, if_neg hempty]
  rcases run_initial body with ⟨r, hrun, hread⟩ | ⟨p, hrun, rfl, hread⟩
  · exact .inl ⟨r, by rw [hrun]; rfl, by rw [hread]; rfl⟩
  rw [hrun, hread]
  simp only [bind, Except.bind, p.named_marks, p.symbol_marks]
  by_cases hnamed : p.texts.1.any isNameChar
  · exact .inr ⟨p, rfl, if_pos hnamed, if_pos hnamed⟩
  · exact .inl ⟨_, if_neg hnamed, if_neg hnamed⟩

/-! ## The slices -/

/-- **The marks slice the parts out.** Each part begins and ends at the body's ends or next to the
comma or the colon, which take one byte each. -/
theorem Parts.cuts_marks (p : Parts) :
    (p.marks (byteLength p.write)).Cuts (String.ofList p.write) p.fields := by
  match p with
  | .declaration symbol =>
    exact {
      symbol := Span.slices_of_append [] symbol [] (by simp [write]) rfl rfl
      lining := rfl
      format := rfl }
  | .alignment symbol lining =>
    exact {
      symbol := Span.slices_of_append [] symbol (',' :: lining) rfl rfl rfl
      lining := Span.slices_of_append (symbol ++ [',']) lining [] (by simp [write])
        (by simp [comma_utf8Size]) (by simp [marks, write])
      format := rfl }
  | .format symbol none text =>
    exact {
      symbol := Span.slices_of_append [] symbol (':' :: text) rfl rfl rfl
      lining := rfl
      format := Span.slices_of_append (symbol ++ [':']) text [] (by simp [write])
        (by simp [colon_utf8Size]) (by rw [utf8ByteSize_ofList]; simp [write]) }
  | .format symbol (some lining) text =>
    exact {
      symbol := Span.slices_of_append [] symbol (',' :: (lining ++ ':' :: text)) rfl rfl rfl
      lining := Span.slices_of_append (symbol ++ [',']) lining (':' :: text) (by simp [write])
        (by simp [comma_utf8Size]) (by simp [marks])
      format := Span.slices_of_append (symbol ++ ',' :: (lining ++ [':'])) text []
        (by simp [write]) (by simp [colon_utf8Size, Nat.add_assoc])
        (by rw [utf8ByteSize_ofList]; simp [write]) }

end MessageTemplate.Body
