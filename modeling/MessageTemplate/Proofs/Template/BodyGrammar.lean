import MessageTemplate.Template.Body

/-!
# The grammar of hole bodies

A hole body is a declaration, then an alignment if there is a comma, then a format if there is a
colon. The parts determine the body and the body determines the parts.

* `Body.Shape`: the parts of a body, each as the grammar asks, with an absent part told from an
  empty one; `Body.Shape.write` is the body.
* `Body.readFormat_append`, `Body.readAlignment_append`, `Body.readDeclaration_append`: each reader
  reads what the grammar allows. The `_ok` lemmas say that it reads nothing else.
* `Body.parseChars_ok_iff`: the bodies that are read are those of shapes.
* `Body.Shape.write_inj`: no body has two shapes.
* `Body.parse_grammar`: all of this, and that fields written out are read again.
-/

namespace MessageTemplate.Body

open Segment

/-! ## Characters -/

theorem isNameChar_ne {c : Char} (h : isNameChar c = true) :
    isBrace c = false ∧ c ≠ ',' ∧ c ≠ ':' ∧ c ≠ stringifyMark ∧ c ≠ spreadMark := by
  rw [isBrace_eq_false]
  refine ⟨⟨?_, ?_⟩, ?_, ?_, ?_, ?_⟩
  all_goals rintro rfl; exact absurd h (by decide)

theorem isDigit_ne {c : Char} (h : c.isDigit = true) : isBrace c = false ∧ c ≠ ':' := by
  rw [isBrace_eq_false]
  refine ⟨⟨?_, ?_⟩, ?_⟩
  all_goals rintro rfl; exact absurd h (by decide)

/-- No character with a meaning of its own is a letter or a digit. -/
theorem isAlphanumeric_mark :
    ∀ c ∈ [',', ':', '-', '@', '$', '{', '}'], isAlphanumeric c = false := by
  simp only [List.mem_cons, List.not_mem_nil, or_false]
  rintro c (rfl | rfl | rfl | rfl | rfl | rfl | rfl) <;> decide

/-! ## The grammar -/

/-- Nothing, or one of the marks. -/
def IsMark (marks cs : List Char) : Prop := cs = [] ∨ ∃ c ∈ marks, cs = [c]

/-- A modifier or none, and then a name of letters, digits and underscores. -/
def IsDeclaration (cs : List Char) : Prop :=
  ∃ mark name, cs = mark ++ name ∧ IsMark [spreadMark, stringifyMark] mark ∧ name ≠ [] ∧
    ∀ c ∈ name, isNameChar c = true

/-- A hyphen or none, and then digits, perhaps none. -/
def IsAlignment (cs : List Char) : Prop :=
  ∃ sign digits, cs = sign ++ digits ∧ IsMark ['-'] sign ∧ ∀ c ∈ digits, c.isDigit = true

/-- Any text without braces. -/
def IsFormat (cs : List Char) : Prop := ∀ c ∈ cs, isBrace c = false

/-- The mark with the part that it opens, if the part is there. -/
def optionalPart (mark : Char) : Option (List Char) → List Char
  | none => []
  | some cs => mark :: cs

@[simp] theorem optionalPart_none (mark : Char) : optionalPart mark none = [] := rfl

@[simp] theorem optionalPart_some (mark : Char) (cs : List Char) :
    optionalPart mark (some cs) = mark :: cs := rfl

/-- The parts of a hole body. -/
@[ext]
structure Shape where
  declaration : List Char
  alignment? : Option (List Char)
  format? : Option (List Char)
  isDeclaration : IsDeclaration declaration
  isAlignment : ∀ cs ∈ alignment?, IsAlignment cs
  isFormat : ∀ cs ∈ format?, IsFormat cs

namespace Shape

/-- The body with these parts. -/
def write (s : Shape) : List Char :=
  s.declaration ++ (optionalPart ',' s.alignment? ++ optionalPart ':' s.format?)

/-- The parts as fields, where an absent part is empty. -/
def fields (s : Shape) : Fields :=
  ⟨String.ofList s.declaration, String.ofList (s.alignment?.getD []),
    String.ofList (s.format?.getD [])⟩

end Shape

/-! ## Marks and what follows them -/

/-- One of the marks or none, and then characters that satisfy `p`. -/
def Marked (marks : List Char) (p : Char → Bool) (cs : List Char) : Prop :=
  ∃ mark rest, cs = mark ++ rest ∧ IsMark marks mark ∧ ∀ c ∈ rest, p c = true

section Marked

variable {marks : List Char} {p : Char → Bool} {c : Char} {cs : List Char}

theorem marked_nil : Marked marks p [] := ⟨[], [], rfl, .inl rfl, by simp⟩

theorem marked_none_iff : Marked [] p cs ↔ ∀ c ∈ cs, p c = true := by
  constructor
  · rintro ⟨mark, rest, rfl, rfl | ⟨c, hc, -⟩, hrest⟩
    · exact hrest
    · cases hc
  · exact fun h => ⟨[], cs, rfl, .inl rfl, h⟩

theorem marked_cons_iff :
    Marked marks p (c :: cs) ↔ (c ∈ marks ∨ p c = true) ∧ Marked [] p cs := by
  rw [marked_none_iff]
  constructor
  · rintro ⟨mark, rest, heq, rfl | ⟨d, hd, rfl⟩, hrest⟩
    · subst heq
      exact ⟨.inr (hrest c List.mem_cons_self), fun d hd => hrest d (List.mem_cons_of_mem _ hd)⟩
    · obtain ⟨rfl, rfl⟩ := List.cons.inj heq
      exact ⟨.inl hd, hrest⟩
  · rintro ⟨hc | hc, hcs⟩
    · exact ⟨[c], cs, rfl, .inr ⟨c, hc, rfl⟩, hcs⟩
    · exact ⟨[], c :: cs, rfl, .inl rfl, by simpa using ⟨hc, hcs⟩⟩

theorem Marked.forall_mem {q : Char → Prop} (h : Marked marks p cs) (hmarks : ∀ c ∈ marks, q c)
    (hp : ∀ c, p c = true → q c) : ∀ c ∈ cs, q c := by
  obtain ⟨mark, rest, rfl, hmark, hrest⟩ := h
  intro c hc
  rcases List.mem_append.mp hc with hc | hc
  · rcases hmark with rfl | ⟨d, hd, rfl⟩
    · cases hc
    · rw [List.mem_singleton.mp hc]; exact hmarks d hd
  · exact hp c (hrest c hc)

theorem isDeclaration_iff : IsDeclaration cs ↔
    Marked [spreadMark, stringifyMark] isNameChar cs ∧ cs.any isNameChar = true := by
  constructor
  · rintro ⟨mark, name, rfl, hmark, hne, hname⟩
    obtain ⟨c, rest, rfl⟩ := List.exists_cons_of_ne_nil hne
    exact ⟨⟨mark, _, rfl, hmark, hname⟩, by simp [hname c List.mem_cons_self]⟩
  · rintro ⟨⟨mark, name, rfl, hmark, hname⟩, hany⟩
    refine ⟨mark, name, rfl, hmark, ?_, hname⟩
    rintro rfl
    rcases hmark with rfl | ⟨c, hc, rfl⟩
    · simp at hany
    · have hc : c = spreadMark ∨ c = stringifyMark := by simpa using hc
      rcases hc with rfl | rfl <;> exact absurd hany (by decide)

end Marked

/-! ## What the readers read -/

/-- The signs that an alignment may begin with, or go on with. -/
def signs (first : Bool) : List Char := if first then ['-'] else []

/-- The modifiers that a declaration may hold at byte `start`. -/
def modifiers (start : Nat) : List Char := if start = 0 then [spreadMark, stringifyMark] else []

theorem mem_signs {first : Bool} {c : Char} : c ∈ signs first ↔ first = true ∧ c = '-' := by
  cases first <;> simp [signs]

theorem mem_modifiers {start : Nat} {c : Char} :
    c ∈ modifiers start ↔ start = 0 ∧ (c = spreadMark ∨ c = stringifyMark) := by
  by_cases h : start = 0 <;> simp [modifiers, h]

/-- No modifier may follow another character. -/
theorem modifiers_next (start : Nat) (c : Char) : modifiers (start + c.utf8Size) = [] := by
  have := c.utf8Size_pos
  exact if_neg (by omega)

theorem readFormat_append {start : Nat} {cs : List Char} (h : IsFormat cs) :
    readFormat start cs = .ok cs := by
  induction cs generalizing start with
  | nil => rfl
  | cons c cs ih =>
    have hc : isBrace c = false := h c List.mem_cons_self
    rw [readFormat, hc, ih fun d hd => h d (List.mem_cons_of_mem _ hd)]
    rfl

theorem readAlignment_append {first : Bool} {start : Nat} {lining : List Char}
    {format? : Option (List Char)} (hlining : Marked (signs first) Char.isDigit lining)
    (hformat : ∀ cs ∈ format?, IsFormat cs) :
    readAlignment first start (lining ++ optionalPart ':' format?) =
      .ok (lining, format?.getD []) := by
  induction lining generalizing first start with
  | nil =>
    cases format? with
    | none => rfl
    | some cs =>
      have hread : readFormat (start + 1) cs = .ok cs := readFormat_append (hformat cs rfl)
      simp [readAlignment, isBrace, hread, Except.map]
  | cons c lining ih =>
    obtain ⟨hc, htail⟩ := marked_cons_iff.mp hlining
    have hread : readAlignment false (start + c.utf8Size) (lining ++ optionalPart ':' format?) =
        .ok (lining, format?.getD []) := ih htail
    rw [List.cons_append, readAlignment]
    rcases hc with hsign | hdigit
    · obtain ⟨rfl, rfl⟩ := mem_signs.mp hsign
      simp [isBrace, hread, Except.map]
    · obtain ⟨hbrace, hcolon⟩ := isDigit_ne hdigit
      have hhyphen : c ≠ '-' := by rintro rfl; exact absurd hdigit (by decide)
      simp [hbrace, hcolon, hhyphen, hdigit, hread, Except.map]

theorem readDeclaration_append {start : Nat} {symbol : List Char}
    {alignment? format? : Option (List Char)}
    (hsymbol : Marked (modifiers start) isNameChar symbol)
    (halignment : ∀ cs ∈ alignment?, IsAlignment cs) (hformat : ∀ cs ∈ format?, IsFormat cs) :
    readDeclaration start (symbol ++ (optionalPart ',' alignment? ++ optionalPart ':' format?)) =
      .ok (symbol, alignment?.getD [], format?.getD []) := by
  induction symbol generalizing start with
  | nil =>
    match alignment?, format? with
    | none, none => rfl
    | none, some cs =>
      have hread : readFormat (start + 1) cs = .ok cs := readFormat_append (hformat cs rfl)
      simp [readDeclaration, isBrace, hread, Except.map]
    | some lining, format? =>
      have hread : readAlignment true (start + 1) (lining ++ optionalPart ':' format?) =
          .ok (lining, format?.getD []) := readAlignment_append (halignment lining rfl) hformat
      simp [readDeclaration, isBrace, hread, Except.map]
  | cons c symbol ih =>
    obtain ⟨hc, htail⟩ := marked_cons_iff.mp hsymbol
    have hread := ih (by rwa [modifiers_next start c])
    rw [List.cons_append, readDeclaration]
    rcases hc with hmem | hname
    · obtain ⟨rfl, hmark⟩ := mem_modifiers.mp hmem
      rw [Nat.zero_add] at hread ⊢
      have hne : isBrace c = false ∧ c ≠ ',' ∧ c ≠ ':' := by
        rcases hmark with rfl | rfl <;> decide
      simp [hne, hmark.symm, hread, Except.map]
    · obtain ⟨hbrace, hcomma, hcolon, hstringify, hspread⟩ := isNameChar_ne hname
      simp [hbrace, hcomma, hcolon, hstringify, hspread, hname, hread, Except.map]

/-! ## Nothing else is read -/

private theorem map_ok {α β ε : Type} {f : α → β} {x : Except ε α} {b : β}
    (h : x.map f = .ok b) : ∃ a, x = .ok a ∧ f a = b := by
  cases x with
  | error e => cases h
  | ok a => exact ⟨a, rfl, Except.ok.inj h⟩

theorem readFormat_ok {start : Nat} {cs format : List Char}
    (h : readFormat start cs = .ok format) : cs = format ∧ IsFormat format := by
  induction cs generalizing start format with
  | nil => cases h; exact ⟨rfl, by simp [IsFormat]⟩
  | cons c cs ih =>
    rw [readFormat] at h
    split at h
    · cases h
    next hbrace =>
      obtain ⟨tail, hread, rfl⟩ := map_ok h
      obtain ⟨rfl, htail⟩ := ih hread
      exact ⟨rfl, List.forall_mem_cons.mpr ⟨by simpa using hbrace, htail⟩⟩

theorem readAlignment_ok {first : Bool} {start : Nat} {cs lining format : List Char}
    (h : readAlignment first start cs = .ok (lining, format)) :
    ∃ format?, cs = lining ++ optionalPart ':' format? ∧ format?.getD [] = format ∧
      Marked (signs first) Char.isDigit lining ∧ ∀ cs ∈ format?, IsFormat cs := by
  induction cs generalizing first start lining with
  | nil => cases h; exact ⟨none, rfl, rfl, marked_nil, nofun⟩
  | cons c cs ih =>
    rw [readAlignment] at h
    split at h
    · cases h
    split at h
    next hcolon =>
      obtain ⟨tail, hread, heq⟩ := map_ok h
      obtain ⟨rfl, rfl⟩ := Prod.mk.inj heq
      obtain ⟨rfl, hformat⟩ := readFormat_ok hread
      exact ⟨some cs, by simp [hcolon], rfl, marked_nil, by rintro _ ⟨⟩; exact hformat⟩
    split at h
    · cases h
    next hsign =>
    split at h
    next hc =>
      obtain ⟨⟨tail, format'⟩, hread, heq⟩ := map_ok h
      obtain ⟨rfl, rfl⟩ := Prod.mk.inj heq
      obtain ⟨format?, rfl, rfl, htail, hformat⟩ := ih hread
      refine ⟨format?, rfl, rfl, marked_cons_iff.mpr ⟨?_, htail⟩, hformat⟩
      rw [mem_signs]
      by_cases hhyphen : c = '-' <;> simp_all
    · cases h

theorem readDeclaration_ok {start : Nat} {cs symbol lining format : List Char}
    (h : readDeclaration start cs = .ok (symbol, lining, format)) :
    ∃ alignment? format?,
      cs = symbol ++ (optionalPart ',' alignment? ++ optionalPart ':' format?) ∧
      alignment?.getD [] = lining ∧ format?.getD [] = format ∧
      Marked (modifiers start) isNameChar symbol ∧
      (∀ cs ∈ alignment?, IsAlignment cs) ∧ ∀ cs ∈ format?, IsFormat cs := by
  induction cs generalizing start symbol with
  | nil => cases h; exact ⟨none, none, rfl, rfl, rfl, marked_nil, nofun, nofun⟩
  | cons c cs ih =>
    rw [readDeclaration] at h
    split at h
    · cases h
    split at h
    next hcomma =>
      obtain ⟨⟨lining', format'⟩, hread, heq⟩ := map_ok h
      cases heq
      obtain ⟨format?, rfl, rfl, hlining, hformat⟩ := readAlignment_ok hread
      exact ⟨some lining, format?, by simp [hcomma], rfl, rfl, marked_nil,
        by rintro _ ⟨⟩; exact hlining, hformat⟩
    split at h
    next hcolon =>
      obtain ⟨tail, hread, heq⟩ := map_ok h
      cases heq
      obtain ⟨rfl, hformat⟩ := readFormat_ok hread
      exact ⟨none, some cs, by simp [hcolon], rfl, rfl, marked_nil, nofun,
        by rintro _ ⟨⟩; exact hformat⟩
    split at h
    · cases h
    next hmark =>
    split at h
    next hc =>
      obtain ⟨⟨tail, lining', format'⟩, hread, heq⟩ := map_ok h
      cases heq
      obtain ⟨alignment?, format?, rfl, rfl, rfl, htail, hparts⟩ := ih hread
      rw [modifiers_next] at htail
      refine ⟨alignment?, format?, rfl, rfl, rfl, marked_cons_iff.mpr ⟨?_, htail⟩, hparts⟩
      rw [mem_modifiers]
      simp only [Bool.and_eq_true, Bool.or_eq_true, decide_eq_true_eq, bne_iff_ne] at hmark hc
      grind
    · cases h

/-! ## Bodies and shapes -/

theorem Shape.write_ne_nil (s : Shape) : s.write ≠ [] := by
  obtain ⟨mark, name, heq, -, hne, -⟩ := s.isDeclaration
  simp [write, heq, hne]

/-- **The bodies that are read.** They are the texts of shapes, and the fields are the shape's. -/
theorem parseChars_ok_iff {body : List Char} {fields : Fields} :
    parseChars body = .ok fields ↔ ∃ s : Shape, s.write = body ∧ s.fields = fields := by
  constructor
  · intro h
    unfold parseChars at h
    split at h
    · cases h
    cases hread : readDeclaration 0 body with
    | error r => rw [hread] at h; cases h
    | ok parts =>
      obtain ⟨symbol, lining, format⟩ := parts
      obtain ⟨alignment?, format?, rfl, rfl, rfl, hmarked, halignment, hformat⟩ :=
        readDeclaration_ok hread
      simp only [hread, bind, Except.bind] at h
      split at h
      next hany =>
        cases h
        exact ⟨⟨symbol, alignment?, format?, isDeclaration_iff.mpr ⟨hmarked, hany⟩, halignment,
          hformat⟩, rfl, rfl⟩
      · cases h
  · rintro ⟨s, rfl, rfl⟩
    obtain ⟨hmarked, hany⟩ := isDeclaration_iff.mp s.isDeclaration
    have hread : readDeclaration 0 s.write = .ok (s.declaration, s.alignment?.getD [],
        s.format?.getD []) := readDeclaration_append hmarked s.isAlignment s.isFormat
    simp [parseChars, s.write_ne_nil, hread, hany, bind, Except.bind, Shape.fields]

/-- Two texts that agree agree up to the first character that does not satisfy `p`. -/
theorem append_inj_of_stop {p : Char → Prop} {xs xs' ys ys' : List Char} (hxs : ∀ c ∈ xs, p c)
    (hxs' : ∀ c ∈ xs', p c) (hys : ∀ c ∈ ys.head?, ¬p c) (hys' : ∀ c ∈ ys'.head?, ¬p c)
    (h : xs ++ ys = xs' ++ ys') : xs = xs' ∧ ys = ys' := by
  induction xs generalizing xs' with
  | nil =>
    cases xs' with
    | nil => exact ⟨rfl, h⟩
    | cons c cs =>
      obtain rfl : ys = c :: (cs ++ ys') := h
      exact absurd (hxs' c List.mem_cons_self) (hys c rfl)
  | cons c cs ih =>
    cases xs' with
    | nil =>
      obtain rfl : c :: (cs ++ ys) = ys' := h
      exact absurd (hxs c List.mem_cons_self) (hys' c rfl)
    | cons d ds =>
      obtain ⟨rfl, htail⟩ := List.cons.inj h
      obtain ⟨rfl, rfl⟩ := ih (fun d hd => hxs d (List.mem_cons_of_mem _ hd))
        (fun d hd => hxs' d (List.mem_cons_of_mem _ hd)) htail
      exact ⟨rfl, rfl⟩

theorem IsDeclaration.char {cs : List Char} (h : IsDeclaration cs) :
    ∀ c ∈ cs, isBrace c = false ∧ c ≠ ',' ∧ c ≠ ':' :=
  (isDeclaration_iff.mp h).1.forall_mem (by simp [spreadMark, stringifyMark, isBrace]) fun _ hc =>
    have hne := isNameChar_ne hc
    ⟨hne.1, hne.2.1, hne.2.2.1⟩

theorem IsAlignment.char {cs : List Char} (h : IsAlignment cs) :
    ∀ c ∈ cs, isBrace c = false ∧ c ≠ ':' :=
  Marked.forall_mem h (by simp [isBrace]) fun _ hc => isDigit_ne hc

theorem optionalPart_inj {mark : Char} {x y : Option (List Char)}
    (h : optionalPart mark x = optionalPart mark y) : x = y := by
  cases x <;> cases y <;> simp_all

theorem optionalParts_inj {a b f g : Option (List Char)} (ha : ∀ cs ∈ a, IsAlignment cs)
    (hb : ∀ cs ∈ b, IsAlignment cs)
    (h : optionalPart ',' a ++ optionalPart ':' f = optionalPart ',' b ++ optionalPart ':' g) :
    a = b ∧ f = g := by
  have hstop {x : Option (List Char)} :
      ∀ c ∈ (optionalPart ':' x).head?, ¬(isBrace c = false ∧ c ≠ ':') := by
    cases x <;> simp
  match a, b with
  | none, none => exact ⟨rfl, optionalPart_inj h⟩
  | none, some cs => cases f <;> simp at h
  | some cs, none => cases g <;> simp at h
  | some cs, some ds =>
    obtain ⟨rfl, hformat⟩ := append_inj_of_stop (ha cs rfl).char (hb ds rfl).char hstop hstop
      (List.cons.inj h).2
    exact ⟨rfl, optionalPart_inj hformat⟩

/-- **The shape of a body is its only one.** -/
theorem Shape.write_inj {s t : Shape} (h : s.write = t.write) : s = t := by
  have hstop {x y : Option (List Char)} :
      ∀ c ∈ (optionalPart ',' x ++ optionalPart ':' y).head?,
        ¬(isBrace c = false ∧ c ≠ ',' ∧ c ≠ ':') := by
    cases x <;> cases y <;> simp
  obtain ⟨hdecl, htail⟩ :=
    append_inj_of_stop s.isDeclaration.char t.isDeclaration.char hstop hstop h
  obtain ⟨halignment, hformat⟩ := optionalParts_inj s.isAlignment t.isAlignment htail
  exact Shape.ext hdecl halignment hformat

theorem isBrace_optionalPart (mark : Char) {x : Option (List Char)} (hmark : isBrace mark = false)
    (hx : ∀ cs ∈ x, ∀ c ∈ cs, isBrace c = false) :
    ∀ c ∈ optionalPart mark x, isBrace c = false := by
  cases x with
  | none => nofun
  | some cs => exact List.forall_mem_cons.mpr ⟨hmark, hx cs rfl⟩

theorem Shape.isBrace_write (s : Shape) : ∀ c ∈ s.write, isBrace c = false := by
  have halignment := isBrace_optionalPart ',' rfl fun cs hcs c hc =>
    ((s.isAlignment cs hcs).char c hc).1
  have hformat := isBrace_optionalPart ':' rfl s.isFormat
  intro c hc
  rcases List.mem_append.mp hc with hc | hc
  · exact (s.isDeclaration.char c hc).1
  rcases List.mem_append.mp hc with hc | hc
  · exact halignment c hc
  · exact hformat c hc

/-- A body that is read has a first character, and no braces. -/
theorem parseChars_ok_char {body : List Char} {fields : Fields} (h : parseChars body = .ok fields) :
    body ≠ [] ∧ ∀ c ∈ body, isBrace c = false := by
  obtain ⟨s, rfl, -⟩ := parseChars_ok_iff.mp h
  exact ⟨s.write_ne_nil, s.isBrace_write⟩

/-! ## Fields written out -/

/-- The mark with the text that it opens, or nothing if there is no text. -/
def nonemptyPart (mark : Char) (text : String) : String :=
  if text.isEmpty then "" else String.singleton mark ++ text

/-- The body with these fields, without the comma of an empty alignment and the colon of an empty
format. -/
def Fields.write (f : Fields) : String :=
  f.symbol ++ nonemptyPart ',' f.lining ++ nonemptyPart ':' f.format

/-- The shape without the parts that are empty. -/
def Shape.compact (s : Shape) : Shape where
  declaration := s.declaration
  alignment? := s.alignment?.filter (!·.isEmpty)
  format? := s.format?.filter (!·.isEmpty)
  isDeclaration := s.isDeclaration
  isAlignment cs hcs := s.isAlignment cs (Option.mem_filter_iff.mp hcs).1
  isFormat cs hcs := s.isFormat cs (Option.mem_filter_iff.mp hcs).1

theorem getD_filter_isEmpty (x : Option (List Char)) :
    (x.filter (!·.isEmpty)).getD [] = x.getD [] := by
  match x with
  | none | some [] | some (c :: cs) => rfl

theorem Shape.fields_compact (s : Shape) : s.compact.fields = s.fields := by
  simp only [fields, compact, getD_filter_isEmpty]

theorem toList_nonemptyPart (mark : Char) (x : Option (List Char)) :
    (nonemptyPart mark (String.ofList (x.getD []))).toList =
      optionalPart mark (x.filter (!·.isEmpty)) := by
  match x with
  | none | some [] => rfl
  | some (c :: cs) => simp [nonemptyPart, Option.filter]

theorem Shape.write_compact (s : Shape) : s.compact.write = s.fields.write.toList := by
  simp only [Fields.write, fields, write, compact, String.toList_append, String.toList_ofList,
    toList_nonemptyPart, List.append_assoc]

/-- **The grammar of hole bodies.** A body is read exactly if it has no braces and is made up of a
declaration, perhaps a comma and an alignment, and perhaps a colon and a format. These parts are its
only ones and become its fields; written out, the fields are read again. -/
theorem parse_grammar (body : String) :
    ((∃ f, parse body = .ok f) ↔
      (∀ c ∈ body.toList, isBrace c = false) ∧ ∃ s : Shape, s.write = body.toList) ∧
    (∀ s t : Shape, s.write = body.toList → t.write = body.toList → s = t) ∧
    (∀ s : Shape, s.write = body.toList → parse body = .ok s.fields) ∧
    (∀ f, parse body = .ok f → parse f.write = .ok f) ∧
    ∀ c ∈ [',', ':', '-', '@', '$', '{', '}'], isAlphanumeric c = false := by
  refine ⟨⟨?_, ?_⟩, fun s t hs ht => Shape.write_inj (hs.trans ht.symm),
    fun s hs => parseChars_ok_iff.mpr ⟨s, hs, rfl⟩, ?_, isAlphanumeric_mark⟩
  · rintro ⟨f, hf⟩
    obtain ⟨s, hs, -⟩ := parseChars_ok_iff.mp hf
    exact ⟨hs ▸ s.isBrace_write, s, hs⟩
  · rintro ⟨-, s, hs⟩
    exact ⟨s.fields, parseChars_ok_iff.mpr ⟨s, hs, rfl⟩⟩
  · intro f hf
    obtain ⟨s, -, rfl⟩ := parseChars_ok_iff.mp hf
    exact parseChars_ok_iff.mpr ⟨s.compact, s.write_compact, s.fields_compact⟩

/-- A modifier, a comma without an alignment, and a format with a comma and a colon in it. -/
theorem parse_grammar_spread :
    parse "@a,:f,:" = .ok ⟨"@a", "", "f,:"⟩ ∧ parse "@a:f,:" = .ok ⟨"@a", "", "f,:"⟩ ∧
      ∃ s : Shape, s.write = "@a,:f,:".toList ∧ parse "@a,:f,:" = .ok s.fields ∧
        ∀ t : Shape, t.write = "@a,:f,:".toList → t = s := by
  obtain ⟨hread, hunique, hfields, hagain, -⟩ := parse_grammar "@a,:f,:"
  have hok : parse "@a,:f,:" = .ok ⟨"@a", "", "f,:"⟩ := by rfl
  obtain ⟨-, s, hs⟩ := hread.mp ⟨_, hok⟩
  exact ⟨hok, hagain _ hok, s, hs, hfields s hs, fun t ht => hunique t s ht hs⟩

end MessageTemplate.Body
