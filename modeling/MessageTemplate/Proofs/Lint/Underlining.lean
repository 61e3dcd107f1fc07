import MessageTemplate.Lint.Report
import MessageTemplate.Proofs.Lint.Malformed
import MessageTemplate.Proofs.Render.Pieces

/-!
# Where reports underline

A warning counts the bytes of its span, a report takes them for positions of characters. As long as
all characters have one byte that is the same; the first one with more moves the underlining away
from what the warning is about.

- **Positions of characters** (`Span.charSlice?`): the text of a span under the report's reading,
  and the characters that it marks on the source lines (`SourceLine.marked`, `flatMap_marked`).
- **Drawn rows** (`Underlines`, `report_underlines`): what the report draws under a line is what is
  marked in it.
- **What warnings are about** (`exists_slice?_of_mem_check`): the span of every warning is the one
  of a part of the template.
- **The two readings** (`Span.charSlice?_ofText`, `Span.ofText_eq_iff`): they agree exactly on
  ASCII.
- **Where reports underline** (`check_underlines`): what the warning is about, exactly if no
  character of more than one byte stands in it or before it.
-/

namespace MessageTemplate

/-! ## Bytes and characters -/

theorem length_le_byteLength (cs : List Char) : cs.length ≤ byteLength cs := by
  induction cs with
  | nil => exact Nat.le_refl 0
  | cons c cs ih =>
    have := c.utf8Size_pos
    rw [List.length_cons, byteLength_cons]
    omega

/-- Bytes and characters are the same in number exactly if all characters are ASCII. -/
theorem byteLength_eq_length_iff {cs : List Char} :
    byteLength cs = cs.length ↔ ∀ c ∈ cs, c.toNat < 128 := by
  induction cs with
  | nil => exact ⟨nofun, fun _ => rfl⟩
  | cons c cs ih =>
    have hone : c.utf8Size = 1 ↔ c.toNat < 128 := by
      rw [Char.utf8Size_eq_one_iff, UInt32.le_iff_toNat_le]
      exact Nat.lt_succ_iff.symm
    have hpos := c.utf8Size_pos
    have hle := length_le_byteLength cs
    rw [List.forall_mem_cons, ← ih, ← hone, byteLength_cons, List.length_cons]
    omega

namespace Span

/-- The characters of a text at the positions of the span, when these are all positions of the
text. -/
def charSlice? (s : Span) (cs : List Char) : Option (List Char) :=
  if s.start ≤ s.stop ∧ s.stop ≤ cs.length then some (cs.extract s.start s.stop) else none

section OfText

variable {pre mid post : List Char}

/-- The span of a part in bytes gives its positions exactly if all is ASCII up to its end. -/
theorem ofText_eq_iff : ofText (byteLength pre) mid = ⟨pre.length, pre.length + mid.length⟩ ↔
    ∀ c ∈ pre ++ mid, c.toNat < 128 := by
  have hpre := length_le_byteLength pre
  have hmid := length_le_byteLength mid
  rw [← byteLength_eq_length_iff, ofText, ofLength, Span.mk.injEq, byteLength_append,
    List.length_append]
  omega

/-- Then the characters at these positions are those of the part. -/
theorem charSlice?_ofText (h : ∀ c ∈ pre ++ mid, c.toNat < 128) :
    (ofText (byteLength pre) mid).charSlice? (pre ++ (mid ++ post)) = some mid := by
  rw [ofText_eq_iff.2 h, charSlice?, if_pos]
  · simp
  · simp only [List.length_append]
    omega

end OfText

end Span

namespace Lint

/-! ## Marked characters -/

/-- The characters of a text at the positions of a span; the first one has the position `start`. -/
def charsAt (span : Span) (start : Nat) (cs : List Char) : List Char :=
  ((cs.zipIdx start).filter fun p => span.start ≤ p.2 && p.2 < span.stop).map Prod.fst

/-- The characters of a line at the positions of a span. -/
def SourceLine.marked (span : Span) (line : SourceLine) : List Char :=
  charsAt span line.start line.text

section Marked

variable {span : Span}

theorem charsAt_append (start : Nat) (cs ds : List Char) :
    charsAt span start (cs ++ ds) =
      charsAt span start cs ++ charsAt span (start + cs.length) ds := by
  rw [charsAt, List.zipIdx_append, List.filter_append, List.map_append, charsAt, charsAt]

theorem charsAt_eq (start : Nat) (cs : List Char) :
    charsAt span start cs = (cs.take (span.stop - start)).drop (span.start - start) := by
  induction cs generalizing start with
  | nil => simp [charsAt]
  | cons c cs ih =>
    rw [← List.singleton_append, charsAt_append, List.length_singleton, ih]
    by_cases hstop : start < span.stop
    · obtain ⟨n, hn⟩ : ∃ n, span.stop - start = n + 1 := ⟨span.stop - start - 1, by omega⟩
      have hrest : span.stop - (start + 1) = n := by omega
      rw [hn, hrest, List.singleton_append, List.take_succ_cons]
      by_cases hstart : span.start ≤ start
      · have hzero : span.start - start = 0 := by omega
        have hzero' : span.start - (start + 1) = 0 := by omega
        rw [hzero, hzero', List.drop_zero, List.drop_zero]
        simp [charsAt, hstart, hstop]
      · obtain ⟨k, hk⟩ : ∃ k, span.start - start = k + 1 := ⟨span.start - start - 1, by omega⟩
        have hrest' : span.start - (start + 1) = k := by omega
        rw [hk, hrest', List.drop_succ_cons]
        simp [charsAt, hstart]
    · have hzero : span.stop - start = 0 := by omega
      have hzero' : span.stop - (start + 1) = 0 := by omega
      rw [hzero, hzero', List.take_zero, List.take_zero]
      simp [charsAt, hstop]

theorem flatMap_marked_enumerate (number start : Nat) (texts : List (List Char)) :
    (SourceLine.enumerate number start texts).flatMap (·.marked span) =
      charsAt span start texts.flatten := by
  induction texts generalizing number start with
  | nil => rfl
  | cons text texts ih =>
    rw [SourceLine.enumerate, List.flatMap_cons, ih, List.flatten_cons, charsAt_append]
    rfl

theorem charsAt_of_charSlice? {cs text : List Char} (h : span.charSlice? cs = some text) :
    charsAt span 0 cs = text := by
  unfold Span.charSlice? at h
  split at h
  next hrange =>
    cases h
    rw [charsAt_eq, List.extract_eq_take_drop, List.drop_take]
    rfl
  next => cases h

/-- The lines of a text are marked at the positions of the span in the text. -/
theorem flatMap_marked {cs text : List Char} (h : span.charSlice? cs = some text) :
    (SourceLine.ofText cs).flatMap (·.marked span) = text := by
  rw [SourceLine.ofText, flatMap_marked_enumerate, flatten_splitLines, charsAt_of_charSlice? h]

end Marked

/-! ## Drawn rows -/

/-- The characters that an underlining is drawn with. -/
def isUnderline (c : Char) : Bool := c = '─' || c = '┬'

/-- Below characters of one column each a row has its marks one by one. -/
theorem drawRow_eq_map {mark : Nat → Char × Char} {index count : Nat} {cs : List Char}
    (hnarrow : ∀ k c, cs[k]? = some c → glyphWidth (index + k) c = 1) :
    drawRow mark index count cs = (List.range' index count).map fun i => (mark i).1 := by
  induction count generalizing index cs with
  | zero => rfl
  | succ count ih =>
    have htail (k : Nat) (c : Char) (h : cs.tail[k]? = some c) :
        glyphWidth (index + 1 + k) c = 1 := by
      have hnext := hnarrow (k + 1) c (by simpa using h)
      rwa [Nat.add_assoc, Nat.add_comm 1 k]
    have hrow : drawRow mark index (count + 1) cs =
        (mark index).1 :: drawRow mark (index + 1) count cs.tail := by
      cases cs with
      | nil => rfl
      | cons d ds =>
        have hone : glyphWidth index d = 1 := hnarrow 0 d rfl
        simp only [drawRow, hone]
        rfl
    rw [hrow, ih htail, List.range'_succ, List.map_cons]

/-- Each character of the line takes one column. -/
def SourceLine.IsNarrow (line : SourceLine) : Prop :=
  ∀ p ∈ line.trimmed.zipIdx, glyphWidth p.2 p.1 = 1

instance (line : SourceLine) : Decidable line.IsNarrow := inferInstanceAs (Decidable (∀ _ ∈ _, _))

/-- The characters of a text that a row below it underlines. -/
def underlined (row text : List Char) : List Char :=
  (text.zipIdx.filter fun p => row[p.2]?.any isUnderline).map Prod.fst

/-- The row below a line of characters of one column has an underlining in the columns of the
positions of the span and in no others. -/
theorem inlineLabel_underlines (width : Nat) {line : SourceLine} (span : Span) (message : String)
    (hnarrow : line.IsNarrow) :
    ∃ row last, inlineLabel width line span message = [lineMargin width line ++ lineText line,
        blankMargin width "│" ++ String.ofList row, last] ∧
      ∀ k, row[k]?.any isUnderline = true ↔
        span.start ≤ line.start + k ∧ line.start + k < span.stop := by
  have hnarrow (k : Nat) (c : Char) (h : line.trimmed[k]? = some c) : glyphWidth (0 + k) c = 1 := by
    rw [Nat.zero_add]
    exact hnarrow (c, k) (List.mk_mem_zipIdx_iff_getElem?.2 h)
  refine ⟨_, _, congrArg (fun row => [_, _ ++ String.ofList row, _]) (drawRow_eq_map hnarrow),
    fun k => ?_⟩
  rw [List.getElem?_map]
  by_cases hk : k < span.stop - line.start + rowMargin
  · have hget : (List.range' 0 (span.stop - line.start + rowMargin))[k]? = some k := by
      rw [List.getElem?_range' hk, Nat.one_mul, Nat.zero_add]
    simp only [hget, Option.map_some, Option.any_some]
    -- The middle of the span has a mark of its own, also when it lies outside.
    by_cases hinside : span.start ≤ line.start + k ∧ line.start + k < span.stop
    · simp only [hinside, decide_true, Bool.and_self, if_true, true_and, iff_true]
      split <;> decide
    · have houtside : (decide (span.start ≤ line.start + k) &&
          decide (line.start + k < span.stop)) = false := by simpa using hinside
      simp only [houtside, Bool.false_eq_true, if_false, hinside, iff_false]
      split <;> decide
  · have hnone : (List.range' 0 (span.stop - line.start + rowMargin))[k]? = none :=
      List.getElem?_eq_none (by rw [List.length_range']; omega)
    have hbeyond : ¬line.start + k < span.stop := by
      have := Nat.le_of_not_lt hk
      omega
    rw [hnone]
    exact ⟨nofun, fun h => absurd h.2 hbeyond⟩

/-- The underlined characters are those at the positions of the span. -/
theorem underlined_eq_marked {row : List Char} {line : SourceLine} {span : Span}
    (h : ∀ k, row[k]?.any isUnderline = true ↔
      span.start ≤ line.start + k ∧ line.start + k < span.stop) :
    underlined row line.text = line.marked span := by
  rw [underlined, SourceLine.marked, charsAt, List.zipIdx_eq_map_add (i := line.start),
    List.filter_map, List.map_map]
  refine congrArg _ (List.filter_congr fun p _ => ?_)
  rw [Bool.eq_iff_iff, h]
  simp

/-! ## Reports on one line -/

/-- The span is not empty and lies in the line. -/
def SourceLine.Includes (line : SourceLine) (span : Span) : Prop :=
  line.start ≤ span.start ∧ span.start < span.stop ∧ span.stop ≤ line.stop

instance (line : SourceLine) (span : Span) : Decidable (line.Includes span) :=
  inferInstanceAs (Decidable (_ ∧ _ ∧ _))

/-- The report shows the line, and the row below underlines the given text of it and nothing else. -/
def Underlines (report : String) (line : SourceLine) (text : List Char) : Prop :=
  let width := digitCount line.number
  ∃ above row below, report = String.join ((above ++ ((lineMargin width line ++ lineText line) ::
      (blankMargin width "│" ++ String.ofList row) :: below)).map (· ++ "\n")) ∧
    underlined row line.text = text

section Lines

variable {line : SourceLine} {span : Span} {number start position : Nat} {cs text : List Char}
  {texts : List (List Char)}

theorem exists_append_of_mem_enumerate (h : line ∈ SourceLine.enumerate number start texts) :
    ∃ before after, texts.flatten = before ++ (line.text ++ after) ∧
      line.start = start + before.length := by
  induction texts generalizing number start with
  | nil => cases h
  | cons text texts ih =>
    rcases List.mem_cons.1 h with rfl | hrest
    · exact ⟨[], texts.flatten, rfl, rfl⟩
    · obtain ⟨before, after, hflatten, hstart⟩ := ih hrest
      refine ⟨text ++ before, after, ?_, ?_⟩
      · rw [List.flatten_cons, hflatten, List.append_assoc]
      · rw [hstart, List.length_append, Nat.add_assoc]

/-- A position inside a line belongs to it: later lines begin behind it. -/
theorem lineAt?_enumerate (h : line ∈ SourceLine.enumerate number start texts)
    (hstart : line.start ≤ position) (hstop : position < line.stop) :
    lineAt? (SourceLine.enumerate number start texts) position = some line := by
  have hlast : ((SourceLine.enumerate number start texts).filter
      fun line => line.start ≤ position).getLast? = some line := by
    induction texts generalizing number start with
    | nil => cases h
    | cons text texts ih =>
      rw [SourceLine.enumerate]
      rcases List.mem_cons.1 h with rfl | hrest
      · have hlater : (SourceLine.enumerate (number + 1) (start + text.length) texts).filter
            (fun line => line.start ≤ position) = [] := by
          refine List.filter_eq_nil_iff.2 fun later hlater => ?_
          obtain ⟨before, -, -, hbegin⟩ := exists_append_of_mem_enumerate hlater
          have hstop : position < start + text.length := hstop
          simp only [decide_eq_true_eq]
          omega
        rw [List.filter_cons_of_pos (by simpa using hstart), hlater]
        rfl
      · obtain ⟨before, -, -, hbegin⟩ := exists_append_of_mem_enumerate hrest
        have hbefore : start ≤ position := by omega
        rw [List.filter_cons_of_pos (by simpa using hbefore), List.getLast?_cons, ih hrest]
        rfl
  unfold lineAt?
  rw [hlast]
  exact if_pos (Nat.le_of_lt hstop)

/-- A line that includes the span has all characters at its positions. -/
theorem marked_of_charSlice? (h : line ∈ SourceLine.ofText cs) (hspan : line.Includes span)
    (hchars : span.charSlice? cs = some text) : line.marked span = text := by
  obtain ⟨before, after, hflatten, hbegin⟩ := exists_append_of_mem_enumerate h
  obtain ⟨hstart, -, hstop⟩ := hspan
  have hstop : span.stop ≤ line.start + line.text.length := hstop
  rw [flatten_splitLines] at hflatten
  rw [Nat.zero_add] at hbegin
  have hbefore : charsAt span 0 before = [] := by
    rw [charsAt_eq, List.drop_eq_nil_iff, List.length_take]
    omega
  have hafter : charsAt span (line.start + line.text.length) after = [] := by
    rw [charsAt_eq, Nat.sub_eq_zero_of_le hstop, List.take_zero, List.drop_nil]
  have hall := charsAt_of_charSlice? hchars
  rwa [hflatten, charsAt_append, charsAt_append, hbefore, Nat.zero_add, ← hbegin, hafter,
    List.nil_append, List.append_nil] at hall

end Lines

/-- **What a report underlines.** A report on a span inside a line of characters of one column
underlines the characters at the positions of the span. -/
theorem report_underlines {template : String} {w : Warning} {line : SourceLine} (name : String)
    (hline : line ∈ SourceLine.ofText template.toList) (hspan : line.Includes w.span)
    (hnarrow : line.IsNarrow) :
    Underlines (w.report template name) line (line.marked w.span) := by
  obtain ⟨hstart, hnonempty, hstop⟩ := hspan
  have hfirst : lineAt? (SourceLine.ofText template.toList) w.span.start = some line :=
    lineAt?_enumerate hline hstart (Nat.lt_of_lt_of_le hnonempty hstop)
  have hlast : lineAt? (SourceLine.ofText template.toList) (lastPosition w.span) = some line := by
    refine lineAt?_enumerate hline (Nat.le_trans hstart (Nat.le_max_left _ _)) ?_
    unfold lastPosition
    omega
  obtain ⟨above, below, hsnippet⟩ : ∃ above below, snippet template name w =
      above ++ inlineLabel (digitCount line.number) line w.span w.message ++ below := by
    unfold snippet
    simp only [hfirst, hlast, snippetRows, if_pos hstop, if_true]
    exact ⟨_, _, rfl⟩
  obtain ⟨row, last, hrows, hmarks⟩ :=
    inlineLabel_underlines (digitCount line.number) w.span w.message hnarrow
  refine ⟨w.heading :: above, row, last :: below, ?_, underlined_eq_marked hmarks⟩
  rw [Warning.report, hsnippet, hrows]
  simp only [List.cons_append, List.append_assoc, List.nil_append]

/-! ## What warnings are about -/

variable {template : String} {count? : Option Nat} {w : Warning}

theorem exists_slice?_of_mem_holesOf {hole : Hole} (h : hole ∈ holesOf (tokenize template)) :
    ∃ raw, hole.span.slice? template.toList = some raw := by
  obtain ⟨before, after, htokens⟩ := List.append_of_mem (mem_holesOf.1 h)
  obtain ⟨raw, hraw, -⟩ := (covers_tokenize template).denotes [] rfl htokens
  rw [List.nil_append] at hraw
  exact ⟨raw, hraw⟩

/-- Whatever is known of the arguments, a warning comes from one of the four checks. -/
theorem mem_check_cases (h : w ∈ check template count?) :
    w ∈ malformedWarnings template (tokenize template) ∨
    w ∈ bindingWarnings (tokenize template) ∨
    (∃ binding count, w ∈ unresolvedWarnings binding count (tokenize template)) ∨
    ∃ count, w ∈ unusedWarnings template count (tokenize template) := by
  cases count? with
  | none =>
    simp only [check, List.append_nil, List.mem_append] at h
    rcases h with hmalformed | hbinding
    · exact .inl hmalformed
    · split at hbinding
      · exact .inr (.inl hbinding)
      · cases hbinding
  | some count =>
    rcases mem_check.1 h with h | ⟨-, h⟩ | h | ⟨-, h⟩
    · exact .inl h
    · exact .inr (.inl h)
    · exact .inr (.inr (.inl ⟨_, _, h⟩))
    · exact .inr (.inr (.inr ⟨_, h⟩))

/-- The span of a warning is the one of a part of the template. -/
theorem exists_slice?_of_mem_check (h : w ∈ check template count?) :
    ∃ warned, w.span.slice? template.toList = some warned := by
  rcases mem_check_cases h with hmalformed | hbinding | ⟨binding, count, hunresolved⟩ |
    ⟨count, hunused⟩
  · obtain ⟨token, htoken, hw⟩ := List.mem_filterMap.1 hmalformed
    cases token with
    | hole hole => cases hw
    | literal l =>
      obtain ⟨r, hr, rfl⟩ := Option.map_eq_some_iff.1 hw
      obtain ⟨before, after, htemplate, href⟩ := refused_tokensFrom [] template.toList 0 htoken hr
      rw [List.nil_append] at htemplate
      rw [htemplate]
      exact (href.pointsAt after).boundaries
  · obtain ⟨hole, hhole, rfl⟩ := List.mem_map.1 hbinding
    exact exists_slice?_of_mem_holesOf (List.mem_of_mem_filter hhole)
  · obtain ⟨hole, hhole, -, rfl⟩ := mem_unresolvedWarnings.1 hunresolved
    exact exists_slice?_of_mem_holesOf hhole
  · obtain ⟨i, -, -, rfl⟩ := mem_unusedWarnings.1 hunused
    have hend := Span.slice?_ofText template.toList [] []
    rw [List.append_nil, List.append_nil] at hend
    exact ⟨[], hend⟩

/-! ## Where reports underline -/

/-- **Reports underline by characters what warnings count in bytes.** A warning is about a part of
the template. The positions under which a report takes its span are those of this part exactly if
neither the part nor what stands before it has a character beyond ASCII. Then the part is what is
marked on the source lines, and if it lies in one line, of characters of one column, the report draws
an underlining below the part and nowhere else. -/
theorem check_underlines (template : String) (count? : Option Nat) {w : Warning}
    (h : w ∈ check template count?) :
    ∃ before warned after, template.toList = before ++ (warned ++ after) ∧
      w.span = .ofText (byteLength before) warned ∧
      w.span.slice? template.toList = some warned ∧
      (w.span = ⟨before.length, before.length + warned.length⟩ ↔
        ∀ c ∈ before ++ warned, c.toNat < 128) ∧
      ((∀ c ∈ before ++ warned, c.toNat < 128) →
        w.span.charSlice? template.toList = some warned ∧
        (SourceLine.ofText template.toList).flatMap (·.marked w.span) = warned ∧
        ∀ line ∈ SourceLine.ofText template.toList, line.Includes w.span → line.IsNarrow →
          ∀ name, Underlines (w.report template name) line warned) := by
  obtain ⟨warned, hslice⟩ := exists_slice?_of_mem_check h
  obtain ⟨before, after, htemplate, hspan⟩ := Span.exists_of_slice? hslice
  refine ⟨before, warned, after, htemplate, hspan, hslice, ?_, fun hascii => ?_⟩
  · rw [hspan]
    exact Span.ofText_eq_iff
  · have hchars : w.span.charSlice? template.toList = some warned := by
      rw [hspan, htemplate]
      exact Span.charSlice?_ofText hascii
    refine ⟨hchars, flatMap_marked hchars, fun line hline hincludes hnarrow name => ?_⟩
    rw [← marked_of_charSlice? hline hincludes hchars]
    exact report_underlines name hline hincludes hnarrow

/-- In a template of ASCII the report on a hole without an argument underlines the hole. -/
theorem check_underlines_ascii :
    let template := "a \x7b0\x7d \x7b7,3\x7d"
    let w : Warning := ⟨.unresolved, "'\x7b7,3\x7d' reads argument 7 but only 1 given", ⟨6, 11⟩⟩
    w ∈ check template (some 1) ∧ w.span.slice? template.toList = some "\x7b7,3\x7d".toList ∧
      w.span.charSlice? template.toList = some "\x7b7,3\x7d".toList ∧
      (SourceLine.ofText template.toList).flatMap (·.marked w.span) = "\x7b7,3\x7d".toList ∧
      Underlines (w.report template "t") ⟨1, 0, template.toList⟩ "\x7b7,3\x7d".toList := by
  intro template w
  have hmem : w ∈ check template (some 1) := by decide +kernel
  obtain ⟨before, warned, after, htemplate, -, hslice, -, hunderlined⟩ :=
    check_underlines template (some 1) hmem
  have hwarned : w.span.slice? template.toList = some "\x7b7,3\x7d".toList := by decide +kernel
  obtain rfl := Option.some.inj (hslice.symm.trans hwarned)
  have hascii : ∀ c ∈ template.toList, c.toNat < 128 :=
    fun c hc => of_decide_eq_true (List.all_eq_true.1
      (by decide +kernel : template.toList.all (fun c => c.toNat < 128) = true) c hc)
  obtain ⟨hchars, hmarked, hreport⟩ := hunderlined fun c hc => hascii c (by
    rw [htemplate, ← List.append_assoc]
    exact List.mem_append_left _ hc)
  have hline : (⟨1, 0, template.toList⟩ : SourceLine) ∈ SourceLine.ofText template.toList := by
    decide +kernel
  exact ⟨hmem, hslice, hchars, hmarked,
    hreport _ hline (by decide +kernel) (by decide +kernel) "t"⟩

/-- Behind a letter of two bytes the report on an empty placeholder underlines its second brace and
what comes next. -/
theorem check_underlines_shifted :
    let template := "é\x7b\x7d!"
    let w : Warning := ⟨.malformed, "'\x7b\x7d' is rendered as text: placeholder is empty", ⟨2, 4⟩⟩
    w ∈ check template none ∧ w.span.start < w.span.stop ∧
      w.span.slice? template.toList = some ['{', '}'] ∧
      w.span.charSlice? template.toList = some ['}', '!'] ∧
      (SourceLine.ofText template.toList).flatMap (·.marked w.span) = ['}', '!'] ∧
      Underlines (w.report template "t") ⟨1, 0, template.toList⟩ ['}', '!'] := by
  intro template w
  have hmem : w ∈ check template none := by decide +kernel
  have hchars : w.span.charSlice? template.toList = some ['}', '!'] := by decide +kernel
  have hline : (⟨1, 0, template.toList⟩ : SourceLine) ∈ SourceLine.ofText template.toList := by
    decide +kernel
  have hreport := report_underlines (w := w) "t" hline (by decide +kernel) (by decide +kernel)
  rw [marked_of_charSlice? hline (by decide +kernel) hchars] at hreport
  exact ⟨hmem, by decide, by decide +kernel, hchars, flatMap_marked hchars, hreport⟩

end Lint

end MessageTemplate
