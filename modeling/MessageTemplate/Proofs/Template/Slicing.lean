import MessageTemplate.Lint.Check
import MessageTemplate.Proofs.Template.BodyMarks
import MessageTemplate.Proofs.Template.LongestMatch
import MessageTemplate.Proofs.Template.Lossless

/-!
# Slices never cut a character

Text is sliced by byte offsets: segments out of a template, bodies out of candidates, fields out of
bodies, names out of declarations, and rejected candidates out of the template again. A slice that
begins after its end, ends after the text or cuts a character in two is an error.

* `Cuts.slices`: the spans of a run of segments.
* `Piece.slices_body`: what stands between the braces of a candidate.
* `Body.mark_cuts`: the fields of a body.
* `Hole.slices_name`: the name behind a modifier.
* `Literal.slices_text`: a rejected candidate, which a warning quotes.
* `slicing_safe`: none of these slices is an error, whatever the template, the body and the hole.
-/

namespace MessageTemplate

/-- The spans of segments that are cut off `cs` slice their texts out of a text that ends with
`cs`. -/
theorem Cuts.slices {start : Nat} {cs : List Char} {pieces : List Piece}
    (h : Cuts start cs pieces) (pre : List Char) (hpre : byteLength pre = start) :
    ∀ p ∈ pieces, p.span.Slices (String.ofList (pre ++ cs)) (String.ofList p.text) := by
  induction h generalizing pre with
  | nil => nofun
  | @cons start s raw rest pieces hcut hrest ih =>
    refine List.forall_mem_cons.2 ⟨?_, ?_⟩
    · exact Span.slices_of_append pre raw rest rfl hpre.symm (by simp [hpre])
    · have htail := ih (pre ++ raw) (by rw [byteLength_append, hpre])
      rwa [List.append_assoc] at htail

/-- The braces of a candidate take one byte each, and the body lies between them. -/
theorem Piece.slices_body {p : Piece} {body : List Char} (h : p.text = '{' :: (body ++ ['}'])) :
    (Span.mk 1 (byteLength p.text - 1)).Slices (String.ofList p.text) (String.ofList p.body) := by
  have hopen : '{'.utf8Size = 1 := rfl
  have hclose : '}'.utf8Size = 1 := rfl
  have hbody : p.body = body := by simp [Piece.body, h]
  rw [hbody]
  refine Span.slices_of_append ['{'] body ['}'] h (by simp [hopen]) ?_
  simp only [h, byteLength_append, byteLength_cons, byteLength_nil, hopen, hclose]
  omega

/-- The marks of a body are those of a body that is read, and slice its fields out. -/
theorem Body.mark_cuts (body : String) :
    (∃ r, mark body = .error r ∧ parse body = .error r) ∨
    ∃ m fields, mark body = .ok m ∧ parse body = .ok fields ∧ m.Cuts body fields := by
  rcases markChars_parts body.toList with hrejected | ⟨p, hwrite, hmark, hparse⟩
  · exact .inl hrejected
  · have hcuts := p.cuts_marks
    rw [hwrite, String.ofList_toList] at hcuts
    exact .inr ⟨_, _, hmark, hparse, hcuts⟩

/-- A modifier takes one byte, and the name lies behind it. -/
theorem Hole.slices_name {hole : Hole} (h : hole.modifier? ≠ none) :
    (Span.mk 1 hole.symbol.utf8ByteSize).Slices hole.symbol hole.name := by
  obtain ⟨modifier, hmodifier⟩ := Option.ne_none_iff_exists'.1 h
  obtain ⟨c, name, hsymbol, hc⟩ : ∃ c name, hole.symbol.toList = c :: name ∧ c.utf8Size = 1 := by
    cases hsymbol : hole.symbol.toList with
    | nil => simp [Hole.modifier?, hsymbol] at hmodifier
    | cons c name =>
      refine ⟨c, name, rfl, ?_⟩
      have hmark : c = Body.stringifyMark ∨ c = Body.spreadMark := by
        by_contra hne
        simp_all [Hole.modifier?]
      rcases hmark with rfl | rfl <;> rfl
  have hname : hole.name = String.ofList name := by simp [Hole.name, hmodifier, hsymbol]
  have hsize : hole.symbol.utf8ByteSize = byteLength (c :: name) := by
    rw [← byteLength_toList, hsymbol]
  have hslices : (Span.mk 1 hole.symbol.utf8ByteSize).Slices (String.ofList (c :: name))
      (String.ofList name) := Span.slices_of_append [c] name [] (by simp) (by simp [hc]) hsize
  rwa [← hsymbol, String.ofList_toList, ← hname] at hslices

/-- A rejected candidate is sliced out of its template as it stands. -/
theorem Literal.slices_text {template : String} {l : Literal}
    (hmem : .literal l ∈ tokenize template) (h : l.malformed ≠ none) :
    l.span.Slices template l.text := by
  obtain ⟨before, after, htokens⟩ := List.append_of_mem hmem
  obtain ⟨raw, hslice, hdenotes⟩ := (covers_tokenize template).denotes [] rfl htokens
  obtain ⟨r, hr⟩ := Option.ne_none_iff_exists'.1 h
  obtain ⟨span, text, malformed⟩ := l
  obtain rfl : malformed = some r := hr
  have htext : text.toList = raw := hdenotes
  exact Span.slices_iff.2 (htext ▸ hslice)

/-- The slices of a template and of its candidates. -/
structure SlicedSafely (template : String) : Prop where
  /-- Each segment is sliced out of the template. -/
  segment : ∀ p ∈ Piece.scan template, p.span.Slices template (String.ofList p.text)
  /-- The body of a candidate is sliced out between its first byte and its last. -/
  body : ∀ p ∈ Piece.scan template, p.segment = .candidate →
    (Span.mk 1 (byteLength p.text - 1)).Slices (String.ofList p.text) (String.ofList p.body)
  /-- A rejected candidate is sliced out of the template again, for the warning to quote it. -/
  malformed : ∀ l, .literal l ∈ tokenize template → l.malformed ≠ none →
    l.span.Slices template l.text ∧ Lint.excerpt template l.span = l.text

theorem slicedSafely (template : String) : SlicedSafely template := by
  have hcuts : Cuts 0 template.toList (Piece.scan template) := cuts_scanFrom 0 template.toList
  refine ⟨?_, ?_, ?_⟩
  · intro p hp
    have hslices := hcuts.slices [] rfl p hp
    rwa [List.nil_append, String.ofList_toList] at hslices
  · intro p hp hsegment
    obtain ⟨before, after, hpieces⟩ := List.append_of_mem hp
    obtain ⟨rest, hcut, -, -⟩ := hcuts.at_piece hpieces
    obtain ⟨body, htext, -⟩ := hcut.closed hsegment
    exact Piece.slices_body htext
  · intro l hmem hmalformed
    have hslices := Literal.slices_text hmem hmalformed
    exact ⟨hslices, by simp [Lint.excerpt, hslices.slice]⟩

/-- **No slice cuts a character.** Every slice that is taken of a template, of a hole body and of a
declaration with a modifier ends no sooner than it begins and no later than the text, and does both
between two characters. The fields of a body are sliced out at the marks of the cursor, and the cursor
rejects the bodies that are rejected, for the same reasons. -/
theorem slicing_safe (template body : String) (hole : Hole) :
    SlicedSafely template ∧
    ((∃ r, Body.mark body = .error r ∧ Body.parse body = .error r) ∨
      ∃ m fields, Body.mark body = .ok m ∧ Body.parse body = .ok fields ∧ m.Cuts body fields) ∧
    (hole.modifier? ≠ none →
      (Span.mk 1 hole.symbol.utf8ByteSize).Slices hole.symbol hole.name) :=
  ⟨slicedSafely template, Body.mark_cuts body, Hole.slices_name⟩

/-- Letters of two bytes on either side of each cut, and a candidate that is rejected for a space. -/
theorem slicing_safe_umlauts :
    let template := "é\x7b@größe:ö\x7d\x7bü ü\x7d"
    (Span.mk 2 15).Slices template "\x7b@größe:ö\x7d" ∧
    (Span.mk 15 22).Slices template "\x7bü ü\x7d" ∧
    (∃ m, Body.mark "@größe:ö" = .ok m ∧ m.Cuts "@größe:ö" ⟨"@größe", "", "ö"⟩) ∧
    (Span.mk 1 8).Slices "@größe" "größe" := by
  intro template
  let hole : Hole := ⟨⟨2, 15⟩, 0, "\x7b@größe:ö\x7d", "@größe", "", "ö"⟩
  obtain ⟨hsliced, hbody, hname⟩ := slicing_safe template "@größe:ö" hole
  have hpiece : (Span.mk 2 15, "\x7b@größe:ö\x7d".toList) ∈
      (Piece.scan template).map fun p => (p.span, p.text) := by decide +kernel
  have hliteral : Token.literal ⟨⟨15, 22⟩, "\x7bü ü\x7d", some ⟨.invalidName ' ', ⟨18, 19⟩⟩⟩ ∈
      tokenize template := by decide +kernel
  have hparse : (Body.parse "@größe:ö").toOption = some ⟨"@größe", "", "ö"⟩ := by decide +kernel
  have hsize : hole.symbol.utf8ByteSize = 8 := by decide +kernel
  have hstem : hole.name = "größe" := by decide +kernel
  refine ⟨?_, (hsliced.malformed _ hliteral nofun).1, ?_, ?_⟩
  · obtain ⟨p, hp, heq⟩ := List.mem_map.1 hpiece
    obtain ⟨hspan, htext⟩ := Prod.mk.inj heq
    have hslices := hsliced.segment p hp
    rwa [hspan, htext, String.ofList_toList] at hslices
  · rcases hbody with ⟨r, -, hr⟩ | ⟨m, fields, hm, hfields, hcuts⟩
    · rw [hr] at hparse
      cases hparse
    · rw [hfields] at hparse
      cases hparse
      exact ⟨m, hm, hcuts⟩
  · have hslices := hname (by decide +kernel)
    rwa [hsize, hstem] at hslices

end MessageTemplate
