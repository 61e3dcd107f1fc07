import MessageTemplate.Text.Span

/-!
# Slices of concatenated text

A span names a part of a text by byte offsets. When the text is written as a concatenation, the
offsets that the lengths of its parts give cut it at the joints.

* `slice?_ofText`: the span of the middle part of a text slices out that part, and
  `exists_of_slice?` says that nothing else is sliced out.
* `Span.Slices`: a span that can be sliced out of a string safely. `slices_of_append` gives such
  spans of a concatenation, and `slices_iff` says that `slice?` finds all of them.
* `Span.Tile`: spans that follow one another without gaps. They are all different.
* `byteLength_toList`: the length of a string is the number of its bytes.
-/

namespace MessageTemplate

theorem byteLength_pos {cs : List Char} (h : cs ≠ []) : 0 < byteLength cs := by
  obtain ⟨c, cs, rfl⟩ := List.exists_cons_of_ne_nil h
  have := c.utf8Size_pos
  simp only [byteLength_cons]
  omega

/-- The length of a string in bytes. -/
theorem byteLength_toList (s : String) : byteLength s.toList = s.utf8ByteSize := by
  suffices ∀ cs : List Char, byteLength cs = (String.ofList cs).utf8ByteSize by
    simpa using this s.toList
  intro cs
  induction cs with
  | nil => simp
  | cons c cs ih =>
    rw [byteLength_cons, ih, ← List.singleton_append, String.ofList_append,
      String.utf8ByteSize_append, ← String.singleton_eq_ofList, String.utf8ByteSize_singleton]

theorem utf8ByteSize_ofList (cs : List Char) : (String.ofList cs).utf8ByteSize = byteLength cs := by
  rw [← byteLength_toList, String.toList_ofList]

/-! ## Cutting at a joint -/

theorem dropBytes?_byteLength (xs ys : List Char) :
    dropBytes? (byteLength xs) (xs ++ ys) = some ys := by
  induction xs with
  | nil => simp [dropBytes?]
  | cons c cs ih =>
    have := c.utf8Size_pos
    obtain ⟨n, hn⟩ : ∃ n, c.utf8Size + byteLength cs = n + 1 :=
      ⟨c.utf8Size + byteLength cs - 1, by omega⟩
    rw [byteLength_cons, List.cons_append, hn, dropBytes?, if_pos (by omega), ← hn,
      Nat.add_sub_cancel_left, ih]

theorem takeBytes?_byteLength (xs ys : List Char) :
    takeBytes? (byteLength xs) (xs ++ ys) = some xs := by
  induction xs with
  | nil => simp [takeBytes?]
  | cons c cs ih =>
    have := c.utf8Size_pos
    obtain ⟨n, hn⟩ : ∃ n, c.utf8Size + byteLength cs = n + 1 :=
      ⟨c.utf8Size + byteLength cs - 1, by omega⟩
    rw [byteLength_cons, List.cons_append, hn, takeBytes?, if_pos (by omega), ← hn,
      Nat.add_sub_cancel_left, ih, Option.map_some]

theorem dropBytes?_eq_some {n : Nat} {cs rest : List Char} (h : dropBytes? n cs = some rest) :
    ∃ before, cs = before ++ rest ∧ byteLength before = n := by
  fun_induction dropBytes? n cs with
  | case1 cs =>
    cases h
    exact ⟨[], rfl, rfl⟩
  | case2 => cases h
  | case3 n c cs hle ih =>
    obtain ⟨before, rfl, hlength⟩ := ih h
    refine ⟨c :: before, rfl, ?_⟩
    rw [byteLength_cons]
    omega
  | case4 => cases h

theorem takeBytes?_eq_some {n : Nat} {cs taken : List Char} (h : takeBytes? n cs = some taken) :
    ∃ after, cs = taken ++ after ∧ byteLength taken = n := by
  fun_induction takeBytes? n cs generalizing taken with
  | case1 cs =>
    cases h
    exact ⟨cs, rfl, rfl⟩
  | case2 => cases h
  | case3 n c cs hle ih =>
    obtain ⟨tail, htail, rfl⟩ := Option.map_eq_some_iff.1 h
    obtain ⟨after, rfl, hlength⟩ := ih htail
    refine ⟨after, rfl, ?_⟩
    rw [byteLength_cons]
    omega
  | case4 => cases h

namespace Span

variable {start : Nat} {xs ys : List Char}

@[simp] theorem ofText_start (start : Nat) (cs : List Char) : (ofText start cs).start = start := rfl

@[simp] theorem ofText_stop (start : Nat) (cs : List Char) :
    (ofText start cs).stop = start + byteLength cs := rfl

/-- The span of the middle part of a text holds that part. -/
theorem slice?_ofText (pre mid post : List Char) :
    (ofText (byteLength pre) mid).slice? (pre ++ (mid ++ post)) = some mid := by
  unfold slice?
  rw [if_pos (by simp), ofText_start, dropBytes?_byteLength, ofText_stop, Nat.add_sub_cancel_left]
  exact takeBytes?_byteLength mid post

/-- What is sliced out of a text is a part of it, and the span is the one of that part. -/
theorem exists_of_slice? {s : Span} {cs mid : List Char} (h : s.slice? cs = some mid) :
    ∃ pre post, cs = pre ++ (mid ++ post) ∧ s = ofText (byteLength pre) mid := by
  unfold slice? at h
  split at h
  next hle =>
    obtain ⟨rest, hrest, hmid⟩ := Option.bind_eq_some_iff.1 h
    obtain ⟨pre, rfl, hpre⟩ := dropBytes?_eq_some hrest
    obtain ⟨post, rfl, hlength⟩ := takeBytes?_eq_some hmid
    refine ⟨pre, post, rfl, ?_⟩
    rw [ofText, ofLength, hlength, hpre, Nat.add_sub_cancel' hle]
  next => cases h

/-- Slicing the span out of the text succeeds and gives `part`: the ends are in order and inside,
and neither of them cuts a character in two. -/
structure Slices (s : Span) (text part : String) : Prop where
  ordered : s.start ≤ s.stop
  inside : s.stop ≤ text.utf8ByteSize
  start : String.Pos.Raw.IsValid text ⟨s.start⟩
  stop : String.Pos.Raw.IsValid text ⟨s.stop⟩
  slice : s.slice? text.toList = some part.toList

/-- A text is cut between two characters where its first part ends. -/
theorem isValid_byteLength (xs ys : List Char) :
    String.Pos.Raw.IsValid (String.ofList (xs ++ ys)) ⟨byteLength xs⟩ := by
  refine String.Pos.Raw.isValid_iff_exists_append.2
    ⟨String.ofList xs, String.ofList ys, String.ofList_append, ?_⟩
  rw [← utf8ByteSize_ofList]
  rfl

/-- What is sliced out of a text is sliced out safely. -/
theorem slices_iff {s : Span} {text part : String} :
    s.Slices text part ↔ s.slice? text.toList = some part.toList := by
  refine ⟨Slices.slice, fun h => ?_⟩
  obtain ⟨pre, post, htext, hspan⟩ := exists_of_slice? h
  have hstart := isValid_byteLength pre (part.toList ++ post)
  have hstop := isValid_byteLength (pre ++ part.toList) post
  rw [List.append_assoc, byteLength_append] at hstop
  rw [← htext, String.ofList_toList] at hstart hstop
  have hstop : String.Pos.Raw.IsValid text ⟨s.stop⟩ := by rwa [hspan]
  exact {
    ordered := by rw [hspan, ofText_start, ofText_stop]; exact Nat.le_add_right _ _
    inside := hstop.le_utf8ByteSize
    start := by rwa [hspan]
    stop := hstop
    slice := h }

/-- The middle part of a text is sliced out of it safely. -/
theorem slices_of_append (pre mid post : List Char) {cs : List Char} {s : Span}
    (hcs : cs = pre ++ (mid ++ post)) (hstart : s.start = byteLength pre)
    (hstop : s.stop = byteLength (pre ++ mid)) :
    s.Slices (String.ofList cs) (String.ofList mid) := by
  obtain ⟨start, stop⟩ := s
  obtain rfl : start = byteLength pre := hstart
  obtain rfl : stop = byteLength (pre ++ mid) := hstop
  rw [slices_iff, String.toList_ofList, String.toList_ofList, hcs, byteLength_append]
  exact slice?_ofText pre mid post

theorem ofText_upTo_ofText :
    (ofText start xs).upTo (ofText (start + byteLength xs) ys) = ofText start (xs ++ ys) := by
  simp [upTo, ofText, ofLength, Nat.add_assoc]

/-- Nonempty spans, the first from `start` on, each beginning where the one before it ends, the
last up to `stop`. -/
def Tile (start stop : Nat) : List Span → Prop
  | [] => start = stop
  | s :: ss => s.start = start ∧ s.start < s.stop ∧ Tile s.stop stop ss

theorem Tile.start_le {start stop : Nat} {spans : List Span} (h : Tile start stop spans) :
    ∀ s ∈ spans, start ≤ s.start := by
  induction spans generalizing start with
  | nil => nofun
  | cons s spans ih =>
    obtain ⟨hstart, hlt, htail⟩ := h
    refine List.forall_mem_cons.2 ⟨Nat.le_of_eq hstart.symm, fun t ht => ?_⟩
    have := ih htail t ht
    omega

/-- Spans that follow one another are all different. -/
theorem Tile.nodup {start stop : Nat} {spans : List Span} (h : Tile start stop spans) :
    spans.Nodup := by
  induction spans generalizing start with
  | nil => exact .nil
  | cons s spans ih =>
    obtain ⟨-, hlt, htail⟩ := h
    refine List.nodup_cons.2 ⟨fun hmem => ?_, ih htail⟩
    have := htail.start_le s hmem
    omega

end Span

end MessageTemplate
