/-!
# Byte spans of UTF-8 text

Text is read as a list of characters, and positions in it are byte offsets of its UTF-8 form.

* `byteLength`: the number of bytes of a list of characters.
* `Span`: a half-open range of byte offsets.
* `Span.slice?`: the characters inside a span; defined exactly when both ends fall between two
  characters and are in order.
-/

namespace MessageTemplate

/-- The number of bytes of the UTF-8 form. -/
def byteLength : List Char → Nat
  | [] => 0
  | c :: cs => c.utf8Size + byteLength cs

@[simp] theorem byteLength_nil : byteLength [] = 0 := rfl

@[simp] theorem byteLength_cons (c : Char) (cs : List Char) :
    byteLength (c :: cs) = c.utf8Size + byteLength cs := rfl

@[simp] theorem byteLength_append (xs ys : List Char) :
    byteLength (xs ++ ys) = byteLength xs + byteLength ys := by
  induction xs with
  | nil => simp
  | cons c cs ih => simp [ih, Nat.add_assoc]

/-- The byte range from `start` up to, and not including, `stop`. -/
structure Span where
  start : Nat
  stop : Nat
deriving DecidableEq, Repr, Inhabited

/-- The characters after the first `n` bytes, if `n` is a character boundary. -/
def dropBytes? : Nat → List Char → Option (List Char)
  | 0, cs => some cs
  | _ + 1, [] => none
  | n + 1, c :: cs => if c.utf8Size ≤ n + 1 then dropBytes? (n + 1 - c.utf8Size) cs else none
termination_by _ cs => cs.length

/-- The characters of the first `n` bytes, if `n` is a character boundary. -/
def takeBytes? : Nat → List Char → Option (List Char)
  | 0, _ => some []
  | _ + 1, [] => none
  | n + 1, c :: cs =>
    if c.utf8Size ≤ n + 1 then (takeBytes? (n + 1 - c.utf8Size) cs).map (c :: ·) else none
termination_by _ cs => cs.length

namespace Span

/-- The span of the given number of bytes from `start` on. -/
def ofLength (start length : Nat) : Span := ⟨start, start + length⟩

/-- The span of the text `cs` that begins at `start`. -/
def ofText (start : Nat) (cs : List Char) : Span := ofLength start (byteLength cs)

/-- The span moved `n` bytes to the right. -/
def shift (n : Nat) (s : Span) : Span := ⟨s.start + n, s.stop + n⟩

/-- The smallest span that begins where `s` does and ends where `t` does. -/
def upTo (s t : Span) : Span := ⟨s.start, t.stop⟩

/-- The characters of `cs` inside the span. -/
def slice? (s : Span) (cs : List Char) : Option (List Char) :=
  if s.start ≤ s.stop then dropBytes? s.start cs >>= takeBytes? (s.stop - s.start) else none

end Span

end MessageTemplate
