import MessageTemplate.Text.Span

/-!
# Reading positions

* `Cursor`: the text that is still to be read and the byte offset at which it begins.
* `Cursor.takeWhile`, `Cursor.skipWhile`: reading a run of characters.
* `linePosition`: the line of a byte offset, and its distance in bytes from the line's start.
-/

namespace MessageTemplate

/-- A place in a text: what follows it and its byte offset. -/
structure Cursor where
  rest : List Char
  offset : Nat
deriving Repr

namespace Cursor

/-- The start of a text. -/
def ofString (s : String) : Cursor := ⟨s.toList, 0⟩

/-- The next character. -/
def peek? (cur : Cursor) : Option Char := cur.rest.head?

/-- The place after the next character; the end stays where it is. -/
def next (cur : Cursor) : Cursor :=
  match cur.rest with
  | [] => cur
  | c :: cs => ⟨cs, cur.offset + c.utf8Size⟩

/-- The place after the next `n` characters. -/
def skip : Nat → Cursor → Cursor
  | 0, cur => cur
  | n + 1, cur => skip n cur.next

/-- The run of characters that satisfy `p`. -/
def takeWhile (p : Char → Bool) (cur : Cursor) : List Char := cur.rest.takeWhile p

/-- The place after the run of characters that satisfy `p`. -/
def skipWhile (p : Char → Bool) (cur : Cursor) : Cursor :=
  ⟨cur.rest.dropWhile p, cur.offset + byteLength (cur.rest.takeWhile p)⟩

/-- Whether the text at the cursor begins with the given characters. -/
def startsWith (cs : List Char) (cur : Cursor) : Bool := cs.isPrefixOf cur.rest

end Cursor

/-- Counts line breaks among the first `offset` bytes; the result is the number of breaks and the
bytes after the last one. -/
def linePosition (offset : Nat) : List Char → Nat × Nat
  | [] => (0, offset)
  | c :: cs =>
    if offset < c.utf8Size then (0, offset)
    else
      let (line, column) := linePosition (offset - c.utf8Size) cs
      if c = '\n' then (line + 1, column)
      else if line = 0 then (0, column + c.utf8Size)
      else (line, column)

end MessageTemplate
