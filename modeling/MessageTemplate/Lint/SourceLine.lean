import MessageTemplate.Text.CodePoints
import MessageTemplate.Text.Columns

/-!
# Lines of source text

Positions are counted in characters here.

* `splitLines`: the lines of a text, each with what ends it. They make up the text.
* `SourceLine.ofText`: the lines with their numbers and places.
* `lineAt?`: the line that a position belongs to; the end of the text belongs to the last line.
* `glyphWidth`: the columns of a character on the screen, a tab going to the next tab stop.
-/

namespace MessageTemplate.Lint

/-- Characters that end a line. -/
def isLineBreak (c : Char) : Bool :=
  (0x0A ≤ c.toNat && c.toNat ≤ 0x0D) || c.toNat == 0x85 || c.toNat == 0x2028 || c.toNat == 0x2029

/-- The lines of a text, each with what ends it. A carriage return and a line feed are one end. -/
def splitLines : List Char → List (List Char)
  | [] => []
  | '\r' :: '\n' :: cs => ['\r', '\n'] :: splitLines cs
  | c :: cs =>
    if isLineBreak c then [c] :: splitLines cs
    else match splitLines cs with
      | [] => [[c]]
      | line :: lines => (c :: line) :: lines

/-- **Nothing is lost.** The lines make up the text. -/
theorem flatten_splitLines (cs : List Char) : (splitLines cs).flatten = cs := by
  fun_induction splitLines cs <;> simp_all

/-- A line of a text: its number, the position of its first character, and its characters with what
ends it. -/
structure SourceLine where
  number : Nat
  start : Nat
  text : List Char
deriving DecidableEq, Repr

namespace SourceLine

/-- The position after the line. -/
def stop (line : SourceLine) : Nat := line.start + line.text.length

/-- Whether a position is inside the line. -/
def contains (line : SourceLine) (position : Nat) : Bool :=
  line.start ≤ position && position < line.stop

/-- The characters without blanks at the end. -/
def trimmed (line : SourceLine) : List Char :=
  (line.text.reverse.dropWhile isBlank).reverse

/-- Lines with their numbers and places, from the given ones on. -/
def enumerate (number start : Nat) : List (List Char) → List SourceLine
  | [] => []
  | text :: texts => ⟨number, start, text⟩ :: enumerate (number + 1) (start + text.length) texts

/-- The lines of a text. -/
def ofText (cs : List Char) : List SourceLine := enumerate 1 0 (splitLines cs)

end SourceLine

/-- The line that a position belongs to. The end of the text belongs to the last line. -/
def lineAt? (lines : List SourceLine) (position : Nat) : Option SourceLine := do
  let line ← (lines.filter fun line => line.start ≤ position).getLast?
  if position ≤ line.stop then some line else none

/-- The distance between tab stops. -/
def tabWidth : Nat := 4

/-- The columns of the character that is the given one of its line. -/
def glyphWidth (index : Nat) (c : Char) : Nat :=
  if c = '\t' then tabWidth - index % tabWidth
  else if isBlank c then 1
  else columns c

end MessageTemplate.Lint
