import MessageTemplate.Text.Span

/-!
# Segments of a template

A template is cut into segments before anything is said about its holes. A doubled brace stands for
one brace, a single closing brace is text, and an opening brace starts a hole candidate, which runs
to the next closing brace or, when there is none, to the end.

* `Segment.split`: the segment at the start of nonempty text, and the text after it.
* `split_append`: the two parts make up the text.
* `Piece.scan`: all segments of a text, with their spans.
-/

namespace MessageTemplate

/-- The kinds of segments. -/
inductive Segment where
  /-- A doubled opening brace. -/
  | escapedOpen
  /-- A doubled closing brace. -/
  | escapedClose
  /-- A closing brace without a partner. -/
  | loneClose
  /-- An opening brace up to the next closing brace. -/
  | candidate
  /-- An opening brace with no closing brace after it. -/
  | unterminated
  /-- A run without braces. -/
  | text
deriving DecidableEq, Repr

namespace Segment

/-- The name under which a segment is shown. -/
def name : Segment → String
  | .escapedOpen => "EscapedOpen"
  | .escapedClose => "EscapedClose"
  | .loneClose => "LoneClose"
  | .candidate => "Candidate"
  | .unterminated => "Unterminated"
  | .text => "Text"

/-- Segments that belong to literal text. -/
def isText : Segment → Bool
  | .escapedOpen | .escapedClose | .loneClose | .text => true
  | .candidate | .unterminated => false

/-- The text a segment stands for: one brace for a doubled one, else its own characters. -/
def literal (s : Segment) (cs : List Char) : List Char :=
  match s with
  | .escapedOpen => ['{']
  | .escapedClose | .loneClose => ['}']
  | .candidate | .unterminated | .text => cs

/-- An opening or closing brace. -/
def isBrace (c : Char) : Bool := c == '{' || c == '}'

@[simp] theorem isBrace_open : isBrace '{' = true := rfl

@[simp] theorem isBrace_close : isBrace '}' = true := rfl

theorem isBrace_eq_true {c : Char} : isBrace c = true ↔ c = '{' ∨ c = '}' := by
  simp [isBrace]

theorem isBrace_eq_false {c : Char} : isBrace c = false ↔ c ≠ '{' ∧ c ≠ '}' := by
  simp [isBrace]

/-- The segment that begins with the character `c`, its further characters, and the text after it;
`cs` is what follows `c`. -/
def split (c : Char) (cs : List Char) : Segment × List Char × List Char :=
  if c = '{' then
    match cs with
    | '{' :: rest => (.escapedOpen, ['{'], rest)
    | cs =>
      match cs.dropWhile (· != '}') with
      | _ :: rest => (.candidate, cs.takeWhile (· != '}') ++ ['}'], rest)
      | [] => (.unterminated, cs, [])
  else if c = '}' then
    match cs with
    | '}' :: rest => (.escapedClose, ['}'], rest)
    | rest => (.loneClose, [], rest)
  else (.text, cs.takeWhile (!isBrace ·), cs.dropWhile (!isBrace ·))

private theorem takeWhile_append_of_dropWhile {cs rest : List Char} {d : Char}
    (h : cs.dropWhile (· != '}') = d :: rest) :
    cs.takeWhile (· != '}') ++ '}' :: rest = cs := by
  have hd : d = '}' := by
    have := List.head?_dropWhile_not (· != '}') cs
    rw [h] at this
    simpa using this
  have := List.takeWhile_append_dropWhile (p := (· != '}')) (l := cs)
  rwa [h, hd] at this

/-- **Nothing is lost.** The segment's characters and the text after it make up the text. -/
theorem split_append (c : Char) (cs : List Char) :
    (split c cs).2.1 ++ (split c cs).2.2 = cs := by
  unfold split
  split
  · split
    · simp
    · split
      · next h => simpa using takeWhile_append_of_dropWhile h
      · simp
  · split
    · split <;> simp
    · simp

theorem length_split_rest_le (c : Char) (cs : List Char) :
    (split c cs).2.2.length ≤ cs.length := by
  have := congrArg List.length (split_append c cs)
  simp only [List.length_append] at this
  omega

end Segment

/-- One segment of a template, with the characters it covers and where they lie. -/
structure Piece where
  segment : Segment
  span : Span
  text : List Char
deriving Repr

namespace Piece

/-- The text the piece stands for. -/
def literal (p : Piece) : List Char := p.segment.literal p.text

/-- The pieces of `cs`, the first of which begins at byte `start`. -/
def scanFrom (start : Nat) : List Char → List Piece
  | [] => []
  | c :: cs =>
    let text := c :: (Segment.split c cs).2.1
    ⟨(Segment.split c cs).1, .ofText start text, text⟩ ::
      scanFrom (start + byteLength text) (Segment.split c cs).2.2
termination_by cs => cs.length
decreasing_by
  have := Segment.length_split_rest_le c cs
  simp only [List.length_cons]
  omega

/-- The pieces of a template, in order. -/
def scan (template : String) : List Piece := scanFrom 0 template.toList

end Piece

end MessageTemplate
