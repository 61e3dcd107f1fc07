import MessageTemplate.Number.Digits
import MessageTemplate.Text.Cursor

/-!
# TOML strings and blanks

A reader gives what it has read and the place after it, or the place where the document goes wrong.

* `Toml.Fault`: the place of an error. An error is tentative when an array may still close in front
  of the item.
* `Toml.skipBlanks`, `Toml.skipTrivia`, `Toml.readLineEnd`: what stands between values.
* `Toml.readString`: the four kinds of strings.
-/

namespace MessageTemplate.Toml

/-- The place where a document goes wrong. -/
structure Fault where
  offset : Nat
  tentative : Bool := false
deriving DecidableEq, Repr

/-- The same error where nothing else can be meant. -/
def Fault.settled (e : Fault) : Fault := ⟨e.offset, false⟩

/-- The error at a place. -/
def fault {α : Type} (cur : Cursor) : Except Fault α := .error ⟨cur.offset, false⟩

/-- The error of something that is no value at all. -/
def noValue {α : Type} (cur : Cursor) : Except Fault α := .error ⟨cur.offset, true⟩

/-! ## Blanks, comments and ends of lines -/

/-- Blanks inside a line. -/
def isBlankChar (c : Char) : Bool := c == ' ' || c == '\t'

/-- Characters of comments: all but control characters, and tabs. -/
def isCommentChar (c : Char) : Bool := c == '\t' || (0x20 ≤ c.toNat && c.toNat != 0x7F)

/-- Skips blanks. -/
def skipBlanks (cur : Cursor) : Cursor := cur.skipWhile isBlankChar

/-- The place after an end of line, if there is one. -/
def newline? (cur : Cursor) : Option Cursor :=
  match cur.rest with
  | '\n' :: _ => some cur.next
  | '\r' :: '\n' :: _ => some (cur.skip 2)
  | _ => none

/-- Skips a comment, if there is one. -/
def skipComment (cur : Cursor) : Cursor :=
  if cur.peek? = some '#' then cur.skipWhile isCommentChar else cur

/-- Reads the end of a line or of the document. -/
def readNewline (cur : Cursor) : Except Fault Cursor :=
  match newline? cur with
  | some cur => .ok cur
  | none => if cur.rest.isEmpty then .ok cur else fault cur

/-- Reads what may stand behind a value or a header on its line. -/
def readLineEnd (cur : Cursor) : Except Fault Cursor := readNewline (skipComment (skipBlanks cur))

/-- Skips blanks, lines and comments with their ends, in at most so many steps. -/
def skipTriviaFrom : Nat → Cursor → Except Fault Cursor
  | 0, cur => .ok cur
  | steps + 1, cur =>
    let cur := skipBlanks cur
    match cur.peek? with
    | some '#' =>
      match newline? (skipComment cur) with
      | some cur => skipTriviaFrom steps cur
      | none => fault (skipComment cur)
    | some '\n' => skipTriviaFrom steps cur.next
    | some '\r' =>
      match newline? cur with
      | some cur => skipTriviaFrom steps cur
      | none => fault cur.next
    | _ => .ok cur

/-- Skips blanks, lines and comments with their ends. -/
def skipTrivia (cur : Cursor) : Except Fault Cursor := skipTriviaFrom (cur.rest.length + 1) cur

/-! ## Strings -/

/-- Characters that stand for themselves in a string with escapes. -/
def isBasicChar (c : Char) : Bool :=
  c == '\t' || (0x20 ≤ c.toNat && c.toNat != 0x7F && c != '"' && c != '\\')

/-- Characters of a string without escapes. -/
def isLiteralChar (c : Char) : Bool :=
  c == '\t' || (0x20 ≤ c.toNat && c.toNat != 0x7F && c != '\'')

/-- Reads a character given by `count` hexadecimal digits. -/
def readCode (count : Nat) (cur : Cursor) : Except Fault (Char × Cursor) :=
  match (cur.rest.take count).mapM hexValue? with
  | none => fault cur
  | some ds =>
    let code := ds.foldl (16 * · + ·) 0
    if ds.length = count && code.isValidChar then .ok (Char.ofNat code, cur.skip count)
    else fault cur

/-- Reads an escape at its backslash. An unknown one is blamed behind its character, if that is an
ASCII one. -/
def readEscape (cur : Cursor) : Except Fault (Char × Cursor) :=
  match cur.next.peek? with
  | none => fault cur
  | some 'b' => .ok ('\x08', cur.skip 2)
  | some 't' => .ok ('\t', cur.skip 2)
  | some 'n' => .ok ('\n', cur.skip 2)
  | some 'f' => .ok ('\x0c', cur.skip 2)
  | some 'r' => .ok ('\r', cur.skip 2)
  | some '"' => .ok ('"', cur.skip 2)
  | some '\\' => .ok ('\\', cur.skip 2)
  | some 'u' => readCode 4 (cur.skip 2)
  | some 'U' => readCode 8 (cur.skip 2)
  | some c => if c.toNat < 128 then fault (cur.skip 2) else fault cur.next

/-- Reads a string on one line after its opening quote; each step takes at least one character. -/
def readBasic : Nat → Cursor → Except Fault (List Char × Cursor)
  | 0, cur => fault cur
  | steps + 1, cur =>
    match cur.peek? with
    | some '"' => .ok ([], cur.next)
    | some '\\' => do
      let (c, cur) ← readEscape cur
      let (cs, cur) ← readBasic steps cur
      .ok (c :: cs, cur)
    | some c =>
      if isBasicChar c then do
        let (cs, cur) ← readBasic steps cur.next
        .ok (c :: cs, cur)
      else fault cur
    | none => fault cur

/-- Reads a string without escapes on one line after its opening quote. -/
def readLiteral (cur : Cursor) : Except Fault (List Char × Cursor) :=
  let after := cur.skipWhile isLiteralChar
  if after.peek? = some '\'' then .ok (cur.takeWhile isLiteralChar, after.next) else fault after

/-- How many of a run of quotes belong to the text, when three of them close it. -/
def quotesInside (run : Nat) : Nat := min (run - 3) 2

/-- The place after a backslash at the end of a line and all blanks and line ends behind it. -/
def lineContinuation? (cur : Cursor) : Option Cursor := do
  let cur ← newline? (skipBlanks cur.next)
  some (skipLines (cur.rest.length + 1) cur)
where
  skipLines : Nat → Cursor → Cursor
    | 0, cur => cur
    | steps + 1, cur =>
      match newline? (skipBlanks cur) with
      | some cur => skipLines steps cur
      | none => skipBlanks cur

/-- Reads a string of several lines after its opening quotes. -/
def readMultiBasic : Nat → Cursor → Except Fault (List Char × Cursor)
  | 0, cur => fault cur
  | steps + 1, cur =>
    match cur.peek? with
    | none => fault cur
    | some '"' =>
      let run := (cur.takeWhile (· == '"')).length
      let inside := List.replicate (quotesInside run) '"'
      if 3 ≤ run then .ok (inside, cur.skip (inside.length + 3))
      else if (cur.skip run).rest.isEmpty then fault cur
      else do
        let (cs, cur) ← readMultiBasic steps (cur.skip run)
        .ok (List.replicate run '"' ++ cs, cur)
    | some '\\' =>
      match lineContinuation? cur with
      | some cur => readMultiBasic steps cur
      | none => do
        let (c, cur) ← readEscape cur
        let (cs, cur) ← readMultiBasic steps cur
        .ok (c :: cs, cur)
    | some c =>
      match newline? cur with
      | some cur => do
        let (cs, cur) ← readMultiBasic steps cur
        .ok ('\n' :: cs, cur)
      | none =>
        if isBasicChar c then do
          let (cs, cur) ← readMultiBasic steps cur.next
          .ok (c :: cs, cur)
        else fault cur

/-- Whether text without escapes on several lines goes on: with a character or an end of line. -/
def continuesLiteral (cur : Cursor) : Bool :=
  (cur.peek?.any isLiteralChar) || (newline? cur).isSome

/-- Reads a string without escapes on several lines after its opening quotes. -/
def readMultiLiteral : Nat → Cursor → Except Fault (List Char × Cursor)
  | 0, cur => fault cur
  | steps + 1, cur =>
    match cur.peek? with
    | none => fault cur
    | some '\'' =>
      let run := (cur.takeWhile (· == '\'')).length
      let inside := List.replicate (quotesInside run) '\''
      if 3 ≤ run then .ok (inside, cur.skip (inside.length + 3))
      else if !continuesLiteral (cur.skip run) then fault cur
      else do
        let (cs, cur) ← readMultiLiteral steps (cur.skip run)
        .ok (List.replicate run '\'' ++ cs, cur)
    | some c =>
      match newline? cur with
      | some cur => do
        let (cs, cur) ← readMultiLiteral steps cur
        .ok ('\n' :: cs, cur)
      | none =>
        if isLiteralChar c then do
          let (cs, cur) ← readMultiLiteral steps cur.next
          .ok (c :: cs, cur)
        else fault cur

/-- The place after an end of line, or the same place when there is none. -/
def skipNewline (cur : Cursor) : Cursor := (newline? cur).getD cur

/-- Reads a string of one line at its opening quote. -/
def readLineString (cur : Cursor) : Except Fault (String × Cursor) := do
  let (cs, cur) ←
    if cur.peek? = some '"' then readBasic (cur.rest.length + 1) cur.next
    else readLiteral cur.next
  .ok (String.ofList cs, cur)

/-- Reads a string of any kind at its opening quote. -/
def readString (cur : Cursor) : Except Fault (String × Cursor) :=
  if cur.startsWith ['"', '"', '"'] then do
    let (cs, cur) ← readMultiBasic (cur.rest.length + 1) (skipNewline (cur.skip 3))
    .ok (String.ofList cs, cur)
  else if cur.startsWith ['\'', '\'', '\''] then do
    let (cs, cur) ← readMultiLiteral (cur.rest.length + 1) (skipNewline (cur.skip 3))
    .ok (String.ofList cs, cur)
  else readLineString cur

end MessageTemplate.Toml
