import MessageTemplate.Toml.Number

/-!
# Reading TOML documents

* `Toml.readValue`: a value; arrays and inline tables may be nested up to a limit.
* `Toml.readDocument`: the entries of a document, line by line.
* `Toml.read`: the same from text; an error has a line and a column.
-/

namespace MessageTemplate.Toml

/-! ## Keys -/

/-- Characters of keys without quotes. -/
def isKeyChar (c : Char) : Bool := c.isAlphanum || c == '_' || c == '-'

/-- Reads one part of a key. -/
def readKeyPart (cur : Cursor) : Except Fault (Key × Cursor) :=
  match cur.peek? with
  | some '"' | some '\'' => do
    let (name, after) ← readLineString cur
    .ok (⟨name, cur.offset⟩, after)
  | _ =>
    let name := cur.takeWhile isKeyChar
    if name.isEmpty then noValue cur
    else .ok (⟨String.ofList name, cur.offset⟩, cur.skipWhile isKeyChar)

/-- Reads further parts of a key, each behind a dot. A dot without a part is left alone. -/
def readKeyParts : Nat → Cursor → Except Fault (List Key × Cursor)
  | 0, cur => .ok ([], cur)
  | steps + 1, cur =>
    if cur.peek? = some '.' then
      match readKeyPart (skipBlanks cur.next) with
      | .error e => if e.tentative then .ok ([], cur) else .error e
      | .ok (part, after) => do
        let (parts, after) ← readKeyParts steps (skipBlanks after)
        .ok (part :: parts, after)
    else .ok ([], cur)

/-- How many containers may be open inside one another, and how many parts a key may have. -/
def maxDepth : Nat := 79

/-- Reads a key and the blanks around it; the result is the path and the last part. -/
def readKey (cur : Cursor) : Except Fault (List Key × Key × Cursor) := do
  let (part, after) ← readKeyPart (skipBlanks cur)
  let (parts, after) ← readKeyParts (cur.rest.length + 1) (skipBlanks after)
  let keys := part :: parts
  if maxDepth < keys.length then noValue cur
  else .ok (keys.dropLast, keys.getLast?.getD part, after)

/-! ## Values -/

/-- Reads a word that stands for a value. -/
def readWord (word : List Char) (item : Item) (cur : Cursor) : Except Fault (Item × Cursor) :=
  if cur.startsWith word then .ok (item, cur.skip word.length) else noValue cur

/-- Reads an item of an array and what follows it up to a comma or the end. If it is no item, the
array should have ended there. -/
def readItem (value : Cursor → Except Fault (Item × Cursor)) (cur : Cursor) :
    Except Fault (Item × Cursor) :=
  match value cur with
  | .error e => if e.tentative then fault cur else .error e
  | .ok (item, after) =>
    match skipTrivia after with
    | .error _ => fault cur
    | .ok after => .ok (item, after)

/-- Reads the items of an array up to its end. -/
def readItems (value : Cursor → Except Fault (Item × Cursor)) :
    Nat → Cursor → Except Fault (List Item × Cursor)
  | 0, cur => fault cur
  | steps + 1, cur => do
    let cur ← skipTrivia cur
    if cur.peek? = some ']' then .ok ([], cur.next)
    else
      let (item, cur) ← readItem value cur
      match cur.peek? with
      | some ',' => do
        let (items, cur) ← readItems value steps cur.next
        .ok (item :: items, cur)
      | some ']' => .ok ([item], cur.next)
      | _ => fault cur

/-- A value with its key, as it stands in an inline table. -/
structure Pair where
  path : List Key
  key : Key
  start : Nat
  item : Item

/-- Reads the equals sign and the value of a pair. -/
def readPair (value : Cursor → Except Fault (Item × Cursor)) (path : List Key) (key : Key)
    (cur : Cursor) : Except Fault (Pair × Cursor) := do
  let cur ← readMark '=' cur
  let cur := skipBlanks cur
  let (item, after) ← (value cur).mapError Fault.settled
  .ok (⟨path, key, cur.offset, item⟩, after)

/-- Reads the pairs of an inline table up to its end. A comma at the end is blamed. -/
def readPairs (value : Cursor → Except Fault (Item × Cursor)) :
    Nat → Cursor → Cursor → Except Fault (List Pair × Cursor)
  | 0, _, cur => fault cur
  | steps + 1, blame, cur =>
    match readKey cur with
    | .error e =>
      if !e.tentative then .error e
      else
        let stop := skipBlanks blame
        if stop.peek? = some '\x7d' then .ok ([], stop.next) else fault stop
    | .ok (path, key, cur) => do
      let (pair, cur) ← readPair value path key cur
      let cur := skipBlanks cur
      match cur.peek? with
      | some ',' => do
        let (pairs, cur) ← readPairs value steps cur cur.next
        .ok (pair :: pairs, cur)
      | some '\x7d' => .ok ([pair], cur.next)
      | _ => fault cur

/-- The table of some pairs, unless a name comes twice. -/
def tableOfPairs : List Pair → Entries → Option Entries
  | [], entries => some entries
  | p :: ps, entries => do
    tableOfPairs ps (← entries.setValue p.path p.key p.start p.item .inline)

/-- Reads a value; at most `depth` containers may be open inside one another. -/
def readValue : Nat → Cursor → Except Fault (Item × Cursor)
  | depth, cur =>
    match cur.peek? with
    | some '"' | some '\'' => do
      let (s, after) ← readString cur
      .ok (.string s, after)
    | some '[' =>
      match depth with
      | 0 => fault cur.next
      | depth + 1 => do
        let (items, after) ← readItems (readValue depth) (cur.rest.length + 1) cur.next
        .ok (.array items, after)
    | some '{' =>
      match depth with
      | 0 => fault cur.next
      | depth + 1 => do
        let (pairs, after) ← readPairs (readValue depth) (cur.rest.length + 1) cur.next cur.next
        match tableOfPairs pairs [] with
        | some entries => .ok (.table .inline entries, after)
        | none => fault cur.next
    | some 't' => readWord ['t', 'r', 'u', 'e'] (.boolean true) cur
    | some 'f' => readWord ['f', 'a', 'l', 's', 'e'] (.boolean false) cur
    | some 'i' => readWord ['i', 'n', 'f'] (.float (.infinite false)) cur
    | some 'n' => readWord ['n', 'a', 'n'] (.float .nan) cur
    | some c =>
      if c = '+' || c = '-' || c.isDigit then (readDateTime? cur).getD (readNumber cur)
      else noValue cur
    | none => noValue cur

/-! ## Documents -/

/-- A document so far: its entries, and the table that lines are added to. -/
structure Document where
  entries : Entries
  current : List Key

/-- Adds a pair to the current table. -/
def Document.addPair (d : Document) (p : Pair) : Option Document :=
  (Entries.descend false (Entries.setValue p.path p.key p.start p.item) d.current .header
    d.entries).map fun entries => { d with entries }

/-- Reads a key, its value and the rest of the line. -/
def readPairLine (d : Document) (cur : Cursor) : Except Fault (Document × Cursor) := do
  let (path, key, after) ← readKey cur
  let (pair, after) ← readPair (readValue maxDepth) path key after
  let after ← readLineEnd after
  match d.addPair pair with
  | some d => .ok (d, after)
  | none => fault cur

/-- Reads the key of a header, its closing brackets and the rest of the line. -/
def readHeaderRest (closing : List Char) (cur : Cursor) :
    Except Fault (List Key × Key × Cursor) := do
  let (path, key, cur) ← readKey cur
  if cur.startsWith closing then do
    let cur ← readLineEnd (cur.skip closing.length)
    .ok (path, key, cur)
  else fault cur

/-- Reads a header at its first bracket. -/
def readHeader (d : Document) (cur : Cursor) : Except Fault (Document × Cursor) := do
  let isElement := cur.startsWith ['[', '[']
  let (path, key, after) ←
    if isElement then readHeaderRest [']', ']'] (cur.skip 2)
    else if cur.next.rest.isEmpty then fault cur
    else readHeaderRest [']'] cur.next
  let entries? :=
    if isElement then d.entries.openElement path key cur.offset
    else d.entries.openTable path key cur.offset
  match entries? with
  | some entries => .ok (⟨entries, path ++ [key]⟩, after)
  | none => fault cur

/-- Reads the lines of a document; each step reads at least one character. -/
def readLines : Nat → Document → Cursor → Except Fault Document
  | 0, _, cur => fault cur
  | steps + 1, d, cur =>
    let cur := skipBlanks cur
    match cur.peek? with
    | none => .ok d
    | some '#' => do readLines steps d (← readNewline (skipComment cur))
    | some '\n' | some '\r' => do readLines steps d (← readNewline cur)
    | some '[' => do
      let (d, cur) ← readHeader d cur
      readLines steps d cur
    | some _ => do
      let (d, cur) ← readPairLine d cur
      readLines steps d cur

/-- Skips a byte order mark. -/
def skipByteOrderMark (cur : Cursor) : Cursor :=
  if cur.peek? = some '\ufeff' then cur.next else cur

/-- The entries of a document, or the place where it goes wrong. -/
def readDocument (text : String) : Except Fault Entries :=
  let cur := skipByteOrderMark (.ofString text)
  (readLines (cur.rest.length + 1) ⟨[], []⟩ cur).map Document.entries

/-! ## Errors -/

/-- The line and the column of an error, from one. -/
structure Error where
  line : Nat
  column : Nat
deriving DecidableEq, Repr

/-- The error in words. -/
def Error.message (e : Error) : String :=
  "TOML parse error at line " ++ String.ofList (decimalDigits e.line) ++ ", column " ++
    String.ofList (decimalDigits e.column)

/-- The line breaks before a byte offset, and the characters of its line up to it. -/
def textBefore (offset : Nat) : List Char → Nat × List Char
  | [] => (0, [])
  | c :: cs =>
    if offset < c.utf8Size then (0, [])
    else
      let (breaks, column) := textBefore (offset - c.utf8Size) cs
      if c = '\n' then (breaks + 1, column)
      else if breaks = 0 then (0, c :: column)
      else (breaks, column)

/-- The place of a byte offset. Columns count characters, but bytes when a character of several
bytes begins there. The end of a text comes right after its last character, also when that ends a
line. -/
def Error.ofOffset (text : List Char) (offset : Nat) : Error :=
  let size := byteLength text
  if text.isEmpty then ⟨1, offset + 1⟩
  else if size ≤ offset then
    let last := text.getLast?.getD ' '
    let (breaks, before) := textBefore (size - last.utf8Size) text
    ⟨breaks + 1, before.length + 1 + (offset - size) + 1⟩
  else
    let (breaks, before) := textBefore offset text
    let next := (dropBytes? offset text).bind List.head?
    let column := if next.any (1 < ·.utf8Size) then byteLength before else before.length
    ⟨breaks + 1, column + 1⟩

/-- The entries of a document, or the place of its first error. -/
def read (text : String) : Except Error Entries :=
  (readDocument text).mapError fun e => .ofOffset text.toList e.offset

end MessageTemplate.Toml
