import MessageTemplate.Lint.Check
import MessageTemplate.Lint.SourceLine

/-!
# Source reports

A report shows the lines that a warning is about and underlines the place:

    Warning: malformed placeholder
       ╭─[name:1:5]
       │
     1 │ try {}
       │     ─┬
       │      ╰── '{}' is rendered as text: placeholder is empty
    ───╯

The span is taken as character positions of the template. Of more than two lines the inner ones are
left out. When the span does not lie in the text, the report is its heading.

* `Warning.report`: the report.
* `inlineLabel`, `endLabel`: the rows that hold the message.
-/

namespace MessageTemplate.Lint

/-- A character several times. -/
def repeated (c : Char) (n : Nat) : String := String.ofList (List.replicate n c)

/-- One row of `count` columns below a line. `mark` tells what stands below each character of the
line, and what fills the further columns of a wide one. -/
def drawRow (mark : Nat → Char × Char) : Nat → Nat → List Char → List Char
  | _, 0, _ => []
  | index, count + 1, cs =>
    let (c, tail) := mark index
    let width := match cs with
      | d :: _ => glyphWidth index d
      | [] => 1
    (c :: List.replicate (width - 1) tail).take width ++ drawRow mark (index + 1) count cs.tail

/-- The characters of a line as they are printed, with blanks as spaces. -/
def drawText : Nat → List Char → List Char
  | _, [] => []
  | index, c :: cs =>
    (if isBlank c then List.replicate (glyphWidth index c) ' ' else [c]) ++ drawText (index + 1) cs

/-- The text of a line as it is printed. -/
def lineText (line : SourceLine) : String := String.ofList (drawText 0 line.trimmed)

/-- The columns that a row has beyond its label. -/
def rowMargin : Nat := 2

/-- The part of a row below a line. -/
def rowBelow (line : SourceLine) (count : Nat) (mark : Nat → Char × Char) : String :=
  String.ofList (drawRow mark 0 count line.trimmed)

/-- The margin beside a row that shows no line; `bar` is what it ends with. -/
def blankMargin (width : Nat) (bar : String) : String := repeated ' ' (width + 2) ++ bar ++ " "

/-- The margin beside a line. -/
def lineMargin (width : Nat) (line : SourceLine) : String :=
  " " ++ String.ofList ((decimalDigits line.number).leftpad width ' ') ++ " │ "

/-- The rows of a span inside one line: the line, the underlining, the message. -/
def inlineLabel (width : Nat) (line : SourceLine) (span : Span) (message : String) :
    List String :=
  let count := span.stop - line.start + rowMargin
  let middle := (span.start + span.stop) / 2 - line.start
  let inside (index : Nat) : Bool :=
    span.start ≤ line.start + index && line.start + index < span.stop
  let underline (index : Nat) : Char × Char :=
    if index = middle then (if inside index then ('┬', '─') else ('│', ' '))
    else if inside index then ('─', '─') else (' ', ' ')
  let arrow (index : Nat) : Char × Char :=
    if index = middle then ('╰', '─') else if middle < index then ('─', '─') else (' ', ' ')
  [lineMargin width line ++ lineText line,
    blankMargin width "│" ++ rowBelow line count underline,
    blankMargin width "│" ++ rowBelow line count arrow ++ " " ++ message]

/-- The row of the first line of several. -/
def startLabel (width : Nat) (line : SourceLine) : List String :=
  [lineMargin width line ++ "╭─▶ " ++ lineText line]

/-- The row that stands for the lines that are left out. -/
def ellipsisRow (width : Nat) : String := blankMargin width "┆" ++ "┆   "

/-- The rows of the last line of several, with the message. -/
def endLabel (width : Nat) (line : SourceLine) (message : String) : List String :=
  let count := line.text.length + rowMargin
  [lineMargin width line ++ "├─▶ " ++ lineText line,
    blankMargin width "│" ++ "│   " ++ rowBelow line count fun _ => (' ', ' '),
    blankMargin width "│" ++ "╰───" ++ (rowBelow line count fun _ => ('─', '─')) ++ " " ++ message]

/-- The last position of a span; an empty span has its start. -/
def lastPosition (span : Span) : Nat := max span.start (span.stop - 1)

/-- The rows of a span that begins in `first` and goes on to `last`, a later line; `inner` counts
the lines between. A span that goes past the end of the text has no end to show. -/
def multilineRows (width inner : Nat) (first last : SourceLine) (span : Span)
    (message : String) : List String :=
  let closed := last.contains (lastPosition span)
  startLabel width first ++
    (if 0 < inner || !closed then [ellipsisRow width] else []) ++
    (if closed then endLabel width last message else [])

/-- The rows of the lines from `first` to `last`. -/
def snippetRows (width : Nat) (first last : SourceLine) (span : Span) (message : String) :
    List String :=
  if first.number = last.number then
    if span.stop ≤ first.stop then inlineLabel width first span message
    else [blankMargin width "│"]
  else multilineRows width (last.number - first.number - 1) first last span message

/-- The rows of a report below its heading. -/
def snippet (template name : String) (w : Warning) : List String :=
  let lines := SourceLine.ofText template.toList
  match lineAt? lines w.span.start, lineAt? lines (lastPosition w.span) with
  | some first, some last =>
    let width := digitCount last.number
    let indent := repeated ' ' (width + 2)
    let place := name ++ ":" ++ numberText first.number ++ ":" ++
      numberText (w.span.start - first.start + 1)
    [indent ++ "╭─[" ++ place ++ "]", indent ++ "│"] ++
      snippetRows width first last w.span w.message ++ [repeated '─' (width + 2) ++ "╯"]
  | _, _ => []

/-- The first row of a report. -/
def Warning.heading (w : Warning) : String := "Warning: " ++ w.category.name ++ " placeholder"

/-- The report of a warning about a template that goes by the given name. -/
def Warning.report (w : Warning) (template name : String) : String :=
  String.join ((w.heading :: snippet template name w).map (· ++ "\n"))

end MessageTemplate.Lint
