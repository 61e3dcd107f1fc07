import MessageTemplate.Number.Digits
import MessageTemplate.Text.Cursor

/-!
# Descriptions of date formats

A description is text with components in brackets, such as `[year]-[month repr:short]`. A component
has a name and modifiers `key:value`. A backslash keeps a bracket or a backslash as text. The
components `optional` and `first` hold descriptions of their own.

* `Description.Component`: the components with their modifiers.
* `Description.parse`: the items of a description, or the first error.
* `Description.Error.message`: the error in words, with its byte index.
-/

namespace MessageTemplate.Description

/-- What is wrong with a description, and where. -/
inductive Error where
  | unclosedBracket (index : Nat)
  | invalidComponent (name : String) (index : Nat)
  | invalidModifier (value : String) (index : Nat)
  | missingName (index : Nat)
  | missingModifier (name : String) (index : Nat)
  | expected (what : String) (index : Nat)
deriving DecidableEq, Repr

private def atIndex (text : String) (index : Nat) : String :=
  text ++ " at byte index " ++ String.ofList (decimalDigits index)

/-- The error in words. -/
def Error.message : Error → String
  | .unclosedBracket index => atIndex "unclosed opening bracket" index
  | .invalidComponent name index => atIndex ("invalid component name `" ++ name ++ "`") index
  | .invalidModifier value index => atIndex ("invalid modifier `" ++ value ++ "`") index
  | .missingName index => atIndex "missing component name" index
  | .missingModifier name index =>
    atIndex ("missing required modifier `" ++ name ++ "` for component") index
  | .expected what index => atIndex ("expected " ++ what) index

/-- What fills a number up to its width. -/
inductive Padding where
  | space
  | zero
  | none
deriving DecidableEq, Repr

/-- How a month is written. -/
inductive MonthForm where
  | numerical
  | long
  | short
deriving DecidableEq, Repr

/-- How a day of the week is written; the last two are numbers of days from the named one. -/
inductive WeekdayForm where
  | short
  | long
  | sunday
  | monday
deriving DecidableEq, Repr

/-- Which weeks are counted. -/
inductive WeekForm where
  | iso
  | sunday
  | monday
deriving DecidableEq, Repr

/-- Which part of a year is written. -/
inductive YearForm where
  | full
  | century
  | lastTwo
deriving DecidableEq, Repr

/-- A component with its modifiers. -/
inductive Component where
  | day (padding : Padding)
  | finish
  | hour (padding : Padding) (twelve : Bool)
  | ignore (count : Nat)
  | minute (padding : Padding)
  | month (padding : Padding) (form : MonthForm)
  | offsetHour (padding : Padding) (signed : Bool)
  | offsetMinute (padding : Padding)
  | offsetSecond (padding : Padding)
  | ordinal (padding : Padding)
  | period (upper : Bool)
  | second (padding : Padding)
  | subsecond (digits : Option Nat)
  | unixTimestamp (digits : Nat) (signed : Bool)
  | weekday (form : WeekdayForm) (fromOne : Bool)
  | weekNumber (padding : Padding) (form : WeekForm)
  | year (padding : Padding) (form : YearForm) (isoWeek : Bool) (signed : Bool)
deriving DecidableEq, Repr

/-- One part of a description. -/
inductive Item where
  | literal (text : List Char)
  | component (c : Component)
  | optional (items : List Item)
  | first (alternatives : List (List Item))

/-! ## Marks -/

/-- The marks a description is made of. Words and blanks stand inside brackets. -/
inductive Mark where
  | literal (text : List Char)
  | opening (index : Nat)
  | closing
  | blank (text : List Char) (start : Nat)
  | word (text : List Char) (start : Nat)
  | fault (e : Error)

private def isAsciiBlank (c : Char) : Bool :=
  c == ' ' || c == '\t' || c == '\n' || c == '\r' || c == '\x0c'

private def isSpecial (c : Char) : Bool := c == '\\' || c == '[' || c == ']'

/-- The marks from a cursor on; `depth` brackets are open. Each step reads at least one character,
and an invalid escape ends the marks. -/
def marks : Nat → Nat → Cursor → List Mark
  | 0, _, _ => []
  | steps + 1, depth, cur =>
    match cur.rest with
    | [] => []
    | ['\\'] => [.fault (.expected "valid escape sequence" cur.offset)]
    | '\\' :: c :: _ =>
      if isSpecial c then
        let mark := if depth = 0 then .literal [c] else .word [c] cur.offset
        mark :: marks steps depth cur.next.next
      else [.fault (.expected "valid escape sequence" cur.next.offset)]
    | '[' :: _ => .opening cur.offset :: marks steps (depth + 1) cur.next
    | c :: _ =>
      if depth = 0 then
        let run := c :: cur.next.takeWhile fun d => d != '\\' && d != '['
        .literal run :: marks steps depth (cur.skip run.length)
      else if c = ']' then .closing :: marks steps (depth - 1) cur.next
      else
        let isBlank := isAsciiBlank c
        let run := c :: cur.next.takeWhile fun d => !isSpecial d && isAsciiBlank d == isBlank
        let mark := if isBlank then .blank run cur.offset else .word run cur.offset
        mark :: marks steps depth (cur.skip run.length)

/-! ## Outline -/

/-- A modifier as it is written, with the places of its key and its value. -/
structure Modifier where
  key : List Char
  keyStart : Nat
  value : List Char
  valueStart : Nat

/-- The parts of a description before the names of components are looked up. -/
inductive Outline where
  | literal (text : List Char)
  | component (name : List Char) (start : Nat) (modifiers : List Modifier)
  | optional (parts : List Outline)
  | first (alternatives : List (List Outline))

/-- A parser over marks; marks that were read stay read when it fails. -/
abbrev Parser := ExceptT Error (StateM (List Mark))

private def nextBlank? : Parser (Option (List Char × Nat)) := do
  match ← get with
  | .blank text start :: rest => set rest; return some (text, start)
  | _ => return none

private def nextWord? : Parser (Option (List Char × Nat)) := do
  match ← get with
  | .word text start :: rest => set rest; return some (text, start)
  | _ => return none

private def nextOpening? : Parser (Option Nat) := do
  match ← get with
  | .opening index :: rest => set rest; return some index
  | _ => return none

private def nextClosing : Parser Bool := do
  match ← get with
  | .closing :: rest => set rest; return true
  | _ => return false

/-- The offset of the last byte of a text of ASCII characters or other ones. -/
private def lastByte (text : List Char) (start : Nat) : Nat := start + byteLength text - 1

/-- A word as a modifier. -/
def modifierOfWord (text : List Char) (start : Nat) : Except Error Modifier :=
  let key := text.takeWhile (· != ':')
  match text.dropWhile (· != ':') with
  | [] => .error (.invalidModifier (String.ofList text) start)
  | _ :: value =>
    if key.isEmpty then .error (.invalidModifier "" start)
    else if value.isEmpty then .error (.invalidModifier "" (lastByte text start))
    else .ok ⟨key, start, value, start + byteLength key + 1⟩

/-- Reads blanks and modifiers up to something else. -/
def readModifiers : Nat → Parser (List Modifier)
  | 0 => return []
  | steps + 1 => do
    if (← nextBlank?).isNone then return []
    if let some index ← nextOpening? then throw (.invalidModifier "[" index)
    match ← nextWord? with
    | none => return []
    | some (text, start) =>
      let modifier ← ExceptT.mk (pure (modifierOfWord text start))
      return modifier :: (← readModifiers steps)

mutual

/-- Reads the parts of a description; inside brackets it ends before a closing one. -/
def readParts (nested : Bool) : Nat → Parser (List Outline)
  | 0 => return []
  | steps + 1 => do
    match ← get with
    | [] => return []
    | .closing :: rest =>
      if nested then return []
      set rest
      return .literal [']'] :: (← readParts nested steps)
    | .fault e :: rest => set rest; throw e
    | .opening index :: rest =>
      set rest
      let part ← readComponent index steps
      return part :: (← readParts nested steps)
    | .literal text :: rest | .word text _ :: rest | .blank text _ :: rest =>
      set rest
      return .literal text :: (← readParts nested steps)

/-- Reads a component after its opening bracket at `index`. -/
def readComponent (index : Nat) : Nat → Parser Outline
  | 0 => throw (.unclosedBracket index)
  | steps + 1 => do
    let leading ← nextBlank?
    match ← nextWord? with
    | none => throw (.missingName ((leading.map (·.2)).getD index))
    | some (name, start) =>
      if name = "optional".toList then
        match ← nextBlank? with
        | none => throw (.expected "whitespace after `optional`" (lastByte name start))
        | some (blank, at_) =>
          let parts ← readNested (lastByte blank at_) steps
          if ← nextClosing then return .optional parts
          throw (.unclosedBracket index)
      else if name = "first".toList then
        match ← nextBlank? with
        | none => throw (.expected "whitespace after `first`" (lastByte name start))
        | some (blank, at_) =>
          let alternatives ← readAlternatives (lastByte blank at_) steps
          if ← nextClosing then return .first alternatives
          throw (.unclosedBracket index)
      else
        let modifiers ← readModifiers steps
        if ← nextClosing then return .component name start modifiers
        throw (.unclosedBracket index)

/-- Reads a description in brackets; `last` is the place to blame when there is none. -/
def readNested (last : Nat) : Nat → Parser (List Outline)
  | 0 => throw (.expected "opening bracket" last)
  | steps + 1 => do
    match ← nextOpening? with
    | none => throw (.expected "opening bracket" last)
    | some index =>
      let parts ← readParts true steps
      if ← nextClosing then
        let _ ← nextBlank?
        return parts
      throw (.unclosedBracket index)

/-- Reads descriptions in brackets as long as there are any. -/
def readAlternatives (last : Nat) : Nat → Parser (List (List Outline))
  | 0 => return []
  | steps + 1 => do
    let parts ← tryCatch (some <$> readNested last steps) fun _ => return none
    match parts with
    | none => return []
    | some parts => return parts :: (← readAlternatives last steps)

end

/-! ## Components -/

/-- Whether a text is the given name, in small or capital letters. -/
private def named (text : List Char) (name : String) : Bool :=
  text.map Char.toLower == name.toList

/-- The value of a modifier among named choices. -/
def choose {α : Type} (m : Modifier) (choices : List (String × α)) : Except Error α :=
  match choices.find? fun choice => named m.value choice.1 with
  | some choice => .ok choice.2
  | none => .error (.invalidModifier (String.ofList m.value) m.valueStart)

/-- The modifiers of all components, before the component picks its own. -/
structure Settings where
  padding : Padding := .zero
  twelve : Bool := false
  count : Option Nat := none
  month : MonthForm := .numerical
  signed : Bool := false
  upper : Bool := true
  digits : Option Nat := none
  precision : Nat := 0
  weekday : WeekdayForm := .long
  fromOne : Bool := true
  week : WeekForm := .iso
  year : YearForm := .full
  isoWeek : Bool := false

private def flags : List (String × Bool) := [("false", false), ("true", true)]

private def setPadding (s : Settings) (m : Modifier) : Except Error Settings := do
  return { s with
    padding := ← choose m [("space", .space), ("zero", .zero), ("none", .none)] }

private def setHourClock (s : Settings) (m : Modifier) : Except Error Settings := do
  return { s with twelve := ← choose m [("12", true), ("24", false)] }

private def setCount (s : Settings) (m : Modifier) : Except Error Settings :=
  match (readUnsigned? 16 m.value).filter (· != 0) with
  | some n => .ok { s with count := some n }
  | none => .error (.invalidModifier (String.ofList m.value) m.valueStart)

private def setMonth (s : Settings) (m : Modifier) : Except Error Settings := do
  return { s with
    month := ← choose m [("numerical", .numerical), ("long", .long), ("short", .short)] }

private def checkFlag (s : Settings) (m : Modifier) : Except Error Settings := do
  let _ ← choose m flags
  return s

private def setSign (s : Settings) (m : Modifier) : Except Error Settings := do
  return { s with signed := ← choose m [("automatic", false), ("mandatory", true)] }

private def setCase (s : Settings) (m : Modifier) : Except Error Settings := do
  return { s with upper := ← choose m [("lower", false), ("upper", true)] }

private def setDigits (s : Settings) (m : Modifier) : Except Error Settings := do
  return { s with
    digits := ← choose m [("1", some 1), ("2", some 2), ("3", some 3), ("4", some 4),
      ("5", some 5), ("6", some 6), ("7", some 7), ("8", some 8), ("9", some 9), ("1+", none)] }

private def setPrecision (s : Settings) (m : Modifier) : Except Error Settings := do
  return { s with
    precision := ← choose m
      [("second", 0), ("millisecond", 3), ("microsecond", 6), ("nanosecond", 9)] }

private def setWeekday (s : Settings) (m : Modifier) : Except Error Settings := do
  return { s with
    weekday := ← choose m
      [("short", .short), ("long", .long), ("sunday", .sunday), ("monday", .monday)] }

private def setFromOne (s : Settings) (m : Modifier) : Except Error Settings := do
  return { s with fromOne := ← choose m flags }

private def setWeek (s : Settings) (m : Modifier) : Except Error Settings := do
  return { s with week := ← choose m [("iso", .iso), ("sunday", .sunday), ("monday", .monday)] }

private def setYear (s : Settings) (m : Modifier) : Except Error Settings := do
  return { s with
    year := ← choose m [("full", .full), ("century", .century), ("last_two", .lastTwo)] }

private def checkRange (s : Settings) (m : Modifier) : Except Error Settings := do
  let _ ← choose m [("standard", ()), ("extended", ())]
  return s

private def setBase (s : Settings) (m : Modifier) : Except Error Settings := do
  return { s with isoWeek := ← choose m [("calendar", false), ("iso_week", true)] }

private def checkTrailing (s : Settings) (m : Modifier) : Except Error Settings := do
  let _ ← choose m [("prohibit", ()), ("discard", ())]
  return s

/-- A component's name, its modifiers and what it makes of them. -/
structure Kind where
  name : String
  modifiers : List (String × (Settings → Modifier → Except Error Settings))
  make : Settings → Component

/-- The components, with the modifiers each of them takes. -/
def kinds : List Kind := [
  ⟨"day", [("padding", setPadding)], fun s => .day s.padding⟩,
  ⟨"end", [("trailing_input", checkTrailing)], fun _ => .finish⟩,
  ⟨"hour", [("padding", setPadding), ("repr", setHourClock)], fun s => .hour s.padding s.twelve⟩,
  ⟨"ignore", [("count", setCount)], fun s => .ignore (s.count.getD 0)⟩,
  ⟨"minute", [("padding", setPadding)], fun s => .minute s.padding⟩,
  ⟨"month", [("padding", setPadding), ("repr", setMonth), ("case_sensitive", checkFlag)],
    fun s => .month s.padding s.month⟩,
  ⟨"offset_hour", [("sign", setSign), ("padding", setPadding)],
    fun s => .offsetHour s.padding s.signed⟩,
  ⟨"offset_minute", [("padding", setPadding)], fun s => .offsetMinute s.padding⟩,
  ⟨"offset_second", [("padding", setPadding)], fun s => .offsetSecond s.padding⟩,
  ⟨"ordinal", [("padding", setPadding)], fun s => .ordinal s.padding⟩,
  ⟨"period", [("case", setCase), ("case_sensitive", checkFlag)], fun s => .period s.upper⟩,
  ⟨"second", [("padding", setPadding)], fun s => .second s.padding⟩,
  ⟨"subsecond", [("digits", setDigits)], fun s => .subsecond s.digits⟩,
  ⟨"unix_timestamp", [("precision", setPrecision), ("sign", setSign)],
    fun s => .unixTimestamp s.precision s.signed⟩,
  ⟨"weekday", [("repr", setWeekday), ("one_indexed", setFromOne), ("case_sensitive", checkFlag)],
    fun s => .weekday s.weekday s.fromOne⟩,
  ⟨"week_number", [("padding", setPadding), ("repr", setWeek)],
    fun s => .weekNumber s.padding s.week⟩,
  ⟨"year", [("padding", setPadding), ("repr", setYear), ("range", checkRange), ("base", setBase),
      ("sign", setSign)],
    fun s => .year s.padding s.year s.isoWeek s.signed⟩]

/-- Applies the modifiers of a component in order. -/
def settingsOf (kind : Kind) : Settings → List Modifier → Except Error Settings
  | s, [] => .ok s
  | s, m :: ms =>
    match kind.modifiers.find? fun known => named m.key known.1 with
    | none => .error (.invalidModifier (String.ofList m.key) m.keyStart)
    | some known => do settingsOf kind (← known.2 s m) ms

/-- The component of a name and its modifiers. -/
def resolveComponent (name : List Char) (start : Nat) (modifiers : List Modifier) :
    Except Error Component :=
  match kinds.find? fun kind => named name kind.name with
  | none => .error (.invalidComponent (String.ofList name) start)
  | some kind => do
    let settings ← settingsOf kind {} modifiers
    match kind.make settings with
    | .ignore 0 => .error (.missingModifier "count" start)
    | component => .ok component

mutual

/-- Looks up the names in one part. -/
def resolve : Outline → Except Error Item
  | .literal text => .ok (.literal text)
  | .component name start modifiers => do
    return .component (← resolveComponent name start modifiers)
  | .optional parts => do return .optional (← resolveAll parts)
  | .first alternatives => do return .first (← resolveAlternatives alternatives)

/-- Looks up the names in several parts. -/
def resolveAll : List Outline → Except Error (List Item)
  | [] => .ok []
  | p :: ps => do return (← resolve p) :: (← resolveAll ps)

/-- Looks up the names in alternatives. -/
def resolveAlternatives : List (List Outline) → Except Error (List (List Item))
  | [] => .ok []
  | ps :: rest => do return (← resolveAll ps) :: (← resolveAlternatives rest)

end

/-- Reads the parts one after another and looks up each part's names before the next is read, so
that the first error from the left is the one that is found. -/
def parseItems : Nat → List Mark → Except Error (List Item)
  | 0, _ => .ok []
  | steps + 1, ms =>
    match ms with
    | [] => .ok []
    | .literal text :: rest | .word text _ :: rest | .blank text _ :: rest => do
      return .literal text :: (← parseItems steps rest)
    | .closing :: rest => do return .literal [']'] :: (← parseItems steps rest)
    | .fault e :: _ => .error e
    | .opening index :: rest =>
      match (readComponent index (ms.length + 1)).run.run rest with
      | (.error e, _) => .error e
      | (.ok part, rest) => do return (← resolve part) :: (← parseItems steps rest)

/-- The items of a description. -/
def parse (text : String) : Except Error (List Item) :=
  let ms := marks (text.length + 1) 0 (.ofString text)
  parseItems (ms.length + 1) ms

end MessageTemplate.Description
