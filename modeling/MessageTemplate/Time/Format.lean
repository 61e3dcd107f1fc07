import MessageTemplate.Time.DateTime
import MessageTemplate.Time.Description

/-!
# Dates in a described format

* `Description.Component.write`: the text of one component of a date.
* `Description.writeItems`: the text of a whole description. An optional part is always written; of
  alternatives the first is.
* `DateTime.format`: a date in the format that a text describes.
-/

namespace MessageTemplate.Description

/-- The digits of `n`, filled up to `width` as asked. -/
def padded (padding : Padding) (width n : Nat) : List Char :=
  match padding with
  | .space => (decimalDigits n).leftpad width ' '
  | .zero => (decimalDigits n).leftpad width '0'
  | .none => decimalDigits n

/-- A minus sign for what is negative, a plus sign for the rest only when it is wanted. -/
def signOf (negative signed : Bool) : List Char :=
  if negative then ['-'] else if signed then ['+'] else []

/-- The names of the months. -/
def monthNames : Array String :=
  #["January", "February", "March", "April", "May", "June", "July", "August", "September",
    "October", "November", "December"]

/-- The names of the days of the week, from Monday on. -/
def weekdayNames : Array String :=
  #["Monday", "Tuesday", "Wednesday", "Thursday", "Friday", "Saturday", "Sunday"]

/-- The first three letters of a name. -/
def abbreviated (name : String) : List Char := name.toList.take 3

/-- The hour on a clock of twelve hours. -/
def clockHour (hour : Nat) : Nat := if hour % 12 = 0 then 12 else hour % 12

/-- The text of a year. The sign of a century is that of its year. -/
def writeYear (padding : Padding) (form : YearForm) (signed : Bool) (year : Int) : List Char :=
  match form with
  | .full => signOf (year < 0) signed ++ padded padding 4 year.natAbs
  | .century => signOf (year < 0) signed ++ padded padding 2 (year.natAbs / 100)
  | .lastTwo => padded padding 2 (year.natAbs % 100)

/-- The text of a component of the date. -/
def Component.write (t : DateTime) : Component → List Char
  | .day padding => padded padding 2 t.day
  | .finish => []
  | .hour padding twelve => padded padding 2 (if twelve then clockHour t.hour else t.hour)
  | .ignore _ => []
  | .minute padding => padded padding 2 t.minute
  | .month padding .numerical => padded padding 2 t.month
  | .month _ .long => (monthNames.getD (t.month - 1) "").toList
  | .month _ .short => abbreviated (monthNames.getD (t.month - 1) "")
  | .offsetHour padding signed =>
    signOf (t.offset < 0) signed ++ padded padding 2 (t.offset.natAbs / 3600)
  | .offsetMinute padding => padded padding 2 (t.offset.natAbs / 60 % 60)
  | .offsetSecond padding => padded padding 2 (t.offset.natAbs % 60)
  | .ordinal padding => padded padding 3 t.ordinal
  | .period true => if t.hour < 12 then ['A', 'M'] else ['P', 'M']
  | .period false => if t.hour < 12 then ['a', 'm'] else ['p', 'm']
  | .second padding => padded padding 2 t.second
  | .subsecond none => DateTime.fraction t.nanosecond
  | .subsecond (some digits) => (DateTime.zeroPadded 9 t.nanosecond).take digits
  | .unixTimestamp 0 signed =>
    signOf (t.instant < 0) signed ++ decimalDigits t.unixSeconds.natAbs
  | .unixTimestamp digits signed =>
    signOf (t.instant < 0) signed ++ decimalDigits (t.instant.natAbs / Nat.pow 10 (9 - digits))
  | .weekday .long _ => (weekdayNames.getD t.weekday "").toList
  | .weekday .short _ => abbreviated (weekdayNames.getD t.weekday "")
  | .weekday .sunday fromOne => decimalDigits (t.daysFromSunday + fromOne.toNat)
  | .weekday .monday fromOne => decimalDigits (t.weekday + fromOne.toNat)
  | .weekNumber padding .iso => padded padding 2 t.isoWeek.2
  | .weekNumber padding .sunday => padded padding 2 t.weekFromSunday
  | .weekNumber padding .monday => padded padding 2 t.weekFromMonday
  | .year padding form isoWeek signed =>
    writeYear padding form signed (if isoWeek then t.isoWeek.1 else t.year)

mutual

/-- The text of one item. -/
def Item.write (t : DateTime) : Item → List Char
  | .literal text => text
  | .component c => c.write t
  | .optional items => writeItems t items
  | .first alternatives => writeFirst t alternatives

/-- The text of several items. -/
def writeItems (t : DateTime) : List Item → List Char
  | [] => []
  | item :: items => item.write t ++ writeItems t items

/-- The text of the first alternative, empty when there is none. -/
def writeFirst (t : DateTime) : List (List Item) → List Char
  | [] => []
  | items :: _ => writeItems t items

end

end MessageTemplate.Description

namespace MessageTemplate

/-- The date in the format that `description` describes. -/
def DateTime.format (description : String) (t : DateTime) : Except Description.Error String :=
  (Description.parse description).map fun items => String.ofList (Description.writeItems t items)

end MessageTemplate
