import MessageTemplate.Number.Digits

/-!
# Dates and times of day

A moment is given by the calendar date and the time of day at some offset from universal time. The
calendar is the Gregorian one, continued backwards; the year before year 1 is year 0.

* `DateTime.dayNumber`: days since 1 January 1970.
* `DateTime.instant`: nanoseconds since the start of 1970 in universal time; moments are equal when
  their instants are.
* `DateTime.isoWeek`, `DateTime.weekFromSunday`, `DateTime.weekFromMonday`: week numbers.
* `DateTime.text`: the default text.
-/

namespace MessageTemplate

/-- A date and a time of day, at an offset from universal time in seconds. -/
structure DateTime where
  year : Int
  month : Nat
  day : Nat
  hour : Nat
  minute : Nat
  second : Nat
  nanosecond : Nat
  offset : Int
deriving DecidableEq, Repr

/-- Whether the year has 366 days. -/
def isLeapYear (year : Int) : Bool :=
  year % 4 == 0 && (year % 100 != 0 || year % 400 == 0)

/-- The days of a common year before each month. -/
def daysBeforeMonth (month : Nat) : Nat :=
  #[0, 31, 59, 90, 120, 151, 181, 212, 243, 273, 304, 334].getD (month - 1) 0

/-- The days from 1 January 1970 to the start of the year. -/
def daysBeforeYear (year : Int) : Int :=
  let y := year - 1
  365 * y + y / 4 - y / 100 + y / 400 - 719162

namespace DateTime

/-- The number of the day in its year, from one. -/
def ordinal (t : DateTime) : Nat :=
  daysBeforeMonth t.month + t.day + if 2 < t.month && isLeapYear t.year then 1 else 0

/-- The number of days since 1 January 1970. -/
def dayNumber (t : DateTime) : Int := daysBeforeYear t.year + t.ordinal - 1

/-- The day of the week of a day number, Monday being zero. -/
def weekdayOf (day : Int) : Nat := ((day + 3) % 7).toNat

/-- The day of the week, Monday being zero. -/
def weekday (t : DateTime) : Nat := weekdayOf t.dayNumber

/-- The day of the week, Sunday being zero. -/
def daysFromSunday (t : DateTime) : Nat := (t.weekday + 1) % 7

/-- The number of weeks of a year: a year belongs to its weeks by their Thursdays. -/
def weeksOfYear (year : Int) : Nat :=
  let first := weekdayOf (daysBeforeYear year)
  if first == 3 || (first == 2 && isLeapYear year) then 53 else 52

/-- The year and the number of the week that the day belongs to by its week's Thursday. -/
def isoWeek (t : DateTime) : Int × Nat :=
  let week := (t.ordinal + 9 - t.weekday) / 7
  if week = 0 then (t.year - 1, weeksOfYear (t.year - 1))
  else if weeksOfYear t.year < week then (t.year + 1, 1)
  else (t.year, week)

/-- The week when weeks start on Sundays and the days before the first one are in week zero. -/
def weekFromSunday (t : DateTime) : Nat := (t.ordinal + 6 - t.daysFromSunday) / 7

/-- The week when weeks start on Mondays and the days before the first one are in week zero. -/
def weekFromMonday (t : DateTime) : Nat := (t.ordinal + 6 - t.weekday) / 7

/-- Whole seconds since the start of 1970 in universal time. -/
def unixSeconds (t : DateTime) : Int :=
  t.dayNumber * 86400 + (t.hour * 3600 + t.minute * 60 + t.second : Nat) - t.offset

/-- Nanoseconds since the start of 1970 in universal time. -/
def instant (t : DateTime) : Int := t.unixSeconds * 1000000000 + t.nanosecond

/-- Whether two moments are the same, at whatever offsets. -/
def same (s t : DateTime) : Bool := s.instant == t.instant

/-- The decimal digits of `n`, with zeros in front up to `width`. -/
def zeroPadded (width n : Nat) : List Char := (decimalDigits n).leftpad width '0'

/-- The digits of the second's fraction, as many as it needs and at least one. -/
def fraction (nanosecond : Nat) : List Char :=
  let ds := ((zeroPadded 9 nanosecond).reverse.dropWhile (· == '0')).reverse
  if ds.isEmpty then ['0'] else ds

/-- The default text: date, time of day and offset. -/
def text (t : DateTime) : String :=
  let sign := if t.year < 0 then ['-'] else if 9999 < t.year then ['+'] else []
  let offset := t.offset.natAbs
  String.ofList <|
    sign ++ zeroPadded 4 t.year.natAbs ++ ['-'] ++ zeroPadded 2 t.month ++ ['-'] ++
    zeroPadded 2 t.day ++ [' '] ++ decimalDigits t.hour ++ [':'] ++ zeroPadded 2 t.minute ++
    [':'] ++ zeroPadded 2 t.second ++ ['.'] ++ fraction t.nanosecond ++ [' '] ++
    [if t.offset < 0 then '-' else '+'] ++ zeroPadded 2 (offset / 3600) ++ [':'] ++
    zeroPadded 2 (offset / 60 % 60) ++ [':'] ++ zeroPadded 2 (offset % 60)

end DateTime

end MessageTemplate
