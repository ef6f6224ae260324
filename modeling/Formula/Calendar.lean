import Formula.Text

/-!
# Days and times of the calendar

A date is a day of the Gregorian calendar, from the year 1 on. A moment is a date with
a time of day, to the microsecond, and it may say how far its clock is ahead of
universal time.

Two moments that say so are the same when they are the same instant, whatever their
clocks show. Two that do not are the same when they show the same, and a moment that
says so is never the same as one that does not.

A date or moment has a text of its own in messages, made of its numbers in order.
Seconds and smaller parts are left out where they are zero.
-/

namespace Formula

/-- Why numbers make no date or moment. -/
inductive CalendarFault where
  | year (year : Nat)
  | month
  | day
  | hour
  | minute
  | second
  /-- A clock that is a day or more ahead or behind, in minutes. -/
  | offset (minutes : Int)
  deriving DecidableEq

/-! ## Dates -/

/-- Whether a year has a day more than 365. -/
def isLeapYear (year : Nat) : Bool :=
  year % 4 == 0 && (year % 100 != 0 || year % 400 == 0)

/-- The number of days of a month. -/
def monthDays (year month : Nat) : Nat :=
  if month = 2 then if isLeapYear year then 29 else 28
  else if month = 4 ∨ month = 6 ∨ month = 9 ∨ month = 11 then 30
  else 31

/-- A day of the calendar. -/
structure Date where
  year : Nat
  month : Nat
  day : Nat
  year_pos : 0 < year
  month_range : 0 < month ∧ month ≤ 12
  day_range : 0 < day ∧ day ≤ monthDays year month
  deriving DecidableEq

namespace Date

/-- The date of a year, a month and a day. -/
def ofParts (year month day : Nat) : Except CalendarFault Date :=
  if hy : 0 < year then
    if hm : 0 < month ∧ month ≤ 12 then
      if hd : 0 < day ∧ day ≤ monthDays year month then .ok ⟨year, month, day, hy, hm, hd⟩
      else .error .day
    else .error .month
  else .error (.year year)

/-- The number of days before a date, counted from the first day of the year 1. -/
def daysBefore (date : Date) : Nat :=
  let years := date.year - 1
  let inYear :=
    (List.range (date.month - 1)).foldl (fun days m => days + monthDays date.year (m + 1)) 0
  365 * years + years / 4 - years / 100 + years / 400 + inYear + (date.day - 1)

end Date

/-! ## Moments -/

/-- A date with a time of day. -/
structure Moment where
  date : Date
  hour : Nat
  minute : Nat
  second : Nat
  microsecond : Nat
  /-- The minutes that the clock is ahead of universal time, if the moment says so. -/
  offset : Option Int
  deriving DecidableEq

namespace Moment

/-- Whether a clock is ahead or behind by less than a day. -/
def isOffset (minutes : Int) : Bool := -1440 < minutes && minutes < 1440

/-- The moment of some numbers. Of several faults that of the clock counts first, and
then that of the longest unit. -/
def ofParts (year month day hour minute second microsecond : Nat) (offset : Option Int) :
    Except CalendarFault Moment := do
  match offset.filter (!isOffset ·) with
  | some minutes => .error (.offset minutes)
  | none =>
    let date ← Date.ofParts year month day
    if 24 ≤ hour then .error .hour
    else if 60 ≤ minute then .error .minute
    else if 60 ≤ second then .error .second
    else .ok { date, hour, minute, second, microsecond, offset }

/-- The microseconds before a moment, as its clock shows it. -/
def shown (moment : Moment) : Int :=
  let minutes := (24 * moment.date.daysBefore + moment.hour) * 60 + moment.minute
  ((minutes * 60 + moment.second) * 1000000 + moment.microsecond : Nat)

/-- Whether two moments are the same. -/
def same (a b : Moment) : Bool :=
  match a.offset, b.offset with
  | none, none => a.shown == b.shown
  | some m, some n => a.shown - m * 60000000 == b.shown - n * 60000000
  | _, _ => false

end Moment

/-! ## Texts in messages -/

/-- The text of a span of minutes: whole days, rounded down, and the seconds above. -/
def spanText (minutes : Int) : String :=
  let days := minutes / 1440
  let seconds := minutes % 1440 * 60
  let parts :=
    (if days = 0 then [] else [s!"days={days}"])
      ++ (if seconds = 0 then [] else [s!"seconds={seconds}"])
  let shown := if parts.isEmpty then "0" else ", ".intercalate parts
  s!"datetime.timedelta({shown})"

/-- The text of a fault. -/
def CalendarFault.message : CalendarFault → String
  | year y => s!"year {y} is out of range"
  | month => "month must be in 1..12"
  | day => "day is out of range for month"
  | hour => "hour must be in 0..23"
  | minute => "minute must be in 0..59"
  | second => "second must be in 0..59"
  | offset minutes =>
    "offset must be a timedelta strictly between -timedelta(hours=24) and " ++
      s!"timedelta(hours=24), not {spanText minutes}."

/-- The text of a date. -/
def Date.render (date : Date) : String :=
  s!"datetime.date({date.year}, {date.month}, {date.day})"

/-- The numbers of the time of day that are shown. -/
def Moment.timeParts (moment : Moment) : List Nat :=
  [moment.hour, moment.minute]
    ++ (if moment.second = 0 ∧ moment.microsecond = 0 then [] else [moment.second])
    ++ (if moment.microsecond = 0 then [] else [moment.microsecond])

/-- The text of a clock. -/
def zoneText (minutes : Int) : String :=
  if minutes = 0 then "datetime.timezone.utc" else s!"datetime.timezone({spanText minutes})"

/-- The text of a moment. -/
def Moment.render (moment : Moment) : String :=
  let date := moment.date
  let numbers := [date.year, date.month, date.day] ++ moment.timeParts
  let zone := moment.offset.elim [] fun minutes => [s!"tzinfo={zoneText minutes}"]
  let shown := ", ".intercalate (numbers.map toString ++ zone)
  s!"datetime.datetime({shown})"

end Formula
