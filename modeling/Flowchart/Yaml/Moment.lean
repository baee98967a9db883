import Flowchart.Decimal.Reader

/-! Dates, and times on a date, as scalars spell them. -/

namespace Flowchart

namespace Yaml

/-- A day of the calendar. -/
structure Date where
  year : Nat
  month : Nat
  day : Nat
deriving DecidableEq, Inhabited

/-- A time on a day, with how far local time is ahead of universal time, in minutes, if that is
known. -/
structure Time where
  date : Date
  hour : Nat
  minute : Nat
  second : Nat
  microsecond : Nat
  offset : Option Int
deriving DecidableEq, Inhabited

/-- A date, or a time on a date. -/
inductive Moment where
  | date (date : Date)
  | time (time : Time)
deriving DecidableEq, Inhabited

/-- Why there is no such moment. -/
inductive MomentFault where
  | year (year : Nat)
  | month
  | day
  | hour
  | minute
  | second
  /-- Local time is a day or more ahead or behind. -/
  | offset (minutes : Int)
deriving DecidableEq

/-- A length of time in days and seconds as shown. -/
def describeMinutes (minutes : Int) : String :=
  let seconds := minutes * 60
  let days := seconds.fdiv 86400
  let rest := seconds.fmod 86400
  let parts :=
    (if days = 0 then [] else ["days=" ++ toString days]) ++
      (if rest = 0 then [] else ["seconds=" ++ toString rest])
  "datetime.timedelta(" ++ (if parts.isEmpty then "0" else String.intercalate ", " parts) ++ ")"

/-- The wording of a fault. -/
def MomentFault.message : MomentFault → String
  | .year number => "year " ++ toString number ++ " is out of range"
  | .month => "month must be in 1..12"
  | .day => "day is out of range for month"
  | .hour => "hour must be in 0..23"
  | .minute => "minute must be in 0..59"
  | .second => "second must be in 0..59"
  | .offset minutes =>
    "offset must be a timedelta strictly between -timedelta(hours=24) and " ++
      "timedelta(hours=24), not " ++ describeMinutes minutes ++ "."

/-- The digits of a number, filled up with zeros to a width. -/
def padded (width n : Nat) : String :=
  let digits := Nat.toDigits 10 n
  String.ofList (List.replicate (width - digits.length) '0' ++ digits)

namespace Date

/-- Whether a year has a day more than others. -/
def isLeap (year : Nat) : Bool := year % 4 = 0 && (year % 100 ≠ 0 || year % 400 = 0)

/-- The length of a month in days. -/
def monthLength (year month : Nat) : Nat :=
  if month = 2 then if isLeap year then 29 else 28
  else if [4, 6, 9, 11].contains month then 30
  else 31

/-- A day of the calendar, which starts with the first year. -/
def ofNumbers (year month day : Nat) : Except MomentFault Date :=
  if year = 0 then .error (.year year)
  else if month = 0 ∨ 12 < month then .error .month
  else if day = 0 ∨ monthLength year month < day then .error .day
  else .ok ⟨year, month, day⟩

/-- How many days went before a day. -/
def daysBefore (date : Date) : Nat :=
  let years := date.year - 1
  let months := ((List.range date.month).drop 1).foldl
    (fun days month => days + monthLength date.year month) 0
  -- Every fourth year has a leap day, save for most full centuries.
  years * 365 + years / 4 - years / 100 + years / 400 +
    months + (date.day - 1)

/-- A day in digits. -/
def text (date : Date) : String :=
  padded 4 date.year ++ "-" ++ padded 2 date.month ++ "-" ++ padded 2 date.day

end Date

namespace Time

/-- A time on a day, if there is one. -/
def check (time : Time) : Except MomentFault Time := do
  -- The offset is looked at first, and the parts in order after it.
  match time.offset with
  | some minutes => if 1440 ≤ minutes.natAbs then throw (.offset minutes)
  | none => pure ()
  let date ← Date.ofNumbers time.date.year time.date.month time.date.day
  if 23 < time.hour then throw .hour
  if 59 < time.minute then throw .minute
  if 59 < time.second then throw .second
  return { time with date }

/-- An offset in hours and minutes. -/
def offsetText : Option Int → String
  | none => ""
  | some 0 => "Z"
  | some minutes =>
    (if minutes < 0 then "-" else "+") ++ padded 2 (minutes.natAbs / 60) ++ ":" ++
      padded 2 (minutes.natAbs % 60)

/-- A time in digits. The parts of a second are left out when there are none. -/
def text (time : Time) : String :=
  time.date.text ++ "T" ++ padded 2 time.hour ++ ":" ++ padded 2 time.minute ++ ":" ++
    padded 2 time.second ++
    (if time.microsecond = 0 then "" else "." ++ padded 6 time.microsecond) ++
    offsetText time.offset

/-- The microseconds since the first day, as universal time counts them. -/
def instant (time : Time) : Int :=
  let minutes : Int := (time.date.daysBefore * 24 + time.hour) * 60 + time.minute
  ((minutes - time.offset.getD 0) * 60 + time.second) * 1000000 + time.microsecond

end Time

namespace Moment

/-- A moment in digits. -/
def text : Moment → String
  | .date day => day.text
  | .time clock => clock.text

/-- Whether two moments are the same. Of times, only those of known offsets are compared as
instants. -/
def isSame : Moment → Moment → Bool
  | .date a, .date b => a = b
  | .time a, .time b => a.offset.isSome = b.offset.isSome && a.instant = b.instant
  | _, _ => false

/-- The numbers of a day as shown. -/
def dateNumbers (day : Date) : List Nat := [day.year, day.month, day.day]

/-- The numbers of a time as shown: without zeros at the end, but for the hour and the minute. -/
def timeNumbers (clock : Time) : List Nat :=
  [clock.hour, clock.minute] ++
    if clock.microsecond ≠ 0 then [clock.second, clock.microsecond]
    else if clock.second ≠ 0 then [clock.second]
    else []

/-- An offset as shown. -/
def describeOffset : Option Int → String
  | none => ""
  | some 0 => ", tzinfo=datetime.timezone.utc"
  | some minutes => ", tzinfo=datetime.timezone(" ++ describeMinutes minutes ++ ")"

/-- A moment as shown. -/
def describe : Moment → String
  | .date day =>
    "datetime.date(" ++ String.intercalate ", " ((dateNumbers day).map toString) ++ ")"
  | .time clock =>
    "datetime.datetime(" ++
      String.intercalate ", " ((dateNumbers clock.date ++ timeNumbers clock).map toString) ++
      describeOffset clock.offset ++ ")"

end Moment

/-- Digits at the start of a text, as many as there are between a least and a greatest number, with
what follows them. -/
def takeDigits? (least most : Nat) (text : List Char) : Option (List Char × List Char) :=
  let digits := (text.take most).takeWhile Char.isDigit
  if least ≤ digits.length then some (digits, text.drop digits.length) else none

/-- Digits behind a given character. -/
def digitsAfter? (mark : Char) (least most : Nat) (text : List Char) :
    Option (List Char × List Char) :=
  if text.head? = some mark then takeDigits? least most text.tail else none

/-- A blank between the parts of a time. -/
def isTimeGap (c : Char) : Bool := c = ' ' || c = '\t'

/-- The offset at the end of a time, in minutes; nothing at all is none. -/
def readOffset? (text : List Char) : Option (Option Int) :=
  match text, text.dropWhile isTimeGap with
  | [], _ => some none
  | _, ['Z'] => some (some 0)
  | _, sign :: rest =>
    if sign = '-' ∨ sign = '+' then do
      let (hours, rest) ← takeDigits? 1 2 rest
      let minutes ← match rest with
        | [] => some []
        | rest =>
          match digitsAfter? ':' 2 2 rest with
          | some (minutes, []) => some minutes
          | _ => none
      let size : Int := Decimal.wholeOfDigits hours * 60 + Decimal.wholeOfDigits minutes
      return some (if sign = '-' then -size else size)
    else none
  | _, [] => none

/-- The time after a day. -/
def readTime? (date : Date) (text : List Char) : Option Time := do
  let (hour, text) ← takeDigits? 1 2 text
  let (minute, text) ← digitsAfter? ':' 2 2 text
  let (second, text) ← digitsAfter? ':' 2 2 text
  let (fraction, text) := match text with
    | '.' :: rest => (rest.takeWhile Char.isDigit, rest.dropWhile Char.isDigit)
    | _ => ([], text)
  let offset ← readOffset? text
  -- Six digits of the fraction count, and missing ones are zeros.
  let whole := Decimal.wholeOfDigits
  let microsecond := whole ((fraction ++ List.replicate 6 '0').take 6)
  return ⟨date, whole hour, whole minute, whole second, microsecond, offset⟩

/-- The numbers of a moment, whether or not there is such a moment. -/
def readMoment? (text : List Char) : Option Moment := do
  let (year, text) ← takeDigits? 4 4 text
  let (month, text) ← digitsAfter? '-' 1 2 text
  let (day, text) ← digitsAfter? '-' 1 2 text
  let whole := Decimal.wholeOfDigits
  let date : Date := ⟨whole year, whole month, whole day⟩
  match text with
  | [] => return .date date
  | c :: rest =>
    if c = 'T' ∨ c = 't' then .time <$> readTime? date rest
    else if isTimeGap c then .time <$> readTime? date (rest.dropWhile isTimeGap)
    else none

/-- The moment of the given numbers, if there is one. -/
def Moment.check : Moment → Except MomentFault Moment
  | .date day => .date <$> Date.ofNumbers day.year day.month day.day
  | .time clock => .time <$> clock.check

end Yaml

end Flowchart
