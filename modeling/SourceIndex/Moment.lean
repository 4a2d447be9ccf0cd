import SourceIndex.Number.Decimal

/-! # Dates and times

A configuration can hold days, times of day and points in time.  They are shown in the form
`1979-05-27 07:32:00.500000+01:00`, of which a day or a time of day is a part. -/
set_option autoImplicit false
namespace SourceIndex

structure Day where
  year : Nat
  month : Nat
  day : Nat
  deriving DecidableEq, Repr

structure Clock where
  hour : Nat
  minute : Nat
  second : Nat
  micro : Nat
  deriving DecidableEq, Repr

/-- A day, a time of day, or both, which may be tied to a distance from universal time in
minutes. -/
inductive Moment where
  | day (day : Day)
  | clock (clock : Clock)
  | point (day : Day) (clock : Clock) (offset : Option Int)
  deriving DecidableEq, Repr

def isLeapYear (year : Nat) : Bool := year % 4 = 0 && (year % 100 ≠ 0 || year % 400 = 0)

def daysIn (year month : Nat) : Nat :=
  match month with
  | 2 => if isLeapYear year then 29 else 28
  | 4 | 6 | 9 | 11 => 30
  | _ => 31

/-- The day is one of the calendar, which begins with the year 1. -/
def Day.isValid (d : Day) : Bool :=
  1 ≤ d.year && 1 ≤ d.month && d.month ≤ 12 && 1 ≤ d.day && d.day ≤ daysIn d.year d.month

open Decimal (padded)

def Day.text (d : Day) : List Char :=
  padded 4 d.year ++ '-' :: padded 2 d.month ++ '-' :: padded 2 d.day

def Clock.text (c : Clock) : List Char :=
  padded 2 c.hour ++ ':' :: padded 2 c.minute ++ ':' :: padded 2 c.second
    ++ (if c.micro = 0 then [] else '.' :: padded 6 c.micro)

def offsetText (minutes : Int) : List Char :=
  (if minutes < 0 then '-' else '+') :: padded 2 (minutes.natAbs / 60)
    ++ ':' :: padded 2 (minutes.natAbs % 60)

def Moment.text : Moment → String
  | .day d => String.ofList d.text
  | .clock c => String.ofList c.text
  | .point d c offset =>
    String.ofList (d.text ++ ' ' :: c.text ++ (offset.map offsetText).getD [])

/-! ## Moments inside a collection

Inside a collection a moment is shown by its parts. -/

/-- The parts of a time of day; trailing zeros beyond the minutes are left out. -/
def Clock.shownParts (c : Clock) : List Nat :=
  [c.hour, c.minute]
    ++ (if c.micro ≠ 0 then [c.second, c.micro] else if c.second ≠ 0 then [c.second] else [])

def commaSeparated (numbers : List Nat) : String :=
  String.intercalate ", " (numbers.map toString)

/-- A distance from universal time by its parts, counted from the day before when negative. -/
def offsetParts (minutes : Int) : String :=
  if minutes = 0 then "datetime.timezone.utc"
  else if minutes < 0 then
    "datetime.timezone(datetime.timedelta(days=-1, seconds=" ++ toString (86400 + minutes * 60)
      ++ "))"
  else "datetime.timezone(datetime.timedelta(seconds=" ++ toString (minutes * 60) ++ "))"

def Moment.shown : Moment → String
  | .day d => "datetime.date(" ++ commaSeparated [d.year, d.month, d.day] ++ ")"
  | .clock c => "datetime.time(" ++ commaSeparated c.shownParts ++ ")"
  | .point d c offset =>
    "datetime.datetime(" ++ commaSeparated ([d.year, d.month, d.day] ++ c.shownParts)
      ++ ((offset.map fun minutes => ", tzinfo=" ++ offsetParts minutes).getD "") ++ ")"

end SourceIndex
