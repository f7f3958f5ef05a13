import PageAtlas.Decimal.Binary64
import PageAtlas.Text.Numeral

namespace PageAtlas

/-!
# Dates and moments

Days of the proleptic Gregorian calendar from year 1 to year 9999, and moments
of such a day to the microsecond.
-/

structure Date where
  year : Nat
  month : Nat
  day : Nat
  deriving DecidableEq, Repr

/-- A moment; the offset from universal time is in minutes, if one is known. -/
structure Moment where
  date : Date
  hour : Nat := 0
  minute : Nat := 0
  second : Nat := 0
  micro : Nat := 0
  offset : Option Int := none
  deriving DecidableEq, Repr

namespace Date

def isLeap (year : Nat) : Bool := year % 4 == 0 && (year % 100 != 0 || year % 400 == 0)

def daysInMonth (year month : Nat) : Nat :=
  if month = 2 then (if isLeap year then 29 else 28)
  else if month = 4 || month = 6 || month = 9 || month = 11 then 30
  else 31

def outside (year : Int) : String := "year " ++ Text.Numeral.ofInt year ++ " is out of range"

/-- The first reason why three numbers are no date. -/
def fault? (year month day : Nat) : Option String :=
  if year = 0 || 9999 < year then some (outside year)
  else if month = 0 || 12 < month then some "month must be in 1..12"
  else if day = 0 || daysInMonth year month < day then some "day is out of range for month"
  else none

/-- The date that lies the given number of days after the first of January 1970,
or its year if that is not in the calendar. -/
def ofDays (days : Int) : Except Int Date :=
  -- eras of 400 years that begin on the first of March
  let z := days + 719468
  let era := z.fdiv 146097
  let dayOfEra := (z - era * 146097).toNat
  let yearOfEra := (dayOfEra - dayOfEra / 1460 + dayOfEra / 36524 - dayOfEra / 146096) / 365
  let dayOfYear := dayOfEra - (365 * yearOfEra + yearOfEra / 4 - yearOfEra / 100)
  let shifted := (5 * dayOfYear + 2) / 153
  let day := dayOfYear - (153 * shifted + 2) / 5 + 1
  let month := if shifted < 10 then shifted + 3 else shifted - 9
  let year : Int := yearOfEra + era * 400 + (if month ≤ 2 then 1 else 0)
  if 1 ≤ year && year ≤ 9999 then .ok ⟨year.toNat, month, day⟩ else .error year

/-- The number of days from the first of January 1970 to a date. -/
def days (d : Date) : Int :=
  -- years are counted from the first of March
  let year : Int := if d.month ≤ 2 then (d.year : Int) - 1 else d.year
  let month := if d.month ≤ 2 then d.month + 9 else d.month - 3
  let before : Int := (153 * month + 2) / 5 + d.day - 1
  365 * year + year.fdiv 4 - year.fdiv 100 + year.fdiv 400 + before - 719468

def shown (d : Date) : String :=
  Text.Numeral.padded 4 d.year ++ "-" ++ Text.Numeral.padded 2 d.month ++ "-" ++
    Text.Numeral.padded 2 d.day

end Date

inductive TimeFault where
  | notANumber
  /-- The seconds do not fit a word of 64 bits. -/
  | beyondClock
  /-- The year, counted from 1900, does not fit a word of 32 bits. -/
  | beyondYears
  /-- The year is not in the calendar. -/
  | outside (year : Int)
  deriving DecidableEq, Repr

def TimeFault.message : TimeFault → String
  | notANumber => "Invalid value NaN (not a number)"
  | beyondClock => "timestamp out of range for platform time_t"
  | beyondYears => "[Errno 75] Value too large for defined data type"
  | outside year => Date.outside year

namespace Moment

/-- The moment that many seconds after the beginning of 1970, in universal time.
The year that a fault names is kept in a word of 32 bits. -/
def ofSeconds (seconds : Int) : Except TimeFault Moment :=
  if seconds.bmod (Decimal.twoTo 64) ≠ seconds then .error .beyondClock
  else
    let day := seconds.fdiv 86400
    let rest := (seconds - day * 86400).toNat
    let clock (date : Date) : Moment :=
      { date, hour := rest / 3600, minute := rest / 60 % 60, second := rest % 60,
        offset := some 0 }
    match Date.ofDays day with
    | .ok date => .ok (clock date)
    | .error year =>
        let word := Decimal.twoTo 32
        if (year - 1900).bmod word ≠ year - 1900 then .error .beyondYears
        else .error (.outside (year.bmod word))

/-- The number of microseconds in so many seconds less than one, rounded. -/
def microsOf (x : Decimal.Binary64) : Nat :=
  match (x.mul (.ofNat 1000000)).ratio? with
  | some (num, den) => Decimal.roundDiv num.natAbs den
  | none => 0

/-- The second that a number of seconds falls into, once what it has beyond its
whole seconds is rounded to microseconds. -/
def secondOf (x : Decimal.Binary64) : Except TimeFault Int :=
  match x with
  | .nan => .error .notANumber
  | .infinite _ => .error .beyondClock
  | .finite negative m q =>
      match (Decimal.Binary64.finite negative m q).ratio? with
      | none => .error .notANumber
      | some (num, den) =>
          let whole : Int := num.natAbs / den
          let micros := microsOf (.ofRatio false (num.natAbs % den) den)
          if num < 0 then .ok (if micros = 0 then -whole else -whole - 1)
          else .ok (if micros = 1000000 then whole + 1 else whole)

/-- The number of microseconds from the beginning of 1970 to a moment, which
counts as one in universal time if its offset is not known. -/
def micros (m : Moment) : Int :=
  let minutes := (m.date.days * 24 + m.hour) * 60 + m.minute - m.offset.getD 0
  (minutes * 60 + m.second) * 1000000 + m.micro

/-- Whether two moments are the same, given that the offset is known of both of
them or of neither. -/
def isSame (m n : Moment) : Bool := m.offset.isSome == n.offset.isSome && m.micros == n.micros

/-- The first reason why three numbers are no time of day. -/
def fault? (hour minute second : Nat) : Option String :=
  if 23 < hour then some "hour must be in 0..23"
  else if 59 < minute then some "minute must be in 0..59"
  else if 59 < second then some "second must be in 0..59"
  else none

def clock (m : Moment) : String :=
  Text.Numeral.padded 2 m.hour ++ ":" ++ Text.Numeral.padded 2 m.minute ++ ":" ++
    Text.Numeral.padded 2 m.second

def offsetText (minutes : Int) : String :=
  (if minutes < 0 then "-" else "+") ++ Text.Numeral.padded 2 (minutes.natAbs / 60) ++ ":" ++
    Text.Numeral.padded 2 (minutes.natAbs % 60)

/-- Date and time with the given text in between; microseconds only if there
are any. -/
def shown (between : String) (m : Moment) : String :=
  m.date.shown ++ between ++ m.clock ++
    (if m.micro = 0 then "" else "." ++ Text.Numeral.padded 6 m.micro) ++
    (match m.offset with
     | none => ""
     | some minutes => offsetText minutes)

end Moment

end PageAtlas
