/-! Dates of the proleptic Gregorian calendar, times of day to the nanosecond, and timestamps with
or without an offset from universal time. In a leap second the nanoseconds run on past the second
before it; it may follow any second, though only after the last of a minute is it read from text. -/

namespace SqlExecution

namespace Calendar

def minYear : Int := -262143

def maxYear : Int := 262142

def isLeapYear (year : Int) : Bool := year % 4 == 0 && (year % 100 != 0 || year % 400 == 0)

def daysInMonth (year : Int) (month : Nat) : Nat :=
  if month = 2 then (if isLeapYear year then 29 else 28)
  else if month = 4 ∨ month = 6 ∨ month = 9 ∨ month = 11 then 30
  else 31

end Calendar

/-- A day of the calendar within the supported years. -/
structure Date where
  year : Int
  month : Nat
  day : Nat
  year_mem : Calendar.minYear ≤ year ∧ year ≤ Calendar.maxYear
  month_mem : 1 ≤ month ∧ month ≤ 12
  day_mem : 1 ≤ day ∧ day ≤ Calendar.daysInMonth year month
  deriving DecidableEq, Repr

structure TimeOfDay where
  hour : Nat
  minute : Nat
  second : Nat
  nano : Nat
  hour_lt : hour < 24
  minute_lt : minute < 60
  second_lt : second < 60
  nano_lt : nano < 2000000000
  deriving DecidableEq, Repr

structure Timestamp where
  date : Date
  time : TimeOfDay
  deriving DecidableEq, Repr

namespace Date

def of? (year : Int) (month day : Nat) : Option Date :=
  if hy : Calendar.minYear ≤ year ∧ year ≤ Calendar.maxYear then
    if hm : 1 ≤ month ∧ month ≤ 12 then
      if hd : 1 ≤ day ∧ day ≤ Calendar.daysInMonth year month then
        some ⟨year, month, day, hy, hm, hd⟩
      else none
    else none
  else none

theorem of?_self (d : Date) : of? d.year d.month d.day = some d := by
  simp [of?, d.year_mem, d.month_mem, d.day_mem]

/-- Days since 1 March of year 0, counted with years that start in March. -/
def dayNumber (d : Date) : Int :=
  let y := if d.month ≤ 2 then d.year - 1 else d.year
  let m := (d.month + 9) % 12
  365 * y + y / 4 - y / 100 + y / 400 + ((153 * m + 2) / 5 : Nat) + d.day - 1

end Date

namespace TimeOfDay

/-- The second as it is shown; behind the last of a minute the leap second is second sixty. -/
def shownSecond (t : TimeOfDay) : Nat := t.second + t.nano / 1000000000

def shownNano (t : TimeOfDay) : Nat := t.nano % 1000000000

def ofParts? (hour minute second nano : Nat) : Option TimeOfDay :=
  if hh : hour < 24 then
    if hm : minute < 60 then
      if hs : second < 60 then
        if hn : nano < 2000000000 then some ⟨hour, minute, second, nano, hh, hm, hs, hn⟩
        else none
      else none
    else none
  else none

theorem ofParts?_self (t : TimeOfDay) : ofParts? t.hour t.minute t.second t.nano = some t := by
  simp [ofParts?, t.hour_lt, t.minute_lt, t.second_lt, t.nano_lt]

/-- The time of day that is shown so. -/
def ofShown? (hour minute second nano : Nat) : Option TimeOfDay :=
  if 1000000000 ≤ nano then none
  else if second = 60 then ofParts? hour minute 59 (nano + 1000000000)
  else ofParts? hour minute second nano

theorem shownSecond_le (t : TimeOfDay) : t.shownSecond ≤ 60 := by
  have := t.second_lt
  have := t.nano_lt
  unfold shownSecond
  omega

theorem shownNano_lt (t : TimeOfDay) : t.shownNano < 1000000000 := Nat.mod_lt _ (by decide)

/-- Whole seconds since midnight; a leap second shares the number of the second before it. -/
def seconds (t : TimeOfDay) : Nat := 3600 * t.hour + 60 * t.minute + t.second

end TimeOfDay

namespace Timestamp

/-- Seconds on the scale of `Date.dayNumber`. -/
def seconds (t : Timestamp) : Int := 86400 * t.date.dayNumber + t.time.seconds

def firstSecond : Int := 86400 * (365 * (Calendar.minYear - 1) + (Calendar.minYear - 1) / 4
  - (Calendar.minYear - 1) / 100 + (Calendar.minYear - 1) / 400 + 306)

def lastSecond : Int := 86400 * (365 * Calendar.maxYear + Calendar.maxYear / 4
  - Calendar.maxYear / 100 + Calendar.maxYear / 400 + 306) - 1

end Timestamp

/-- A local timestamp with its offset from universal time in minutes. The same moment in universal
time lies within the supported years. -/
structure OffsetTimestamp where
  timestamp : Timestamp
  offset : Int
  offset_lt : -1440 < offset ∧ offset < 1440
  inRange : Timestamp.firstSecond ≤ timestamp.seconds - 60 * offset ∧
    timestamp.seconds - 60 * offset ≤ Timestamp.lastSecond
  deriving DecidableEq, Repr

namespace OffsetTimestamp

def of? (timestamp : Timestamp) (offset : Int) : Option OffsetTimestamp :=
  if ho : -1440 < offset ∧ offset < 1440 then
    if hr : Timestamp.firstSecond ≤ timestamp.seconds - 60 * offset ∧
        timestamp.seconds - 60 * offset ≤ Timestamp.lastSecond then
      some ⟨timestamp, offset, ho, hr⟩
    else none
  else none

theorem of?_self (t : OffsetTimestamp) : of? t.timestamp t.offset = some t := by
  simp [of?, t.offset_lt, t.inRange]

def moment (t : OffsetTimestamp) : Int × Nat :=
  (t.timestamp.seconds - 60 * t.offset, t.timestamp.time.nano)

def equal (a b : OffsetTimestamp) : Bool := a.moment == b.moment

end OffsetTimestamp

end SqlExecution
