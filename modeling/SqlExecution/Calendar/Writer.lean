import SqlExecution.Calendar.Basic

/-! The text of dates and timestamps. A year outside 0 to 9999 is signed; a fraction of a second
takes three, six or nine digits, or none when it is zero. -/

namespace SqlExecution

namespace Calendar

def padded (width n : Nat) : List Char :=
  let ds := Nat.toDigits 10 n
  List.replicate (width - ds.length) '0' ++ ds

def yearChars (year : Int) : List Char :=
  if 0 ≤ year ∧ year ≤ 9999 then padded 4 year.toNat
  else (if year < 0 then '-' else '+') :: padded 4 year.natAbs

def fractionChars (nano : Nat) : List Char :=
  if nano = 0 then []
  else if nano % 1000000 = 0 then '.' :: padded 3 (nano / 1000000)
  else if nano % 1000 = 0 then '.' :: padded 6 (nano / 1000)
  else '.' :: padded 9 nano

def offsetChars (offset : Int) : List Char :=
  (if offset < 0 then '-' else '+') ::
    (padded 2 (offset.natAbs / 60) ++ ':' :: padded 2 (offset.natAbs % 60))

end Calendar

open Calendar

def Date.chars (d : Date) : List Char :=
  yearChars d.year ++ '-' :: (padded 2 d.month ++ '-' :: padded 2 d.day)

def TimeOfDay.chars (t : TimeOfDay) : List Char :=
  padded 2 t.hour ++ ':' :: (padded 2 t.minute ++ ':' ::
    (padded 2 t.shownSecond ++ fractionChars t.shownNano))

def Timestamp.chars (separator : Char) (t : Timestamp) : List Char :=
  t.date.chars ++ separator :: t.time.chars

def OffsetTimestamp.chars (t : OffsetTimestamp) : List Char :=
  t.timestamp.chars 'T' ++ offsetChars t.offset

def OffsetTimestamp.zuluChars (t : OffsetTimestamp) : List Char :=
  t.timestamp.chars 'T' ++ (if t.offset = 0 then ['Z'] else offsetChars t.offset)

end SqlExecution
