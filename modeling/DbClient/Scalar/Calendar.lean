import DbClient.Number.Integer

/-! Dates of the Gregorian calendar, extended to all years, and times of day with leap seconds,
and their text. -/

namespace DbClient

open Number

/-- Whether a year has a twenty-ninth of February. -/
def isLeapYear (year : Int) : Bool :=
  year % 4 = 0 && (year % 100 ≠ 0 || year % 400 = 0)

/-- The number of days of a month, counted from one. -/
def daysOfMonth (year : Int) (month : Nat) : Nat :=
  if month = 2 then if isLeapYear year then 29 else 28
  else if month ∈ [4, 6, 9, 11] then 30
  else 31

/-- A date. Year zero is the year before year one. -/
structure Date where
  year : Int
  month : Nat
  day : Nat
  year_mem : -262143 ≤ year ∧ year ≤ 262142
  month_mem : 1 ≤ month ∧ month ≤ 12
  day_mem : 1 ≤ day ∧ day ≤ daysOfMonth year month
  deriving DecidableEq

namespace Date

/-- The date with this year, month and day, if there is one. -/
def of? (year : Int) (month day : Nat) : Option Date :=
  if hYear : -262143 ≤ year ∧ year ≤ 262142 then
    if hMonth : 1 ≤ month ∧ month ≤ 12 then
      if hDay : 1 ≤ day ∧ day ≤ daysOfMonth year month then
        some ⟨year, month, day, hYear, hMonth, hDay⟩
      else none
    else none
  else none

/-- A year has four digits or more, and a sign unless four digits are enough for it. -/
def yearText (year : Int) : List Char :=
  let digits := paddedText 4 year.natAbs
  if year < 0 then '-' :: digits else if 9999 < year then '+' :: digits else digits

def toText (date : Date) : List Char :=
  yearText date.year ++ '-' :: paddedText 2 date.month ++ '-' :: paddedText 2 date.day

end Date

/-- A time of day. The last second of a minute may be a leap second, whose nanoseconds count on
from a thousand million. -/
structure Time where
  hour : Nat
  minute : Nat
  second : Nat
  nanosecond : Nat
  hour_lt : hour < 24
  minute_lt : minute < 60
  second_lt : second < 60
  nanosecond_lt : nanosecond < if second = 59 then 2000000000 else 1000000000
  deriving DecidableEq

namespace Time

/-- The time with these parts, if there is one. -/
def of? (hour minute second nanosecond : Nat) : Option Time :=
  if hHour : hour < 24 then
    if hMinute : minute < 60 then
      if hSecond : second < 60 then
        if hNano : nanosecond < if second = 59 then 2000000000 else 1000000000 then
          some ⟨hour, minute, second, nanosecond, hHour, hMinute, hSecond, hNano⟩
        else none
      else none
    else none
  else none

/-- A fraction of a second in thousandths, millionths or thousand millionths, whichever is the
first to be exact. -/
def fractionText (nanosecond : Nat) : List Char :=
  if nanosecond = 0 then []
  else if nanosecond % 1000000 = 0 then '.' :: paddedText 3 (nanosecond / 1000000)
  else if nanosecond % 1000 = 0 then '.' :: paddedText 6 (nanosecond / 1000)
  else '.' :: paddedText 9 nanosecond

/-- The text of a time. A leap second is the second with number sixty. -/
def toText (time : Time) : List Char :=
  paddedText 2 time.hour ++ ':' :: paddedText 2 time.minute ++
    ':' :: paddedText 2 (time.second + time.nanosecond / 1000000000) ++
    fractionText (time.nanosecond % 1000000000)

end Time

end DbClient
