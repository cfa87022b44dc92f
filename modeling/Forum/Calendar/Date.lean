/-!
# Dates

Days of the proleptic Gregorian calendar between the years -262143 and 262142.
-/

namespace Forum.Calendar

/-- The earliest year of the calendar. -/
def minYear : Int := -262143

/-- The latest year of the calendar. -/
def maxYear : Int := 262142

def isLeap (year : Int) : Bool := year % 4 == 0 && (year % 100 != 0 || year % 400 == 0)

/-- The number of days of a month; there is none for a number that is no month. -/
def daysIn (year : Int) (month : Nat) : Nat :=
  match month with
  | 1 | 3 | 5 | 7 | 8 | 10 | 12 => 31
  | 4 | 6 | 9 | 11 => 30
  | 2 => if isLeap year then 29 else 28
  | _ => 0

/-- A day of the calendar. -/
structure Date where
  year : Int
  month : Nat
  day : Nat
  year_ge : minYear ≤ year
  year_le : year ≤ maxYear
  day_pos : 1 ≤ day
  day_le : day ≤ daysIn year month
deriving DecidableEq, Repr

namespace Date

/-- The day of a year, month and day of the month, if the calendar has it. -/
def of? (year : Int) (month day : Nat) : Option Date :=
  if h : minYear ≤ year ∧ year ≤ maxYear ∧ 1 ≤ day ∧ day ≤ daysIn year month then
    some ⟨year, month, day, h.1, h.2.1, h.2.2.1, h.2.2.2⟩
  else none

/-- The following day; the last one has none. -/
def next? (d : Date) : Option Date :=
  of? d.year d.month (d.day + 1) <|> of? d.year (d.month + 1) 1 <|> of? (d.year + 1) 1 1

/-- The day before; the first one has none. -/
def previous? (d : Date) : Option Date :=
  of? d.year d.month (d.day - 1) <|> of? d.year (d.month - 1) (daysIn d.year (d.month - 1)) <|>
    of? (d.year - 1) 12 31

/-- Order in time. -/
def compare (a b : Date) : Ordering :=
  (Ord.compare a.year b.year).then ((Ord.compare a.month b.month).then (Ord.compare a.day b.day))

end Date

end Forum.Calendar
