import Forum.Calendar.Instant
import Forum.Text.Decimal

/-!
# The text of an instant

Year, month, day, `T`, hour, minute, second and `Z`. A year outside of 0 to 9999 has a sign and at least four digits.
The fraction of a second has no digit, three, six or nine, the fewest that are exact. A leap second is written `60`.
-/

namespace Forum.Calendar

open Forum.Text

/-- The text of a year. -/
def yearText (year : Int) : List Char :=
  let digits := if year.natAbs < 10000 then Decimal.padded 4 year.natAbs else Decimal.digits year.natAbs
  if year < 0 then '-' :: digits
  else if year ≤ 9999 then digits
  else '+' :: digits

/-- The text of a date. -/
def Date.text (d : Date) : List Char :=
  yearText d.year ++ '-' :: Decimal.padded 2 d.month ++ '-' :: Decimal.padded 2 d.day

/-- The digits after the point. -/
def fractionText (nano : Nat) : List Char :=
  if nano = 0 then []
  else if nano % 1000000 = 0 then '.' :: Decimal.padded 3 (nano / 1000000)
  else if nano % 1000 = 0 then '.' :: Decimal.padded 6 (nano / 1000)
  else '.' :: Decimal.padded 9 nano

namespace Instant

/-- The text of the time of day. -/
def timeText (t : Instant) : List Char :=
  Decimal.padded 2 (t.second / 3600) ++ ':' :: Decimal.padded 2 (t.second / 60 % 60) ++
    ':' :: Decimal.padded 2 (t.second % 60 + t.nano / nanosPerSecond) ++ fractionText (t.nano % nanosPerSecond)

/-- The characters of an instant's text. -/
def chars (t : Instant) : List Char := t.date.text ++ 'T' :: t.timeText ++ ['Z']

/-- The text of an instant. -/
def text (t : Instant) : String := String.ofList t.chars

end Instant

end Forum.Calendar
