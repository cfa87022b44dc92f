import Forum.Calendar.Date

/-!
# Instants

A point in time of the UTC calendar, to the nanosecond. A leap second is the second after the last one of a minute: it
is kept as the last second of its minute with a billion nanoseconds or more.
-/

namespace Forum.Calendar

/-- The nanoseconds of a second. -/
def nanosPerSecond : Nat := 1000000000

/-- The seconds of a day. -/
def secondsPerDay : Nat := 86400

/-- A point in time. A billion nanoseconds or more are for the last second of a minute alone: no clock, text or column
gives them to another second, and an instant that had them there would be written as the second after it. -/
structure Instant where
  date : Date
  /-- Seconds since midnight. -/
  second : Nat
  /-- Nanoseconds since the start of the second. -/
  nano : Nat
  second_lt : second < secondsPerDay
  nano_lt : nano < nanosPerSecond ∨ (nano < 2 * nanosPerSecond ∧ second % 60 = 59)
deriving DecidableEq, Repr

namespace Instant

/-- The instant of a date, a second of the day and nanoseconds, if they are in range. -/
def of? (date : Date) (second nano : Nat) : Option Instant :=
  if h : second < secondsPerDay ∧ (nano < nanosPerSecond ∨ (nano < 2 * nanosPerSecond ∧ second % 60 = 59)) then
    some ⟨date, second, nano, h.1, h.2⟩
  else none

/-- Order in time. -/
def compare (a b : Instant) : Ordering :=
  (a.date.compare b.date).then ((Ord.compare a.second b.second).then (Ord.compare a.nano b.nano))

/-- The instant that a clock `offset` seconds ahead of UTC shows as the given local time; the offset is less than a day
either way. There is none where the calendar ends. -/
def ofLocal? (date : Date) (second nano : Nat) (offset : Int) : Option Instant :=
  let s : Int := second - offset
  if s < 0 then date.previous?.bind fun d => of? d (s + secondsPerDay).toNat nano
  else if s < secondsPerDay then of? date s.toNat nano
  else date.next?.bind fun d => of? d (s - secondsPerDay).toNat nano

/-- The first instant of the calendar year 2000. -/
def millennium : Instant where
  date := ⟨2000, 1, 1, by decide, by decide, by decide, by decide⟩
  second := 0
  nano := 0
  second_lt := by decide
  nano_lt := .inl (by decide)

/-- The start of the following second of a day. -/
def nextSecond? (date : Date) (second : Nat) : Option Instant :=
  if second + 1 < secondsPerDay then of? date (second + 1) 0 else date.next?.bind fun d => of? d 0 0

/-- The instant as clocks without leap seconds count it: a leap second is the second that follows it. -/
def withoutLeap? (t : Instant) : Option Instant :=
  if t.nano < nanosPerSecond then some t
  else (nextSecond? t.date t.second).bind fun u => of? u.date u.second (t.nano - nanosPerSecond)

/-- The instant with whole microseconds that a database column holds: finer digits are cut off towards the start of the
year 2000, and leap seconds are not told apart. Where the calendar ends there is none. -/
def micros? (t : Instant) : Option Instant :=
  t.withoutLeap?.bind fun u =>
    let cut := u.nano / 1000 * 1000
    if u.compare millennium == .lt && cut != u.nano then
      if cut + 1000 < nanosPerSecond then of? u.date u.second (cut + 1000) else nextSecond? u.date u.second
    else of? u.date u.second cut

/-- The instant with whole microseconds; one at the very end of the calendar stays as it is. -/
def toMicros (t : Instant) : Instant := t.micros?.getD t

end Instant

end Forum.Calendar
