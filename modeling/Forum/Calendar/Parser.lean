import Forum.Calendar.Instant
import Forum.Text.Blank
import Forum.Text.Decimal

/-!
# Reading an instant

The reader takes what `Instant.text` writes and more: blanks before a number or a mark, one digit for two, a space or a
lower-case `t` between date and time, any number of digits in the fraction, and an offset from UTC with or without a
colon, or the word `UTC`. Parts are checked as they are read, from left to right; whether the calendar has
the day, and whether the offset is less than a day, is checked last.
-/

namespace Forum.Calendar

open Forum.Text

/-- Why a text is no instant. -/
inductive ParseError where
  | outOfRange
  | impossible
  | invalid
  | tooShort
  | tooLong
deriving DecidableEq, Repr

def ParseError.message : ParseError → String
  | .outOfRange => "input is out of range"
  | .impossible => "no possible date and time matching input"
  | .invalid => "input contains invalid characters"
  | .tooShort => "premature end of input"
  | .tooLong => "trailing input"

namespace Parser

/-- The fields of a local time with its offset from UTC in seconds. -/
structure Fields where
  year : Int
  month : Nat
  day : Nat
  hour : Nat
  minute : Nat
  second : Nat
  nano : Nat
  offset : Int
deriving DecidableEq, Repr

/-- A step reads a part of the text and leaves the rest. -/
abbrev Step (α : Type) := List Char → Except ParseError (α × List Char)

/-- Numbers do not reach this bound. -/
def wordBound : Nat := Nat.pow 2 63

/-- At most `width` digits read onto `n`. -/
def digitsOnto : (width n : Nat) → Step Nat
  | 0, n, cs => .ok (n, cs)
  | _, n, [] => .ok (n, [])
  | width + 1, n, c :: cs =>
    match Decimal.digit? c with
    | none => .ok (n, c :: cs)
    | some d => if 10 * n + d < wordBound then digitsOnto width (10 * n + d) cs else .error .outOfRange

/-- A number of one digit to `width` digits. -/
def number (width : Nat) : Step Nat
  | [] => .error .tooShort
  | c :: cs => if Decimal.isDigit c then digitsOnto width 0 (c :: cs) else .error .invalid

/-- A number of one or two digits, after blanks, between two bounds. -/
def twoDigits (low high : Nat) : Step Nat := fun cs => do
  let (n, cs) ← number 2 (trimStart cs)
  if low ≤ n ∧ n ≤ high then .ok (n, cs) else .error .outOfRange

/-- Years are below this bound, and not below its negative. -/
def yearBound : Nat := Nat.pow 2 31

/-- A year: with a sign of any number of digits, without one of at most four. -/
def year : Step Int := fun cs => do
  let (y, cs) ← (match trimStart cs with
    | '-' :: ds => (number ds.length ds).map fun (n, r) => (-(n : Int), r)
    | '+' :: ds => (number ds.length ds).map fun (n, r) => ((n : Int), r)
    | ds => (number 4 ds).map fun (n, r) => ((n : Int), r))
  if -yearBound ≤ y ∧ y < yearBound then .ok (y, cs) else .error .outOfRange

/-- A mark after blanks. -/
def mark (m : Char) : Step Unit := fun cs =>
  match trimStart cs with
  | [] => .error .tooShort
  | c :: cs => if c = m then .ok ((), cs) else .error .invalid

/-- The separator of date and time. -/
def separator : Step Unit
  | [] => .error .tooShort
  | c :: cs => if c = 't' ∨ c = 'T' ∨ c = ' ' then .ok ((), cs) else .error .invalid

/-- The fraction of a second in nanoseconds, zero where there is no point. Digits after the ninth do not count. -/
def fraction : Step Nat
  | '.' :: cs => do
    let (n, rest) ← number 9 cs
    .ok (n * Nat.pow 10 (9 - (cs.length - rest.length)), rest.dropWhile Decimal.isDigit)
  | cs => .ok (0, cs)

/-- The fault of a last character where two digits belong: one octet is too few, and more are not digits. -/
def brokenPair (c : Char) : ParseError := if c.utf8Size < 2 then .tooShort else .invalid

/-- The minutes of an offset. -/
def offsetMinutes : Step Nat
  | [] => .error .tooShort
  | [c] => .error (brokenPair c)
  | a :: b :: rest =>
    match Decimal.digit? a, Decimal.digit? b with
    | some m, some n => if m < 6 then .ok (10 * m + n, rest) else .error .outOfRange
    | _, _ => .error .invalid

/-- Hours and minutes of an offset after its sign, in seconds. -/
def offsetSeconds : Step Nat
  | [] => .error .tooShort
  | [c] => .error (brokenPair c)
  | a :: b :: rest =>
    match Decimal.digit? a, Decimal.digit? b with
    | some h, some k => do
      let (m, rest) ← offsetMinutes (rest.dropWhile fun c => c == ':' || isBlank c)
      .ok ((10 * h + k) * 3600 + m * 60, rest)
    | _, _ => .error .invalid

/-- An offset after `Z`, a sign or the word `UTC`; a minus sign is a hyphen or the mathematical one. -/
def offset : Step Int
  | [] => .error .tooShort
  | c :: cs =>
    if (c = 'u' ∨ c = 'U') ∧ (cs.take 2 = ['t', 'c'] ∨ cs.take 2 = ['T', 'C'] ∨ cs.take 2 = ['t', 'C'] ∨
        cs.take 2 = ['T', 'c']) then .ok (0, cs.drop 2)
    else if c = 'z' ∨ c = 'Z' then .ok (0, cs)
    else if c = '+' then (offsetSeconds cs).map fun (n, r) => ((n : Int), r)
    else if c = '-' ∨ c = '−' then (offsetSeconds cs).map fun (n, r) => (-(n : Int), r)
    else .error .invalid

/-- All fields in their order. -/
def fields : Step Fields := fun cs => do
  let (year, cs) ← year cs
  let (_, cs) ← mark '-' cs
  let (month, cs) ← twoDigits 1 12 cs
  let (_, cs) ← mark '-' cs
  let (day, cs) ← twoDigits 1 31 cs
  let (_, cs) ← separator cs
  let (hour, cs) ← twoDigits 0 23 cs
  let (_, cs) ← mark ':' cs
  let (minute, cs) ← twoDigits 0 59 cs
  let (_, cs) ← mark ':' cs
  let (second, cs) ← twoDigits 0 60 cs
  let (nano, cs) ← fraction cs
  let (offset, cs) ← offset (trimStart cs)
  .ok (⟨year, month, day, hour, minute, second, nano, offset⟩, cs)

/-- The instant that fields name. The sixtieth second is the leap second of its minute. -/
def Fields.instant (f : Fields) : Except ParseError Instant :=
  let second := f.hour * 3600 + f.minute * 60 + min f.second 59
  let nano := if f.second = 60 then nanosPerSecond + f.nano else f.nano
  match Date.of? f.year f.month f.day with
  | none => .error .outOfRange
  | some date =>
    if f.offset.natAbs < secondsPerDay then
      match Instant.ofLocal? date second nano f.offset with
      | none => .error .impossible
      | some t => .ok t
    else .error .outOfRange

end Parser

/-- The instant that characters name. -/
def Instant.parseChars (cs : List Char) : Except ParseError Instant := do
  let (f, rest) ← Parser.fields cs
  if (trimStart rest).isEmpty then f.instant else .error .tooLong

/-- The instant that a text names. -/
def Instant.parse (s : String) : Except ParseError Instant := Instant.parseChars s.toList

end Forum.Calendar
