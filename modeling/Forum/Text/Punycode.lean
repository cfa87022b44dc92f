/-!
# Punycode

A text of any characters written with letters, digits and hyphens. In front, up to the last hyphen, stand the basic
characters. What follows are numbers, one for each other character, in the order of the characters: how far the place to
insert the next one lies behind the place of the last, where going past the end means to go on with the next code point.

A number has digits in base 36, the lowest first; a digit below its threshold is the last one. Thresholds adapt to the
numbers read so far.
-/

namespace Forum.Text.Punycode

/-- The value of a digit: letters, then digits. -/
def digit? (c : Char) : Option Nat :=
  if 'a' ≤ c ∧ c ≤ 'z' then some (c.toNat - 'a'.toNat)
  else if 'A' ≤ c ∧ c ≤ 'Z' then some (c.toNat - 'A'.toNat)
  else if '0' ≤ c ∧ c ≤ '9' then some (c.toNat - '0'.toNat + 26)
  else none

/-- The threshold of the digit at a position, which counts in steps of 36. -/
def threshold (position bias : Nat) : Nat := min (max (position - bias) 1) 26

/-- Divides a number by 35 until it is small, and counts the divisions in steps of 36. -/
def shrink (delta steps : Nat) : Nat × Nat :=
  if 455 < delta then shrink (delta / 35) (steps + 36) else (delta, steps)
termination_by delta

/-- The bias behind a number, when `count` characters are there. -/
def adapt (delta count : Nat) (isFirst : Bool) : Nat :=
  let delta := if isFirst then delta / 700 else delta / 2
  let (delta, steps) := shrink (delta + delta / count) 0
  steps + 36 * delta / (delta + 38)

/-- Reads a number, of which `sum` is known, and what follows it. -/
def number? (bias : Nat) (sum weight position : Nat) : List Char → Option (Nat × List Char)
  | [] => none
  | c :: cs => do
    let d ← digit? c
    let t := threshold position bias
    if d < t then some (sum + d * weight, cs)
    else number? bias (sum + d * weight) (weight * (36 - t)) (position + 36) cs

/-- A number has a digit. -/
theorem number?_length {bias : Nat} {cs rest : List Char} {sum weight position n : Nat}
    (h : number? bias sum weight position cs = some (n, rest)) : rest.length < cs.length := by
  induction cs generalizing sum weight position with
  | nil => simp [number?] at h
  | cons c cs ih =>
    rw [number?] at h
    cases hd : digit? c with
    | none => simp [hd] at h
    | some d =>
      simp only [hd, bind, Option.bind] at h
      split at h
      · cases h; simp
      · exact Nat.lt_succ_of_lt (ih h)

/-- The state between two numbers. -/
structure State where
  bias : Nat
  /-- The code point to insert next. -/
  code : Nat
  /-- The place from which the next number counts. -/
  place : Nat
  text : List Char
deriving DecidableEq, Repr

namespace State

/-- The state behind the basic characters. -/
def start (basic : List Char) : State := ⟨72, 0x80, 0, basic⟩

/-- Inserts the character that a number stands for. -/
def insert? (s : State) (delta : Nat) : Option State :=
  let count := s.text.length + 1
  let code := s.code + (s.place + delta) / count
  let place := (s.place + delta) % count
  if code.isValidChar then
    some ⟨adapt delta count (s.place == 0), code, place + 1, s.text.insertIdx place (Char.ofNat code)⟩
  else none

end State

/-- Reads numbers to the end and inserts what they stand for. -/
def insertAll (s : State) (cs : List Char) : Option (List Char) :=
  match cs with
  | [] => some s.text
  | c :: cs =>
    match _h : number? s.bias 0 1 36 (c :: cs) with
    | none => none
    | some (delta, rest) =>
      match s.insert? delta with
      | none => none
      | some s => insertAll s rest
termination_by cs.length
decreasing_by exact number?_length _h

/-- The basic characters and the numbers behind them. A hyphen in front of everything is part of no number. -/
def split (cs : List Char) : List Char × List Char :=
  let numbers := (cs.reverse.takeWhile (· ≠ '-')).reverse
  let basic := cs.take (cs.length - numbers.length - 1)
  if basic.isEmpty then ([], cs) else (basic, numbers)

/-- The text that is written. -/
def decode? (cs : List Char) : Option (List Char) :=
  let (basic, numbers) := split cs
  if basic.all fun c => c.toNat < 0x80 then insertAll (.start basic) numbers else none

end Forum.Text.Punycode
