/-!
# Decimal numbers

Reading takes ASCII digits with an optional plus sign in front; writing gives the shortest digits, or a fixed number of
them.
-/

namespace Forum.Text.Decimal

/-- The value of an ASCII digit. -/
def digit? (c : Char) : Option Nat :=
  if '0' ≤ c ∧ c ≤ '9' then some (c.toNat - '0'.toNat) else none

def isDigit (c : Char) : Bool := (digit? c).isSome

/-- The digit of a value below ten. -/
def digit (n : Nat) : Char := Char.ofNat ('0'.toNat + n % 10)

/-- Reads digits onto the number read so far. -/
def readOnto (n : Nat) : List Char → Option Nat
  | [] => some n
  | c :: cs => (digit? c).bind fun d => readOnto (10 * n + d) cs

/-- The number written by one digit or more. -/
def ofDigits? : List Char → Option Nat
  | [] => none
  | c :: cs => readOnto 0 (c :: cs)

/-- The number below `bound` that the text writes, with or without a plus sign. -/
def parseBelow (bound : Nat) (cs : List Char) : Option Nat :=
  (ofDigits? (match cs with
    | '+' :: ds => ds
    | ds => ds)).filter (· < bound)

/-- Why a text writes no number below a bound. -/
inductive Fault where
  | empty
  | digit
  | tooLarge
deriving DecidableEq, Repr

def Fault.message : Fault → String
  | empty => "cannot parse integer from empty string"
  | digit => "invalid digit found in string"
  | tooLarge => "number too large to fit in target type"

/-- Reads digits onto the number read so far, which stays below the bound. -/
def readBelow (bound n : Nat) : List Char → Except Fault Nat
  | [] => .ok n
  | c :: cs =>
    match digit? c with
    | none => .error .digit
    | some d => if 10 * n + d < bound then readBelow bound (10 * n + d) cs else .error .tooLarge

/-- The number below `bound` that the text writes, with or without a plus sign, or the first fault. -/
def read (bound : Nat) : List Char → Except Fault Nat
  | [] => .error .empty
  | ['+'] => .error .digit
  | '+' :: cs => readBelow bound 0 cs
  | cs => readBelow bound 0 cs

/-- The last `width` digits of a number, with leading zeros. -/
def padded : Nat → Nat → List Char
  | 0, _ => []
  | width + 1, n => padded width (n / 10) ++ [digit n]

/-- The digits of a number, without leading zeros. -/
def digits (n : Nat) : List Char :=
  if n < 10 then [digit n] else digits (n / 10) ++ [digit n]

/-- The decimal text of a number. -/
def text (n : Nat) : String := String.ofList (digits n)

end Forum.Text.Decimal
