import Forum.Text.Cut
import Forum.Text.Decimal

/-!
# Addresses of the Internet Protocol

Version 4 is four numbers with points between them; where a host may be a name, there may also be fewer numbers, of
which the last one stands for all octets that are left, and they may be octal or hexadecimal. Version 6 is eight groups
of hexadecimal digits, or fewer with one gap, and may end in an address of version 4.
-/

namespace Forum.Url.Address

open Text

/-! ## Version 4 -/

/-- A number from 0 to 255 without leading zeros. -/
def isOctet (cs : List Char) : Bool :=
  cs.all Decimal.isDigit && ((Decimal.ofDigits? cs).any (· < 256)) && (cs.length == 1 || cs.head? != some '0')

/-- Four numbers with points between them. -/
def isVersion4 (cs : List Char) : Bool :=
  let parts := pieces '.' cs
  parts.length == 4 && parts.all isOctet

/-- The value of a digit, which may be a hexadecimal one. -/
def hexDigit? (c : Char) : Option Nat :=
  if 'a' ≤ c ∧ c ≤ 'f' then some (c.toNat - 'a'.toNat + 10)
  else if 'A' ≤ c ∧ c ≤ 'F' then some (c.toNat - 'A'.toNat + 10)
  else Decimal.digit? c

/-- Reads digits of a base onto the number read so far. -/
def readOnto (base n : Nat) : List Char → Option Nat
  | [] => some n
  | c :: cs => ((hexDigit? c).filter (· < base)).bind fun d => readOnto base (base * n + d) cs

/-- A number: hexadecimal behind `0x`, octal behind a zero. -/
def number? : List Char → Option Nat
  | [] => none
  | '0' :: 'x' :: cs | '0' :: 'X' :: cs => readOnto 16 0 cs
  | '0' :: c :: cs => readOnto 8 0 (c :: cs)
  | cs => readOnto 10 0 cs

/-- What stands between the points of a name. A point at the end does not count. -/
def parts (name : List Char) : List (List Char) :=
  match (pieces '.' name).reverse with
  | [] :: p :: ps => (p :: ps).reverse
  | ps => ps.reverse

/-- The name is meant as an address: its last part is a number. -/
def endsInNumber (name : List Char) : Bool :=
  match (parts name).getLast? with
  | none => false
  | some last => (!last.isEmpty && last.all Decimal.isDigit) || (number? last).isSome

/-- The numbers are octets, up to the last one, which fills what is left of the four octets. -/
def fillsFour : List Nat → Nat → Bool
  | [], _ => false
  | [n], left => n < 256 ^ left
  | n :: ns, left => n < 256 && fillsFour ns (left - 1)

/-- At most four numbers that make up four octets. -/
def isLooseVersion4 (name : List Char) : Bool :=
  let ps := parts name
  ps.length ≤ 4 && (ps.mapM number?).any fun ns => fillsFour ns 4

/-! ## Version 6 -/

/-- A group: one to four hexadecimal digits. -/
def isGroup (cs : List Char) : Bool := !cs.isEmpty && cs.length ≤ 4 && cs.all fun c => (hexDigit? c).isSome

/-- How many groups the pieces are; an address of version 4 at the end counts as two. -/
def groupCount? (mixed : Bool) : List (List Char) → Option Nat
  | [] => some 0
  | [p] => if isGroup p then some 1 else if mixed && isVersion4 p then some 2 else none
  | p :: ps => if isGroup p then (groupCount? mixed ps).map (· + 1) else none

/-- How many groups a part of an address has; an empty part has none. -/
def partCount? (mixed : Bool) (cs : List Char) : Option Nat :=
  if cs.isEmpty then some 0 else groupCount? mixed (pieces ':' cs)

/-- What stands before and behind the first two colons in a row. -/
def splitGap (before : List Char) : List Char → Option (List Char × List Char)
  | ':' :: ':' :: cs => some (before.reverse, cs)
  | c :: cs => splitGap (c :: before) cs
  | [] => none

/-- Eight groups, or fewer with one gap. -/
def isVersion6 (cs : List Char) : Bool :=
  match splitGap [] cs with
  | none => groupCount? true (pieces ':' cs) == some 8
  | some (before, behind) =>
    match partCount? false before, partCount? true behind with
    | some m, some n => m + n ≤ 7
    | _, _ => false

end Forum.Url.Address
