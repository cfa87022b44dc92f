import Forum.Text.Decimal

/-!
# Binary floating-point numbers

Numbers `mantissa * 2 ^ exponent` with 53 bits of mantissa and exponents from -1074 to 971. Results are rounded to the
nearest number, a tie to the even mantissa. The text of a number has the fewest digits that tell it from its neighbours
and, of these, the nearest.
-/

namespace Forum.Number

open Text

/-- A number that is not negative. -/
structure Binary64 where
  mantissa : Nat
  exponent : Int
deriving DecidableEq, Repr

namespace Binary64

def zero : Binary64 := ⟨0, 0⟩

/-- Numerator and denominator of the value. -/
def ratio (x : Binary64) : Nat × Nat :=
  if x.exponent < 0 then (x.mantissa, Nat.pow 2 x.exponent.natAbs) else (x.mantissa * Nat.pow 2 x.exponent.natAbs, 1)

/-- Numerator and denominator of `(num / den) / 2 ^ e`. -/
def scaled (num den : Nat) (e : Int) : Nat × Nat :=
  if e < 0 then (num * Nat.pow 2 e.natAbs, den) else (num, den * Nat.pow 2 e.natAbs)

/-- The nearest whole number, a tie to the even one. -/
def roundHalfEven (num den : Nat) : Nat :=
  let q := num / den
  let r := 2 * (num % den)
  if r < den then q else if den < r then q + 1 else q + q % 2

/-- The number nearest to `num / den`, or none where it is too large. -/
def round? (num den : Nat) : Option Binary64 :=
  if num = 0 then some zero
  else
    let e : Int := max ((num.log2 : Int) - den.log2 - 53) (-1074)
    let (n, d) := scaled num den e
    let e := if n / d < Nat.pow 2 53 then e else e + 1
    let (n, d) := scaled num den e
    let m := roundHalfEven n d
    let (m, e) := if m < Nat.pow 2 53 then (m, e) else (Nat.pow 2 52, e + 1)
    if e ≤ 971 then some ⟨m, e⟩ else none

/-- The sum, rounded. -/
def add? (x y : Binary64) : Option Binary64 :=
  let (a, b) := x.ratio
  let (c, d) := y.ratio
  round? (a * d + c * b) (b * d)

/-- The product, rounded. -/
def mul? (x y : Binary64) : Option Binary64 :=
  let (a, b) := x.ratio
  let (c, d) := y.ratio
  round? (a * c) (b * d)

/-- The quotient, rounded. -/
def div? (x y : Binary64) : Option Binary64 :=
  let (a, b) := x.ratio
  let (c, d) := y.ratio
  round? (a * d) (b * c)

/-- The one number is below the other. -/
def isLess (x y : Binary64) : Bool :=
  let (a, b) := x.ratio
  let (c, d) := y.ratio
  a * d < c * b

/-- The number nearest to a power of ten. -/
def powerOfTen (k : Nat) : Binary64 := (round? (Nat.pow 10 k) 1).getD zero

/-- The number that decimal digits with a power of ten stand for. Powers of ten beyond the largest one are applied in
steps, and every step rounds. There is none where the number is too large. -/
def ofDecimal? (digits : Nat) (exponent : Int) : Option Binary64 :=
  (round? digits 1).bind fun x => scale x exponent
where
  scale (x : Binary64) (k : Int) : Option Binary64 :=
    if k.natAbs ≤ 308 then
      if 0 ≤ k then x.mul? (powerOfTen k.natAbs) else x.div? (powerOfTen k.natAbs)
    else if x.mantissa = 0 then some x
    else if 0 ≤ k then none
    else (x.div? (powerOfTen 308)).bind fun y => scale y (k + 308)
  termination_by k.natAbs

/-! ## Text -/

/-- The distance from the number down to the least value that rounds to it, and up to the greatest, both in units of a
quarter of the mantissa's last place. -/
def reach (x : Binary64) : Nat × Nat :=
  if x.mantissa = Nat.pow 2 52 ∧ -1074 < x.exponent then (1, 2) else (2, 2)

/-- The value `a / b` rounds to the number. -/
def holds (x : Binary64) (a b : Nat) : Bool :=
  let (down, up) := x.reach
  let (n, d) := scaled a b (x.exponent - 2)
  let lo := (4 * x.mantissa - down) * d
  let hi := (4 * x.mantissa + up) * d
  if x.mantissa % 2 = 0 then lo ≤ n && n ≤ hi else lo < n && n < hi

/-- Numerator and denominator of `a * 10 ^ k`. -/
def decimalRatio (a : Nat) (k : Int) : Nat × Nat :=
  if k < 0 then (a, Nat.pow 10 k.natAbs) else (a * Nat.pow 10 k.natAbs, 1)

/-- The multiple of `10 ^ k` nearest to the number, if it or its other neighbour rounds to the number. -/
def nearestOn? (x : Binary64) (k : Int) : Option Nat :=
  let (num, den) := x.ratio
  let (n, d) := if k < 0 then (num * Nat.pow 10 k.natAbs, den) else (num, den * Nat.pow 10 k.natAbs)
  let q := n / d
  let fits (a : Nat) : Bool := let (u, v) := decimalRatio a k; a != 0 && x.holds u v
  let near := roundHalfEven n d
  let far := if near = q then q + 1 else q
  if fits near then some near else if fits far then some far else none

/-- The power of ten of the first digit, for a value that is not zero. -/
def leadingPower (x : Binary64) : Int :=
  let (num, den) := x.ratio
  if den ≤ num then ((Decimal.digits (num / den)).length : Int) - 1
  else
    let k := (Decimal.digits (den / num)).length
    if den ≤ num * Nat.pow 10 (k - 1) then -((k - 1 : Nat) : Int) else -(k : Int)

/-- The shortest digits and their power of ten; `places` is how many digits the next grid has. -/
def shortestFrom (x : Binary64) (top : Int) : Nat → Nat → Nat × Int
  | 0, _ => (x.mantissa, x.exponent)
  | tries + 1, places =>
    let k := top + 1 - places
    match x.nearestOn? k with
    | some a => (a, k)
    | none => shortestFrom x top tries (places + 1)

/-- Digits without trailing zeros, which move into the power. -/
def stripZeros (a : Nat) (k : Int) : Nat × Int :=
  if a = 0 then (0, 0) else if a % 10 = 0 then stripZeros (a / 10) (k + 1) else (a, k)
termination_by a
decreasing_by omega

/-- The text of a number: positional from `0.00001` up to sixteen digits before the point, with an exponent and its sign
elsewhere; a whole number ends in `.0`. -/
def text (x : Binary64) : List Char :=
  if x.mantissa = 0 then "0.0".toList
  else
    let (a, k) := x.shortestFrom x.leadingPower 20 1
    let (a, k) := stripZeros a k
    let ds := Decimal.digits a
    let point : Int := ds.length + k
    if 0 ≤ k ∧ point ≤ 16 then ds ++ List.replicate k.natAbs '0' ++ ['.', '0']
    else if 0 < point ∧ point ≤ 16 then ds.take point.natAbs ++ '.' :: ds.drop point.natAbs
    else if -5 < point ∧ point ≤ 0 then '0' :: '.' :: List.replicate point.natAbs '0' ++ ds
    else
      let power := point - 1
      let tail := 'e' :: (if power < 0 then '-' else '+') :: Decimal.digits power.natAbs
      match ds with
      | [d] => d :: tail
      | d :: rest => d :: '.' :: rest ++ tail
      | [] => tail

end Binary64

end Forum.Number
