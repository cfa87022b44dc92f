import Forum.Number.Binary64

/-!
# How alike two words are

Two characters match when they are equal and stand close to each other: not further apart than half of the longer word,
less one. Every character matches at most once, the earliest partner first. The likeness is the mean of three shares:
of matched characters in either word, and of matched characters that come in the same order in both. It is a binary
floating-point number, so that rounding decides in close cases.
-/

namespace Forum.Text.Similarity

open Number

/-- How far apart two matching characters may stand. -/
def reach (a b : List Char) : Nat := max a.length b.length / 2 - 1

/-- Finds the first character `c` that is not taken between two positions of a word, counted from `position`; the answer
is the word with that character taken. -/
def take? (c : Char) (first last position : Nat) : List (Char × Bool) → Option (List (Char × Bool))
  | [] => none
  | (d, taken) :: rest =>
    if first ≤ position ∧ position ≤ last ∧ c = d ∧ !taken then some ((d, true) :: rest)
    else (take? c first last (position + 1) rest).map ((d, taken) :: ·)

/-- The characters of the first word that match, in order, and the second word with its matches taken. -/
def matchFrom (reach position : Nat) : List Char → List (Char × Bool) → List Char × List (Char × Bool)
  | [], b => ([], b)
  | c :: a, b =>
    match take? c (position - reach) (position + reach) 0 b with
    | none => matchFrom reach (position + 1) a b
    | some b =>
      let (matched, b) := matchFrom reach (position + 1) a b
      (c :: matched, b)

/-- The likeness, in steps that are rounded. -/
def likeness? (a b : List Char) : Option Binary64 := do
  let (left, taken) := matchFrom (reach a b) 0 a (b.map fun c => (c, false))
  let right := (taken.filter (·.2)).map (·.1)
  let moved := ((left.zip right).filter fun (c, d) => c ≠ d).length / 2
  if left.isEmpty then some .zero
  else
    let inFirst ← Binary64.round? left.length a.length
    let inSecond ← Binary64.round? left.length b.length
    let inOrder ← Binary64.round? (left.length - moved) left.length
    let sum ← (← inFirst.add? inSecond).add? inOrder
    sum.div? ⟨3, 0⟩

/-- A number for every two words. -/
def likeness (a b : List Char) : Binary64 := (likeness? a b).getD .zero

/-- Words are alike above this likeness: seven tenths, rounded. -/
def threshold : Binary64 := (Binary64.round? 7 10).getD .zero

def isSimilar (a b : List Char) : Bool := threshold.isLess (likeness a b)

/-- The second word is at least as like the given one as the first. -/
def atLeast (word a b : List Char) : Bool := !(likeness word b).isLess (likeness word a)

/-- The word most like the given one, the last of several, if any is alike. -/
def mostSimilar? {α : Type} (text : α → List Char) (word : List Char) (candidates : List α) : Option α :=
  (candidates.filter fun c => isSimilar word (text c)).foldl (fun best c =>
    match best with
    | none => some c
    | some b => if atLeast word (text b) (text c) then some c else some b) none

end Forum.Text.Similarity
