import Forum.Domain.Mapping
import Forum.Text.Composition
import Forum.Text.Cut
import Forum.Text.Direction
import Forum.Text.Joining
import Forum.Text.Punycode

/-!
# Labels of domain names

The parts between the points of a name. A label starts with no mark, a joiner in it stands where it has an effect, and
in a name with characters that are written from right to left every label keeps to one direction.

A label may be written in ASCII, behind `xn--`. Such a label spells one that is not ASCII and that no rule of reading
names would change.
-/

namespace Forum.Domain

open Text

/-! ## Joiners -/

/-- Marks of this class take the vowel off a letter. -/
def viramaClass : Nat := 9

/-- The first character that letters do not join past. -/
def firstJoining (cs : List Char) : Option Char := cs.find? fun c => !isTransparent c

/-- A joiner has an effect: behind a mark that takes off a vowel, or, if it keeps letters apart, between two letters
that would join. The characters before it come last first. -/
def joinerFits (joiner : Char) (before after : List Char) : Bool :=
  before.head?.any (fun c => Composition.classOf c == viramaClass) ||
    (joiner == '\u200c' && (firstJoining before).any joinsOnward && (firstJoining after).any joinsBackward)

/-- Every joiner has an effect. -/
def joinersFit (before : List Char) : List Char → Bool
  | [] => true
  | c :: cs => (!isJoiner c || joinerFits c before cs) && joinersFit (c :: before) cs

/-! ## Directions -/

/-- Characters that make a name one with two directions. -/
def isRightward (c : Char) : Bool :=
  match Direction.of c with
  | .rightToLeft | .arabicDigit => true
  | _ => false

/-- In a label from left to right there is nothing of the other direction, and it ends in a letter or a digit, up to
marks. The directions come last first. -/
def keepsLeft (directions : List Direction) : Bool :=
  directions.all (fun d => d ≠ .rightToLeft ∧ d ≠ .arabicDigit) &&
    (directions.find? (· ≠ .inherited)).any fun d => d = .leftToRight ∨ d = .digit

/-- In a label from right to left there are no letters of the other direction and no digits of two kinds, and it ends in
a letter or a digit, up to marks. The directions come last first. -/
def keepsRight (directions : List Direction) : Bool :=
  directions.all (· ≠ .leftToRight) && !(directions.contains .digit && directions.contains .arabicDigit) &&
    (directions.find? (· ≠ .inherited)).any fun d => d = .rightToLeft ∨ d = .digit ∨ d = .arabicDigit

/-- A label keeps to the direction in which it starts. -/
def keepsDirection (label : List Char) : Bool :=
  let directions := label.map Direction.of
  match directions with
  | [] => true
  | .leftToRight :: _ => keepsLeft directions.reverse
  | .rightToLeft :: _ => keepsRight directions.reverse
  | _ => false

/-! ## The whole -/

/-- A label that is read as it is. -/
def isSound (label : List Char) : Bool := !label.head?.any isMark && joinersFit [] label

/-- What is spelled behind `xn--`: not only ASCII, and nothing that would be read as something else. -/
def spelled? (cs : List Char) : Option (List Char) :=
  (Punycode.decode? cs).filter fun label =>
    label.any (fun c => 0x80 ≤ c.toNat) && label.all isPlain && Composition.compose label == label

/-- The label that is meant, if there is one. -/
def meant? (label : List Char) : Option (List Char) :=
  let meant := match after? ['x', 'n', '-', '-'] label with
    | some cs => spelled? cs
    | none => some label
  meant.filter isSound

end Forum.Domain
