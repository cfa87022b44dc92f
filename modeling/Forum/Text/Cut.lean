/-!
# Cutting a text

What stands behind a given start, behind the last occurrence of a character, and between the occurrences of one.
-/

namespace Forum.Text

/-- The rest of a text that starts with the given characters. -/
def after? : List Char → List Char → Option (List Char)
  | [], cs => some cs
  | _ :: _, [] => none
  | s :: start, c :: cs => if s = c then after? start cs else none

/-- What stands behind the last occurrence of a character; all where there is none. -/
def behindLast (c : Char) (cs : List Char) : List Char := (cs.reverse.takeWhile (· != c)).reverse

/-- What stands before, between and behind the occurrences of a character; `piece` holds the characters of the open
piece, last first. -/
def piecesFrom (c : Char) (piece : List Char) : List Char → List (List Char)
  | [] => [piece.reverse]
  | d :: cs => if d = c then piece.reverse :: piecesFrom c [] cs else piecesFrom c (d :: piece) cs

/-- What stands before, between and behind the occurrences of a character. -/
def pieces (c : Char) (cs : List Char) : List (List Char) := piecesFrom c [] cs

end Forum.Text
