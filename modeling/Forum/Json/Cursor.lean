/-!
# A place in a JSON text

Reading goes over octets. A place is a line, counted from one, and the octets of the line before it.
-/

namespace Forum.Json

/-- What is still to be read, and the place reached. -/
structure Cursor where
  rest : List UInt8
  line : Nat
  column : Nat
deriving DecidableEq, Repr

/-- The line and column after an octet. -/
def placeAfter (octet : UInt8) (line column : Nat) : Nat × Nat :=
  if octet = 10 then (line + 1, 0) else (line, column + 1)

namespace Cursor

/-- The start of a text. -/
def start (octets : List UInt8) : Cursor := ⟨octets, 1, 0⟩

/-- The cursor after the next octet; at the end it stays. -/
def advance (c : Cursor) : Cursor :=
  match c.rest with
  | [] => c
  | b :: rest => let (line, column) := placeAfter b c.line c.column; ⟨rest, line, column⟩

/-- The next octet. -/
def peek? (c : Cursor) : Option UInt8 := c.rest.head?

/-- The octets that may stand between two tokens. -/
def isSpace (b : UInt8) : Bool := b == 32 || b == 10 || b == 9 || b == 13

/-- Skips the space at the start of octets. -/
def skipFrom : List UInt8 → Nat → Nat → Cursor
  | [], line, column => ⟨[], line, column⟩
  | b :: rest, line, column =>
    if isSpace b then let (l, k) := placeAfter b line column; skipFrom rest l k else ⟨b :: rest, line, column⟩

/-- The cursor at the next token. -/
def skipSpace (c : Cursor) : Cursor := skipFrom c.rest c.line c.column

end Cursor

end Forum.Json
