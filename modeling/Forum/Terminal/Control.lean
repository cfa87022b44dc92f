/-!
# Control sequences

A text for a terminal holds controls and sequences that start with the control ESC. Reading such a text, every character
is shown or is part of something that is not shown:

* a sequence of ESC, characters of its kind and one last character;
* a string that some sequences open, up to the character that ends it;
* a control on its own, unless it is a blank or ends a line.

`visible` is what remains to be seen. A blank control inside a sequence breaks the sequence off.
-/

namespace Forum.Terminal

/-- Where the reader of a text stands. -/
inductive Mode where
  /-- Between sequences, where characters are shown. -/
  | ground
  /-- Behind ESC. -/
  | escape
  /-- Behind ESC and an intermediate character. -/
  | intermediate
  /-- In a sequence with parameters, opened by ESC and `[`. -/
  | control
  /-- At the start of a sequence for a device, opened by ESC and `P`. -/
  | device
  /-- In the parameters of a sequence for a device. -/
  | deviceParameter
  /-- In the intermediate characters of a sequence for a device. -/
  | deviceIntermediate
  /-- In a string up to the end of strings. -/
  | string
  /-- In a string up to BEL, opened by ESC and `]`. -/
  | command
deriving DecidableEq, Repr

/-- Controls that are shown wherever controls count: they set the text apart. -/
def isBlankControl (c : Char) : Bool := c == '\t' || c == '\n' || c == '\x0c' || c == '\r'

/-- The character is from a range of code points, ends included. -/
def within (low high : Nat) (c : Char) : Bool := low ≤ c.toNat && c.toNat ≤ high

/-- One of the octets of the character is the one that ends strings. A leading octet never is. -/
def endsString (c : Char) : Bool := (String.utf8EncodeChar c).contains 0x9C

/-- Intermediate characters stand between the start of a sequence and its last character. -/
def isIntermediate (c : Char) : Bool := within 0x20 0x2F c

/-- What follows ESC: the last character of a short sequence, or the start of a longer one. -/
def afterEscape (c : Char) : Mode :=
  if isIntermediate c then .intermediate
  else if c = '[' then .control
  else if c = ']' then .command
  else if c = 'P' then .device
  else if c = 'X' ∨ c = '^' ∨ c = '_' then .string
  else if within 0x30 0x7E c then .ground
  else .escape

/-- What follows in the introduction of a sequence for a device. -/
def afterDevice (mode : Mode) (c : Char) : Mode :=
  if within 0x40 0x7E c then .string
  else if isIntermediate c then .deviceIntermediate
  else if within 0x30 0x3F c then
    if mode = .device ∨ (mode = .deviceParameter ∧ c.toNat ≤ 0x3B) then .deviceParameter else .string
  else mode

/-- The mode behind a character that is not shown. -/
def Mode.next (mode : Mode) (c : Char) : Mode :=
  if c = '\x1b' then .escape
  else if c = '\x18' ∨ c = '\x1a' then .ground
  else
    match mode with
    | .ground => .ground
    | .escape => afterEscape c
    | .intermediate => if within 0x30 0x7E c then .ground else .intermediate
    | .control => if within 0x40 0x7E c then .ground else .control
    | .device | .deviceParameter | .deviceIntermediate => afterDevice mode c
    | .string => if endsString c then .ground else .string
    | .command => if c = '\x07' then .ground else .command

/-- The character is shown. -/
def Mode.shows (mode : Mode) (c : Char) : Bool :=
  match mode with
  | .ground => isBlankControl c || (0x20 ≤ c.toNat && c ≠ '\x7f')
  | .escape | .intermediate | .control => isBlankControl c
  | _ => false

/-- What is seen of characters. -/
def visibleFrom (mode : Mode) : List Char → List Char
  | [] => []
  | c :: cs => if mode.shows c then c :: visibleFrom .ground cs else visibleFrom (mode.next c) cs

/-- What is seen of a text. -/
def visible (text : String) : String := String.ofList (visibleFrom .ground text.toList)

end Forum.Terminal
