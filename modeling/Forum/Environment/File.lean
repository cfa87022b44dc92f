import Forum.Environment
import Forum.Text.Blank
import Forum.Text.Category
import Forum.Text.Decimal
import Forum.Text.Utf8

/-!
# Environment files

A file defines one variable on a line: `NAME=value`, with blanks around the name and the value and the word `export` in
front if one likes. Empty lines and lines that start with `#` say nothing, and a `#` behind a blank ends a value.

A value may be quoted in whole or in parts. Single quotes keep every character. Elsewhere a backslash takes the special
meaning off the next character, and a dollar sign stands before the name of a variable, which is read as its value at
that time. Without braces the name ends at the first character that is neither a letter nor a digit, and that character
stands for itself.
-/

namespace Forum.Environment

open Text

/-- Why a file is not read. -/
inductive FileFault where
  /-- There is no file of that name. -/
  | missing (path : String)
  /-- Reading fails for a reason outside of the file's text. -/
  | unreadable (reason : String)
  /-- A line is no text. -/
  | notText
  /-- A line, or the value on it, cannot be read from an index on. -/
  | badLine (text : String) (index : Nat)
deriving DecidableEq, Repr

namespace FileFault

def message : FileFault → String
  | missing path => s!"File not found: {path}"
  | unreadable reason => reason
  | notText => "stream did not contain valid UTF-8"
  | badLine text index => s!"Error parsing line: '{text}', error at line index: {Decimal.text index}"

/-- The messages of the faults behind this one: those of the operating system stand behind themselves. -/
def causes : FileFault → List String
  | badLine .. => []
  | fault => [fault.message]

end FileFault

/-! ## Values -/

/-- Where the reader of a value stands. -/
inductive Place where
  /-- Outside of single quotes. -/
  | plain
  /-- Inside single quotes. -/
  | single
  /-- Behind a backslash. -/
  | escape
  /-- In a name behind a dollar sign; its characters come last first. -/
  | name (letters : List Char)
  /-- In a name in braces. -/
  | braced (letters : List Char)
  /-- Behind the value. -/
  | over
  | comment
deriving DecidableEq, Repr

/-- The state of reading a value: whether double quotes are open, the place, and what was read, last character first. -/
structure Reading where
  double : Bool
  place : Place
  read : List Char
deriving DecidableEq, Repr

namespace Reading

/-- The start of a value. -/
def start : Reading := ⟨false, .plain, []⟩

/-- Reads a character as it is. -/
def push (s : Reading) (c : Char) : Reading := { s with place := .plain, read := c :: s.read }

/-- Puts the value of a variable in the place of its name. -/
def expand (e : Environment) (s : Reading) (letters : List Char) : Reading :=
  { s with place := .plain
           read := ((e.get? (String.ofList letters.reverse)).getD "").toList.reverse ++ s.read }

/-- The characters that a backslash may precede, with what they stand for. -/
def escaped? (c : Char) : Option Char :=
  if c = '\\' ∨ c = '\'' ∨ c = '"' ∨ c = '$' ∨ c = ' ' then some c
  else if c = 'n' then some '\n'
  else none

/-- Reads a character outside of single quotes and names. -/
def plainStep (s : Reading) (c : Char) : Reading :=
  if c = '$' then { s with place := .name [] }
  else if c = '\\' then { s with place := .escape }
  else if c = '"' then { s with double := !s.double }
  else if s.double then s.push c
  else if c = '\'' then { s with place := .single }
  else if c = ' ' ∨ c = '\t' then { s with place := .over }
  else s.push c

/-- Reads a character; there is no next state where it is out of place. -/
def step (e : Environment) (s : Reading) (c : Char) : Option Reading :=
  match s.place with
  | .plain => some (s.plainStep c)
  | .single => some (if c = '\'' then { s with place := .plain } else { s with read := c :: s.read })
  | .escape => (escaped? c).map s.push
  | .name letters =>
    if isAlphanumeric c then some { s with place := .name (c :: letters) }
    else if c = '\x7b' ∧ letters = [] then some { s with place := .braced [] }
    else if c = '$' then some { s.expand e letters with place := .name [] }
    else some ((s.expand e letters).push c)
  | .braced letters =>
    if c = '\x7d' then some (s.expand e letters) else some { s with place := .braced (c :: letters) }
  | .over =>
    if c = ' ' ∨ c = '\t' then some s
    else if c = '#' then some { s with place := .comment }
    else none
  | .comment => some s

/-- The value at the end of its text, if nothing is left open. -/
def finish (e : Environment) (s : Reading) : Option (List Char) :=
  if s.double then none
  else match s.place with
    | .single | .braced _ => none
    | .name letters => some (s.expand e letters).read.reverse
    | _ => some s.read.reverse

/-- Reads characters one after the other; a refusal gives the index of the one that is out of place. -/
def run (e : Environment) (s : Reading) (index : Nat) : List Char → Except Nat Reading
  | [] => .ok s
  | c :: cs =>
    match s.step e c with
    | none => .error index
    | some s => run e s (index + 1) cs

end Reading

/-- The number of octets of a text. -/
def octets (cs : List Char) : Nat := cs.foldl (fun n c => n + c.utf8Size) 0

/-- The value that a text spells. Where something is left open, the last octet is to blame. -/
def readValue (e : Environment) (cs : List Char) : Except FileFault (List Char) :=
  match Reading.start.run e 0 cs with
  | .error index => .error (.badLine (String.ofList cs) index)
  | .ok s =>
    match s.finish e with
    | none => .error (.badLine (String.ofList cs) (octets cs - 1))
    | some value => .ok value

/-! ## Lines -/

/-- The rest of a line and the octets before it. -/
structure Rest where
  before : Nat
  chars : List Char
deriving DecidableEq, Repr

namespace Rest

/-- The rest behind the characters that fulfil a condition. -/
def skip (p : Char → Bool) (r : Rest) : Rest :=
  ⟨r.before + octets (r.chars.takeWhile p), r.chars.dropWhile p⟩

def skipBlanks (r : Rest) : Rest := r.skip isBlank

/-- Nothing more is defined on the line. -/
def isOver (r : Rest) : Bool :=
  match r.chars with
  | [] => true
  | c :: _ => c == '#'

end Rest

def isAsciiLetter (c : Char) : Bool := ('a' ≤ c && c ≤ 'z') || ('A' ≤ c && c ≤ 'Z')

/-- Names start with an ASCII letter or an underscore. -/
def startsName (c : Char) : Bool := isAsciiLetter c || c == '_'

/-- Names go on with ASCII letters, digits, underscores and points. -/
def continuesName (c : Char) : Bool := isAsciiLetter c || Decimal.isDigit c || c == '_' || c == '.'

/-- The name at the start of the rest. -/
def readName (line : String) (r : Rest) : Except FileFault (String × Rest) :=
  match r.chars with
  | [] => .error (.badLine line r.before)
  | c :: _ =>
    if startsName c then .ok (String.ofList (r.chars.takeWhile continuesName), r.skip continuesName)
    else .error (.badLine line r.before)

/-- The equals sign at the start of the rest. -/
def readEquals (line : String) (r : Rest) : Except FileFault Rest :=
  match r.chars with
  | '=' :: cs => .ok ⟨r.before + 1, cs⟩
  | _ => .error (.badLine line r.before)

/-- The name that a line defines and the rest behind the equals sign. The word `export` is a name itself where an equals
sign follows. -/
def readDefined (line : String) (r : Rest) : Except FileFault (String × Rest) := do
  let (name, r) ← readName line r
  let r := r.skipBlanks
  if name = "export" ∧ r.chars.head? ≠ some '=' then
    let (name, r) ← readName line r
    let r ← readEquals line r.skipBlanks
    .ok (name, r)
  else
    let r ← readEquals line r
    .ok (name, r)

/-- The variable that a line defines, if it defines one. -/
def readLine (e : Environment) (line : List Char) : Except FileFault (Option (String × String)) := do
  let r := Rest.skipBlanks ⟨0, trimEnd line⟩
  if r.isOver then .ok none
  else
    let (name, r) ← readDefined (String.ofList line) r
    let r := r.skipBlanks
    if r.isOver then .ok (some (name, ""))
    else
      let value ← readValue e r.chars
      .ok (some (name, String.ofList value))

/-! ## Files -/

/-- A line without the carriage return at its end; the octets come last first. -/
def withoutReturn : List UInt8 → List UInt8
  | 13 :: bs => bs
  | bs => bs

/-- The lines of a file; `current` holds the octets of the open line, last first. -/
def linesFrom (current : List UInt8) : List UInt8 → List (List UInt8)
  | [] => if current.isEmpty then [] else [current.reverse]
  | b :: bs =>
    if b = 10 then (withoutReturn current).reverse :: linesFrom [] bs else linesFrom (b :: current) bs

/-- Takes over what a line defines. -/
def loadLine (e : Environment) (line : List UInt8) : Except FileFault Environment :=
  match Utf8.decodeChars line with
  | .error _ => .error .notText
  | .ok cs =>
    match readLine e cs with
    | .error fault => .error fault
    | .ok none => .ok e
    | .ok (some (name, value)) => .ok (e.define name value)

/-- Takes over what the lines define, one after the other. -/
def loadLines (e : Environment) : List (List UInt8) → Except FileFault Environment
  | [] => .ok e
  | line :: lines =>
    match loadLine e line with
    | .error fault => .error fault
    | .ok e => loadLines e lines

/-- Takes over what a file defines. -/
def loadFile (e : Environment) (octets : List UInt8) : Except FileFault Environment :=
  loadLines e (linesFrom [] octets)

end Forum.Environment
