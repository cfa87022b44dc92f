/-!
# Reports

How a program tells why it failed: the message of the error, and the messages of the errors behind it, nearest first.
Several causes are numbered, and all lines of a cause are indented alike.
-/

namespace Forum.Report

/-- Blanks in front of a line. -/
def blanks (n : Nat) : String := String.ofList (List.replicate n ' ')

/-- A text whose lines after the first start behind blanks. -/
def indentRest (n : Nat) (text : String) : String :=
  String.ofList (text.toList.flatMap fun c => if c = '\n' then '\n' :: List.replicate n ' ' else [c])

/-- A cause without a number. -/
def only (cause : String) : String := "\n" ++ blanks 4 ++ indentRest 4 cause

/-- A number with blanks before it, five characters wide. -/
def number (n : Nat) : String :=
  let digits := n.repr
  blanks (5 - digits.length) ++ digits

/-- A cause with its number. -/
def numbered (cause : String × Nat) : String := s!"\n{number cause.2}: " ++ indentRest 7 cause.1

/-- The causes of an error. -/
def causes : List String → String
  | [] => ""
  | [cause] => "\n\nCaused by:" ++ only cause
  | many => "\n\nCaused by:" ++ String.join (many.zipIdx.map numbered)

/-- The whole report. -/
def text (message : String) (behind : List String) : String := s!"Error: {message}{causes behind}\n"

end Forum.Report
