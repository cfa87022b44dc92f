import Forum.Environment
import Forum.Terminal.Control

/-!
# Styled text

A text in spans, each in a style. Written in full, a span stands between the control sequences that start and end its
style; on anything but a terminal only what is visible of that is written, which includes the sequences that the text of
a span brings along. `text` decides by the environment.
-/

namespace Forum.Terminal

/-- What a span is, which decides how it looks. -/
inductive Style where
  | plain
  | failure
  | heading
  | literal
  | valid
  | invalid
deriving DecidableEq, Repr

/-- A control sequence that sets one property of what follows. -/
def sequence (property : String) : String := "\x1b[" ++ property ++ "m"

namespace Style

/-- The properties that make up a style: bold, underlined, or a colour. -/
def properties : Style → List String
  | plain => []
  | failure => ["1", "31"]
  | heading => ["1", "4"]
  | literal => ["1"]
  | valid => ["32"]
  | invalid => ["33"]

/-- The sequences that start a style. -/
def start (s : Style) : String := String.join (s.properties.map sequence)

/-- The sequence that ends a style; there is nothing to end where none was started. -/
def finish (s : Style) : String := if s.properties.isEmpty then "" else sequence "0"

end Style

/-- A piece of text in one style. -/
structure Span where
  style : Style
  text : String
deriving DecidableEq, Repr

/-- Spans one after the other. -/
abbrev Styled := List Span

/-- A text in no style. -/
def plain (text : String) : Styled := [⟨.plain, text⟩]

def failure (text : String) : Styled := [⟨.failure, text⟩]

def heading (text : String) : Styled := [⟨.heading, text⟩]

def literal (text : String) : Styled := [⟨.literal, text⟩]

def valid (text : String) : Styled := [⟨.valid, text⟩]

def invalid (text : String) : Styled := [⟨.invalid, text⟩]

namespace Styled

/-- A styled text in single quotes. -/
def quoted (t : Styled) : Styled := plain "'" ++ t ++ plain "'"

/-- Styled texts with a plain one between each two. -/
def join (between : String) : List Styled → Styled
  | [] => []
  | [t] => t
  | t :: ts => t ++ plain between ++ join between ts

/-- The text with the control sequences of its styles. -/
def inFull (t : Styled) : String := String.join (t.map fun s => s.style.start ++ s.text ++ s.style.finish)

end Styled

/-- A variable asks for styles wherever the text goes, unless another one forbids them. -/
def wantsStyles (e : Environment) : Bool :=
  ((e.get? "NO_COLOR").getD "").isEmpty &&
    match e.get? "CLICOLOR_FORCE" with
    | none => false
    | some value => !value.isEmpty && value ≠ "0"

/-- A styled text as it is written to anything but a terminal. -/
def Styled.text (e : Environment) (t : Styled) : String := if wantsStyles e then t.inFull else visible t.inFull

end Forum.Terminal
