import Forum.Text.Category

/-!
# Quoted text

A text in double quotes, as messages show it. Quotes and backslashes get a backslash, the usual controls their letter,
and every other character that would not be seen on its own is written by its code point.
-/

namespace Forum.Text

/-- A code point in braces. -/
def codePoint (c : Char) : List Char :=
  ['\\', 'u', '\x7b'] ++ Nat.toDigits 16 c.toNat ++ ['\x7d']

/-- A character inside double quotes. -/
def quotedChar (c : Char) : List Char :=
  if c = '\x00' then ['\\', '0']
  else if c = '\t' then ['\\', 't']
  else if c = '\r' then ['\\', 'r']
  else if c = '\n' then ['\\', 'n']
  else if c = '\\' ∨ c = '"' then ['\\', c]
  else if isExtending c then codePoint c
  else if isPrintable c then [c]
  else codePoint c

/-- The text in double quotes. -/
def quoted (s : String) : String :=
  String.ofList ('"' :: s.toList.flatMap quotedChar ++ ['"'])

end Forum.Text
