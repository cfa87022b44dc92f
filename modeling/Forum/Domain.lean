import Forum.Domain.Label
import Forum.Text.Utf8

/-!
# Domain names

A domain name is read from octets: their characters are replaced by their images and composed, and points part the
outcome into labels. `read?` answers with the name, still without the ASCII form of labels that are not ASCII.
-/

namespace Forum.Domain

open Text

/-- ASCII characters that no domain name has. -/
def isForbidden (c : Char) : Bool :=
  c.toNat ≤ 0x20 || c.toNat == 0x7F ||
    ['%', '#', '/', ':', '<', '>', '?', '@', '[', '\\', ']', '^', '|'].contains c

/-- The images of all characters, composed. -/
def images? (cs : List Char) : Option (List Char) := do
  let images ← cs.mapM image?
  some (Composition.compose images.flatten)

/-- The labels that are meant keep the rules. -/
def labelsFit (labels : List (List Char)) : Bool :=
  match labels.mapM meant? with
  | none => false
  | some meant => !meant.any (·.any isRightward) || meant.all keepsDirection

/-- The name that octets spell. -/
def read? (octets : List UInt8) : Option (List Char) := do
  let cs ← (Utf8.decodeChars octets).toOption
  let name ← images? cs
  if name.any isForbidden || !labelsFit (pieces '.' name) then none else some name

end Forum.Domain
