import Forum.Calendar.Format
import Forum.Calendar.Parser
import Forum.Event
import Forum.Text.Utf8

/-!
# Binary records

A text is the number of its octets, in eight octets with the lowest first, and then the octets. A post is its six fields
in order, dates as text; an identifier is its text. Nothing follows the last field, and no record is longer than
`sizeLimit`.
-/

namespace Forum

open Calendar Text

/-- No record is longer: one mebibyte. -/
def sizeLimit : Nat := 1048576

namespace Binary

/-- Why octets are no record, or a record is not written. -/
inductive Fault where
  /-- The input ends inside a length. -/
  | shortLength
  /-- The input ends before the text that a length announces. -/
  | shortText
  | text (fault : Utf8.Fault)
  | date (fault : ParseError)
  /-- Octets follow the record. -/
  | trailing
  /-- The record is longer than records may be. -/
  | oversize
deriving DecidableEq, Repr

def Fault.message : Fault → String
  | .shortLength => "io error: unexpected end of file"
  | .shortText => "io error: "
  | .text fault => s!"string is not valid utf8: {fault.message}"
  | .date fault => fault.message
  | .trailing => "Slice had bytes remaining after deserialization"
  | .oversize => "the size limit has been reached"

/-! ## Writing -/

/-- The lowest `width` octets of a number, lowest first. -/
def littleEndian : Nat → Nat → Payload
  | 0, _ => []
  | width + 1, n => UInt8.ofNat (n % 256) :: littleEndian width (n / 256)

/-- A text after its length. -/
def writeText (s : String) : Payload :=
  let octets := Utf8.encode s
  littleEndian 8 octets.length ++ octets

/-- A record of texts. -/
def writeRecord (fields : List String) : Except Fault Payload :=
  let octets := fields.flatMap writeText
  if octets.length ≤ sizeLimit then .ok octets else .error .oversize

/-- The fields of a post in order. -/
def postFields (p : Post) : List String :=
  [p.id.text, p.title, p.description, p.user.text, p.created.text, p.updated.text]

def encode : PostEvent → Except Fault Payload
  | .created post => writeRecord (postFields post)
  | .updated post => writeRecord (postFields post)
  | .deleted id => writeRecord [id.text]

/-! ## Reading -/

/-- The number whose octets are given, lowest first. -/
def ofLittleEndian : Payload → Nat
  | [] => 0
  | b :: bs => b.toNat + 256 * ofLittleEndian bs

/-- The first `n` octets and the rest, if there are as many. -/
def split? (n : Nat) (bs : Payload) : Option (Payload × Payload) :=
  if n ≤ bs.length then some (bs.take n, bs.drop n) else none

/-- Reads a text after its length. -/
def readText (bs : Payload) : Except Fault (String × Payload) :=
  match split? 8 bs with
  | none => .error .shortLength
  | some (length, rest) =>
    match split? (ofLittleEndian length) rest with
    | none => .error .shortText
    | some (octets, rest) =>
      match Utf8.decode octets with
      | .error fault => .error (.text fault)
      | .ok s => .ok (s, rest)

/-- Reads a date, which is written as text. -/
def readDate (bs : Payload) : Except Fault (Instant × Payload) := do
  let (s, rest) ← readText bs
  match Instant.parse s with
  | .error fault => .error (.date fault)
  | .ok t => .ok (t, rest)

/-- Reads the fields of a post. -/
def readPost (bs : Payload) : Except Fault (Post × Payload) := do
  let (id, bs) ← readText bs
  let (title, bs) ← readText bs
  let (description, bs) ← readText bs
  let (user, bs) ← readText bs
  let (created, bs) ← readDate bs
  let (updated, bs) ← readDate bs
  .ok (⟨⟨id⟩, title, description, ⟨user⟩, created, updated⟩, bs)

/-- A record that ends with the input. -/
def whole {α : Type} : Except Fault (α × Payload) → Except Fault α
  | .error fault => .error fault
  | .ok (a, []) => .ok a
  | .ok (_, _ :: _) => .error .trailing

/-- The event of a kind that octets spell. -/
def decode (kind : EventKind) (bs : Payload) : Except Fault PostEvent :=
  match kind with
  | .created => (whole (readPost bs)).map .created
  | .updated => (whole (readPost bs)).map .updated
  | .deleted => (whole (readText bs)).map fun id => .deleted ⟨id⟩

end Binary

end Forum
