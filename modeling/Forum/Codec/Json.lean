import Forum.Calendar.Format
import Forum.Codec.Binary
import Forum.Json.Reader

/-!
# JSON records

A post is an object with its six fields in order, or a list of their values; an identifier is a string. Reading takes
the fields of an object in any order, each once, and skips members that are not fields.
-/

namespace Forum.Json

open Calendar Text

/-! ## Writing -/

/-- The two lower-case hexadecimal digits of an octet. -/
def hexPair (b : Nat) : List Char := [Nat.digitChar (b / 16 % 16), Nat.digitChar (b % 16)]

/-- A character inside a string. Only quotes, backslashes and controls are escaped. -/
def escapeChar (c : Char) : List Char :=
  if c = '"' ∨ c = '\\' then ['\\', c]
  else if c = '\x08' then ['\\', 'b']
  else if c = '\t' then ['\\', 't']
  else if c = '\n' then ['\\', 'n']
  else if c = '\x0c' then ['\\', 'f']
  else if c = '\r' then ['\\', 'r']
  else if c.toNat < 32 then ['\\', 'u', '0', '0'] ++ hexPair c.toNat
  else [c]

/-- A string in its quotes. -/
def writeString (s : String) : List Char := '"' :: s.toList.flatMap escapeChar ++ ['"']

/-- A member of an object. -/
def writeMember (field : Field) (value : String) : List Char :=
  writeString field.name ++ ':' :: writeString value

/-- The object of a post. -/
def writePost (p : Post) : List Char :=
  '\x7b' :: writeMember .id p.id.text ++ ',' :: writeMember .title p.title ++ ',' ::
    writeMember .description p.description ++ ',' :: writeMember .user p.user.text ++ ',' ::
    writeMember .created p.created.text ++ ',' :: writeMember .updated p.updated.text ++ ['\x7d']

def encode : PostEvent → Payload
  | .created post => Utf8.encodeChars (writePost post)
  | .updated post => Utf8.encodeChars (writePost post)
  | .deleted id => Utf8.encodeChars (writeString id.text)

/-! ## Reading -/

namespace Reader

/-- A string, named in faults by what it stands for. -/
def text (expected : Expected) : Reader String := do
  match ← token? with
  | none => failNext .endInValue
  | some b =>
    if b = octet '"' then
      skip
      stringBody
    else wrongType expected

/-- A date, written as a string. -/
def date : Reader Instant := do
  match Instant.parse (← text .date) with
  | .ok t => pure t
  | .error fault => failHere (.date fault)

/-- The fields of a post that were read. -/
structure Fields where
  id : Option String := none
  title : Option String := none
  description : Option String := none
  user : Option String := none
  created : Option Instant := none
  updated : Option Instant := none
deriving DecidableEq, Repr

namespace Fields

/-- The field was read. -/
def has (f : Fields) : Field → Bool
  | .id => f.id.isSome
  | .title => f.title.isSome
  | .description => f.description.isSome
  | .user => f.user.isSome
  | .created => f.created.isSome
  | .updated => f.updated.isSome

/-- The post with these fields, or the first field that is missing. -/
def post (f : Fields) : Except Cause Post :=
  match f.id, f.title, f.description, f.user, f.created, f.updated with
  | none, _, _, _, _, _ => .error (.missingField .id)
  | _, none, _, _, _, _ => .error (.missingField .title)
  | _, _, none, _, _, _ => .error (.missingField .description)
  | _, _, _, none, _, _ => .error (.missingField .user)
  | _, _, _, _, none, _ => .error (.missingField .created)
  | _, _, _, _, _, none => .error (.missingField .updated)
  | some id, some title, some description, some user, some created, some updated =>
    .ok ⟨⟨id⟩, title, description, ⟨user⟩, created, updated⟩

end Fields

/-- All fields of a post in the order in which they are written. -/
def allFields : List Field := [.id, .title, .description, .user, .created, .updated]

/-- The field that a key names. -/
def fieldOf? (key : String) : Option Field := allFields.find? fun f => f.name == key

/-- Reads the value of a field. -/
def readField (f : Fields) : Field → Reader Fields
  | .id => do pure { f with id := some (← text .text) }
  | .title => do pure { f with title := some (← text .text) }
  | .description => do pure { f with description := some (← text .text) }
  | .user => do pure { f with user := some (← text .text) }
  | .created => do pure { f with created := some (← date) }
  | .updated => do pure { f with updated := some (← date) }

/-- The colon behind a key. -/
def colon : Reader Unit := do
  match ← token? with
  | some b => if b = octet ':' then skip else failNext .expectedColon
  | none => failNext .endInObject

/-- Moves to the opening quote of the next key; the answer is no at the end of the object. -/
def nextKey (first : Bool) : Reader Bool := do
  match ← token? with
  | none => failNext .endInObject
  | some b =>
    if b = octet '\x7d' then pure false
    else if first then
      if b = octet '"' then pure true else failNext .keyNotString
    else if b = octet ',' then
      skip
      match ← token? with
      | none => failNext .endInValue
      | some k =>
        if k = octet '"' then pure true
        else if k = octet '\x7d' then failNext .trailingComma
        else failNext .keyNotString
    else failNext .expectedCommaOrBrace

/-- Reads members up to the closing brace, or up to a field that was read before. Every round takes an octet, so the
octets that are left bound the rounds. -/
def members : Nat → Fields → (first : Bool) → Reader (Except Cause Fields)
  | 0, f, _ => pure (.ok f)
  | rounds + 1, f, first => do
    if ← nextKey first then
      skip
      match fieldOf? (← stringBody) with
      | none =>
        colon
        skipValue
        members rounds f false
      | some field =>
        if f.has field then pure (.error (.repeatedField field))
        else
          colon
          members rounds (← readField f field) false
    else pure (.ok f)

/-- Moves to the next element of a list; the answer is no at its end. -/
def nextElement (first : Bool) : Reader Bool := do
  match ← token? with
  | none => failNext .endInList
  | some b =>
    if b = octet ']' then pure false
    else if first then pure true
    else if b = octet ',' then
      skip
      match ← token? with
      | none => failNext .endInValue
      | some k => if k = octet ']' then failNext .trailingComma else pure true
    else failNext .expectedCommaOrBracket

/-- Reads the values of fields up to the end of the list; `count` of them were read. -/
def elements (f : Fields) (count : Nat) : List Field → Reader (Except Cause Fields)
  | [] => pure (.ok f)
  | field :: later => do
    if ← nextElement (count == 0) then elements (← readField f field) (count + 1) later
    else pure (.error (.tooFewFields count))

/-- The closing brace. -/
def closeObject : Reader Unit := do
  match ← token? with
  | some b =>
    if b = octet '\x7d' then skip
    else if b = octet ',' then failNext .trailingComma
    else failNext .trailingCharacters
  | none => failNext .endInObject

/-- The closing bracket. -/
def closeList : Reader Unit := do
  match ← token? with
  | some b =>
    if b = octet ']' then skip
    else if b = octet ',' then
      skip
      match ← token? with
      | some k => if k = octet ']' then failNext .trailingComma else failNext .trailingCharacters
      | none => failNext .trailingCharacters
    else failNext .trailingCharacters
  | none => failNext .endInList

/-- A refusal is placed behind the closing bracket where that follows. -/
def refuse {α : Type} (close : Char) (cause : Cause) : Reader α := do
  if (← token?) = some (octet close) then skip
  failHere cause

/-- A post. -/
def post : Reader Post := do
  match ← token? with
  | none => failNext .endInValue
  | some b =>
    if b = octet '\x7b' then
      skip
      let c : Cursor ← get
      match (← members (c.rest.length + 1) {} true).bind Fields.post with
      | .ok p =>
        closeObject
        pure p
      | .error cause => refuse '\x7d' cause
    else if b = octet '[' then
      skip
      match (← elements {} 0 allFields).bind Fields.post with
      | .ok p =>
        closeList
        pure p
      | .error cause => refuse ']' cause
    else wrongType .post

/-- Nothing but space is left. -/
def finish : Reader Unit := do
  if (← token?).isSome then failNext .trailingCharacters

end Reader

/-- What a reader makes of a whole text. -/
def readAll {α : Type} (reader : Reader α) (octets : Payload) : Except Fault α :=
  ((do
    let a ← reader
    Reader.finish
    pure a : Reader α).run (Cursor.start octets)).map (·.1)

/-- The event of a kind that octets spell. -/
def decode (kind : EventKind) (octets : Payload) : Except Fault PostEvent :=
  match kind with
  | .created => (readAll Reader.post octets).map .created
  | .updated => (readAll Reader.post octets).map .updated
  | .deleted => (readAll (Reader.text .text) octets).map fun id => .deleted ⟨id⟩

end Forum.Json
