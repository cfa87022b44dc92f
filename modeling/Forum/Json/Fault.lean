import Forum.Calendar.Parser
import Forum.Number.Binary64
import Forum.Text.Quoted

/-!
# Faults of JSON texts

A fault has a cause and a place. Causes are of two sorts: the text is no JSON, or it is not what the reader expects.
-/

namespace Forum.Json

open Text

/-- A value of another type than expected. -/
inductive Found where
  | null
  | boolean (value : Bool)
  | natural (value : Nat)
  | negative (magnitude : Nat)
  | float (isNegative : Bool) (value : Number.Binary64)
  | text (value : String)
  | sequence
  | map
deriving DecidableEq, Repr

def Found.describe : Found → String
  | .null => "null"
  | .boolean true => "boolean `true`"
  | .boolean false => "boolean `false`"
  | .natural n => s!"integer `{Decimal.text n}`"
  | .negative n => s!"integer `-{Decimal.text n}`"
  | .float isNegative x =>
    let sign := if isNegative then "-" else ""
    s!"floating point `{sign}{String.ofList x.text}`"
  | .text s => s!"string {quoted s}"
  | .sequence => "sequence"
  | .map => "map"

/-- What the reader expects. -/
inductive Expected where
  | text
  | date
  | post
deriving DecidableEq, Repr

def Expected.describe : Expected → String
  | .text => "a string"
  | .date => "an RFC 3339 formatted date and time string"
  | .post => "struct Post"

/-- The fields of a post. -/
inductive Field where
  | id
  | title
  | description
  | user
  | created
  | updated
deriving DecidableEq, Repr

def Field.name : Field → String
  | .id => "id"
  | .title => "title"
  | .description => "description"
  | .user => "user_id"
  | .created => "date_created"
  | .updated => "date_updated"

/-- What is wrong. -/
inductive Cause where
  | endInList
  | endInObject
  | endInString
  | endInValue
  | expectedColon
  | expectedCommaOrBracket
  | expectedCommaOrBrace
  | expectedIdent
  | expectedValue
  | invalidEscape
  | invalidNumber
  | numberOutOfRange
  | invalidUnicode
  | controlCharacter
  | keyNotString
  | loneSurrogate
  | trailingComma
  | trailingCharacters
  | unfinishedSurrogate
  | wrongType (found : Found) (expected : Expected)
  | missingField (field : Field)
  | repeatedField (field : Field)
  /-- A post is written as a list of too few fields. -/
  | tooFewFields (count : Nat)
  | date (fault : Calendar.ParseError)
deriving DecidableEq, Repr

def Cause.message : Cause → String
  | .endInList => "EOF while parsing a list"
  | .endInObject => "EOF while parsing an object"
  | .endInString => "EOF while parsing a string"
  | .endInValue => "EOF while parsing a value"
  | .expectedColon => "expected `:`"
  | .expectedCommaOrBracket => "expected `,` or `]`"
  | .expectedCommaOrBrace => "expected `,` or `\x7d`"
  | .expectedIdent => "expected ident"
  | .expectedValue => "expected value"
  | .invalidEscape => "invalid escape"
  | .invalidNumber => "invalid number"
  | .numberOutOfRange => "number out of range"
  | .invalidUnicode => "invalid unicode code point"
  | .controlCharacter => "control character (\\u0000-\\u001F) found while parsing a string"
  | .keyNotString => "key must be a string"
  | .loneSurrogate => "lone leading surrogate in hex escape"
  | .trailingComma => "trailing comma"
  | .trailingCharacters => "trailing characters"
  | .unfinishedSurrogate => "unexpected end of hex escape"
  | .wrongType found expected => s!"invalid type: {found.describe}, expected {expected.describe}"
  | .missingField field => s!"missing field `{field.name}`"
  | .repeatedField field => s!"duplicate field `{field.name}`"
  | .tooFewFields count => s!"invalid length {Decimal.text count}, expected struct Post with 6 elements"
  | .date fault => fault.message

/-- A cause at a place. -/
structure Fault where
  cause : Cause
  line : Nat
  column : Nat
deriving DecidableEq, Repr

def Fault.message (f : Fault) : String :=
  s!"{f.cause.message} at line {Decimal.text f.line} column {Decimal.text f.column}"

end Forum.Json
