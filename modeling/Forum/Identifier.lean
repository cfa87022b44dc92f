/-!
# Identifiers

Posts, comments and users are known by identifiers that travel as text. An identifier that a caller supplies has to be
the text of a UUID; one that arrives from elsewhere is kept as it is. Accepting an identifier never changes its text.
-/

namespace Forum

structure PostId where
  text : String
deriving DecidableEq, Repr, Inhabited

structure CommentId where
  text : String
deriving DecidableEq, Repr, Inhabited

structure UserId where
  text : String
deriving DecidableEq, Repr, Inhabited

namespace Uuid

def isHexDigit (c : Char) : Bool :=
  ('0' ≤ c && c ≤ '9') || ('a' ≤ c && c ≤ 'f') || ('A' ≤ c && c ≤ 'F')

/-- Thirty-two hexadecimal digits. -/
def isSimple (cs : List Char) : Bool := cs.length == 32 && cs.all isHexDigit

/-- Groups of hexadecimal digits of the given lengths with a hyphen between two of them. -/
def isGrouped : List Nat → List Char → Bool
  | [], cs => cs.isEmpty
  | [n], cs => cs.length == n && cs.all isHexDigit
  | n :: ns, cs =>
    (cs.take n).length == n && (cs.take n).all isHexDigit &&
      match cs.drop n with
      | '-' :: rest => isGrouped ns rest
      | _ => false

/-- Five groups of 8, 4, 4, 4 and 12 digits. -/
def isHyphenated (cs : List Char) : Bool := isGrouped [8, 4, 4, 4, 12] cs

/-- What stands before the digits of a UUID that is written as a name. -/
def nameStart : List Char := ['u', 'r', 'n', ':', 'u', 'u', 'i', 'd', ':']

/-- A hyphenated UUID after `urn:uuid:`. -/
def isNamed (cs : List Char) : Bool :=
  (cs.take nameStart.length).map Char.toLower == nameStart && isHyphenated (cs.drop nameStart.length)

/-- A hyphenated UUID in braces. -/
def isBraced : List Char → Bool
  | '{' :: rest => rest.getLast? == some '}' && isHyphenated rest.dropLast
  | _ => false

/-- The four written forms of a UUID: plain digits, hyphenated, hyphenated in braces, and hyphenated after
`urn:uuid:`. Letters may be of either case in all of them. -/
def isUuid (cs : List Char) : Bool := isSimple cs || isHyphenated cs || isBraced cs || isNamed cs

/-- The text is a UUID. -/
def isUuidText (s : String) : Bool := isUuid s.toList

end Uuid

/-- The message for an identifier that is no UUID. -/
def invalidIdMessage (text : String) : String := s!"invalid identifier: {text}"

/-- The identifier of a post that a caller names. -/
def PostId.parse? (text : String) : Option PostId := if Uuid.isUuidText text then some ⟨text⟩ else none

/-- The identifier of a comment that a caller names. -/
def CommentId.parse? (text : String) : Option CommentId := if Uuid.isUuidText text then some ⟨text⟩ else none

/-- The identifier of a user that a caller names. -/
def UserId.parse? (text : String) : Option UserId := if Uuid.isUuidText text then some ⟨text⟩ else none

end Forum
