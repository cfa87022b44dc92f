import Forum.Text.Utf8
import Forum.Url.Address

/-!
# Escaped octets

In a URL a percent sign and two hexadecimal digits stand for an octet; any other percent sign stands for itself. In the
fields of a query a plus sign stands for a space.
-/

namespace Forum.Url

open Text

/-- The octets of characters, some of which are escaped. -/
def unescape : List Char → List UInt8
  | '%' :: a :: b :: cs =>
    match Address.hexDigit? a, Address.hexDigit? b with
    | some x, some y => UInt8.ofNat (16 * x + y) :: unescape cs
    | _, _ => String.utf8EncodeChar '%' ++ unescape (a :: b :: cs)
  | c :: cs => String.utf8EncodeChar c ++ unescape cs
  | [] => []

/-- The text of a part of a URL. -/
def unescapeText (cs : List Char) : Except Utf8.Fault (List Char) := Utf8.decodeChars (unescape cs)

/-- The text of a name or value in a query. -/
def unescapeField (cs : List Char) : List Char :=
  Utf8.decodeLossy (unescape (cs.map fun c => if c = '+' then ' ' else c))

/-- The fields of a query, each with what stands behind its first equals sign. -/
def fields (query : List Char) : List (List Char × List Char) :=
  ((pieces '&' query).filter fun field => !field.isEmpty).map fun field =>
    let name := field.takeWhile (· ≠ '=')
    (unescapeField name, unescapeField (field.drop (name.length + 1)))

end Forum.Url
