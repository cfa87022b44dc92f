import Forum.Database.Fault
import Forum.Text.Quoted
import Forum.Url

/-!
# Addresses of databases

A database is found by a URL. Its user, password and path, which names the database, are texts, and so is a host that is
a path itself. The fields of the query set options, some of which take a value of a certain kind; of several faults the
first from the left counts, where the query comes last.
-/

namespace Forum.Database

open Text

/-- Why a text is no address of a database. -/
inductive AddressFault where
  | url (fault : Url.Fault)
  /-- A part is no text. -/
  | notText (fault : Utf8.Fault)
  | encryption (word : String)
  | number (fault : Decimal.Fault)
  /-- The address of the host is none of the Internet Protocol. -/
  | host
deriving DecidableEq, Repr

def AddressFault.message : AddressFault → String
  | url fault => fault.message
  | notText fault => fault.message
  | encryption word => (Fault.badAddress s!"unknown value {quoted word} for `ssl_mode`").message
  | number fault => fault.message
  | host => "invalid IP address syntax"

/-- The ways to decide whether a connection is encrypted. -/
def encryptionModes : List String := ["disable", "allow", "prefer", "require", "verify-ca", "verify-full"]

/-- The value is one of the field. Fields of other names take any value. -/
def checkField (name value : List Char) : Except AddressFault Unit :=
  let number (bound : Nat) : Except AddressFault Unit := ((Decimal.read bound value).mapError .number).map fun _ => ()
  match String.ofList name with
  | "sslmode" | "ssl-mode" =>
    if encryptionModes.any fun mode => mode.toList == value.map Char.toLower then .ok ()
    else .error (.encryption (String.ofList value))
  | "statement-cache-capacity" => number UInt64.size
  | "port" => number UInt16.size
  | "hostaddr" => if Url.Address.isVersion4 value || Url.Address.isVersion6 value then .ok () else .error .host
  | _ => .ok ()

/-- The part of a URL is a text. -/
def checkText (part : List Char) : Except AddressFault Unit :=
  match Url.unescapeText part with
  | .ok _ => .ok ()
  | .error fault => .error (.notText fault)

/-- The host is a path. -/
def isPath (host : List Char) : Bool := (Url.unescape host).head? == some '/'.toUInt8

/-- The text is the address of a database. -/
def checkAddress (text : String) : Except AddressFault Unit := do
  let url ← (Url.read text).mapError .url
  if isPath url.host then checkText url.host
  checkText url.user
  checkText url.password
  checkText (url.path.dropWhile (· = '/'))
  (Url.fields url.query).forM fun (name, value) => checkField name value

end Forum.Database
