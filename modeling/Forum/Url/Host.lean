import Forum.Domain
import Forum.Url.Fault
import Forum.Url.Percent

/-!
# Hosts

The host of a URL is an address in brackets, or a name. With the schemes of the web, and with files, it is a domain
name, which may be an address of version 4; with any other scheme it is any text without some characters.
-/

namespace Forum.Url

/-- What tells schemes apart. -/
inductive SchemeKind where
  | web
  | file
  | other
deriving DecidableEq, Repr

namespace SchemeKind

/-- The kind of a scheme in lower case. -/
def ofScheme (scheme : List Char) : SchemeKind :=
  if ["http", "https", "ws", "wss", "ftp"].any fun s => s.toList == scheme then web
  else if scheme = "file".toList then file
  else other

/-- A backslash counts as a slash. -/
def takesBackslash (k : SchemeKind) : Bool := k != other

def isSlash (k : SchemeKind) (c : Char) : Bool := c == '/' || (k.takesBackslash && c == '\\')

/-- The authority ends before these characters. -/
def endsAuthority (k : SchemeKind) (c : Char) : Bool := k.isSlash c || c == '?' || c == '#'

end SchemeKind

namespace Host

/-- Characters that no host has. -/
def isForbidden (c : Char) : Bool :=
  c.toNat == 0 || ['\t', '\n', '\r', ' ', '#', '/', ':', '<', '>', '?', '@', '[', '\\', ']', '^', '|'].contains c

/-- An address in brackets. -/
def bracketed (host rest : List Char) : Except Fault (List Char) :=
  if rest.getLast? = some ']' ∧ Address.isVersion6 rest.dropLast then .ok host else .error .badAddress6

/-- A domain name, or an address of version 4. -/
def domain (host : List Char) : Except Fault (List Char) :=
  match Domain.read? (unescape host) with
  | none => .error .badDomain
  | some [] => .error .emptyHost
  | some name =>
    if Address.endsInNumber name && !Address.isLooseVersion4 name then .error .badAddress4 else .ok name

/-- The host that a text names, with a scheme of the kind. -/
def read (k : SchemeKind) (host : List Char) : Except Fault (List Char) :=
  match host with
  | '[' :: rest => bracketed host rest
  | _ =>
    match k with
    | .web => if host.isEmpty then .error .emptyHost else domain host
    | .file => if host.isEmpty then .ok [] else domain host
    | .other => if host.any isForbidden then .error .badCharacter else .ok host

end Host

end Forum.Url
