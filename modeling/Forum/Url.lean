import Forum.Url.Host

/-!
# URLs

The parts of a URL, as they stand in its text. After the scheme come two slashes and the authority: a host with a port
number behind a colon, and with a user's name and password before an at sign. Then come the path and, behind a question
mark, the query. Schemes of the web have an authority whatever the number of slashes; without one, a path may follow the
scheme.
-/

namespace Forum

open Text

/-- The parts of a URL. A part that is absent is empty. -/
structure Url where
  user : List Char
  password : List Char
  host : List Char
  path : List Char
  query : List Char
deriving DecidableEq, Repr

namespace Url

/-! ## The authority -/

/-- The user, the password and the host of an authority, and what follows it. -/
structure Authority where
  user : List Char
  password : List Char
  host : List Char
  rest : List Char
deriving DecidableEq, Repr

/-- The user's name and password before the last at sign of an authority, and the rest. Nothing before an at sign is
like no at sign, but then a host has to start. -/
def splitUser (k : SchemeKind) (cs : List Char) : Except Fault (List Char × List Char × List Char) :=
  let authority := cs.takeWhile fun c => !k.endsAuthority c
  if authority.contains '@' then
    let behind := behindLast '@' authority
    let info := authority.take (authority.length - behind.length - 1)
    let rest := cs.drop (info.length + 1)
    if info.isEmpty && rest.head?.any k.endsAuthority then .error .emptyHost
    else
      let user := info.takeWhile (· ≠ ':')
      .ok (user, info.drop (user.length + 1), rest)
  else .ok ([], [], cs)

/-- The text of a host, and the rest. Colons in brackets belong to the host. -/
def splitHost (k : SchemeKind) (brackets : Bool) (host : List Char) : List Char → List Char × List Char
  | [] => (host.reverse, [])
  | c :: cs =>
    if k.endsAuthority c ∨ (c = ':' ∧ !brackets) then (host.reverse, c :: cs)
    else splitHost k (if c = '[' then true else if c = ']' then false else brackets) (c :: host) cs

/-- Port numbers are below this bound. -/
def portBound : Nat := 65536

/-- Skips a port number, which ends like an authority. -/
def skipPort (n : Nat) : List Char → Except Fault (List Char)
  | [] => .ok []
  | c :: cs =>
    match Decimal.digit? c with
    | some d => if 10 * n + d < portBound then skipPort (10 * n + d) cs else .error .badPort
    | none => if SchemeKind.web.endsAuthority c then .ok (c :: cs) else .error .badPort

/-- Reads the authority behind its slashes. A user and a port number belong to a host. -/
def readAuthority (k : SchemeKind) (cs : List Char) : Except Fault Authority := do
  let (user, password, cs) ← splitUser k cs
  let (text, rest) := splitHost k false [] cs
  let host ← Host.read k text
  if host.isEmpty ∧ rest.head? = some ':' then .error .emptyHost
  let rest ← match rest with
    | ':' :: digits => skipPort 0 digits
    | _ => .ok rest
  if host.isEmpty ∧ (!user.isEmpty ∨ !password.isEmpty) then .error .emptyHost
  .ok ⟨user, password, host, rest⟩

/-! ## Paths -/

/-- The part of a path stands for a point. -/
def isPoint (part : List Char) : Bool := [".", "%2e"].any fun p => p.toList == part.map Char.toLower

/-- The part of a path stands for two points. -/
def isTwoPoints (part : List Char) : Bool :=
  ["..", ".%2e", "%2e.", "%2e%2e"].any fun p => p.toList == part.map Char.toLower

def isLetter (c : Char) : Bool := ('a' ≤ c && c ≤ 'z') || ('A' ≤ c && c ≤ 'Z')

/-- The name of a drive: a letter and a colon or a bar. -/
def isDrive : List Char → Bool
  | [c, d] => isLetter c && (d == ':' || d == '|')
  | _ => false

/-- Leaves the last part of a path, last part first. The drive of a file stays. -/
def leave (k : SchemeKind) : List (List Char) → List (List Char)
  | [] => []
  | [p] => if k = .file ∧ isDrive p then [p] else []
  | _ :: ps => ps

/-- The parts of a path without points, the last one first; a point at the end leaves an empty part. -/
def follow (k : SchemeKind) (done : List (List Char)) : List (List Char) → List (List Char)
  | [] => done
  | p :: ps =>
    let next := if isTwoPoints p then leave k done else if isPoint p then done else p :: done
    let ending := ps.isEmpty && (isTwoPoints p || isPoint p)
    follow k (if ending then [] :: next else next) ps

/-- The path that a text spells from its first slash on. -/
def readPath (k : SchemeKind) (cs : List Char) : List Char :=
  let cs := match cs with
    | c :: rest => if k.isSlash c then rest else cs
    | [] => []
  let parts := pieces '/' (cs.map fun c => if k.isSlash c then '/' else c)
  (follow k [] parts).reverse.flatMap fun p => '/' :: p

/-! ## The whole -/

/-- Controls and spaces around a URL do not count. -/
def isMargin (c : Char) : Bool := c.toNat ≤ 0x20

/-- Tabs and line breaks inside a URL do not count. -/
def isSkipped (c : Char) : Bool := c == '\t' || c == '\n' || c == '\r'

/-- The characters of a URL that count. -/
def counted (s : String) : List Char :=
  ((s.toList.dropWhile isMargin).reverse.dropWhile isMargin).reverse.filter fun c => !isSkipped c

/-- The scheme in lower case and the rest behind its colon. -/
def splitScheme (cs : List Char) : Option (List Char × List Char) :=
  let scheme := cs.takeWhile fun c => isLetter c || Decimal.isDigit c || c == '+' || c == '-' || c == '.'
  match cs.drop scheme.length with
  | ':' :: rest => if (cs.head?.map isLetter).getD false then some (scheme.map Char.toLower, rest) else none
  | _ => none

/-- What stands before a question mark or a hash, and what stands between a question mark and a hash. -/
def splitQuery (cs : List Char) : List Char × List Char :=
  let path := cs.takeWhile fun c => c ≠ '?' ∧ c ≠ '#'
  match cs.drop path.length with
  | '?' :: rest => (path, rest.takeWhile (· ≠ '#'))
  | _ => (path, [])

/-- A URL of an authority, which ends before the path. -/
def ofAuthority (k : SchemeKind) (a : Authority) : Url :=
  let (path, query) := splitQuery a.rest
  let path := if k = .other ∧ path.isEmpty then [] else readPath k path
  ⟨a.user, a.password, a.host, path, query⟩

/-- A URL without an authority. -/
def ofPath (path query : List Char) : Url := ⟨[], [], [], path, query⟩

/-- The host of a file, behind two slashes: it ends before the path, and a drive is none. -/
def readFile (cs : List Char) : Except Fault Url := do
  let host := cs.takeWhile fun c => !SchemeKind.file.endsAuthority c
  if isDrive host then
    .ok (ofAuthority .file ⟨[], [], [], cs⟩)
  else
    let name ← Host.read .file host
    .ok (ofAuthority .file ⟨[], [], if name = "localhost".toList then [] else name, cs.drop host.length⟩)

/-- The URL of a scheme of the kind, from what stands behind its colon. -/
def readBehind (k : SchemeKind) (cs : List Char) : Except Fault Url :=
  match k, cs with
  | .web, _ => ofAuthority k <$> readAuthority k (cs.dropWhile k.isSlash)
  | .file, a :: b :: rest => if k.isSlash a && k.isSlash b then readFile rest else .ok (ofAuthority k ⟨[], [], [], cs⟩)
  | .other, '/' :: '/' :: rest => ofAuthority k <$> readAuthority k rest
  | .other, '/' :: _ => .ok (ofAuthority k ⟨[], [], [], cs⟩)
  | .other, _ => let (path, query) := splitQuery cs; .ok (ofPath path query)
  | .file, _ => .ok (ofAuthority k ⟨[], [], [], cs⟩)

/-- The URL that a text is. -/
def read (s : String) : Except Fault Url :=
  match splitScheme (counted s) with
  | none => .error .noScheme
  | some (scheme, rest) => readBehind (.ofScheme scheme) rest

end Url

end Forum
