import Forum.Json.Cursor
import Forum.Json.Fault
import Forum.Text.Utf8

/-!
# Tokens of JSON texts

The readers of strings, numbers and words, and of a value that nobody asked for. A fault is placed behind the octet
that shows it.
-/

namespace Forum.Json

open Text

/-- A reader moves a cursor or meets a fault. -/
abbrev Reader := StateT Cursor (Except Fault)

namespace Reader

/-- A fault at the cursor. -/
def failHere {α : Type} (cause : Cause) : Reader α := fun c => .error ⟨cause, c.line, c.column⟩

/-- A fault behind the next octet. -/
def failNext {α : Type} (cause : Cause) : Reader α := fun c => .error ⟨cause, c.advance.line, c.advance.column⟩

/-- The next octet, which stays. -/
def peek? : Reader (Option UInt8) := fun c => .ok (c.peek?, c)

/-- Takes the next octet. -/
def skip : Reader Unit := fun c => .ok ((), c.advance)

/-- Takes the next octet; there is none at the end. -/
def next? : Reader (Option UInt8) := fun c => .ok (c.peek?, c.advance)

/-- The octet that starts the next token, which stays. -/
def token? : Reader (Option UInt8) := fun c => let c := c.skipSpace; .ok (c.peek?, c)

/-- The octet of an ASCII character. -/
def octet (c : Char) : UInt8 := c.toUInt8

/-! ## Strings -/

/-- Where the reader of a string stands. `high` is the first half of a surrogate pair. -/
inductive StringMode where
  | plain
  | escape
  /-- Inside the four digits of a code unit; those read come last first. -/
  | unit (high : Option Nat) (digits : List UInt8)
  /-- Behind the first half of a pair. -/
  | pairSlash (high : Nat)
  /-- Behind the backslash that follows the first half. -/
  | pairLetter (high : Nat)
deriving DecidableEq, Repr

/-- The value of a hexadecimal digit. -/
def hexValue? (b : UInt8) : Option Nat :=
  if octet '0' ≤ b ∧ b ≤ octet '9' then some (b.toNat - 48)
  else if octet 'a' ≤ b ∧ b ≤ octet 'f' then some (b.toNat - 87)
  else if octet 'A' ≤ b ∧ b ≤ octet 'F' then some (b.toNat - 55)
  else none

/-- The number of hexadecimal digits, the last one first. -/
def hexNumber? : List UInt8 → Option Nat
  | [] => some 0
  | b :: bs => do
    let n ← hexNumber? bs
    let d ← hexValue? b
    some (16 * n + d)

/-- The octet that a letter after a backslash stands for. -/
def escaped? (b : UInt8) : Option UInt8 :=
  if b = octet '"' ∨ b = octet '\\' ∨ b = octet '/' then some b
  else if b = octet 'b' then some 8
  else if b = octet 'f' then some 12
  else if b = octet 'n' then some 10
  else if b = octet 'r' then some 13
  else if b = octet 't' then some 9
  else none

/-- A code unit, alone or as the second half of a pair: the character it completes, or the first half it is. -/
def ofUnit (high : Option Nat) (n : Nat) : Except Cause (Char ⊕ Nat) :=
  match high with
  | none =>
    if 0xDC00 ≤ n ∧ n ≤ 0xDFFF then .error .loneSurrogate
    else if 0xD800 ≤ n ∧ n ≤ 0xDBFF then .ok (.inr n)
    else .ok (.inl (Char.ofNat n))
  | some h =>
    if 0xDC00 ≤ n ∧ n ≤ 0xDFFF then .ok (.inl (Char.ofNat ((h - 0xD800) * 0x400 + (n - 0xDC00) + 0x10000)))
    else .error .loneSurrogate

/-- What one octet does to a string: it ends, or goes on with more content, last octet first. -/
def stringStep (mode : StringMode) (content : List UInt8) (b : UInt8) :
    Except Cause (Option (StringMode × List UInt8)) :=
  match mode with
  | .plain =>
    if b = octet '"' then .ok none
    else if b = octet '\\' then .ok (some (.escape, content))
    else if b < 32 then .error .controlCharacter
    else .ok (some (.plain, b :: content))
  | .escape =>
    if b = octet 'u' then .ok (some (.unit none [], content))
    else match escaped? b with
      | some e => .ok (some (.plain, e :: content))
      | none => .error .invalidEscape
  | .unit high digits =>
    if digits.length < 3 then .ok (some (.unit high (b :: digits), content))
    else match hexNumber? (b :: digits) with
      | none => .error .invalidEscape
      | some n =>
        match ofUnit high n with
        | .error cause => .error cause
        | .ok (.inl c) => .ok (some (.plain, (String.utf8EncodeChar c).reverse ++ content))
        | .ok (.inr h) => .ok (some (.pairSlash h, content))
  | .pairSlash high =>
    if b = octet '\\' then .ok (some (.pairLetter high, content)) else .error .unfinishedSurrogate
  | .pairLetter high =>
    if b = octet 'u' then .ok (some (.unit (some high) [], content)) else .error .unfinishedSurrogate

/-- Reads the octets of a string up to its closing quote. -/
def stringFrom (mode : StringMode) (content : List UInt8) :
    List UInt8 → Nat → Nat → Except Fault (List UInt8 × Cursor)
  | [], line, column => .error ⟨.endInString, line, column⟩
  | b :: rest, line, column =>
    let (l, k) := placeAfter b line column
    match stringStep mode content b with
    | .error cause => .error ⟨cause, l, k⟩
    | .ok none => .ok (content.reverse, ⟨rest, l, k⟩)
    | .ok (some (mode, content)) => stringFrom mode content rest l k

/-- The octets of a string, behind its opening quote. -/
def stringOctets : Reader (List UInt8) := fun c => stringFrom .plain [] c.rest c.line c.column

/-- The text of a string, behind its opening quote. A fault of its octets is placed as many columns before the end of
the string as there are octets from the fault on. -/
def stringBody : Reader String := do
  let content ← stringOctets
  match Utf8.decode content with
  | .ok s => pure s
  | .error fault => fun c => .error ⟨.invalidUnicode, c.line, c.column - (content.length - fault.index)⟩

/-- Skips a string without looking at what it spells. `digits` counts the digits of a code unit that are due; those
read come last first. -/
def skipStringFrom (escape : Bool) (digits : Option (List UInt8)) :
    List UInt8 → Nat → Nat → Except Fault (Unit × Cursor)
  | [], line, column => .error ⟨.endInString, line, column⟩
  | b :: rest, line, column =>
    let (l, k) := placeAfter b line column
    match digits with
    | some ds =>
      if ds.length < 3 then skipStringFrom false (some (b :: ds)) rest l k
      else if (hexNumber? (b :: ds)).isSome then skipStringFrom false none rest l k
      else .error ⟨.invalidEscape, l, k⟩
    | none =>
      if escape then
        if b = octet 'u' then skipStringFrom false (some []) rest l k
        else if (escaped? b).isSome then skipStringFrom false none rest l k
        else .error ⟨.invalidEscape, l, k⟩
      else if b = octet '"' then .ok ((), ⟨rest, l, k⟩)
      else if b = octet '\\' then skipStringFrom true none rest l k
      else if b < 32 then .error ⟨.controlCharacter, line, column⟩
      else skipStringFrom false none rest l k

/-- Skips a string, behind its opening quote. -/
def skipString : Reader Unit := fun c => skipStringFrom false none c.rest c.line c.column

/-! ## Words -/

/-- The rest of a word. -/
def word : List Char → Reader Unit
  | [] => pure ()
  | w :: ws => do
    match ← next? with
    | none => failHere .endInValue
    | some b => if b = octet w then word ws else failHere .expectedIdent

/-! ## Numbers -/

def isDigitOctet (b : UInt8) : Bool := octet '0' ≤ b && b ≤ octet '9'

/-- Takes the digits at the cursor. -/
def digits : Reader (List Nat) := fun c =>
  let ds := c.rest.takeWhile isDigitOctet
  .ok (ds.map fun b => b.toNat - 48, ⟨c.rest.dropWhile isDigitOctet, c.line, c.column + ds.length⟩)

/-- Whole numbers below this bound are read exactly. -/
def wordBound : Nat := UInt64.size

/-- Reads digits onto a number while it stays below the bound; the second number counts the digits that were read, the
list holds those that were not. -/
def absorb (n : Nat) (count : Nat) : List Nat → Nat × Nat × List Nat
  | [] => (n, count, [])
  | d :: ds => if 10 * n + d < wordBound then absorb (10 * n + d) (count + 1) ds else (n, count, d :: ds)

/-- A number with the given digits and power of ten. -/
def floatOf (isNegative : Bool) (significand : Nat) (exponent : Int) : Reader Found := do
  match Number.Binary64.ofDecimal? significand exponent with
  | some x => pure (.float isNegative x)
  | none => failHere .numberOutOfRange

/-- The largest exponent that is read. -/
def exponentBound : Nat := Nat.pow 2 31

/-- Reads digits onto an exponent; none where it reaches the bound. -/
def exponentOf (n : Nat) : List Nat → Option Nat
  | [] => some n
  | d :: ds => if 10 * n + d < exponentBound then exponentOf (10 * n + d) ds else none

/-- The octets up to the digit at which an exponent reaches the bound. -/
def exponentStop (n count : Nat) : List Nat → Nat
  | [] => count
  | d :: ds => if 10 * n + d < exponentBound then exponentStop (10 * n + d) (count + 1) ds else count + 1

/-- The exponent of a number, from its letter on. -/
def exponentPart (isNegative : Bool) (significand : Nat) (starting : Int) : Reader Found := do
  skip
  let sign ← peek?
  if sign = some (octet '+') ∨ sign = some (octet '-') then skip
  let here : Cursor ← get
  match here.peek? with
  | none => failHere .endInValue
  | some b =>
    if isDigitOctet b then
      let ds ← digits
      match exponentOf 0 ds with
      | some e =>
        let e : Int := if sign = some (octet '-') then starting - e else starting + e
        floatOf isNegative significand (max (-exponentBound) (min e (exponentBound - 1)))
      | none =>
        if significand ≠ 0 ∧ sign ≠ some (octet '-') then
          set { here with column := here.column + exponentStop 0 0 ds }
          failHere .numberOutOfRange
        else pure (.float isNegative Number.Binary64.zero)
    else
      skip
      failHere .invalidNumber

/-- The exponent of a number, if it has one. -/
def optionalExponent (isNegative : Bool) (significand : Nat) (exponent : Int) : Reader Found := do
  let b ← peek?
  if b = some (octet 'e') ∨ b = some (octet 'E') then exponentPart isNegative significand exponent
  else floatOf isNegative significand exponent

/-- The fraction of a number, from its point on. -/
def fractionPart (isNegative : Bool) (significand : Nat) (dropped : Nat) : Reader Found := do
  skip
  match ← digits with
  | [] =>
    match ← peek? with
    | some _ => failNext .invalidNumber
    | none => failNext .endInValue
  | ds =>
    let (significand, count, _) := absorb significand 0 ds
    optionalExponent isNegative significand ((dropped : Int) - count)

/-- A number from its first digit on. -/
def number (isNegative : Bool) : Reader Found := do
  match ← peek? with
  | none => failHere .endInValue
  | some b =>
    if b = octet '0' then
      skip
      match ← peek? with
      | some d => if isDigitOctet d then failNext .invalidNumber else afterWhole 0 0
      | none => afterWhole 0 0
    else if isDigitOctet b then
      let ds ← digits
      let (n, _, rest) := absorb 0 0 ds
      afterWhole n rest.length
    else
      skip
      failHere .invalidNumber
where
  /-- Behind the whole part; `dropped` digits of it did not fit. -/
  afterWhole (n dropped : Nat) : Reader Found := do
    let b ← peek?
    if b = some (octet '.') then fractionPart isNegative n dropped
    else if b = some (octet 'e') ∨ b = some (octet 'E') then exponentPart isNegative n dropped
    else if dropped ≠ 0 then floatOf isNegative n dropped
    else if !isNegative then pure (.natural n)
    else if n = 0 ∨ Nat.pow 2 63 < n then floatOf true n 0
    else pure (.negative n)

/-- Skips the digits at the cursor and tells whether there were any. -/
def skipDigits : Reader Bool := do
  let ds ← digits
  pure !ds.isEmpty

/-- Skips the exponent of a number, from its letter on. -/
def skipExponent : Reader Unit := do
  skip
  let sign ← peek?
  if sign = some (octet '+') ∨ sign = some (octet '-') then skip
  match ← next? with
  | some b => if isDigitOctet b then discard skipDigits else failHere .invalidNumber
  | none => failHere .invalidNumber

/-- Skips the exponent of a number, if it has one. -/
def skipOptionalExponent : Reader Unit := do
  let b ← peek?
  if b = some (octet 'e') ∨ b = some (octet 'E') then skipExponent

/-- Skips a number from its first digit on. -/
def skipNumber : Reader Unit := do
  match ← next? with
  | none => failHere .invalidNumber
  | some b =>
    if b = octet '0' then
      match ← peek? with
      | some d => if isDigitOctet d then failNext .invalidNumber
      | none => pure ()
    else if isDigitOctet b then discard skipDigits
    else failHere .invalidNumber
    if (← peek?) = some (octet '.') then
      skip
      if ← skipDigits then skipOptionalExponent else failNext .invalidNumber
    else skipOptionalExponent

/-! ## Values that nobody asked for -/

/-- The value at the cursor is not what is expected. -/
def wrongType {α : Type} (expected : Expected) : Reader α := do
  let fail (found : Found) : Reader α := failHere (.wrongType found expected)
  match ← peek? with
  | none => failNext .expectedValue
  | some b =>
    if b = octet 'n' then
      skip
      word ['u', 'l', 'l']
      fail .null
    else if b = octet 't' then
      skip
      word ['r', 'u', 'e']
      fail (.boolean true)
    else if b = octet 'f' then
      skip
      word ['a', 'l', 's', 'e']
      fail (.boolean false)
    else if b = octet '-' then
      skip
      fail (← number true)
    else if isDigitOctet b then
      fail (← number false)
    else if b = octet '"' then
      skip
      fail (.text (← stringBody))
    else if b = octet '[' then fail .sequence
    else if b = octet '\x7b' then fail .map
    else failNext .expectedValue

/-- The two kinds of brackets that values nest in. -/
inductive Bracket where
  | list
  | object
deriving DecidableEq, Repr

def Bracket.close : Bracket → UInt8
  | .list => octet ']'
  | .object => octet '\x7d'

/-- The key of a member that is skipped, with its colon. -/
def skipKey : Reader Unit := do
  match ← token? with
  | some b => if b = octet '"' then skip else failNext .keyNotString
  | none => failNext .endInObject
  skipString
  match ← token? with
  | some b => if b = octet ':' then skip else failNext .expectedColon
  | none => failNext .endInObject

/-- Skips a value that is no list or object, or the bracket that opens one. -/
def skipScalar : Reader (Option Bracket) := do
  match ← token? with
  | none => failNext .endInValue
  | some b =>
    if b = octet 'n' then
      skip
      word ['u', 'l', 'l']
      pure none
    else if b = octet 't' then
      skip
      word ['r', 'u', 'e']
      pure none
    else if b = octet 'f' then
      skip
      word ['a', 'l', 's', 'e']
      pure none
    else if b = octet '-' then
      skip
      skipNumber
      pure none
    else if isDigitOctet b then
      skipNumber
      pure none
    else if b = octet '"' then
      skip
      skipString
      pure none
    else if b = octet '[' then
      skip
      pure (some .list)
    else if b = octet '\x7b' then
      skip
      pure (some .object)
    else failNext .expectedValue

/-- Closes brackets until another value is due; `comma` tells whether a comma may come next. The answer is the brackets
that stay open around that value. -/
def skipClosing (comma : Bool) : List Bracket → Reader (List Bracket)
  | [] => pure []
  | open_ :: outer => do
    match ← token? with
    | none => failNext (match open_ with
      | .list => .endInList
      | .object => .endInObject)
    | some b =>
      if comma ∧ b = octet ',' then
        skip
        pure (open_ :: outer)
      else if b = open_.close then
        skip
        skipClosing true outer
      else if comma then
        failNext (match open_ with
          | .list => .expectedCommaOrBracket
          | .object => .expectedCommaOrBrace)
      else pure (open_ :: outer)

/-- Skips values inside the given brackets until all are closed. Every round takes an octet, so the octets that are left
bound the rounds. -/
def skipRounds : Nat → List Bracket → Reader Unit
  | 0, _ => failNext .endInValue
  | rounds + 1, brackets => do
    let opened ← skipScalar
    let brackets := match opened with
      | some bracket => bracket :: brackets
      | none => brackets
    match ← skipClosing opened.isNone brackets with
    | [] => pure ()
    | .object :: outer =>
      skipKey
      skipRounds rounds (.object :: outer)
    | .list :: outer => skipRounds rounds (.list :: outer)

/-- Skips a value. -/
def skipValue : Reader Unit := do
  let c : Cursor ← get
  skipRounds (c.rest.length + 1) []

end Reader

end Forum.Json
