/-!
# UTF-8

A text as octets and back. Reading goes octet by octet; a refusal says at which index the first octet stands that is
not part of a whole character, and whether the input ended inside a character or an octet was out of place.
-/

namespace Forum.Text.Utf8

/-- Why octets are not the UTF-8 form of a text. -/
inductive Fault where
  /-- `length` octets from `index` on start no character. -/
  | misplaced (length index : Nat)
  /-- The input ends inside the character that starts at `index`. -/
  | truncated (index : Nat)
deriving DecidableEq, Repr

/-- Where the octets that are part of no character start. -/
def Fault.index : Fault → Nat
  | .misplaced _ index => index
  | .truncated index => index

def Fault.message : Fault → String
  | .misplaced length index => s!"invalid utf-8 sequence of {length} bytes from index {index}"
  | .truncated index => s!"incomplete utf-8 byte sequence from index {index}"

/-- A character of which some octets are still due. -/
structure Partial where
  /-- Index of its first octet. -/
  start : Nat
  /-- Octets read. -/
  seen : Nat
  /-- Octets due after the next one. -/
  later : Nat
  /-- Bounds of the next octet. -/
  low : Nat
  high : Nat
  /-- The bits read so far. -/
  code : Nat
deriving DecidableEq, Repr

/-- The state between two octets: how many were read, the characters so far, last first, and the open character. -/
structure State where
  index : Nat
  done : List Char
  pending : Option Partial
deriving DecidableEq, Repr

/-- What an octet that starts a character announces: whole characters have no octets due. The second octet is bounded
so that no character has two forms and no surrogate has one. -/
def lead (index b : Nat) : Except Fault (Char ⊕ Partial) :=
  if b < 0x80 then .ok (.inl (Char.ofNat b))
  else if b < 0xC2 then .error (.misplaced 1 index)
  else if b < 0xE0 then .ok (.inr ⟨index, 1, 0, 0x80, 0xBF, b - 0xC0⟩)
  else if b < 0xF0 then
    .ok (.inr ⟨index, 1, 1, if b = 0xE0 then 0xA0 else 0x80, if b = 0xED then 0x9F else 0xBF, b - 0xE0⟩)
  else if b < 0xF5 then
    .ok (.inr ⟨index, 1, 2, if b = 0xF0 then 0x90 else 0x80, if b = 0xF4 then 0x8F else 0xBF, b - 0xF0⟩)
  else .error (.misplaced 1 index)

/-- Reads one octet. -/
def step (s : State) (octet : UInt8) : Except Fault State :=
  let b := octet.toNat
  match s.pending with
  | none =>
    match lead s.index b with
    | .error e => .error e
    | .ok (.inl c) => .ok ⟨s.index + 1, c :: s.done, none⟩
    | .ok (.inr p) => .ok ⟨s.index + 1, s.done, some p⟩
  | some p =>
    if p.low ≤ b ∧ b ≤ p.high then
      let code := p.code * 64 + (b - 0x80)
      match p.later with
      | 0 => .ok ⟨s.index + 1, Char.ofNat code :: s.done, none⟩
      | later + 1 => .ok ⟨s.index + 1, s.done, some ⟨p.start, p.seen + 1, later, 0x80, 0xBF, code⟩⟩
    else .error (.misplaced p.seen p.start)

/-- Reads octets one after the other. -/
def run (s : State) : List UInt8 → Except Fault State
  | [] => .ok s
  | b :: bs =>
    match step s b with
    | .error e => .error e
    | .ok s => run s bs

/-- The characters that octets spell, or the first fault. -/
def decodeChars (bs : List UInt8) : Except Fault (List Char) :=
  match run ⟨0, [], none⟩ bs with
  | .error e => .error e
  | .ok s =>
    match s.pending with
    | none => .ok s.done.reverse
    | some p => .error (.truncated p.start)

/-- The text that octets spell, or the first fault. -/
def decode (bs : List UInt8) : Except Fault String :=
  match decodeChars bs with
  | .error e => .error e
  | .ok cs => .ok (String.ofList cs)

/-- The character that stands for octets that spell none. -/
def replacement : Char := '\ufffd'

/-- The characters that octets spell, with one replacement for every run of octets that could have started a character
and did not. -/
def lossyFrom (s : State) : List UInt8 → List Char
  | [] => (if s.pending.isSome then replacement :: s.done else s.done).reverse
  | b :: bs =>
    match step s b with
    | .ok s => lossyFrom s bs
    | .error _ =>
      if s.pending.isSome then
        match step { s with done := replacement :: s.done, pending := none } b with
        | .ok s => lossyFrom s bs
        | .error _ => lossyFrom ⟨s.index + 1, replacement :: replacement :: s.done, none⟩ bs
      else lossyFrom ⟨s.index + 1, replacement :: s.done, none⟩ bs

/-- The characters that octets spell, with replacements. -/
def decodeLossy (bs : List UInt8) : List Char := lossyFrom ⟨0, [], none⟩ bs

/-- The octets of a text. -/
def encodeChars (cs : List Char) : List UInt8 := cs.flatMap String.utf8EncodeChar

/-- The octets of a text. -/
def encode (s : String) : List UInt8 := encodeChars s.toList

end Forum.Text.Utf8
