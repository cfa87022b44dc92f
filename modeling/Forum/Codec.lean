import Forum.Codec.Json

/-!
# Codecs

The publisher and the subscribers of a subject agree on one of two codecs. Both refuse to read a payload of more than
`sizeLimit` octets; only the binary one refuses to write it.
-/

namespace Forum

/-- How events are written as payloads. -/
inductive Codec where
  | binary
  | json
deriving DecidableEq, Repr

/-- Why a payload is not read or an event is not written. -/
inductive CodecError where
  | binary (fault : Binary.Fault)
  | json (fault : Json.Fault)
  /-- The payload is longer than payloads may be. -/
  | tooLarge (size : Nat)
deriving DecidableEq, Repr

def CodecError.message : CodecError → String
  | .binary fault => s!"Bincode serialization/deserialization error: {fault.message}"
  | .json fault => s!"JSON serialization/deserialization error: {fault.message}"
  | .tooLarge size => s!"Payload of {Text.Decimal.text size} bytes exceeds the 1 MiB limit"

namespace Codec

/-- The name of a codec in settings. -/
def name : Codec → String
  | binary => "bincode"
  | json => "json"

/-- A name with the letters of ASCII in lower case. Other letters stay as they are: for which codec is meant they do not
matter (`ofName?_of_lowered`). -/
def lowerName (s : String) : String := String.ofList (s.toList.map Char.toLower)

/-- The codec that a name means, in letters of any case. -/
def ofName? (s : String) : Option Codec :=
  let lower := lowerName s
  if lower = "bincode" ∨ lower = "binary" then some binary
  else if lower = "json" then some json
  else none

/-- The message for a name that means no codec. -/
def unknownMessage (s : String) : String := s!"Unknown codec type: {s}"

/-- The payload of an event. -/
def encode (codec : Codec) (event : PostEvent) : Except CodecError Payload :=
  match codec with
  | binary => (Binary.encode event).mapError .binary
  | json => .ok (Json.encode event)

/-- The event of a kind that a payload holds. -/
def decode (codec : Codec) (kind : EventKind) (payload : Payload) : Except CodecError PostEvent :=
  if sizeLimit < payload.length then .error (.tooLarge payload.length)
  else match codec with
    | binary => (Binary.decode kind payload).mapError .binary
    | json => (Json.decode kind payload).mapError .json

end Codec

end Forum
