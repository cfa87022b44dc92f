import Forum.Proofs.Codec.Binary
import Forum.Proofs.Codec.Json
import Forum.Replication.Applier

/-!
# What is published is read back

Whatever the codec, the payload of an event is read back as the event on the subject on which it is published, provided
that it keeps the limit (`read_encode`), and otherwise it is not read (`read_tooLarge`). The binary codec writes no
payload beyond the limit (`length_binary`).
-/

namespace Forum

open Replication

@[simp] theorem EventKind.ofSubject?_subject (k : EventKind) : ofSubject? k.subject = some k := by
  cases k <;> decide

theorem EventKind.ofSubject?_eq_some {subject : String} {k : EventKind} :
    ofSubject? subject = some k ↔ subject = k.subject := by
  constructor
  · intro h
    unfold ofSubject? at h
    have hmatch := List.find?_some h
    exact (beq_iff_eq.1 hmatch).symm
  · rintro rfl
    exact ofSubject?_subject k

/-- The three kinds of events are on three subjects. -/
theorem EventKind.subject_injective {k l : EventKind} (h : k.subject = l.subject) : k = l := by
  have hl := ofSubject?_subject l
  rw [← h, ofSubject?_subject] at hl
  exact Option.some.inj hl

theorem EventKind.subject_mem_posts (k : EventKind) : k.subject ∈ Subject.posts := by
  cases k <;> decide

namespace Codec

theorem length_binary {e : PostEvent} {payload : Payload} (h : binary.encode e = .ok payload) :
    payload.length ≤ sizeLimit := by
  have hb : Binary.encode e = .ok payload := mapError_eq_ok.1 h
  cases e with
  | created p => exact Binary.length_writeRecord hb
  | updated p => exact Binary.length_writeRecord hb
  | deleted id => exact Binary.length_writeRecord hb

/-- A codec reads what keeps the limit and is read by its reader. -/
theorem decode_eq_ok {codec : Codec} {kind : EventKind} {payload : Payload} {e : PostEvent} :
    codec.decode kind payload = .ok e ↔ payload.length ≤ sizeLimit ∧
      match codec with
      | binary => Binary.decode kind payload = .ok e
      | json => Json.decode kind payload = .ok e := by
  by_cases hle : payload.length ≤ sizeLimit
  · rw [decode.eq_def, if_neg (Nat.not_lt.2 hle)]
    cases codec with
    | binary => exact mapError_eq_ok.trans (and_iff_right hle).symm
    | json => exact mapError_eq_ok.trans (and_iff_right hle).symm
  · rw [decode.eq_def, if_pos (Nat.lt_of_not_le hle)]
    exact iff_of_false (fun h => nomatch h) fun h => hle h.1

theorem decode_binary_eq_ok {kind : EventKind} {payload : Payload} {e : PostEvent} :
    binary.decode kind payload = .ok e ↔ payload.length ≤ sizeLimit ∧ Binary.decode kind payload = .ok e := decode_eq_ok

theorem decode_json_eq_ok {kind : EventKind} {payload : Payload} {e : PostEvent} :
    json.decode kind payload = .ok e ↔ payload.length ≤ sizeLimit ∧ Json.decode kind payload = .ok e := decode_eq_ok

/-- An event is read back from its payload. -/
theorem decode_encode {codec : Codec} {e : PostEvent} {payload : Payload} (h : codec.encode e = .ok payload)
    (hlen : payload.length ≤ sizeLimit) : codec.decode e.kind payload = .ok e := by
  refine decode_eq_ok.2 ⟨hlen, ?_⟩
  cases codec with
  | binary => exact Binary.decode_encode (mapError_eq_ok.1 h)
  | json =>
    obtain rfl := Except.ok.inj h
    exact Json.decode_encode e

theorem decode_tooLarge (codec : Codec) (kind : EventKind) {payload : Payload} (h : sizeLimit < payload.length) :
    codec.decode kind payload = .error (.tooLarge payload.length) := by
  rw [decode.eq_def, if_pos h]

end Codec

namespace Replication.Applier

/-- An event is read back on the subject on which it is published. -/
theorem read_encode {codec : Codec} {e : PostEvent} {payload : Payload} (h : codec.encode e = .ok payload)
    (hlen : payload.length ≤ sizeLimit) : read codec e.subject payload = .ok e := by
  have hk : EventKind.ofSubject? e.subject = some e.kind := EventKind.ofSubject?_subject e.kind
  simp [read, hk, Codec.decode_encode h hlen, Except.mapError]

/-- A payload beyond the limit is not read, whatever it holds. -/
theorem read_tooLarge (codec : Codec) (e : PostEvent) {payload : Payload} (h : sizeLimit < payload.length) :
    read codec e.subject payload = .error (.decode e.subject (.tooLarge payload.length)) := by
  have hk : EventKind.ofSubject? e.subject = some e.kind := EventKind.ofSubject?_subject e.kind
  simp [read, hk, Codec.decode_tooLarge codec e.kind h, Except.mapError]

end Replication.Applier

end Forum
