import Forum.Proofs.Codec

/-!
# The layout of binary records

What a binary record is, said without the writer: every field is its length and its UTF-8 octets, a length is eight
octets, and the octet at place `i` of a length counts multiples of `256 ^ i` (`Layout.event`). The writer writes this
layout (`encode_eq`), so an event is written exactly when its layout keeps the limit, and what was written is read back
(`binary_round_trip`).
-/

namespace Forum.Binary

open Text

/-! ## The layout -/

namespace Layout

/-- A length, the lowest octet first. -/
def length (n : Nat) : Payload := (List.range 8).map fun i => UInt8.ofNat (n / 256 ^ i % 256)

/-- A text: its length and its octets. -/
def text (s : String) : Payload := length s.utf8ByteSize ++ s.toUTF8.data.toList

/-- A post: its six fields, dates as text. -/
def post (p : Post) : Payload :=
  text p.id.text ++ text p.title ++ text p.description ++ text p.user.text ++ text p.created.text ++ text p.updated.text

/-- An event: the post, or the identifier of the deleted one. -/
def event : PostEvent → Payload
  | .created p => post p
  | .updated p => post p
  | .deleted id => text id.text

end Layout

/-! ## The writer keeps to the layout -/

theorem littleEndian_eq (w n : Nat) :
    littleEndian w n = (List.range w).map fun i => UInt8.ofNat (n / 256 ^ i % 256) := by
  induction w generalizing n with
  | zero => rfl
  | succ w ih =>
    have hstep (i : Nat) : n / 256 / 256 ^ i = n / 256 ^ (i + 1) := by rw [Nat.div_div_eq_div_mul, Nat.pow_succ']
    simp [littleEndian, ih, List.range_succ_eq_map, hstep, Function.comp_def]

theorem writeText_eq (s : String) : writeText s = Layout.text s := by
  rw [writeText, Utf8.length_encode, Utf8.encode_eq_toUTF8, littleEndian_eq]
  rfl

@[simp] theorem Layout.length_text (s : String) : (text s).length = 8 + s.utf8ByteSize := by
  rw [← writeText_eq, length_writeText, Utf8.length_encode]

/-- The writer writes the layout, unless it is beyond the limit. -/
theorem encode_eq (e : PostEvent) :
    encode e = if (Layout.event e).length ≤ sizeLimit then .ok (Layout.event e) else .error .oversize := by
  have hpost (p : Post) : (postFields p).flatMap writeText = Layout.post p := by
    simp [postFields, writeText_eq, Layout.post]
  have hid (id : PostId) : [id.text].flatMap writeText = Layout.text id.text := by simp [writeText_eq]
  cases e with
  | created p => rw [encode, writeRecord, hpost, Layout.event]
  | updated p => rw [encode, writeRecord, hpost, Layout.event]
  | deleted id => rw [encode, writeRecord, hid, Layout.event]

end Forum.Binary

namespace Forum.Codec

open Binary Calendar

theorem encode_binary (e : PostEvent) :
    binary.encode e = if (Layout.event e).length ≤ sizeLimit then .ok (Layout.event e) else .error (.binary .oversize) := by
  rw [encode, Binary.encode_eq]
  split <;> rfl

/-- The binary codec writes an event exactly when its layout has at most one mebibyte. What it writes is the layout, and
it is read back as the event. -/
theorem binary_round_trip (e : PostEvent) :
    ((∃ payload, binary.encode e = .ok payload) ↔ (Layout.event e).length ≤ 2 ^ 20) ∧
      ∀ payload, binary.encode e = .ok payload → payload = Layout.event e ∧ binary.decode e.kind payload = .ok e := by
  refine ⟨?_, fun payload h => ⟨?_, decode_encode h (length_binary h)⟩⟩
  · rw [encode_binary]
    split
    · rename_i hle
      exact iff_of_true ⟨_, rfl⟩ hle
    · rename_i hgt
      exact iff_of_false (fun ⟨_, h⟩ => nomatch h) hgt
  · rw [encode_binary] at h
    split at h
    · exact (Except.ok.inj h).symm
    · cases h

/-- A post made in a leap second before the year 0 and last changed on the last day of the calendar. -/
def farPost : Post where
  id := ⟨"p1"⟩
  title := "Größe"
  description := ""
  user := ⟨"u1"⟩
  created := ⟨⟨-1, 6, 30, by decide, by decide, by decide, by decide⟩, 86399, 1999999999, by decide, by decide⟩
  updated := ⟨⟨262142, 12, 31, by decide, by decide, by decide, by decide⟩, 86399, 500000, by decide, by decide⟩

example : farPost.created.text = "-0001-06-30T23:59:60.999999999Z" ∧
    farPost.updated.text = "+262142-12-31T23:59:59.000500Z" := by decide +kernel

theorem farPost_round_trip : (Layout.event (.updated farPost)).length ≤ 2 ^ 20 ∧
    ∃ payload, binary.encode (.updated farPost) = .ok payload ∧ payload.length = 120 ∧
      binary.decode .updated payload = .ok (.updated farPost) := by
  have hle : (Layout.event (.updated farPost)).length ≤ 2 ^ 20 := by decide +kernel
  obtain ⟨payload, h⟩ := (binary_round_trip (.updated farPost)).1.2 hle
  obtain ⟨rfl, hdecode⟩ := (binary_round_trip (.updated farPost)).2 payload h
  exact ⟨hle, _, h, by decide +kernel, hdecode⟩

end Forum.Codec
