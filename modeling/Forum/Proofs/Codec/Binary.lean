import Mathlib.Tactic.Common
import Forum.Codec.Binary
import Forum.Proofs.Calendar.Reading
import Forum.Proofs.Steps
import Forum.Proofs.Text.Utf8

/-!
# Reading binary records

A text is read back from its length and its octets, with whatever follows it left (`readText_writeText`), and so is a
date, as text (`readDate_writeText`). Hence a record that was written is read back as the event it was written for
(`decode_encode`). Lengths fit into their eight octets because no record is longer than the limit.

Nothing else is read: what was taken for a text is its length and its octets (`eq_writeText_of_readText`), and what was
taken for a post is six texts in a row (`fields_of_readPost`).
-/

namespace Forum

namespace Binary

open Calendar Text

/-! ## Lengths -/

@[simp] theorem length_littleEndian (w n : Nat) : (littleEndian w n).length = w := by
  induction w generalizing n with
  | zero => rfl
  | succ w ih => simp [littleEndian, ih]

theorem ofLittleEndian_littleEndian (w n : Nat) : ofLittleEndian (littleEndian w n) = n % 256 ^ w := by
  induction w generalizing n with
  | zero => simp [littleEndian, ofLittleEndian, Nat.mod_one]
  | succ w ih =>
    rw [littleEndian, ofLittleEndian, ih, Utf8.toNat_ofNat_of_lt (Nat.mod_lt _ (by decide)), Nat.pow_succ', Nat.mod_mul]

/-- Every row of octets is the form of its number. -/
theorem littleEndian_ofLittleEndian (bs : Payload) : littleEndian bs.length (ofLittleEndian bs) = bs := by
  induction bs with
  | nil => rfl
  | cons b bs ih =>
    have hb := b.toNat_lt
    have hlow : (b.toNat + 256 * ofLittleEndian bs) % 256 = b.toNat := by omega
    have hhigh : (b.toNat + 256 * ofLittleEndian bs) / 256 = ofLittleEndian bs := by omega
    rw [List.length_cons, littleEndian, ofLittleEndian, hlow, hhigh, ih, UInt8.ofNat_toNat]

theorem split?_append (xs ys : Payload) : split? xs.length (xs ++ ys) = some (xs, ys) := by
  simp [split?]

theorem split?_eq_some {n : Nat} {bs xs ys : Payload} (h : split? n bs = some (xs, ys)) :
    bs = xs ++ ys ∧ xs.length = n := by
  unfold split? at h
  split at h
  · rename_i hn
    cases h
    exact ⟨(List.take_append_drop n bs).symm, List.length_take_of_le hn⟩
  · cases h

/-! ## Fields -/

theorem length_writeText (s : String) : (writeText s).length = 8 + (Utf8.encode s).length := by
  rw [writeText, List.length_append, length_littleEndian]

theorem readText_writeText {s : String} (h : (Utf8.encode s).length ≤ sizeLimit) (rest : Payload) :
    readText (writeText s ++ rest) = .ok (s, rest) := by
  have hlen : ofLittleEndian (littleEndian 8 (Utf8.encode s).length) = (Utf8.encode s).length := by
    rw [ofLittleEndian_littleEndian, Nat.mod_eq_of_lt]
    unfold sizeLimit at h
    omega
  have h8 : split? 8 (littleEndian 8 (Utf8.encode s).length ++ (Utf8.encode s ++ rest)) =
      some (littleEndian 8 (Utf8.encode s).length, Utf8.encode s ++ rest) := by
    have := split?_append (littleEndian 8 (Utf8.encode s).length) (Utf8.encode s ++ rest)
    rwa [length_littleEndian] at this
  simp only [writeText, List.append_assoc, readText, h8, hlen, split?_append, Utf8.decode_encode]

/-- What is read as a text is its length and its octets. -/
theorem eq_writeText_of_readText {bs rest : Payload} {s : String} (h : readText bs = .ok (s, rest)) :
    bs = writeText s ++ rest := by
  unfold readText at h
  split at h
  · cases h
  rename_i length body hlength
  split at h
  · cases h
  rename_i octets rest' hbody
  split at h
  · cases h
  rename_i s' hdecode
  cases h
  obtain ⟨rfl, h8⟩ := split?_eq_some hlength
  obtain ⟨rfl, hn⟩ := split?_eq_some hbody
  obtain rfl := Utf8.encode_of_decode hdecode
  have hform := littleEndian_ofLittleEndian length
  rw [h8, ← hn] at hform
  rw [writeText, List.append_assoc, hform]

theorem readDate_writeText {s : String} {t : Instant} (hs : Instant.parse s = .ok t)
    (h : (Utf8.encode s).length ≤ sizeLimit) (rest : Payload) : readDate (writeText s ++ rest) = .ok (t, rest) := by
  simp [readDate, readText_writeText h, bind, Except.bind, hs]

theorem text_of_readDate {bs rest : Payload} {t : Instant} (h : readDate bs = .ok (t, rest)) :
    ∃ s, Instant.parse s = .ok t ∧ bs = writeText s ++ rest := by
  obtain ⟨⟨s, rest'⟩, hread, hdate⟩ := bind_eq_ok.1 h
  simp only at hdate
  split at hdate
  · cases hdate
  · rename_i hparse
    cases hdate
    exact ⟨s, hparse, eq_writeText_of_readText hread⟩

/-- A field is not longer than the record. -/
theorem length_encode_le {fields : List String} {s : String} (hs : s ∈ fields) :
    (Utf8.encode s).length ≤ (fields.flatMap writeText).length := by
  obtain ⟨xs, ys, rfl⟩ := List.append_of_mem hs
  simp only [List.flatMap_append, List.flatMap_cons, List.length_append, writeText]
  omega

/-- A record that was written is the texts of its fields and keeps the limit. -/
theorem writeRecord_eq_ok {fields : List String} {octets : Payload} :
    writeRecord fields = .ok octets ↔ octets = fields.flatMap writeText ∧ octets.length ≤ sizeLimit := by
  simp only [writeRecord]
  split
  · rename_i hle
    exact ⟨fun h => Except.ok.inj h ▸ ⟨rfl, hle⟩, fun h => h.1 ▸ rfl⟩
  · rename_i hgt
    exact iff_of_false (fun h => nomatch h) fun h => hgt (h.1 ▸ h.2)

/-! ## Records -/

/-- The texts of a post whose dates are written in a way of one's own. -/
def fieldsWith (p : Post) (created updated : String) : List String :=
  [p.id.text, p.title, p.description, p.user.text, created, updated]

/-- A post is read from its fields, whatever follows them. -/
theorem readPost_fields {p : Post} {created updated : String} (hc : Instant.parse created = .ok p.created)
    (hu : Instant.parse updated = .ok p.updated)
    (h : ((fieldsWith p created updated).flatMap writeText).length ≤ sizeLimit) (rest : Payload) :
    readPost ((fieldsWith p created updated).flatMap writeText ++ rest) = .ok (p, rest) := by
  have hf : ∀ s ∈ fieldsWith p created updated, (Utf8.encode s).length ≤ sizeLimit := fun s hs =>
    Nat.le_trans (length_encode_le hs) h
  simp only [fieldsWith, List.forall_mem_cons, List.not_mem_nil, false_imp_iff, implies_true, and_true] at hf
  obtain ⟨hid, htitle, hdescription, huser, hcreated, hupdated⟩ := hf
  simp only [fieldsWith, List.flatMap_cons, List.flatMap_nil, List.nil_append, List.append_assoc, readPost,
    readText_writeText hid, readText_writeText htitle, readText_writeText hdescription, readText_writeText huser,
    readDate_writeText hc hcreated, readDate_writeText hu hupdated, bind, Except.bind]

/-- What is read as a post is its fields. -/
theorem fields_of_readPost {bs rest : Payload} {p : Post} (h : readPost bs = .ok (p, rest)) :
    ∃ created updated, Instant.parse created = .ok p.created ∧ Instant.parse updated = .ok p.updated ∧
      bs = (fieldsWith p created updated).flatMap writeText ++ rest := by
  obtain ⟨⟨id, bs₁⟩, hid, h⟩ := bind_eq_ok.1 h
  obtain ⟨⟨title, bs₂⟩, htitle, h⟩ := bind_eq_ok.1 h
  obtain ⟨⟨description, bs₃⟩, hdescription, h⟩ := bind_eq_ok.1 h
  obtain ⟨⟨user, bs₄⟩, huser, h⟩ := bind_eq_ok.1 h
  obtain ⟨⟨created, bs₅⟩, hcreated, h⟩ := bind_eq_ok.1 h
  obtain ⟨⟨updated, bs₆⟩, hupdated, h⟩ := bind_eq_ok.1 h
  cases h
  obtain ⟨createdText, hc, rfl⟩ := text_of_readDate hcreated
  obtain ⟨updatedText, hu, rfl⟩ := text_of_readDate hupdated
  refine ⟨createdText, updatedText, hc, hu, ?_⟩
  simp only [eq_writeText_of_readText hid, eq_writeText_of_readText htitle, eq_writeText_of_readText hdescription,
    eq_writeText_of_readText huser, fieldsWith, List.flatMap_cons, List.flatMap_nil, List.nil_append, List.append_assoc]

/-- A record of the binary codec keeps the limit. -/
theorem length_writeRecord {fields : List String} {octets : Payload} (h : writeRecord fields = .ok octets) :
    octets.length ≤ sizeLimit := (writeRecord_eq_ok.1 h).2

theorem readPost_writeRecord {p : Post} {octets : Payload} (h : writeRecord (postFields p) = .ok octets) :
    readPost octets = .ok (p, []) := by
  obtain ⟨rfl, hle⟩ := writeRecord_eq_ok.1 h
  have h := readPost_fields (Instant.parse_text p.created) (Instant.parse_text p.updated) hle []
  rw [List.append_nil] at h
  exact h

theorem readText_writeRecord {s : String} {octets : Payload} (h : writeRecord [s] = .ok octets) :
    readText octets = .ok (s, []) := by
  obtain ⟨rfl, hle⟩ := writeRecord_eq_ok.1 h
  simpa using readText_writeText (Nat.le_trans (length_encode_le (List.mem_singleton.2 rfl)) hle) []

/-- An event is read back from its record. -/
theorem decode_encode {e : PostEvent} {octets : Payload} (h : encode e = .ok octets) : decode e.kind octets = .ok e := by
  cases e with
  | created p => simp [PostEvent.kind, decode, readPost_writeRecord h, whole, Except.map]
  | updated p => simp [PostEvent.kind, decode, readPost_writeRecord h, whole, Except.map]
  | deleted id => simp [PostEvent.kind, decode, readText_writeRecord h, whole, Except.map]

end Binary

end Forum
