import Mathlib.Tactic.Common
import Forum.Text.Utf8

/-!
# Reading what was written in UTF-8

The reader takes the octets of a character one by one and ends with the character (`run_encodeChar`), so a whole text
is read back (`decode_encode`). One lemma for each number of octets that a character can have.

Nor does it take anything else: between two octets it has read whole characters and the start of one (`Spelled`), and
every octet that it takes keeps this (`Spelled.step`). Hence a text has one form (`decode_eq_ok_iff`).
-/

namespace Forum.Text.Utf8

/-! ## One character -/

theorem toNat_ofNat_of_lt {n : Nat} (h : n < 256) : (UInt8.ofNat n).toNat = n := by
  simp only [UInt8.toNat_ofNat']
  omega

/-- The code of a character is no surrogate. -/
theorem code_valid (c : Char) : c.val.toNat < 0xD800 ∨ (0xDFFF < c.val.toNat ∧ c.val.toNat < 0x110000) := c.valid

theorem ofNat_code {c : Char} {n : Nat} (h : n = c.val.toNat) : Char.ofNat n = c := by
  rw [h]
  exact Char.ofNat_toNat c

section Character

variable (c : Char) (i : Nat) (done : List Char) (rest : List UInt8)

/-- One octet is read as a character of ASCII. -/
theorem run_one (h : c.val.toNat ≤ 0x7f) :
    run ⟨i, done, none⟩ (UInt8.ofNat c.val.toNat :: rest) = run ⟨i + 1, c :: done, none⟩ rest := by
  have h0 := toNat_ofNat_of_lt (n := c.val.toNat) (by omega)
  simp only [run, step, h0, lead, show c.val.toNat < 0x80 by omega, if_true, ofNat_code rfl]

/-- Two octets are read as the character of which they are the code. -/
theorem run_two (h1 : 0x7f < c.val.toNat) (h2 : c.val.toNat ≤ 0x7ff) :
    run ⟨i, done, none⟩ (UInt8.ofNat (c.val.toNat / 64 % 0x20 + 0xc0) :: UInt8.ofNat (c.val.toNat % 0x40 + 0x80) :: rest) =
      run ⟨i + 2, c :: done, none⟩ rest := by
  have ha := toNat_ofNat_of_lt (n := c.val.toNat / 64 % 0x20 + 0xc0) (by omega)
  have hb := toNat_ofNat_of_lt (n := c.val.toNat % 0x40 + 0x80) (by omega)
  have hc : Char.ofNat ((c.val.toNat / 64 % 0x20 + 0xc0 - 0xC0) * 64 + (c.val.toNat % 0x40 + 0x80 - 0x80)) = c :=
    ofNat_code (by omega)
  simp only [run, step, ha, hb, lead]
  rw [if_neg (by omega), if_neg (by omega), if_pos (by omega)]
  simp only
  rw [if_pos (by omega)]
  simp only [hc]

/-- Three octets are read as the character of which they are the code. -/
theorem run_three (h1 : 0x7ff < c.val.toNat) (h2 : c.val.toNat ≤ 0xffff) :
    run ⟨i, done, none⟩ (UInt8.ofNat (c.val.toNat / 4096 % 0x10 + 0xe0) ::
      UInt8.ofNat (c.val.toNat / 64 % 0x40 + 0x80) :: UInt8.ofNat (c.val.toNat % 0x40 + 0x80) :: rest) =
      run ⟨i + 3, c :: done, none⟩ rest := by
  have ha := toNat_ofNat_of_lt (n := c.val.toNat / 4096 % 0x10 + 0xe0) (by omega)
  have hb := toNat_ofNat_of_lt (n := c.val.toNat / 64 % 0x40 + 0x80) (by omega)
  have hc := toNat_ofNat_of_lt (n := c.val.toNat % 0x40 + 0x80) (by omega)
  have hd : Char.ofNat (((c.val.toNat / 4096 % 0x10 + 0xe0 - 0xE0) * 64 + (c.val.toNat / 64 % 0x40 + 0x80 - 0x80)) * 64 +
      (c.val.toNat % 0x40 + 0x80 - 0x80)) = c := ofNat_code (by omega)
  -- the second octet is bounded below after `E0` and above after `ED`, where surrogates would start
  have hv := code_valid c
  simp only [run, step, ha, hb, hc, lead]
  rw [if_neg (by omega), if_neg (by omega), if_neg (by omega), if_pos (by omega)]
  simp only
  rw [if_pos (by constructor <;> split <;> omega)]
  simp only
  rw [if_pos (by omega)]
  simp only [hd]

/-- Four octets are read as the character of which they are the code. -/
theorem run_four (h1 : 0xffff < c.val.toNat) :
    run ⟨i, done, none⟩ (UInt8.ofNat (c.val.toNat / 262144 % 0x08 + 0xf0) ::
      UInt8.ofNat (c.val.toNat / 4096 % 0x40 + 0x80) :: UInt8.ofNat (c.val.toNat / 64 % 0x40 + 0x80) ::
      UInt8.ofNat (c.val.toNat % 0x40 + 0x80) :: rest) = run ⟨i + 4, c :: done, none⟩ rest := by
  have hv := code_valid c
  have ha := toNat_ofNat_of_lt (n := c.val.toNat / 262144 % 0x08 + 0xf0) (by omega)
  have hb := toNat_ofNat_of_lt (n := c.val.toNat / 4096 % 0x40 + 0x80) (by omega)
  have hc := toNat_ofNat_of_lt (n := c.val.toNat / 64 % 0x40 + 0x80) (by omega)
  have hd := toNat_ofNat_of_lt (n := c.val.toNat % 0x40 + 0x80) (by omega)
  have he : Char.ofNat ((((c.val.toNat / 262144 % 0x08 + 0xf0 - 0xF0) * 64 + (c.val.toNat / 4096 % 0x40 + 0x80 - 0x80)) *
      64 + (c.val.toNat / 64 % 0x40 + 0x80 - 0x80)) * 64 + (c.val.toNat % 0x40 + 0x80 - 0x80)) = c :=
    ofNat_code (by omega)
  simp only [run, step, ha, hb, hc, hd, lead]
  rw [if_neg (by omega), if_neg (by omega), if_neg (by omega), if_neg (by omega), if_pos (by omega)]
  simp only
  rw [if_pos (by constructor <;> split <;> omega)]
  simp only
  rw [if_pos (by omega)]
  simp only
  rw [if_pos (by omega)]
  simp only [he]

/-- The octets of a character are read as the character. -/
theorem run_encodeChar :
    run ⟨i, done, none⟩ (String.utf8EncodeChar c ++ rest) =
      run ⟨i + (String.utf8EncodeChar c).length, c :: done, none⟩ rest := by
  unfold String.utf8EncodeChar
  by_cases h1 : c.val.toNat ≤ 0x7f
  · simp only [if_pos h1]
    exact run_one c i done rest h1
  · by_cases h2 : c.val.toNat ≤ 0x7ff
    · simp only [if_neg h1, if_pos h2]
      exact run_two c i done rest (by omega) h2
    · by_cases h3 : c.val.toNat ≤ 0xffff
      · simp only [if_neg h1, if_neg h2, if_pos h3]
        exact run_three c i done rest (by omega) h3
      · simp only [if_neg h1, if_neg h2, if_neg h3]
        exact run_four c i done rest (by omega)

end Character

/-! ## Texts -/

/-- The code of a text is read as the text. -/
theorem run_encodeChars (cs : List Char) (i : Nat) (done : List Char) :
    run ⟨i, done, none⟩ (encodeChars cs) = .ok ⟨i + (encodeChars cs).length, cs.reverse ++ done, none⟩ := by
  induction cs generalizing i done with
  | nil => rfl
  | cons c cs ih =>
    simp only [encodeChars, List.flatMap_cons]
    rw [run_encodeChar c i done]
    have h := ih (i + (String.utf8EncodeChar c).length) (c :: done)
    simp only [encodeChars] at h
    rw [h]
    simp [Nat.add_assoc]

/-- A text is read back from its code. -/
theorem decodeChars_encodeChars (cs : List Char) : decodeChars (encodeChars cs) = .ok cs := by
  simp [decodeChars, run_encodeChars]

/-- A text is read back from its octets. -/
theorem decode_encode (s : String) : decode (encode s) = .ok s := by
  simp [decode, encode, decodeChars_encodeChars]

/-! ## What is read was written -/

theorem toNat_ofNat_of_valid {n : Nat} (h : n.isValidChar) : (Char.ofNat n).val.toNat = n := by
  rw [Char.ofNat, dif_pos h]
  rfl

theorem ofNat_eq_of_toNat {b : UInt8} {n : Nat} (h : n = b.toNat) : UInt8.ofNat n = b := by
  rw [h]
  exact UInt8.ofNat_toNat

section Forms

variable {n : Nat}

/-- The octet that was read is the code of its character. -/
theorem encodeChar_one {a : UInt8} (h : n ≤ 0x7f) (ha : n = a.toNat) : String.utf8EncodeChar (Char.ofNat n) = [a] := by
  simp only [String.utf8EncodeChar, toNat_ofNat_of_valid (.inl (by omega) : n.isValidChar), if_pos h,
    ofNat_eq_of_toNat ha]

/-- The two octets that were read are the code of their character. -/
theorem encodeChar_two {a b : UInt8} (hl : 0x7f < n) (hh : n ≤ 0x7ff) (ha : n / 64 % 0x20 + 0xc0 = a.toNat)
    (hb : n % 0x40 + 0x80 = b.toNat) : String.utf8EncodeChar (Char.ofNat n) = [a, b] := by
  simp only [String.utf8EncodeChar, toNat_ofNat_of_valid (.inl (by omega) : n.isValidChar), if_neg (Nat.not_le.2 hl),
    if_pos hh, ofNat_eq_of_toNat ha, ofNat_eq_of_toNat hb]

/-- The three octets that were read are the code of their character. -/
theorem encodeChar_three {a b c : UInt8} (hv : n.isValidChar) (hl : 0x7ff < n) (hh : n ≤ 0xffff)
    (ha : n / 4096 % 0x10 + 0xe0 = a.toNat) (hb : n / 64 % 0x40 + 0x80 = b.toNat) (hc : n % 0x40 + 0x80 = c.toNat) :
    String.utf8EncodeChar (Char.ofNat n) = [a, b, c] := by
  simp only [String.utf8EncodeChar, toNat_ofNat_of_valid hv, if_neg (show ¬n ≤ 0x7f by omega),
    if_neg (Nat.not_le.2 hl), if_pos hh, ofNat_eq_of_toNat ha, ofNat_eq_of_toNat hb, ofNat_eq_of_toNat hc]

/-- The four octets that were read are the code of their character. -/
theorem encodeChar_four {a b c d : UInt8} (hv : n.isValidChar) (hl : 0xffff < n)
    (ha : n / 262144 % 0x08 + 0xf0 = a.toNat) (hb : n / 4096 % 0x40 + 0x80 = b.toNat)
    (hc : n / 64 % 0x40 + 0x80 = c.toNat) (hd : n % 0x40 + 0x80 = d.toNat) :
    String.utf8EncodeChar (Char.ofNat n) = [a, b, c, d] := by
  simp only [String.utf8EncodeChar, toNat_ofNat_of_valid hv, if_neg (show ¬n ≤ 0x7f by omega),
    if_neg (show ¬n ≤ 0x7ff by omega), if_neg (Nat.not_le.2 hl), ofNat_eq_of_toNat ha, ofNat_eq_of_toNat hb,
    ofNat_eq_of_toNat hc, ofNat_eq_of_toNat hd]

end Forms

/-- Octets start the form of every character that can still be read: of those after the next one `later` are due, the
next one is between `low` and `high`, and `code` is what was read. -/
def Opens : (later low high code : Nat) → List UInt8 → Prop
  | 0, low, high, code, bs => ∀ b : UInt8, low ≤ b.toNat → b.toNat ≤ high →
      String.utf8EncodeChar (Char.ofNat (code * 64 + (b.toNat - 0x80))) = bs ++ [b]
  | later + 1, low, high, code, bs => ∀ b : UInt8, low ≤ b.toNat → b.toNat ≤ high →
      Opens later 0x80 0xBF (code * 64 + (b.toNat - 0x80)) (bs ++ [b])

/-- The first octet of a form of two octets or more. -/
theorem opens_lead {a : UInt8} {i : Nat} {p : Partial} (h : lead i a.toNat = .ok (.inr p)) :
    Opens p.later p.low p.high p.code [a] := by
  have hlt := a.toNat_lt
  unfold lead at h
  split at h
  · cases h
  split at h
  · cases h
  split at h
  · cases h
    simp only [Opens, List.cons_append, List.nil_append]
    intro b hl hh
    exact encodeChar_two (by omega) (by omega) (by omega) (by omega)
  split at h
  · cases h
    simp only [Opens, List.cons_append, List.nil_append]
    intro b hl hh c hl' hh'
    have hE0 : a.toNat = 0xE0 → 0xA0 ≤ b.toNat := fun ha => by rwa [if_pos ha] at hl
    have hED : a.toNat = 0xED → b.toNat ≤ 0x9F := fun ha => by rwa [if_pos ha] at hh
    have h80 : 0x80 ≤ b.toNat := by split at hl <;> omega
    have hBF : b.toNat ≤ 0xBF := by split at hh <;> omega
    exact encodeChar_three (by unfold Nat.isValidChar; omega) (by omega) (by omega) (by omega) (by omega) (by omega)
  split at h
  · cases h
    simp only [Opens, List.cons_append, List.nil_append]
    intro b hl hh c hl' hh' d hl'' hh''
    have hF0 : a.toNat = 0xF0 → 0x90 ≤ b.toNat := fun ha => by rwa [if_pos ha] at hl
    have hF4 : a.toNat = 0xF4 → b.toNat ≤ 0x8F := fun ha => by rwa [if_pos ha] at hh
    have h80 : 0x80 ≤ b.toNat := by split at hl <;> omega
    have hBF : b.toNat ≤ 0xBF := by split at hh <;> omega
    exact encodeChar_four (by unfold Nat.isValidChar; omega) (by omega) (by omega) (by omega) (by omega) (by omega)
  · cases h

theorem encodeChar_lead {a : UInt8} {i : Nat} {c : Char} (h : lead i a.toNat = .ok (.inl c)) :
    String.utf8EncodeChar c = [a] := by
  unfold lead at h
  split at h
  · cases h
    exact encodeChar_one (by omega) rfl
  · split at h
    · cases h
    · split at h
      · cases h
      · split at h
        · cases h
        · split at h <;> cases h

/-- The octets that were read are the characters that were read, and the start of the open one. -/
def Spelled (s : State) (bs : List UInt8) : Prop :=
  match s.pending with
  | none => bs = encodeChars s.done.reverse
  | some p => ∃ ps, bs = encodeChars s.done.reverse ++ ps ∧ Opens p.later p.low p.high p.code ps

theorem encodeChars_reverse_cons (c : Char) (done : List Char) :
    encodeChars (c :: done).reverse = encodeChars done.reverse ++ String.utf8EncodeChar c := by
  simp [encodeChars, List.flatMap_append]

/-- What was read so far and the next octet spell what is read with it. -/
theorem Spelled.step {s t : State} {bs : List UInt8} {b : UInt8} (h : Spelled s bs) (hs : step s b = .ok t) :
    Spelled t (bs ++ [b]) := by
  obtain ⟨i, done, pending⟩ := s
  cases pending with
  | none =>
    simp only [Utf8.step] at hs
    obtain rfl : bs = encodeChars done.reverse := h
    split at hs
    · cases hs
    · rename_i c hlead
      cases hs
      show _ = encodeChars (c :: done).reverse
      rw [encodeChars_reverse_cons, encodeChar_lead hlead]
    · rename_i p hlead
      cases hs
      exact ⟨[b], rfl, opens_lead hlead⟩
  | some p =>
    obtain ⟨start, seen, later, low, high, code⟩ := p
    obtain ⟨ps, rfl, hopens⟩ := h
    simp only [Utf8.step] at hs
    split at hs
    · rename_i hb
      cases later with
      | zero =>
        cases hs
        show _ = encodeChars (_ :: done).reverse
        rw [encodeChars_reverse_cons, hopens b hb.1 hb.2, List.append_assoc]
      | succ later =>
        cases hs
        exact ⟨ps ++ [b], List.append_assoc .., hopens b hb.1 hb.2⟩
    · cases hs

/-- What is read of octets one after the other is spelled by them. -/
theorem Spelled.run {s t : State} {bs cs : List UInt8} (h : Spelled s bs) (hr : run s cs = .ok t) :
    Spelled t (bs ++ cs) := by
  induction cs generalizing s bs with
  | nil =>
    cases hr
    rwa [List.append_nil]
  | cons c cs ih =>
    rw [Utf8.run] at hr
    split at hr
    · cases hr
    · rename_i u hstep
      have := ih (h.step hstep) hr
      rwa [List.append_assoc] at this

/-- Octets that are read as a text are the octets of the text. -/
theorem encode_of_decode {bs : List UInt8} {s : String} (h : decode bs = .ok s) : bs = encode s := by
  unfold decode decodeChars at h
  cases hrun : run ⟨0, [], none⟩ bs with
  | error fault => simp [hrun] at h
  | ok t =>
    have hspelled : Spelled t ([] ++ bs) := Spelled.run (s := ⟨0, [], none⟩) rfl hrun
    obtain ⟨i, done, pending⟩ := t
    cases pending with
    | some p => simp [hrun] at h
    | none =>
      obtain rfl : String.ofList done.reverse = s := by simpa [hrun] using h
      rw [encode, String.toList_ofList]
      exact hspelled

/-- Octets are read as a text just where they are its code. -/
theorem decode_eq_ok_iff {bs : List UInt8} {s : String} : decode bs = .ok s ↔ bs = encode s :=
  ⟨encode_of_decode, fun h => h ▸ decode_encode s⟩

/-! ## The octets that a string is kept as -/

/-- The octets written are those by which the string is kept in memory. -/
theorem encode_eq_toUTF8 (s : String) : encode s = s.toUTF8.data.toList := by
  rw [String.toUTF8_eq_toByteArray, ← String.utf8Encode_toList, List.utf8Encode, List.toList_data_toByteArray, encode,
    encodeChars]

/-- The code of a text has as many octets as are counted for it. -/
theorem length_encode (s : String) : (encode s).length = s.utf8ByteSize := by
  rw [encode_eq_toUTF8, String.toUTF8_eq_toByteArray]
  rfl

end Forum.Text.Utf8
