import Forum.Proofs.Codec.Layout

/-!
# How JSON records are spelled

What a JSON record is, said without the writer: a string is characters between quotes, each of which stands for itself,
behind a backslash or as four hexadecimal digits (`Stands`); an object is members between braces (`Members`). The writer
keeps to this (`spells_encode`), whatever the characters. So an event is written as a text that spells it, and the text
is read back as the event as long as it keeps the limit (`json_round_trip`).
-/

namespace Forum.Json.Spelling

open Text

/-! ## The grammar -/

/-- The characters that have a letter, or themselves, to stand behind a backslash. -/
def letters : List (Char × Char) :=
  [('"', '"'), ('\\', '\\'), ('/', '/'), ('\x08', 'b'), ('\x0c', 'f'), ('\n', 'n'), ('\r', 'r'), ('\t', 't')]

/-- A hexadecimal digit of a value, in either case. -/
def Hex (digit : Char) (value : Nat) : Prop := "0123456789abcdef".toList[value]? = some digit.toLower

/-- How a character may stand in a string. -/
inductive Stands : Char → List Char → Prop
  | itself {c : Char} (hcontrol : 32 ≤ c.toNat) (hquote : c ≠ '"') (hslash : c ≠ '\\') : Stands c [c]
  | letter {c l : Char} (h : (c, l) ∈ letters) : Stands c ['\\', l]
  | digits {c h₃ h₂ h₁ h₀ : Char} {n₃ n₂ n₁ n₀ : Nat} (d₃ : Hex h₃ n₃) (d₂ : Hex h₂ n₂) (d₁ : Hex h₁ n₁) (d₀ : Hex h₀ n₀)
      (hc : c.toNat = 16 ^ 3 * n₃ + 16 ^ 2 * n₂ + 16 * n₁ + n₀) : Stands c ['\\', 'u', h₃, h₂, h₁, h₀]

/-- Characters one after the other. -/
inductive Body : List Char → List Char → Prop
  | nil : Body [] []
  | cons {c : Char} {s cs t : List Char} (hc : Stands c cs) (ht : Body s t) : Body (c :: s) (cs ++ t)

/-- A string. -/
inductive Quoted : String → List Char → Prop
  | intro {s : String} {t : List Char} (h : Body s.toList t) : Quoted s ('"' :: t ++ ['"'])

/-- Members of an object, whose values are strings. -/
inductive Members : List (String × String) → List Char → Prop
  | last {key value : String} {k v : List Char} (hk : Quoted key k) (hv : Quoted value v) :
      Members [(key, value)] (k ++ ':' :: v)
  | cons {key value : String} {k v : List Char} {ms : List (String × String)} {t : List Char} (hk : Quoted key k)
      (hv : Quoted value v) (ht : Members ms t) : Members ((key, value) :: ms) (k ++ ':' :: v ++ ',' :: t)

/-- The members of a post in their order. -/
def members (p : Post) : List (String × String) :=
  [("id", p.id.text), ("title", p.title), ("description", p.description), ("user_id", p.user.text),
    ("date_created", p.created.text), ("date_updated", p.updated.text)]

/-- A post: an object with its members. -/
inductive Object : Post → List Char → Prop
  | intro {p : Post} {t : List Char} (h : Members (members p) t) : Object p ('\x7b' :: t ++ ['\x7d'])

/-- A text spells an event: the post, or the identifier of the deleted one. -/
def Spells (t : List Char) : PostEvent → Prop
  | .created p => Object p t
  | .updated p => Object p t
  | .deleted id => Quoted id.text t

/-! ## The writer keeps to the grammar -/

/-- The two digits of a control. -/
theorem hex_hexPair : ∀ n < 32, ∃ h₁ h₀, hexPair n = [h₁, h₀] ∧ Hex h₁ (n / 16) ∧ Hex h₀ (n % 16) := by
  intro n hn
  refine ⟨_, _, rfl, ?_⟩
  revert n
  unfold Hex
  decide

/-- A character with a letter is escaped by it. -/
theorem stands_ite {c k l : Char} {cs : List Char} (hl : (k, l) ∈ letters) (h : Stands c cs) :
    Stands c (if c = k then ['\\', l] else cs) := by
  split
  · rename_i hc
    exact .letter (hc ▸ hl)
  · exact h

theorem stands_escapeChar (c : Char) : Stands c (escapeChar c) := by
  unfold escapeChar
  split
  · rename_i h
    rcases h with rfl | rfl
    · exact .letter (by decide)
    · exact .letter (by decide)
  rename_i hq
  refine stands_ite (by decide) <| stands_ite (by decide) <| stands_ite (by decide) <| stands_ite (by decide) <|
    stands_ite (by decide) ?_
  split
  · rename_i hlt
    obtain ⟨h₁, h₀, hpair, d₁, d₀⟩ := hex_hexPair c.toNat hlt
    have hzero : Hex '0' 0 := rfl
    rw [hpair]
    exact .digits hzero hzero d₁ d₀ (by omega)
  · rename_i hge
    exact .itself (Nat.le_of_not_lt hge) (fun h => hq (.inl h)) fun h => hq (.inr h)

theorem body_escapeChars (s : List Char) : Body s (s.flatMap escapeChar) := by
  induction s with
  | nil => exact .nil
  | cons c s ih => exact .cons (stands_escapeChar c) ih

theorem quoted_writeString (s : String) : Quoted s (writeString s) := .intro (body_escapeChars s.toList)

theorem object_writePost (p : Post) : Object p (writePost p) := by
  have hmembers : Members (members p) _ :=
    .cons (quoted_writeString _) (quoted_writeString _) <|
    .cons (quoted_writeString _) (quoted_writeString _) <|
    .cons (quoted_writeString _) (quoted_writeString _) <|
    .cons (quoted_writeString _) (quoted_writeString _) <|
    .cons (quoted_writeString _) (quoted_writeString _) <|
    .last (quoted_writeString _) (quoted_writeString _)
  have h := Object.intro hmembers
  simp only [List.append_assoc, List.cons_append] at h
  simpa only [writePost, writeMember, Field.name, List.append_assoc, List.cons_append] using h

/-- An event is written as a text that spells it. -/
theorem spells_encode (e : PostEvent) :
    ∃ text : String, encode e = Utf8.encode text ∧ Spells text.toList e := by
  have hwritten (t : List Char) : Utf8.encodeChars t = Utf8.encode (String.ofList t) ∧ (String.ofList t).toList = t := by
    rw [Utf8.encode, String.toList_ofList]
    exact ⟨rfl, rfl⟩
  have hspelled {t : List Char} (he : encode e = Utf8.encodeChars t) (ht : Spells t e) :
      ∃ text : String, encode e = Utf8.encode text ∧ Spells text.toList e := by
    obtain ⟨hencode, hlist⟩ := hwritten t
    exact ⟨String.ofList t, he.trans hencode, by rwa [hlist]⟩
  cases e with
  | created p => exact hspelled rfl (object_writePost p)
  | updated p => exact hspelled rfl (object_writePost p)
  | deleted id => exact hspelled rfl (quoted_writeString id.text)

end Forum.Json.Spelling

namespace Forum.Codec

open Calendar Json Text

/-- The JSON codec writes every event, as a text that spells it, and reads the event back exactly when the text has at
most one mebibyte. -/
theorem json_round_trip (e : PostEvent) :
    ∃ text : String, json.encode e = .ok text.toUTF8.data.toList ∧ Spelling.Spells text.toList e ∧
      (json.decode e.kind text.toUTF8.data.toList = .ok e ↔ text.utf8ByteSize ≤ 2 ^ 20) := by
  obtain ⟨text, hencode, hspells⟩ := Spelling.spells_encode e
  have hwritten : json.encode e = .ok text.toUTF8.data.toList := by
    rw [encode, hencode, Utf8.encode_eq_toUTF8]
  refine ⟨text, hwritten, hspells, ?_⟩
  rw [← Utf8.length_encode, Utf8.encode_eq_toUTF8]
  constructor
  · intro h
    by_contra hgt
    rw [decode_tooLarge json e.kind (Nat.lt_of_not_le hgt)] at h
    cases h
  · intro hle
    exact decode_encode hwritten hle

/-- A post with all that makes a text difficult, and the times of `farPost`. -/
def oddPost : Post where
  id := ⟨"\"p\\"⟩
  title := "</title>\u2028"
  description := "\x00\x08\t\n\x0c\r\x1f\x7f😀"
  user := ⟨""⟩
  created := farPost.created
  updated := farPost.updated

example : json.encode (.deleted oddPost.id) = .ok "\"\\\"p\\\\\"".toUTF8.data.toList ∧
    (json.encode (.updated oddPost)).bind (json.decode .updated) = .ok (.updated oddPost) := by decide +kernel

end Forum.Codec
