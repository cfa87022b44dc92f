import Forum.Fixture
import Forum.Proofs.Codec.Layout

/-!
# The grammar of binary records

`Layout.Spells` says which octets spell an event: for a deleted post the text of its identifier, for the others six texts
in a row, the last two of which are read as dates. The reader takes these and no others (`decode_eq_ok_iff`), and behind
a record it takes nothing (`decode_append`). Hence a payload is read exactly when it keeps the limit and spells an event,
and no other payload that starts with it, or that it starts with, is read as the same kind (`binary_reads_grammar`).
-/

namespace Forum.Binary

open Calendar Text

/-! ## The grammar -/

namespace Layout

/-- Octets spell a post: six texts and nothing more. Its dates may be written in every way in which they are read. -/
def SpellsPost (p : Post) (bs : Payload) : Prop :=
  ∃ created updated : String, Instant.parse created = .ok p.created ∧ Instant.parse updated = .ok p.updated ∧
    bs = text p.id.text ++ text p.title ++ text p.description ++ text p.user.text ++ text created ++ text updated

/-- Octets spell an event. -/
def Spells (bs : Payload) : PostEvent → Prop
  | .created p => SpellsPost p bs
  | .updated p => SpellsPost p bs
  | .deleted id => bs = text id.text

end Layout

/-! ## The reader keeps to the grammar -/

variable {bs more : Payload} {kind : EventKind} {e : PostEvent}

theorem whole_eq_ok {α : Type} {x : Except Fault (α × Payload)} {a : α} : whole x = .ok a ↔ x = .ok (a, []) := by
  unfold whole
  split
  · simp
  · simp
  · simp

theorem fields_layout (p : Post) (created updated : String) :
    (fieldsWith p created updated).flatMap writeText = Layout.text p.id.text ++ Layout.text p.title ++
      Layout.text p.description ++ Layout.text p.user.text ++ Layout.text created ++ Layout.text updated := by
  simp [fieldsWith, writeText_eq]

theorem readText_eq_ok_iff {s : String} (h : bs.length ≤ sizeLimit) :
    readText bs = .ok (s, []) ↔ bs = Layout.text s := by
  constructor
  · intro hread
    rw [eq_writeText_of_readText hread, List.append_nil, writeText_eq]
  · rintro rfl
    rw [← writeText_eq] at h ⊢
    rw [length_writeText] at h
    simpa using readText_writeText (show (Utf8.encode s).length ≤ sizeLimit by omega) []

theorem readPost_eq_ok_iff {p : Post} (h : bs.length ≤ sizeLimit) :
    readPost bs = .ok (p, []) ↔ Layout.SpellsPost p bs := by
  constructor
  · intro hread
    obtain ⟨created, updated, hc, hu, hbs⟩ := fields_of_readPost hread
    rw [List.append_nil, fields_layout] at hbs
    exact ⟨created, updated, hc, hu, hbs⟩
  · rintro ⟨created, updated, hc, hu, rfl⟩
    rw [← fields_layout] at h ⊢
    have hread := readPost_fields hc hu h []
    rwa [List.append_nil] at hread

/-- Within the limit the reader takes what spells an event of the kind, as that event. -/
theorem decode_eq_ok_iff (h : bs.length ≤ sizeLimit) :
    decode kind bs = .ok e ↔ e.kind = kind ∧ Layout.Spells bs e := by
  cases kind with
  | created =>
    simp only [decode, map_eq_ok, whole_eq_ok, readPost_eq_ok_iff h]
    cases e <;> simp [PostEvent.kind, Layout.Spells]
  | updated =>
    simp only [decode, map_eq_ok, whole_eq_ok, readPost_eq_ok_iff h]
    cases e <;> simp [PostEvent.kind, Layout.Spells]
  | deleted =>
    simp only [decode, map_eq_ok, whole_eq_ok, readText_eq_ok_iff h]
    cases e with
    | created p => simp [PostEvent.kind]
    | updated p => simp [PostEvent.kind]
    | deleted id =>
      simp only [PostEvent.kind, Layout.Spells, PostEvent.deleted.injEq, true_and]
      constructor
      · rintro ⟨s, hs, rfl⟩
        exact hs
      · intro hs
        exact ⟨id.text, hs, rfl⟩

/-! ## Nothing behind a record -/

theorem readText_append {s : String} (hread : readText bs = .ok (s, [])) (h : bs.length ≤ sizeLimit) (more : Payload) :
    readText (bs ++ more) = .ok (s, more) := by
  have hbs := eq_writeText_of_readText hread
  rw [List.append_nil] at hbs
  subst hbs
  rw [length_writeText] at h
  exact readText_writeText (by omega) more

theorem readPost_append {p : Post} (hread : readPost bs = .ok (p, [])) (h : bs.length ≤ sizeLimit) (more : Payload) :
    readPost (bs ++ more) = .ok (p, more) := by
  obtain ⟨created, updated, hc, hu, hbs⟩ := fields_of_readPost hread
  rw [List.append_nil] at hbs
  subst hbs
  exact readPost_fields hc hu h more

/-- Octets behind a record are a fault. -/
theorem decode_append (hread : decode kind bs = .ok e) (h : bs.length ≤ sizeLimit) (hmore : more ≠ []) :
    decode kind (bs ++ more) = .error .trailing := by
  obtain ⟨b, rest, rfl⟩ := List.exists_cons_of_ne_nil hmore
  cases kind with
  | created =>
    obtain ⟨p, hp, -⟩ := map_eq_ok.1 hread
    simp [decode, readPost_append (whole_eq_ok.1 hp) h, whole, Except.map]
  | updated =>
    obtain ⟨p, hp, -⟩ := map_eq_ok.1 hread
    simp [decode, readPost_append (whole_eq_ok.1 hp) h, whole, Except.map]
  | deleted =>
    obtain ⟨s, hs, -⟩ := map_eq_ok.1 hread
    simp [decode, readText_append (whole_eq_ok.1 hs) h, whole, Except.map]

/-- Of two payloads of which one starts with the other, one at most is read as a given kind. -/
theorem decode_prefix_free {e' : PostEvent} (h : bs.length ≤ sizeLimit) (hread : decode kind bs = .ok e)
    (hread' : decode kind (bs ++ more) = .ok e') : more = [] := by
  by_contra hmore
  nomatch (decode_append hread h hmore).symm.trans hread'

end Forum.Binary

namespace Forum.Codec

open Binary Calendar

variable {kind : EventKind} {e : PostEvent}

/-- A payload is read as an event exactly when it keeps the limit, the event is of the kind and the payload spells it. -/
theorem decode_binary_iff (bs : Payload) :
    binary.decode kind bs = .ok e ↔ e.kind = kind ∧ bs.length ≤ sizeLimit ∧ Layout.Spells bs e := by
  rw [decode_binary_eq_ok]
  constructor
  · rintro ⟨hle, h⟩
    obtain ⟨hk, hs⟩ := (decode_eq_ok_iff hle).1 h
    exact ⟨hk, hle, hs⟩
  · rintro ⟨hk, hle, hs⟩
    exact ⟨hle, (decode_eq_ok_iff hle).2 ⟨hk, hs⟩⟩

/-- Of two payloads of which one starts with the other, one at most is read as a given kind. -/
theorem binary_prefix_free {bs cs : Payload} {e f : PostEvent} (hb : binary.decode kind bs = .ok e)
    (hc : binary.decode kind cs = .ok f) (hstart : bs <+: cs) : bs = cs := by
  obtain ⟨more, rfl⟩ := hstart
  obtain ⟨hle, hb⟩ := decode_binary_eq_ok.1 hb
  obtain ⟨-, hc⟩ := decode_binary_eq_ok.1 hc
  rw [decode_prefix_free hle hb hc, List.append_nil]

theorem error_iff {ε α : Type} {x : Except ε α} : (∃ fault, x = .error fault) ↔ ¬∃ a, x = .ok a := by
  cases x <;> simp

/-- The binary codec reads a payload as an event of a kind exactly when the payload has at most one mebibyte and spells
the event, creations and changes alike. All other payloads are faults, among them all that an accepted one starts with
and all that start with an accepted one. -/
theorem binary_reads_grammar (bs : Payload) :
    (∀ kind e, binary.decode kind bs = .ok e ↔ e.kind = kind ∧ bs.length ≤ 2 ^ 20 ∧ Layout.Spells bs e) ∧
      (∀ p, binary.decode .created bs = .ok (.created p) ↔ binary.decode .updated bs = .ok (.updated p)) ∧
      (∀ kind, (∃ fault, binary.decode kind bs = .error fault) ↔
        ¬(bs.length ≤ 2 ^ 20 ∧ ∃ e, e.kind = kind ∧ Layout.Spells bs e)) ∧
      ∀ kind e cs, binary.decode kind bs = .ok e → cs ≠ bs → cs <+: bs ∨ bs <+: cs →
        ∃ fault, binary.decode kind cs = .error fault := by
  refine ⟨fun kind e => decode_binary_iff bs, fun p => ?_, fun kind => ?_, fun kind e cs hb hne hstart => ?_⟩
  · rw [decode_binary_iff, decode_binary_iff]
    simp [PostEvent.kind, Layout.Spells]
  · rw [error_iff, not_iff_not]
    constructor
    · rintro ⟨e, h⟩
      obtain ⟨hk, hle, hs⟩ := (decode_binary_iff bs).1 h
      exact ⟨hle, e, hk, hs⟩
    · rintro ⟨hle, e, hk, hs⟩
      exact ⟨e, (decode_binary_iff bs).2 ⟨hk, hle, hs⟩⟩
  · rw [error_iff]
    rintro ⟨f, hc⟩
    rcases hstart with hstart | hstart
    · exact hne (binary_prefix_free hc hb hstart)
    · exact hne (binary_prefix_free hb hc hstart).symm

/-- A post whose dates are written with blanks, in lower case and with an offset from UTC, as no writer writes them. -/
def laxRecord : Payload :=
  Layout.text "p1" ++ Layout.text "Größe" ++ Layout.text "" ++ Layout.text "u1" ++
    Layout.text "2018-10-01 02:00:00 +02:00" ++ Layout.text " 2018-10-01t00:00:00.000z"

/-- The post that it spells. -/
def laxPost : Post := ⟨⟨"p1"⟩, "Größe", "", ⟨"u1"⟩, Fixture.date, Fixture.date⟩

theorem laxRecord_reads : binary.decode .created laxRecord = .ok (.created laxPost) ∧
    laxRecord.dropLast ≠ laxRecord ∧ laxRecord.dropLast <+: laxRecord ∧
    ∃ fault, binary.decode .created laxRecord.dropLast = .error fault := by
  have hdates : Instant.parse "2018-10-01 02:00:00 +02:00" = .ok laxPost.created ∧
      Instant.parse " 2018-10-01t00:00:00.000z" = .ok laxPost.updated := by decide +kernel
  have hspells : Layout.Spells laxRecord (.created laxPost) := ⟨_, _, hdates.1, hdates.2, rfl⟩
  have hread : binary.decode .created laxRecord = .ok (.created laxPost) :=
    ((binary_reads_grammar laxRecord).1 _ _).2 ⟨rfl, by decide +kernel, hspells⟩
  have hne : laxRecord.dropLast ≠ laxRecord := by decide +kernel
  have hstart : laxRecord.dropLast <+: laxRecord := List.dropLast_prefix laxRecord
  exact ⟨hread, hne, hstart, (binary_reads_grammar laxRecord).2.2.2 _ _ _ hread hne (.inl hstart)⟩

end Forum.Codec
