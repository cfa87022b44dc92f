import Forum.Proofs.Codec.Grammar
import Forum.Proofs.Json.Octets
import Forum.Proofs.Json.Spelling
import Forum.Proofs.Replica.Cells

/-!
# Payloads have one form

A payload is in the form of one codec only, and holds either a post or an identifier. What the binary codec reads starts
with a length, whose highest octet is 0 (`Binary.zero_mem_of_spells`), and no JSON text holds that octet. Behind an
identifier a binary record ends (`Binary.not_identifier_and_post`), and the first token of a JSON text tells a string
from an object or a list. So two readings of one payload are by the same codec and of kinds of the same form
(`Codec.one_form`): whoever reads with the other codec, or takes a post for an identifier or the other way round, meets
a fault and writes nothing (`Codec.misdelivered_refused`). Creations and changes have the same form; the subject alone
tells them apart (`Codec.decode_post`).
-/

namespace Forum

/-- Events of two kinds have the same form: both are posts, or both are identifiers. -/
def EventKind.SameForm (k l : EventKind) : Prop := k = .deleted ↔ l = .deleted

instance : DecidableRel EventKind.SameForm := fun k l => inferInstanceAs (Decidable (k = .deleted ↔ l = .deleted))

/-! ## Binary records -/

namespace Binary

variable {bs : Payload} {p : Post} {e : PostEvent}

/-- The highest octet of a length within the limit is 0. -/
theorem zero_mem_length {n : Nat} (h : n ≤ sizeLimit) : 0 ∈ Layout.length n := by
  unfold sizeLimit at h
  have hzero : n / 256 ^ 7 % 256 = 0 := by omega
  refine List.mem_map.2 ⟨7, by decide, ?_⟩
  rw [hzero]
  rfl

theorem zero_mem_text {s : String} (h : (Layout.text s).length ≤ sizeLimit) : 0 ∈ Layout.text s := by
  rw [Layout.length_text] at h
  exact List.mem_append_left _ (zero_mem_length (by omega))

/-- A post is its identifier and more. -/
theorem Layout.SpellsPost.identifier (h : SpellsPost p bs) : ∃ more, more ≠ [] ∧ bs = text p.id.text ++ more := by
  obtain ⟨created, updated, -, -, rfl⟩ := h
  refine ⟨text p.title ++ (text p.description ++ (text p.user.text ++ (text created ++ text updated))), ?_, ?_⟩
  · intro hnil
    have hlength := congrArg List.length hnil
    simp at hlength
  · simp only [List.append_assoc]

/-- What spells an event is one text, or a post. -/
theorem Layout.Spells.form (h : Spells bs e) :
    (e.kind = .deleted ∧ ∃ id, bs = text id) ∨ (e.kind ≠ .deleted ∧ ∃ p, SpellsPost p bs) := by
  cases e with
  | created p => exact .inr ⟨by simp [PostEvent.kind], p, h⟩
  | updated p => exact .inr ⟨by simp [PostEvent.kind], p, h⟩
  | deleted id => exact .inl ⟨rfl, id.text, h⟩

theorem zero_mem_of_spells (h : Layout.Spells bs e) (hle : bs.length ≤ sizeLimit) : 0 ∈ bs := by
  rcases h.form with ⟨-, id, rfl⟩ | ⟨-, p, hpost⟩
  · exact zero_mem_text hle
  · obtain ⟨more, -, rfl⟩ := hpost.identifier
    rw [List.length_append] at hle
    exact List.mem_append_left _ (zero_mem_text (by omega))

/-- A text that spells an identifier spells no post, whose other fields would follow. -/
theorem not_identifier_and_post {id : String} (hle : bs.length ≤ sizeLimit) (hid : bs = Layout.text id) :
    ¬Layout.SpellsPost p bs := by
  intro hpost
  obtain ⟨more, hmore, hbs⟩ := hpost.identifier
  -- both the identifier of the post and what starts with it would be read as an identifier
  have hstart : (Layout.text p.id.text).length ≤ sizeLimit := by
    rw [hbs, List.length_append] at hle
    omega
  have hread : decode .deleted (Layout.text p.id.text) = .ok (.deleted p.id) := (decode_eq_ok_iff hstart).2 ⟨rfl, rfl⟩
  have hread' : decode .deleted bs = .ok (.deleted ⟨id⟩) := (decode_eq_ok_iff hle).2 ⟨rfl, hid⟩
  rw [hbs] at hread'
  exact hmore (decode_prefix_free hstart hread hread')

theorem sameForm_of_spells {f : PostEvent} (hle : bs.length ≤ sizeLimit) (he : Layout.Spells bs e)
    (hf : Layout.Spells bs f) : e.kind.SameForm f.kind := by
  rcases he.form with ⟨hek, id, hid⟩ | ⟨hek, p, hpost⟩
  · rcases hf.form with ⟨hfk, -⟩ | ⟨-, q, hpost⟩
    · exact iff_of_true hek hfk
    · exact absurd hpost (not_identifier_and_post hle hid)
  · rcases hf.form with ⟨-, id, hid⟩ | ⟨hfk, -⟩
    · exact absurd hpost (not_identifier_and_post hle hid)
    · exact iff_of_false hek hfk

end Binary

/-! ## JSON texts -/

namespace Json

namespace Reader

/-- A string starts with a quote. -/
theorem first_of_text {expected : Expected} {c d : Cursor} {s : String} (h : text expected c = .ok (s, d)) :
    c.skipSpace.peek? = some (octet '"') := by
  obtain ⟨next, e, htoken, h⟩ := bind_eq_ok.1 h
  have hnext := first_of_token htoken
  split at h
  · nomatch h
  split at h
  · rename_i hquote
    rw [← hnext, hquote]
  · exact absurd h (fails_wrongType _ _ _)

/-- A post starts with a brace or a bracket. -/
theorem first_of_post {c d : Cursor} {p : Post} (h : post c = .ok (p, d)) :
    c.skipSpace.peek? = some (octet '\x7b') ∨ c.skipSpace.peek? = some (octet '[') := by
  obtain ⟨next, e, htoken, h⟩ := bind_eq_ok.1 h
  have hnext := first_of_token htoken
  split at h
  · nomatch h
  split at h
  · rename_i hbrace
    exact .inl (by rw [← hnext, hbrace])
  split at h
  · rename_i hbracket
    exact .inr (by rw [← hnext, hbracket])
  · exact absurd h (fails_wrongType _ _ _)

end Reader

open Reader

variable {octets : Payload} {kind : EventKind} {e : PostEvent}

/-- The first token of what is read as an event: of an identifier a quote, of a post another one. -/
theorem first_of_decode (h : decode kind octets = .ok e) :
    kind = .deleted ↔ (Cursor.start octets).skipSpace.peek? = some (octet '"') := by
  rcases reads_of_decode h with ⟨hk, s, hs⟩ | ⟨hk, p, hp⟩
  · obtain ⟨d, hread, -⟩ := readAll_eq_ok hs
    exact iff_of_true hk (first_of_text hread)
  · obtain ⟨d, hread, -⟩ := readAll_eq_ok hp
    refine iff_of_false hk ?_
    rcases first_of_post hread with hfirst | hfirst
    · rw [hfirst]
      decide
    · rw [hfirst]
      decide

end Json

/-! ## Payloads -/

namespace Codec

variable {codec other : Codec} {kind kind' : EventKind} {payload : Payload} {e f : PostEvent}

/-- A payload is not read by both codecs: a binary record holds the octet 0, and a JSON text does not. -/
theorem not_binary_and_json (hb : binary.decode kind payload = .ok e) : ¬json.decode kind' payload = .ok f := by
  intro hj
  obtain ⟨-, hle, hspells⟩ := (decode_binary_iff payload).1 hb
  exact Json.alien_not_mem (decode_json_eq_ok.1 hj).2 0 (Binary.zero_mem_of_spells hspells hle) (by decide)

/-- Two readings of one payload are by the same codec, of kinds of the same form. -/
theorem one_form (h : codec.decode kind payload = .ok e) (h' : other.decode kind' payload = .ok f) :
    codec = other ∧ kind.SameForm kind' := by
  cases codec with
  | binary =>
    cases other with
    | binary =>
      obtain ⟨rfl, hle, he⟩ := (decode_binary_iff payload).1 h
      obtain ⟨rfl, -, hf⟩ := (decode_binary_iff payload).1 h'
      exact ⟨rfl, Binary.sameForm_of_spells hle he hf⟩
    | json => exact absurd h' (not_binary_and_json h)
  | json =>
    cases other with
    | binary => exact absurd h (not_binary_and_json h')
    | json =>
      obtain ⟨-, he⟩ := decode_json_eq_ok.1 h
      obtain ⟨-, hf⟩ := decode_json_eq_ok.1 h'
      exact ⟨rfl, (Json.first_of_decode he).trans (Json.first_of_decode hf).symm⟩

/-- What was written for an event is read by no other codec, and not as a kind of the other form. -/
theorem decode_written (h : codec.encode e = .ok payload) (h' : other.decode kind payload = .ok f) :
    other = codec ∧ kind.SameForm e.kind :=
  one_form h' (decode_encode h (decode_eq_ok.1 h').1)

/-- A post is written the same way whether it is new or changed. -/
theorem encode_created_eq_updated (codec : Codec) (p : Post) :
    codec.encode (.created p) = codec.encode (.updated p) := by
  cases codec <;> rfl

/-- The payload of a post is read as a creation and as a change of it. -/
theorem decode_post {p : Post} (he : e = .created p ∨ e = .updated p) (h : codec.encode e = .ok payload)
    (hle : payload.length ≤ sizeLimit) :
    codec.decode .created payload = .ok (.created p) ∧ codec.decode .updated payload = .ok (.updated p) := by
  have hcreated : codec.encode (.created p) = .ok payload := by
    rcases he with rfl | rfl
    · exact h
    · rw [encode_created_eq_updated, h]
  exact ⟨decode_encode hcreated hle, decode_encode (encode_created_eq_updated codec p ▸ hcreated) hle⟩

end Codec

/-! ## Subscribers -/

namespace Codec

open Memory Replication

/-- An applier that has another codec, or that gets a payload on a subject of no kind of its form, does not read it. -/
theorem read_written {codec other : Codec} {e : PostEvent} {payload : Payload} {subject : String}
    (h : codec.encode e = .ok payload)
    (hmis : other ≠ codec ∨ ∀ kind : EventKind, kind.SameForm e.kind → subject ≠ kind.subject) :
    ∃ err, Applier.read other subject payload = .error err := by
  rw [error_iff]
  rintro ⟨f, hread⟩
  unfold Applier.read at hread
  split at hread
  · nomatch hread
  · rename_i kind hkind
    obtain ⟨hcodec, hform⟩ := decode_written h (mapError_eq_ok.1 hread)
    rcases hmis with hne | hsubject
    · exact hne hcodec
    · exact hsubject kind hform (EventKind.ofSubject?_eq_some.1 hkind)

/-- The payload of an event is a fault for the other codec under every kind, and for its own codec under the kinds of
the other form: an identifier is read as no post and a post as no identifier. An applier that has another codec, or that
gets the payload on a subject of no kind of the event's form, leaves every store as it is. The payload of a post is read
as a creation and as a change alike. -/
theorem misdelivered_refused {codec : Codec} {e : PostEvent} {payload : Payload} (h : codec.encode e = .ok payload) :
    (∀ other kind, other ≠ codec → ∃ fault, other.decode kind payload = .error fault) ∧
      (∀ kind : EventKind, ¬kind.SameForm e.kind → ∃ fault, codec.decode kind payload = .error fault) ∧
      (∀ {σ : Type} (a : Applier σ) (subject : String) (s : σ),
        (a.codec ≠ codec ∨ ∀ kind : EventKind, kind.SameForm e.kind → subject ≠ kind.subject) →
          ∃ err, a.apply subject payload s = (.error err, s)) ∧
      ∀ p, e = .created p ∨ e = .updated p → payload.length ≤ 2 ^ 20 →
        codec.decode .created payload = .ok (.created p) ∧ codec.decode .updated payload = .ok (.updated p) := by
  refine ⟨fun other kind hne => ?_, fun kind hform => ?_, fun a subject s hmis => ?_, fun p he => decode_post he h⟩
  · rw [error_iff]
    rintro ⟨f, hread⟩
    exact hne (decode_written h hread).1
  · rw [error_iff]
    rintro ⟨f, hread⟩
    exact hform (decode_written h hread).2
  · obtain ⟨err, herr⟩ := read_written h hmis
    exact ⟨err, by rw [Applier.apply, herr]⟩

/-- The payload of a new post, in a replica that already has the post under another title. -/
theorem secondCreation_refused :
    (∃ fault, binary.decode .created (Json.encode (.created (Fixture.post "p" "second"))) = .error fault) ∧
      (∃ fault, json.decode .deleted (Json.encode (.created (Fixture.post "p" "second"))) = .error fault) ∧
      (∃ err, (Replica.applier .json).apply Subject.postDeleted (Json.encode (.created (Fixture.post "p" "second")))
        (Replica.empty.absorb (.created (Fixture.post "p" "first"))) =
          (.error err, Replica.empty.absorb (.created (Fixture.post "p" "first")))) ∧
      json.decode .updated (Json.encode (.created (Fixture.post "p" "second"))) =
        .ok (.updated (Fixture.post "p" "second")) := by
  have hwritten : json.encode (.created (Fixture.post "p" "second")) =
      .ok (Json.encode (.created (Fixture.post "p" "second"))) := rfl
  obtain ⟨hcodec, hform, happly, hpost⟩ := misdelivered_refused hwritten
  refine ⟨hcodec binary .created (by decide), hform .deleted (by decide), ?_, ?_⟩
  · exact happly (Replica.applier .json) Subject.postDeleted _ (.inr fun kind => by cases kind <;> decide)
  · exact (hpost _ (.inl rfl) (by decide +kernel)).2

/-- On the subject of changes the payload of a new post changes the row that the post has already. -/
theorem creation_read_as_change :
    ¬∀ (codec : Codec) (e : PostEvent) (payload : Payload) (subject : String) (r : Replica),
      codec.encode e = .ok payload → subject ≠ e.subject →
        ((Replica.applier codec).apply subject payload r).2.rows = r.rows := by
  intro h
  have hread : Applier.read json Subject.postUpdated (Json.encode (.created (Fixture.post "p" "second"))) =
      .ok (.updated (Fixture.post "p" "second")) :=
    Applier.read_encode (e := .updated (Fixture.post "p" "second")) rfl (by decide +kernel)
  have hrows := h json (.created (Fixture.post "p" "second")) _ Subject.postUpdated
    (Replica.empty.absorb (.created (Fixture.post "p" "first"))) rfl (by decide)
  rw [Applier.apply, show (Replica.applier json).codec = json from rfl, hread] at hrows
  revert hrows
  decide

end Codec

end Forum
