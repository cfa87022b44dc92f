import Mathlib.Tactic.Common
import Forum.Codec.Json
import Forum.Proofs.Calendar.Reading
import Forum.Proofs.Json.Strings

/-!
# Reading JSON records

`Reads` says that a reader takes octets to an answer, whatever follows them and wherever they stand. It holds of
strings (`reads_text`) and dates (`reads_date`). The loop over the members of a post takes one written member per round
and fills its field (`members_writeMember`); after the six of them the post is complete, so what was written is read
back as the event it was written for (`decode_encode`). Nothing bounds what is written (`length_description_le`).
-/

namespace Forum.Json

open Calendar Text

namespace Reader

variable {α β : Type}

/-! ## Readers that take octets -/

/-- A reader takes octets to an answer. -/
def Reads (r : Reader α) (octets : List UInt8) (a : α) : Prop :=
  ∀ rest line column, ∃ l k, r ⟨octets ++ rest, line, column⟩ = .ok (a, ⟨rest, l, k⟩)

theorem bind_eq {r : Reader α} {f : α → Reader β} {c d : Cursor} {a : α} (h : r c = .ok (a, d)) :
    (r >>= f) c = f a d := by
  simp [bind, StateT.bind, Except.bind, h]

theorem reads_pure (a : α) : Reads (pure a) [] a := fun _ line column => ⟨line, column, rfl⟩

/-- Two readers, one after the other, read what the first and then the second one reads. -/
theorem reads_bind {r : Reader α} {f : α → Reader β} {xs ys : List UInt8} {a : α} {b : β} (hr : Reads r xs a)
    (hf : Reads (f a) ys b) : Reads (r >>= f) (xs ++ ys) b := by
  intro rest line column
  obtain ⟨l, k, h⟩ := hr (ys ++ rest) line column
  obtain ⟨l', k', h'⟩ := hf rest l k
  exact ⟨l', k', by rw [List.append_assoc, bind_eq h, h']⟩

theorem reads_then {r : Reader α} {t : Reader β} {xs ys : List UInt8} {a : α} {b : β} (hr : Reads r xs a)
    (ht : Reads t ys b) : Reads (r >>= fun _ => t) (xs ++ ys) b := reads_bind (f := fun _ => t) hr ht

theorem reads_map {r : Reader α} {f : α → β} {xs : List UInt8} {a : α} (hr : Reads r xs a) :
    Reads (r >>= fun x => pure (f x)) xs (f a) := by
  have := reads_bind (f := fun x => pure (f x)) hr (reads_pure (f a))
  rwa [List.append_nil] at this

/-- An octet is skipped whichever it is. -/
theorem reads_skip (b : UInt8) : Reads skip [b] () := fun _ line column =>
  ⟨(placeAfter b line column).1, (placeAfter b line column).2, rfl⟩

/-- The next token is looked at and stays. -/
theorem token?_cons {b : UInt8} (h : Cursor.isSpace b = false) (rest : List UInt8) (line column : Nat) :
    token? ⟨b :: rest, line, column⟩ = .ok (some b, ⟨b :: rest, line, column⟩) := by
  simp [token?, Cursor.skipSpace, Cursor.skipFrom, h, Cursor.peek?]

/-! ## Strings and dates -/

/-- The octets of a string behind its opening quote. -/
def bodyOctets (s : String) : List UInt8 := Utf8.encodeChars (s.toList.flatMap escapeChar) ++ [octet '"']

/-- A string is written as a quote and what follows it. -/
theorem encodeChars_writeString (s : String) : Utf8.encodeChars (writeString s) = octet '"' :: bodyOctets s := by
  simp only [writeString, bodyOctets, Utf8.encodeChars, List.flatMap_append, List.flatMap_cons, List.flatMap_nil]
  rfl

/-- The octets of a string are read up to its closing quote. -/
theorem reads_stringOctets (s : String) : Reads stringOctets (bodyOctets s) (Utf8.encode s) := by
  intro rest line column
  obtain ⟨l, k, h⟩ := takes_escapeChars s.toList [] (octet '"' :: rest) line column
  refine ⟨(placeAfter (octet '"') l k).1, (placeAfter (octet '"') l k).2, ?_⟩
  rw [bodyOctets, List.append_assoc, stringOctets]
  refine h.trans ?_
  simp [stringFrom, stringStep, Utf8.encode]

/-- What follows the quote of a string is read back as the string. -/
theorem reads_stringBody (s : String) : Reads stringBody (bodyOctets s) s := by
  intro rest line column
  obtain ⟨l, k, h⟩ := reads_stringOctets s rest line column
  refine ⟨l, k, ?_⟩
  unfold stringBody
  rw [bind_eq h, Utf8.decode_encode]
  rfl

/-- A text is read back from its string. -/
theorem reads_text (expected : Expected) (s : String) :
    Reads (text expected) (Utf8.encodeChars (writeString s)) s := by
  intro rest line column
  rw [encodeChars_writeString, List.cons_append]
  obtain ⟨l, k, h⟩ := reads_then (reads_skip (octet '"')) (reads_stringBody s) rest line column
  refine ⟨l, k, ?_⟩
  unfold text
  rw [bind_eq (token?_cons (by decide) _ _ _)]
  simp only [if_true]
  exact h

/-- A date is read back from its string. -/
theorem reads_date (t : Instant) : Reads date (Utf8.encodeChars (writeString t.text)) t := by
  intro rest line column
  obtain ⟨l, k, h⟩ := reads_text .date t.text rest line column
  refine ⟨l, k, ?_⟩
  unfold date
  rw [bind_eq h, Instant.parse_text]
  rfl

/-! ## Members -/

/-- The text that is written for a field of a post. -/
def fieldText (p : Post) : Field → String
  | .id => p.id.text
  | .title => p.title
  | .description => p.description
  | .user => p.user.text
  | .created => p.created.text
  | .updated => p.updated.text

/-- The fields that were read, with one more of a post. -/
def fill (p : Post) (f : Fields) : Field → Fields
  | .id => { f with id := some p.id.text }
  | .title => { f with title := some p.title }
  | .description => { f with description := some p.description }
  | .user => { f with user := some p.user.text }
  | .created => { f with created := some p.created }
  | .updated => { f with updated := some p.updated }

/-- The value of a field fills the field. -/
theorem reads_readField (p : Post) (f : Fields) (field : Field) :
    Reads (readField f field) (Utf8.encodeChars (writeString (fieldText p field))) (fill p f field) := by
  cases field with
  | id => exact reads_map (reads_text .text p.id.text)
  | title => exact reads_map (reads_text .text p.title)
  | description => exact reads_map (reads_text .text p.description)
  | user => exact reads_map (reads_text .text p.user.text)
  | created => exact reads_map (reads_date p.created)
  | updated => exact reads_map (reads_date p.updated)

theorem fieldOf?_name (field : Field) : fieldOf? field.name = some field := by cases field <;> decide

/-- The colon of a member is read. -/
theorem reads_colon : Reads colon [octet ':'] () := by
  intro rest line column
  obtain ⟨l, k, h⟩ := reads_skip (octet ':') rest line column
  refine ⟨l, k, ?_⟩
  unfold colon
  rw [List.cons_append, bind_eq (token?_cons (by decide) _ _ _)]
  exact h

/-- Texts one after the other are written one after the other. -/
theorem encodeChars_append (cs ds : List Char) :
    Utf8.encodeChars (cs ++ ds) = Utf8.encodeChars cs ++ Utf8.encodeChars ds := List.flatMap_append

/-- The octets of a member behind the opening quote of its key. -/
def memberOctets (p : Post) (field : Field) : List UInt8 :=
  bodyOctets field.name ++ ([octet ':'] ++ Utf8.encodeChars (writeString (fieldText p field)))

/-- A member is written as a quote and what follows it. -/
theorem encodeChars_writeMember (p : Post) (field : Field) :
    Utf8.encodeChars (writeMember field (fieldText p field)) = octet '"' :: memberOctets p field := by
  rw [writeMember, encodeChars_append, encodeChars_writeString]
  rfl

/-- The octets in front of a member: a comma, except for the first one. -/
def separators (first : Bool) : List UInt8 := if first then [] else [octet ',']

/-- What separates two members is read up to the quote of the next key. -/
theorem nextKey_quote (first : Bool) (rest : List UInt8) (line column : Nat) :
    ∃ l k, nextKey first ⟨separators first ++ octet '"' :: rest, line, column⟩ =
      .ok (true, ⟨octet '"' :: rest, l, k⟩) := by
  cases first with
  | true =>
    refine ⟨line, column, ?_⟩
    unfold nextKey separators
    simp only [if_true, List.nil_append]
    rw [bind_eq (token?_cons (by decide) _ _ _)]
    rfl
  | false =>
    obtain ⟨l, k, h⟩ := reads_skip (octet ',') (octet '"' :: rest) line column
    refine ⟨l, k, ?_⟩
    unfold nextKey separators
    simp only [Bool.false_eq_true, if_false, List.cons_append, List.nil_append]
    rw [bind_eq (token?_cons (by decide) _ _ _)]
    have hclose : octet ',' ≠ octet '\x7d' := by decide
    simp only [if_neg hclose, if_true]
    rw [List.cons_append, List.nil_append] at h
    rw [bind_eq h, bind_eq (token?_cons (by decide) _ _ _)]
    rfl

/-- One round of the loop takes one member and fills its field. -/
theorem members_writeMember (p : Post) (rounds : Nat) {f : Fields} {field : Field} (hf : f.has field = false)
    (first : Bool) (rest : List UInt8) (line column : Nat) :
    ∃ l k, members (rounds + 1) f first
        ⟨separators first ++ Utf8.encodeChars (writeMember field (fieldText p field)) ++ rest, line, column⟩ =
      members rounds (fill p f field) false ⟨rest, l, k⟩ := by
  rw [encodeChars_writeMember, List.append_assoc, List.cons_append]
  obtain ⟨l₁, k₁, h₁⟩ := nextKey_quote first (memberOctets p field ++ rest) line column
  obtain ⟨l₂, k₂, h₂⟩ := reads_skip (octet '"') (memberOctets p field ++ rest) l₁ k₁
  obtain ⟨l₃, k₃, h₃⟩ := reads_stringBody field.name
    ([octet ':'] ++ Utf8.encodeChars (writeString (fieldText p field)) ++ rest) l₂ k₂
  obtain ⟨l₄, k₄, h₄⟩ := reads_colon (Utf8.encodeChars (writeString (fieldText p field)) ++ rest) l₃ k₃
  obtain ⟨l₅, k₅, h₅⟩ := reads_readField p f field rest l₄ k₄
  refine ⟨l₅, k₅, ?_⟩
  rw [members, bind_eq h₁]
  simp only [if_true]
  rw [List.cons_append, List.nil_append] at h₂
  rw [bind_eq h₂, memberOctets, List.append_assoc, bind_eq h₃, fieldOf?_name]
  simp only [hf, Bool.false_eq_true, if_false, List.append_assoc]
  rw [bind_eq h₄, bind_eq h₅]

/-- A field that is filled is there, beside those that were. -/
theorem has_fill (p : Post) (f : Fields) (field other : Field) :
    (fill p f field).has other = (decide (field = other) || f.has other) := by
  cases field <;> cases other <;> rfl

/-- The octets of members with the commas between them. -/
def membersOctets (p : Post) (first : Bool) : List Field → List UInt8
  | [] => []
  | field :: fields =>
    separators first ++ Utf8.encodeChars (writeMember field (fieldText p field)) ++ membersOctets p false fields

/-- Every member takes an octet at least. -/
theorem length_membersOctets (p : Post) (first : Bool) (fields : List Field) :
    fields.length ≤ (membersOctets p first fields).length := by
  induction fields generalizing first with
  | nil => exact Nat.le_refl _
  | cons field fields ih =>
    have := ih false
    simp only [membersOctets, encodeChars_writeMember, List.length_append, List.length_cons]
    omega

/-- At the closing brace the loop ends. -/
theorem members_close (rounds : Nat) (f : Fields) (first : Bool) (rest : List UInt8) (line column : Nat) :
    members (rounds + 1) f first ⟨octet '\x7d' :: rest, line, column⟩ =
      .ok (.ok f, ⟨octet '\x7d' :: rest, line, column⟩) := by
  have hkey : nextKey first ⟨octet '\x7d' :: rest, line, column⟩ =
      .ok (false, ⟨octet '\x7d' :: rest, line, column⟩) := by
    unfold nextKey
    rw [bind_eq (token?_cons (by decide) _ _ _)]
    rfl
  rw [members, bind_eq hkey]
  rfl

/-- The loop fills the fields of the members in their order. -/
theorem members_membersOctets (p : Post) {fields : List Field} {rounds : Nat} {f : Fields} (first : Bool)
    (hd : fields.Nodup) (hf : ∀ field ∈ fields, f.has field = false) (hr : fields.length < rounds)
    (rest : List UInt8) (line column : Nat) :
    ∃ l k, members rounds f first ⟨membersOctets p first fields ++ octet '\x7d' :: rest, line, column⟩ =
      .ok (.ok (fields.foldl (fill p) f), ⟨octet '\x7d' :: rest, l, k⟩) := by
  induction fields generalizing rounds f first line column with
  | nil =>
    obtain ⟨rounds, rfl⟩ : ∃ n, rounds = n + 1 := ⟨rounds - 1, by simp at hr; omega⟩
    exact ⟨line, column, members_close rounds f first rest line column⟩
  | cons field fields ih =>
    obtain ⟨rounds, rfl⟩ : ∃ n, rounds = n + 1 := ⟨rounds - 1, by simp at hr; omega⟩
    obtain ⟨hnot, hd⟩ := List.nodup_cons.1 hd
    obtain ⟨l, k, h⟩ := members_writeMember p rounds (hf field List.mem_cons_self) first
      (membersOctets p false fields ++ octet '\x7d' :: rest) line column
    have hf' : ∀ other ∈ fields, (fill p f field).has other = false := by
      intro other ho
      have hne : field ≠ other := fun he => hnot (he ▸ ho)
      rw [has_fill, hf other (List.mem_cons_of_mem _ ho)]
      simp [hne]
    obtain ⟨l', k', h'⟩ := ih false hd hf' (by simpa using hr) l k
    refine ⟨l', k', ?_⟩
    rw [membersOctets, List.append_assoc, h, h', List.foldl_cons]

/-! ## Posts -/

/-- A post is written as its members between braces. -/
theorem encodeChars_writePost (p : Post) :
    Utf8.encodeChars (writePost p) = octet '\x7b' :: (membersOctets p true allFields ++ [octet '\x7d']) := by
  simp only [writePost, encodeChars_append, allFields, membersOctets, separators, if_true, Bool.false_eq_true, if_false]
  simp only [Utf8.encodeChars, List.flatMap_cons, List.flatMap_nil, List.append_assoc, fieldText]
  rfl

theorem allFields_nodup : allFields.Nodup := by decide

/-- The fields of a post are all there once the loop has filled them. -/
theorem post_filled (p : Post) : (allFields.foldl (fill p) {}).post = .ok p := rfl

/-- The closing brace of an object is read. -/
theorem reads_closeObject : Reads closeObject [octet '\x7d'] () := by
  intro rest line column
  obtain ⟨l, k, h⟩ := reads_skip (octet '\x7d') rest line column
  refine ⟨l, k, ?_⟩
  unfold closeObject
  rw [List.cons_append, bind_eq (token?_cons (by decide) _ _ _)]
  exact h

/-- A post is read back from its text. -/
theorem reads_post (p : Post) : Reads post (Utf8.encodeChars (writePost p)) p := by
  intro rest line column
  rw [encodeChars_writePost, List.cons_append, List.append_assoc, List.cons_append, List.nil_append]
  obtain ⟨l₁, k₁, h₁⟩ := reads_skip (octet '\x7b') (membersOctets p true allFields ++ octet '\x7d' :: rest) line column
  rw [List.cons_append, List.nil_append] at h₁
  have hrounds : allFields.length < (membersOctets p true allFields ++ octet '\x7d' :: rest).length + 1 := by
    have := length_membersOctets p true allFields
    rw [List.length_append]
    omega
  obtain ⟨l₂, k₂, h₂⟩ := members_membersOctets p (f := {}) true allFields_nodup (by decide) hrounds rest l₁ k₁
  obtain ⟨l₃, k₃, h₃⟩ := reads_closeObject rest l₂ k₂
  refine ⟨l₃, k₃, ?_⟩
  have hget : (get : Reader Cursor) ⟨membersOctets p true allFields ++ octet '\x7d' :: rest, l₁, k₁⟩ =
      .ok (⟨membersOctets p true allFields ++ octet '\x7d' :: rest, l₁, k₁⟩, _) := rfl
  unfold post
  rw [bind_eq (token?_cons (by decide) _ _ _)]
  simp only [if_true]
  rw [bind_eq h₁, bind_eq hget, bind_eq h₂]
  simp only [Except.bind, post_filled]
  rw [List.cons_append, List.nil_append] at h₃
  rw [bind_eq h₃]
  rfl

/-! ## Whole texts -/

/-- A reader that takes all octets reads the text. -/
theorem readAll_of_reads {r : Reader α} {octets : Payload} {a : α} (h : Reads r octets a) : readAll r octets = .ok a := by
  obtain ⟨l, k, hr⟩ := h [] 1 0
  rw [List.append_nil] at hr
  have hfinish : finish ⟨[], l, k⟩ = .ok ((), ⟨[], l, k⟩) := rfl
  have hall : (do
      let a ← r
      Reader.finish
      pure a : Reader α) (Cursor.start octets) = .ok (a, ⟨[], l, k⟩) := by
    rw [Cursor.start, bind_eq hr, bind_eq hfinish]
    rfl
  simp only [readAll, StateT.run, hall]
  rfl

end Reader

/-- An event is read back from its text. -/
theorem decode_encode (e : PostEvent) : decode e.kind (encode e) = .ok e := by
  cases e with
  | created p => simp [PostEvent.kind, decode, encode, Reader.readAll_of_reads (Reader.reads_post p), Except.map]
  | updated p => simp [PostEvent.kind, decode, encode, Reader.readAll_of_reads (Reader.reads_post p), Except.map]
  | deleted id =>
    simp [PostEvent.kind, decode, encode, Reader.readAll_of_reads (Reader.reads_text .text id.text), Except.map]

/-! ## How long texts get -/

/-- Pieces that are not empty make a list no shorter. -/
theorem length_le_flatMap {α β : Type} {f : α → List β} (hf : ∀ a, f a ≠ []) (l : List α) :
    l.length ≤ (l.flatMap f).length := by
  induction l with
  | nil => exact Nat.le_refl 0
  | cons a l ih =>
    have ha : 0 < (f a).length := List.length_pos_iff.2 (hf a)
    rw [List.flatMap_cons, List.length_append, List.length_cons]
    omega

/-- No character is written as nothing. -/
theorem escapeChar_ne_nil (c : Char) : escapeChar c ≠ [] := by
  unfold escapeChar
  repeat' split
  all_goals simp

/-- The text of a new post is at least as long as its description. -/
theorem length_description_le (p : Post) : p.description.length ≤ (encode (.created p)).length := by
  have hoctets (c : Char) : String.utf8EncodeChar c ≠ [] := String.utf8EncodeChar_ne_nil
  have hchars : (writePost p).length ≤ (encode (.created p)).length := length_le_flatMap hoctets (writePost p)
  have hescaped := length_le_flatMap escapeChar_ne_nil p.description.toList
  rw [String.length_toList] at hescaped
  simp only [writePost, writeMember, writeString, List.length_append, List.length_cons] at hchars
  omega

end Forum.Json
