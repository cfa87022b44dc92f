import Mathlib.Data.List.Induction
import Forum.Proofs.Replica.Redelivery

/-!
# Which posts have rows

Events may come in any order and any number of times. What the replica holds of a post depends on little of that: the
post is marked exactly if some event deletes it, and otherwise its row, if there is one, is as old as the first creation
(`Cell.Follows`). Every event keeps this (`Cell.Follows.absorb`), so it holds at every point of every sequence
(`follows_absorbAll`), and the posts with rows are those that were created and not deleted
(`membership_at_every_point`).
-/

namespace Forum.Memory.Replica

open Replication

variable {es : List PostEvent} {e : PostEvent} {key : String} {c : Cell}

/-! ## What the events of a post say -/

/-- Some event creates a post under the identifier. -/
def Creates (es : List PostEvent) (key : String) : Prop := ∃ post, .created post ∈ es ∧ post.id.text = key

/-- Some event deletes the post of the identifier. -/
def Deletes (es : List PostEvent) (key : String) : Prop := ∃ id, .deleted id ∈ es ∧ id.text = key

/-- The post that an event creates under an identifier. -/
def creationOf (key : String) : PostEvent → Option Post
  | .created post => if post.id.text = key then some post else none
  | _ => none

/-- The post that is created first under an identifier. -/
def firstCreation (key : String) (es : List PostEvent) : Option Post := es.findSome? (creationOf key)

theorem creationOf_eq_some {post : Post} : creationOf key e = some post ↔ e = .created post ∧ post.id.text = key := by
  cases e with
  | created other =>
    constructor
    · intro h
      obtain ⟨hkey, hpost⟩ := Option.ite_none_right_eq_some.1 h
      obtain rfl := Option.some.inj hpost
      exact ⟨rfl, hkey⟩
    · rintro ⟨he, hkey⟩
      obtain rfl := PostEvent.created.inj he
      exact if_pos hkey
  | updated other => simp [creationOf]
  | deleted id => simp [creationOf]

theorem firstCreation_snoc (es : List PostEvent) (e : PostEvent) :
    firstCreation key (es ++ [e]) = (firstCreation key es).or (creationOf key e) := by
  simp [firstCreation, List.findSome?_append]

theorem isSome_firstCreation : (firstCreation key es).isSome = true ↔ Creates es key := by
  rw [firstCreation, List.findSome?_isSome_iff]
  constructor
  · rintro ⟨e, he, hsome⟩
    obtain ⟨post, hpost⟩ := Option.isSome_iff_exists.1 hsome
    obtain ⟨rfl, hkey⟩ := creationOf_eq_some.1 hpost
    exact ⟨post, he, hkey⟩
  · rintro ⟨post, hmem, hkey⟩
    exact ⟨_, hmem, Option.isSome_iff_exists.2 ⟨post, creationOf_eq_some.2 ⟨rfl, hkey⟩⟩⟩

/-- The post is deleted by the events so far, or by the next one. -/
theorem deletes_snoc : Deletes (es ++ [e]) key ↔ Deletes es key ∨ (e.kind = .deleted ∧ e.postId.text = key) := by
  constructor
  · rintro ⟨id, hmem, hkey⟩
    rcases List.mem_append.1 hmem with hmem | hmem
    · exact .inl ⟨id, hmem, hkey⟩
    · obtain rfl := List.mem_singleton.1 hmem
      exact .inr ⟨rfl, hkey⟩
  · rintro (⟨id, hmem, hkey⟩ | ⟨hkind, hkey⟩)
    · exact ⟨id, List.mem_append_left _ hmem, hkey⟩
    · cases e with
      | created post => nomatch hkind
      | updated post => nomatch hkind
      | deleted id => exact ⟨id, List.mem_append_right _ (List.mem_singleton.2 rfl), hkey⟩

theorem deletes_snoc_of_ne (h : e.kind ≠ .deleted) : Deletes (es ++ [e]) key ↔ Deletes es key := by
  rw [deletes_snoc]
  exact or_iff_left fun hd => h hd.1

/-! ## One event after the other -/

/-- A cell is what follows from the events of its post: it is marked when one of them deletes the post, and otherwise
its row is as old as the first creation. -/
structure Cell.Follows (es : List PostEvent) (key : String) (c : Cell) : Prop where
  gone : c.gone = true ↔ Deletes es key
  created : c.row.map Post.created = if c.gone then none else (firstCreation key es).map Post.created

/-- An event of another post says nothing about a cell. -/
theorem Cell.Follows.other (h : c.Follows es key) (hkey : e.postId.text ≠ key) : c.Follows (es ++ [e]) key := by
  have hnone : creationOf key e = none := by
    cases e with
    | created post => exact if_neg hkey
    | updated post => rfl
    | deleted id => rfl
  refine ⟨?_, ?_⟩
  · rw [deletes_snoc, h.gone]
    exact (or_iff_left fun hd => hkey hd.2).symm
  · rw [firstCreation_snoc, hnone, Option.or_none]
    exact h.created

/-- An event of the post keeps the row as old as it was, makes the first one, or removes it for good. -/
theorem Cell.Follows.absorb (h : c.Follows es key) (hkey : e.postId.text = key) :
    (c.absorb e).Follows (es ++ [e]) key := by
  obtain ⟨row, gone⟩ := c
  obtain ⟨hgone, hcreated⟩ := h
  simp only at hgone hcreated
  cases e with
  | created post =>
    have hdel : Deletes (es ++ [.created post]) key ↔ Deletes es key := deletes_snoc_of_ne (by simp [PostEvent.kind])
    have hfirst : creationOf key (.created post) = some post := if_pos hkey
    cases gone with
    | true => exact ⟨hgone.trans hdel.symm, hcreated⟩
    | false =>
      refine ⟨hgone.trans hdel.symm, ?_⟩
      show (row.or (some post)).map Post.created = (firstCreation key (es ++ [.created post])).map Post.created
      have hrow : row.map Post.created = (firstCreation key es).map Post.created := hcreated
      rw [firstCreation_snoc, hfirst, Option.map_or, Option.map_or, hrow]
  | updated post =>
    have hdel : Deletes (es ++ [.updated post]) key ↔ Deletes es key := deletes_snoc_of_ne (by simp [PostEvent.kind])
    refine ⟨hgone.trans hdel.symm, ?_⟩
    rw [firstCreation_snoc, show creationOf key (.updated post) = none from rfl, Option.or_none]
    exact (Option.map_map ..).trans hcreated
  | deleted id => exact ⟨iff_of_true rfl (deletes_snoc.2 (.inr ⟨rfl, hkey⟩)), rfl⟩

/-- At every point the replica holds of every post what follows from the events so far. -/
theorem follows_absorbAll (es : List PostEvent) (key : String) : ((empty.absorbAll es).cell key).Follows es key := by
  induction es using List.reverseRecOn with
  | nil => exact ⟨⟨fun h => (nomatch h), fun ⟨_, h, _⟩ => (nomatch h)⟩, rfl⟩
  | append_singleton es e ih =>
    rw [absorbAll_snoc, cell_absorb]
    split
    · rename_i hkey
      exact ih.absorb hkey.symm
    · rename_i hkey
      exact ih.other (Ne.symm hkey)

/-! ## Rows and marks -/

/-- Which posts have rows and which are marked, after events. -/
structure Membership (es : List PostEvent) (r : Replica) : Prop where
  /-- No post has a row and is marked as deleted. -/
  exclusive : ∀ key, ¬(r.rows.contains key = true ∧ r.tombstones.contains key = true)
  rows : ∀ key, r.rows.contains key = true ↔ Creates es key ∧ ¬Deletes es key
  tombstones : ∀ key, r.tombstones.contains key = true ↔ Deletes es key
  created : ∀ key row, r.rows.get? key = some row →
    ∃ first, firstCreation key es = some first ∧ row.created = first.created

theorem membership_absorbAll (es : List PostEvent) : Membership es (empty.absorbAll es) := by
  have hrow (key : String) : (empty.absorbAll es).rows.contains key = true ↔ Creates es key ∧ ¬Deletes es key := by
    have h := follows_absorbAll es key
    generalize hc : (empty.absorbAll es).cell key = c at h
    have hcontains : (empty.absorbAll es).rows.contains key = (c.row.map Post.created).isSome := by
      rw [← hc, Option.isSome_map]
      rfl
    rw [hcontains, h.created, ← h.gone, ← isSome_firstCreation]
    cases c.gone with
    | true => simp
    | false => simp
  have hmark (key : String) : (empty.absorbAll es).tombstones.contains key = true ↔ Deletes es key :=
    (follows_absorbAll es key).gone
  refine ⟨fun key ⟨h, hm⟩ => ((hrow key).1 h).2 ((hmark key).1 hm), hrow, hmark, fun key row h => ?_⟩
  have hcreated := (follows_absorbAll es key).created
  have hsome : ((empty.absorbAll es).cell key).row = some row := h
  rw [hsome, Option.map_some] at hcreated
  split at hcreated
  · nomatch hcreated
  · obtain ⟨first, hfirst, hsame⟩ := Option.map_eq_some_iff.1 hcreated.symm
    exact ⟨first, hfirst, hsame.symm⟩

/-- A post that is deleted or was not created has no row. -/
theorem Membership.get?_eq_none {r : Replica} (h : Membership es r) (hno : ¬(Creates es key ∧ ¬Deletes es key)) :
    r.rows.get? key = none := by
  have hrow : r.rows.contains key ≠ true := fun hrow => hno ((h.rows key).1 hrow)
  exact Rows.contains_eq_false.1 (Bool.not_eq_true _ ▸ hrow)

/-- Events are all applied to the empty replica. At every point on the way no post has a row and is marked as deleted,
the posts with rows are those that were created and not deleted so far, each row is as old as the first creation of its
post, and a post that was deleted has no row ever after. -/
theorem membership_at_every_point (codec : Codec) (es : List PostEvent) :
    ∃ r, AppliedAll (applier codec) es empty r ∧ Membership es r ∧
      ∀ before after, es = before ++ after →
        ∃ q, AppliedAll (applier codec) before empty q ∧ AppliedAll (applier codec) after q r ∧ Membership before q ∧
          ∀ id, .deleted id ∈ before → r.rows.get? id.text = none := by
  have happlied (es : List PostEvent) {q : Replica} (hq : q.failing = []) :
      AppliedAll (applier codec) es q (q.absorbAll es) := .of_not_failing codec fun e _ => by rw [hq]; rfl
  refine ⟨empty.absorbAll es, happlied es rfl, membership_absorbAll es, ?_⟩
  rintro before after rfl
  have hnone : (empty.absorbAll before).failing = [] := (happlied before rfl).eq_absorbAll.2.1
  refine ⟨empty.absorbAll before, happlied before rfl, absorbAll_append empty before after ▸ happlied after hnone,
    membership_absorbAll before, fun id hid => ?_⟩
  have hdel : Deletes (before ++ after) id.text := ⟨id, List.mem_append_left _ hid, rfl⟩
  exact (membership_absorbAll _).get?_eq_none fun hrow => hrow.2 hdel

end Forum.Memory.Replica
