import Mathlib.Tactic.Common
import Forum.Memory.Replica
import Forum.Replication.Applier

/-!
# What the replica holds of a post

A `Cell` is the row of one post together with the mark that the post was deleted. An event changes the cell of its own
post and no other (`cell_absorb`), so a cell is what the events of its post made of it (`cell_absorbAll`). Applying an
event through the applier of a subscriber is `absorb`, and reports what the cell of its post says (`Cell.outcome`); while
writes of the post fail, it reports the failure and changes nothing (`applyEvent_eq`).
-/

namespace Forum.Memory

open Replication

/-! ## Rows that are or are not there -/

namespace Rows

variable {ν : Type}

@[simp] theorem contains_empty (k : String) : (empty : Rows ν).contains k = false := rfl

/-- A row that is inserted is there, beside those that were. -/
@[simp] theorem contains_insert (r : Rows ν) (key : String) (row : ν) (k : String) :
    (r.insert key row).contains k = (k == key || r.contains k) := by
  unfold contains
  rw [get?_insert]
  by_cases h : k = key
  · simp [h]
  · simp [h, beq_false_of_ne h]

/-- There is no row just where none is found. -/
theorem contains_eq_false {r : Rows ν} {k : String} : r.contains k = false ↔ r.get? k = none := by
  simp [contains]

/-- Collections of marks that mark the same keys are the same. -/
theorem ext_contains {r s : Rows Unit} (h : ∀ k, r.contains k = s.contains k) : r = s := by
  refine ext_get? fun k => ?_
  have hk := h k
  unfold contains at hk
  cases hr : r.get? k with
  | none =>
    rw [hr] at hk
    cases hs : s.get? k with
    | none => rfl
    | some u => simp [hs] at hk
  | some u =>
    rw [hr] at hk
    cases hs : s.get? k with
    | none => simp [hs] at hk
    | some v => rfl

end Rows

namespace Replica

/-! ## Absorbing events -/

/-- The replica after an event whose write did not fail. -/
def absorb (r : Replica) : PostEvent → Replica
  | .created post => (r.insert post).2
  | .updated post => (r.update post).2
  | .deleted id => (r.delete id).2

/-- The replica after events, one after the other. -/
def absorbAll (r : Replica) (es : List PostEvent) : Replica := es.foldl absorb r

@[simp] theorem absorbAll_nil (r : Replica) : r.absorbAll [] = r := rfl

@[simp] theorem absorbAll_cons (r : Replica) (e : PostEvent) (es : List PostEvent) :
    r.absorbAll (e :: es) = (r.absorb e).absorbAll es := rfl

/-- Events of two feeds, one after the other. -/
theorem absorbAll_append (r : Replica) (es fs : List PostEvent) :
    r.absorbAll (es ++ fs) = (r.absorbAll es).absorbAll fs := List.foldl_append

theorem absorbAll_snoc (r : Replica) (es : List PostEvent) (e : PostEvent) :
    r.absorbAll (es ++ [e]) = (r.absorbAll es).absorb e := absorbAll_append r es [e]

@[simp] theorem failing_insert (r : Replica) (post : Post) : (r.insert post).2.failing = r.failing := by
  unfold insert
  split
  · rfl
  · split <;> rfl

@[simp] theorem failing_update (r : Replica) (post : Post) : (r.update post).2.failing = r.failing := by
  unfold update
  split <;> rfl

/-- An event leaves which writes fail. -/
@[simp] theorem failing_absorb (r : Replica) (e : PostEvent) : (r.absorb e).failing = r.failing := by
  cases e with
  | created post => exact failing_insert r post
  | updated post => exact failing_update r post
  | deleted id => rfl

/-! ## Cells -/

/-- What there is of a post: its row, and whether it was deleted. -/
structure Cell where
  row : Option Post
  gone : Bool
deriving DecidableEq

/-- What the replica holds under an identifier. -/
def cell (r : Replica) (key : String) : Cell := ⟨r.rows.get? key, r.tombstones.contains key⟩

/-- What an event of the post makes of its cell. -/
def Cell.absorb (c : Cell) : PostEvent → Cell
  | .created post => if c.gone then c else ⟨c.row.or (some post), c.gone⟩
  | .updated post => ⟨c.row.map fun row => updated row post, c.gone⟩
  | .deleted _ => ⟨none, true⟩

/-- A row stays as it is when its post is created once more. -/
@[simp] theorem Cell.absorb_created_row (row post : Post) (gone : Bool) :
    (⟨some row, gone⟩ : Cell).absorb (.created post) = ⟨some row, gone⟩ := by
  cases gone <;> rfl

/-- A post that was deleted is not created again. -/
@[simp] theorem Cell.absorb_created_gone (row : Option Post) (post : Post) :
    (⟨row, true⟩ : Cell).absorb (.created post) = ⟨row, true⟩ := rfl

@[simp] theorem Cell.absorb_created_new (post : Post) :
    (⟨none, false⟩ : Cell).absorb (.created post) = ⟨some post, false⟩ := rfl

/-- An update changes the row, if there is one. -/
@[simp] theorem Cell.absorb_updated (row : Option Post) (post : Post) (gone : Bool) :
    (⟨row, gone⟩ : Cell).absorb (.updated post) = ⟨row.map fun row => Replica.updated row post, gone⟩ := rfl

@[simp] theorem Cell.absorb_deleted (c : Cell) (id : PostId) : c.absorb (.deleted id) = ⟨none, true⟩ := rfl

/-- Replicas that hold the same of every post have the same rows and the same marks. -/
theorem held_eq {r s : Replica} (h : ∀ key, r.cell key = s.cell key) : r.rows = s.rows ∧ r.tombstones = s.tombstones :=
  ⟨Rows.ext_get? fun k => congrArg Cell.row (h k), Rows.ext_contains fun k => congrArg Cell.gone (h k)⟩

/-- Replicas that hold the same of every post are the same. -/
theorem ext_cell {r s : Replica} (h : ∀ key, r.cell key = s.cell key) (hf : r.failing = s.failing) : r = s := by
  obtain ⟨hrows, htombs⟩ := held_eq h
  obtain ⟨rows, tombstones, failing⟩ := r
  obtain ⟨rows', tombstones', failing'⟩ := s
  obtain rfl : rows = rows' := hrows
  obtain rfl : tombstones = tombstones' := htombs
  obtain rfl : failing = failing' := hf
  rfl

/-- An insertion is a creation for the cell of its post, and nothing for the others. -/
theorem cell_insert (r : Replica) (post : Post) (key : String) :
    (r.insert post).2.cell key = if key = post.id.text then (r.cell key).absorb (.created post) else r.cell key := by
  unfold insert
  by_cases hg : r.tombstones.contains post.id.text
  · rw [if_pos hg]
    split
    · rename_i hk
      subst hk
      simp [cell, hg]
    · rfl
  · rw [if_neg hg]
    by_cases hr : r.rows.contains post.id.text
    · rw [if_pos hr]
      split
      · rename_i hk
        subst hk
        obtain ⟨row, hrow⟩ := Option.isSome_iff_exists.1 hr
        simp [cell, hrow]
      · rfl
    · rw [if_neg hr]
      have hnone : r.rows.get? post.id.text = none := Rows.contains_eq_false.1 (Bool.not_eq_true _ ▸ hr)
      by_cases hk : key = post.id.text
      · subst hk
        simp [cell, hnone, hg]
      · simp [cell, hk]

/-- An update of the replica is one for the cell of its post, and nothing for the others. -/
theorem cell_update (r : Replica) (post : Post) (key : String) :
    (r.update post).2.cell key = if key = post.id.text then (r.cell key).absorb (.updated post) else r.cell key := by
  by_cases hk : key = post.id.text
  · subst hk
    rw [if_pos rfl]
    cases hrow : r.rows.get? post.id.text with
    | none => simp [update, cell, hrow]
    | some row => simp [update, cell, hrow]
  · rw [if_neg hk]
    unfold update
    split
    · simp [cell, hk]
    · rfl

/-- A deletion empties the cell of its post, and is nothing for the others. -/
theorem cell_delete (r : Replica) (id : PostId) (key : String) :
    (r.delete id).2.cell key = if key = id.text then (r.cell key).absorb (.deleted id) else r.cell key := by
  unfold delete
  by_cases hk : key = id.text
  · subst hk
    simp [cell]
  · simp [cell, hk]

/-- An event changes what is held of its own post only. -/
theorem cell_absorb (r : Replica) (e : PostEvent) (key : String) :
    (r.absorb e).cell key = if key = e.postId.text then (r.cell key).absorb e else r.cell key := by
  cases e with
  | created post => exact cell_insert r post key
  | updated post => exact cell_update r post key
  | deleted id => exact cell_delete r id key

/-- The events of a post. -/
def eventsOf (key : String) (es : List PostEvent) : List PostEvent := es.filter fun e => e.postId.text = key

/-- What is held of a post is what the events of the post made of it. -/
theorem cell_absorbAll (r : Replica) (es : List PostEvent) (key : String) :
    (r.absorbAll es).cell key = (eventsOf key es).foldl Cell.absorb (r.cell key) := by
  induction es generalizing r with
  | nil => rfl
  | cons e es ih =>
    rw [absorbAll_cons, ih, cell_absorb]
    by_cases hk : key = e.postId.text
    · have hev : eventsOf key (e :: es) = e :: eventsOf key es := List.filter_cons_of_pos (by simpa using hk.symm)
      rw [if_pos hk, hev, List.foldl_cons]
    · have hev : eventsOf key (e :: es) = eventsOf key es := List.filter_cons_of_neg (by simpa using Ne.symm hk)
      rw [if_neg hk, hev]

/-- An event that finds its effect in the cell of its post changes nothing. -/
theorem absorb_eq_self_iff {r : Replica} {e : PostEvent} :
    r.absorb e = r ↔ (r.cell e.postId.text).absorb e = r.cell e.postId.text := by
  constructor
  · intro h
    have hc := cell_absorb r e e.postId.text
    rw [if_pos rfl, h] at hc
    exact hc.symm
  · intro h
    refine ext_cell (fun key => ?_) (failing_absorb r e)
    rw [cell_absorb]
    split
    · rename_i hk
      subst hk
      exact h
    · rfl

/-! ## Through the applier -/

/-- The applier of a subscriber whose replica this is. -/
def applier (codec : Codec) : Applier Replica := ⟨store, codec⟩

/-- What an event of the post reports to have done to its cell. -/
def Cell.outcome (c : Cell) : PostEvent → ReplicaWrite
  | .created _ => if c.gone then .tombstoned else if c.row.isSome then .alreadyPresent else .applied
  | .updated _ => if c.row.isSome then .applied else .missing
  | .deleted _ => if c.row.isSome then .applied else .missing

/-- The error of a write that was made to fail. -/
def failure (id : PostId) : Error := .infrastructure s!"injected replica failure for {id.text}"

/-- What an insertion answers can be told from the cell. -/
theorem insert_outcome (r : Replica) (post : Post) :
    (r.insert post).1 = (r.cell post.id.text).outcome (.created post) := by
  show _ = if r.tombstones.contains post.id.text then _ else if r.rows.contains post.id.text then _ else _
  unfold insert
  by_cases hg : r.tombstones.contains post.id.text
  · rw [if_pos hg, if_pos hg]
  · rw [if_neg hg, if_neg hg]
    by_cases hr : r.rows.contains post.id.text
    · rw [if_pos hr, if_pos hr]
    · rw [if_neg hr, if_neg hr]

/-- What an update answers can be told from the cell. -/
theorem update_outcome (r : Replica) (post : Post) :
    (r.update post).1 = (r.cell post.id.text).outcome (.updated post) := by
  unfold update
  split
  · rename_i row hrow
    simp [Cell.outcome, cell, hrow]
  · rename_i hrow
    simp [Cell.outcome, cell, hrow]

theorem delete_outcome (r : Replica) (id : PostId) : (r.delete id).1 = (r.cell id.text).outcome (.deleted id) := rfl

/-- A write fails where its key does, and else it answers and changes the replica. -/
theorem guarded_eq (id : PostId) (write : Replica → ReplicaWrite × Replica) (r : Replica) :
    guarded id write r =
      if r.failing.contains id.text then (.error (failure id), r) else (.ok (write r).1, (write r).2) := rfl

/-- What a write does, by whether writes of its post fail. -/
theorem write_eq (codec : Codec) (e : PostEvent) (r : Replica) :
    (applier codec).write e r =
      if r.failing.contains e.postId.text then (.error (failure e.postId), r)
      else (.ok ((r.cell e.postId.text).outcome e), r.absorb e) := by
  cases e with
  | created post => exact insert_outcome r post ▸ guarded_eq post.id (fun r => r.insert post) r
  | updated post => exact update_outcome r post ▸ guarded_eq post.id (fun r => r.update post) r
  | deleted id => exact delete_outcome r id ▸ guarded_eq id (fun r => r.delete id) r

/-- An event reports what it finds in the cell of its post, and is absorbed; while writes of the post fail, it reports
the failure and changes nothing. -/
theorem applyEvent_eq (codec : Codec) (e : PostEvent) (r : Replica) :
    (applier codec).applyEvent e r =
      if r.failing.contains e.postId.text then (.error (.store e.subject (failure e.postId)), r)
      else (.ok ⟨e.kind, e.postId, (r.cell e.postId.text).outcome e⟩, r.absorb e) := by
  rw [Applier.applyEvent, write_eq]
  cases r.failing.contains e.postId.text <;> rfl

/-- While writes of its post fail, an event is not applied and changes nothing. -/
theorem applyEvent_of_failing {r : Replica} {e : PostEvent} (h : r.failing.contains e.postId.text = true)
    (codec : Codec) : ∃ err, (applier codec).applyEvent e r = (.error err, r) :=
  ⟨_, by rw [applyEvent_eq, if_pos h]⟩

/-- Otherwise an event is applied, and absorbed. -/
theorem applyEvent_of_not_failing {r : Replica} {e : PostEvent} (h : r.failing.contains e.postId.text = false)
    (codec : Codec) : ∃ done, (applier codec).applyEvent e r = (.ok done, r.absorb e) :=
  ⟨_, by rw [applyEvent_eq, if_neg (Bool.eq_false_iff.1 h)]⟩

/-- An event that was applied was absorbed. -/
theorem applyEvent_eq_ok {codec : Codec} {r s : Replica} {e : PostEvent} {done : Applied}
    (h : (applier codec).applyEvent e r = (.ok done, s)) :
    r.failing.contains e.postId.text = false ∧ s = r.absorb e := by
  cases hf : r.failing.contains e.postId.text with
  | true =>
    obtain ⟨err, he⟩ := applyEvent_of_failing hf codec
    rw [he] at h
    nomatch (Prod.mk.inj h).1
  | false =>
    obtain ⟨done', he⟩ := applyEvent_of_not_failing hf codec
    rw [he] at h
    exact ⟨rfl, (Prod.mk.inj h).2.symm⟩

end Replica

end Forum.Memory
