import Forum.Fixture
import Forum.Proofs.Replica.Cells

/-!
# Events that are applied again

A creation or a deletion that was absorbed stays absorbed, whatever comes after it (`absorb_absorbAll_of_mem`): a row
that is there, and a mark that the post was deleted, keep the creation out, and what was deleted stays deleted. An update
is absorbed again only as long as the row shows what it carries (`absorb_updated_iff`), so an update that is applied once
more after a newer one takes the row back.
-/

namespace Forum.Memory.Replica

open Replication

/-! ## Once more at once -/

theorem Cell.absorb_absorb (c : Cell) (e : PostEvent) : (c.absorb e).absorb e = c.absorb e := by
  obtain ⟨row, gone⟩ := c
  cases e with
  | created post =>
    cases gone with
    | true => rfl
    | false => cases row <;> rfl
  | updated post => cases row <;> rfl
  | deleted id => rfl

/-- An event that is applied twice in a row is absorbed the second time. -/
theorem absorb_absorb (r : Replica) (e : PostEvent) : (r.absorb e).absorb e = r.absorb e := by
  rw [absorb_eq_self_iff, cell_absorb, if_pos rfl, Cell.absorb_absorb]

/-! ## Once more after other events -/

/-- What keeps a creation or a deletion out is kept by every event. -/
theorem Cell.absorb_settled {c : Cell} {e : PostEvent} (hk : e.kind ≠ .updated) (h : c.absorb e = c) (f : PostEvent) :
    (c.absorb f).absorb e = c.absorb f := by
  obtain ⟨row, gone⟩ := c
  cases e with
  | updated post => exact absurd rfl hk
  | created post =>
    cases gone with
    | true => cases f <;> rfl
    | false =>
      cases row with
      | none => simp at h
      | some row => cases f <;> rfl
  | deleted id =>
    obtain ⟨rfl, rfl⟩ : row = none ∧ gone = true := by simpa [eq_comm] using h
    cases f <;> rfl

theorem absorb_settled {r : Replica} {e : PostEvent} (hk : e.kind ≠ .updated) (h : r.absorb e = r) (f : PostEvent) :
    (r.absorb f).absorb e = r.absorb f := by
  rw [absorb_eq_self_iff] at h ⊢
  rw [cell_absorb]
  split
  · exact Cell.absorb_settled hk h f
  · exact h

theorem absorbAll_settled {r : Replica} {e : PostEvent} (hk : e.kind ≠ .updated) (h : r.absorb e = r)
    (es : List PostEvent) : (r.absorbAll es).absorb e = r.absorbAll es := by
  induction es generalizing r with
  | nil => exact h
  | cons f fs ih => exact ih (absorb_settled hk h f)

/-- A creation or a deletion that occurs among events changes nothing after them. -/
theorem absorb_absorbAll_of_mem {e : PostEvent} {es : List PostEvent} (hk : e.kind ≠ .updated) (he : e ∈ es)
    (r : Replica) : (r.absorbAll es).absorb e = r.absorbAll es := by
  obtain ⟨xs, ys, rfl⟩ := List.append_of_mem he
  rw [absorbAll_append, absorbAll_cons]
  exact absorbAll_settled hk (absorb_absorb _ _) ys

/-! ## Updates -/

/-- The row of the post, where there is one, shows what the event carries; a creation and a deletion carry nothing that
a row could stop to show. -/
def Shows (r : Replica) : PostEvent → Prop
  | .updated post => ∀ row, r.rows.get? post.id.text = some row →
      row.title = post.title ∧ row.description = post.description ∧ row.user = post.user ∧ row.updated = post.updated
  | _ => True

/-- A row stays as it is when an update carries what it shows. -/
theorem updated_eq_iff {row post : Post} : updated row post = row ↔
    row.title = post.title ∧ row.description = post.description ∧ row.user = post.user ∧ row.updated = post.updated := by
  obtain ⟨_, _, _, _, _, _⟩ := row
  simp [updated, eq_comm]

theorem absorb_updated_iff {r : Replica} {post : Post} : r.absorb (.updated post) = r ↔ r.Shows (.updated post) := by
  rw [absorb_eq_self_iff]
  show (Cell.absorb ⟨r.rows.get? post.id.text, _⟩ (.updated post)) = _ ↔
    ∀ row, r.rows.get? post.id.text = some row → _
  simp only [← updated_eq_iff]
  cases h : r.rows.get? post.id.text with
  | none => simp [cell, h, PostEvent.postId]
  | some row => simp [cell, h, PostEvent.postId]

/-! ## Sequences of events that were applied -/

/-- Events that are applied one after the other, all of them with success. -/
inductive AppliedAll {σ : Type} (a : Applier σ) : List PostEvent → σ → σ → Prop
  | nil (s : σ) : AppliedAll a [] s s
  | cons {e : PostEvent} {es : List PostEvent} {s t u : σ} {done : Applied} (he : a.applyEvent e s = (.ok done, t))
      (hes : AppliedAll a es t u) : AppliedAll a (e :: es) s u

/-- Events that were applied were absorbed, and writes of their posts do not fail. -/
theorem AppliedAll.eq_absorbAll {codec : Codec} {es : List PostEvent} {r s : Replica}
    (h : AppliedAll (applier codec) es r s) :
    s = r.absorbAll es ∧ s.failing = r.failing ∧ ∀ e ∈ es, r.failing.contains e.postId.text = false := by
  induction h with
  | nil s => exact ⟨rfl, rfl, fun _ h => nomatch h⟩
  | cons he _ ih =>
    obtain ⟨hf, rfl⟩ := applyEvent_eq_ok he
    obtain ⟨rfl, hs, hes⟩ := ih
    rw [failing_absorb] at hs hes
    exact ⟨rfl, hs, List.forall_mem_cons.2 ⟨hf, hes⟩⟩

/-- Where no writes fail, events can be applied. -/
theorem AppliedAll.of_not_failing (codec : Codec) {es : List PostEvent} {r : Replica}
    (h : ∀ e ∈ es, r.failing.contains e.postId.text = false) : AppliedAll (applier codec) es r (r.absorbAll es) := by
  induction es generalizing r with
  | nil => exact .nil r
  | cons e es ih =>
    obtain ⟨hf, hes⟩ := List.forall_mem_cons.1 h
    obtain ⟨done, he⟩ := applyEvent_of_not_failing hf codec
    exact .cons he (ih (by rwa [failing_absorb]))

/-- An event that occurs among events that were applied is applied once more after them, and this leaves the rows and the
marks of deleted posts as they are exactly if it is no update, or the row of its post shows what it carries. -/
theorem reapply_unchanged_iff {codec : Codec} {es : List PostEvent} {r s : Replica} {e : PostEvent}
    (h : AppliedAll (applier codec) es r s) (he : e ∈ es) :
    ∃ done t, (applier codec).applyEvent e s = (.ok done, t) ∧
      ((t.rows = s.rows ∧ t.tombstones = s.tombstones) ↔ s.Shows e) := by
  obtain ⟨hs, hfailing, hf⟩ := h.eq_absorbAll
  have hfe : s.failing.contains e.postId.text = false := by
    rw [hfailing]
    exact hf e he
  obtain ⟨done, hdone⟩ := applyEvent_of_not_failing hfe codec
  refine ⟨done, s.absorb e, hdone, ?_⟩
  have hself : (s.absorb e).rows = s.rows ∧ (s.absorb e).tombstones = s.tombstones ↔ s.absorb e = s := by
    constructor
    · rintro ⟨hrows, htombs⟩
      have hfail := failing_absorb s e
      revert hrows htombs hfail
      generalize s.absorb e = t
      rintro hrows htombs hfail
      obtain ⟨_, _, _⟩ := t
      cases hrows
      cases htombs
      cases hfail
      rfl
    · intro hst
      exact ⟨congrArg rows hst, congrArg tombstones hst⟩
  rw [hself]
  cases e with
  | updated post => exact absorb_updated_iff
  | created post => exact iff_of_true (hs ▸ absorb_absorbAll_of_mem (by simp [PostEvent.kind]) he r) trivial
  | deleted id => exact iff_of_true (hs ▸ absorb_absorbAll_of_mem (by simp [PostEvent.kind]) he r) trivial

/-! ## An update that comes back after a newer one -/

/-- A post that is created and then changed twice. -/
def editions : List PostEvent :=
  [.created (Fixture.post "p" "first"), .updated (Fixture.post "p" "second"), .updated (Fixture.post "p" "third")]

theorem applied_editions (codec : Codec) : AppliedAll (applier codec) editions empty (empty.absorbAll editions) :=
  .of_not_failing codec (by decide)

theorem reapply_last_edition :
    AppliedAll (applier .json) editions empty (empty.absorbAll editions) ∧
      .updated (Fixture.post "p" "third") ∈ editions ∧
      ∃ done t, (applier .json).applyEvent (.updated (Fixture.post "p" "third")) (empty.absorbAll editions) = (.ok done, t) ∧
        t.rows = (empty.absorbAll editions).rows ∧ t.tombstones = (empty.absorbAll editions).tombstones := by
  have happlied := applied_editions .json
  have hmem : .updated (Fixture.post "p" "third") ∈ editions := by decide
  have hshows : (empty.absorbAll editions).Shows (.updated (Fixture.post "p" "third")) := by
    have hrow : (empty.absorbAll editions).rows.get? "p" = some (Fixture.post "p" "third") := by decide
    intro row h
    obtain rfl := Option.some.inj (hrow.symm.trans h)
    exact ⟨rfl, rfl, rfl, rfl⟩
  obtain ⟨done, t, hdone, hiff⟩ := reapply_unchanged_iff happlied hmem
  exact ⟨happlied, hmem, done, t, hdone, hiff.2 hshows⟩

/-- The first change takes the row back when it is applied after the second one. -/
theorem reapply_older_update_changes :
    ¬ ∀ (codec : Codec) (es : List PostEvent) (r s t : Replica) (e : PostEvent) (done : Applied),
      AppliedAll (applier codec) es r s → e ∈ es → (applier codec).applyEvent e s = (.ok done, t) →
        t.rows = s.rows ∧ t.tombstones = s.tombstones := by
  intro h
  have happly : (applier .json).applyEvent (.updated (Fixture.post "p" "second")) (empty.absorbAll editions) =
      (.ok ⟨.updated, ⟨"p"⟩, .applied⟩, empty.absorbAll (editions ++ [.updated (Fixture.post "p" "second")])) := by
    rfl
  obtain ⟨hrows, -⟩ := h .json editions _ _ _ _ _ (applied_editions .json) (by decide) happly
  revert hrows
  decide

end Forum.Memory.Replica
