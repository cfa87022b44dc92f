import Mathlib.Data.List.Induction
import Mathlib.Data.List.TakeWhile
import Forum.Proofs.Replica.Mirror

/-!
# Events in any order

Which posts have rows does not depend on the order of the events. What a row shows does, but only on the last change that
comes after the creation of its post (`foldl_absorb`). So a replica that absorbed what a posts service told, in
any order and any number of times, has rows of the same posts, by the same users and of the same times of creation
(`Told.owner_rows`), and all the rows of the service when the last changes are the same (`Told.rows_of_lastChange`).
-/

namespace Forum.Memory.Replica

/-! ## The last change -/

/-- The post that an update carries. -/
def changeOf : PostEvent → Option Post
  | .updated post => some post
  | _ => none

/-- The event creates a post. -/
def isCreation (e : PostEvent) : Bool := e.kind = .created

/-- The events from the first creation on. -/
def fromCreation (es : List PostEvent) : List PostEvent := es.dropWhile fun e => !isCreation e

/-- The last update of a post that comes after its creation. -/
def lastChange (key : String) (es : List PostEvent) : Option Post :=
  ((fromCreation (eventsOf key es)).filterMap changeOf).getLast?

/-- A row after a change, if there is one. -/
def amended (row : Post) : Option Post → Post
  | some post => updated row post
  | none => row

theorem updated_amended (row : Post) (change : Option Post) (post : Post) :
    updated (amended row change) post = updated row post := by
  cases change <;> rfl

/-! ## Cells after events -/

/-- Nothing but a creation brings a row. -/
theorem foldl_absorb_of_no_creation {es : List PostEvent} (hd : ∀ e ∈ es, e.kind ≠ .deleted)
    (hc : ∀ e ∈ es, isCreation e = false) : es.foldl Cell.absorb ⟨none, false⟩ = ⟨none, false⟩ := by
  induction es with
  | nil => rfl
  | cons e es ih =>
    obtain ⟨he, hes⟩ := List.forall_mem_cons.1 hd
    obtain ⟨he', hes'⟩ := List.forall_mem_cons.1 hc
    rw [List.foldl_cons]
    cases e with
    | created post => nomatch he'
    | updated post => exact ih hes hes'
    | deleted id => exact absurd rfl he

/-- A row shows the last change. -/
theorem foldl_absorb_of_row {es : List PostEvent} (hd : ∀ e ∈ es, e.kind ≠ .deleted) (row : Post) :
    es.foldl Cell.absorb ⟨some row, false⟩ = ⟨some (amended row (es.filterMap changeOf).getLast?), false⟩ := by
  induction es using List.reverseRecOn with
  | nil => rfl
  | append_singleton es e ih =>
    rw [List.foldl_append, ih fun f hf => hd f (List.mem_append_left _ hf), List.filterMap_append]
    cases e with
    | created post => simp [changeOf]
    | updated post =>
      have hlast : (es.filterMap changeOf ++ [.updated post].filterMap changeOf).getLast? = some post :=
        List.getLast?_concat
      rw [hlast]
      exact congrArg (fun row => (⟨some row, false⟩ : Cell)) (updated_amended row _ post)
    | deleted id => exact absurd rfl (hd _ (List.mem_append_right _ (List.mem_singleton.2 rfl)))

/-- The events from the first creation on start with it. -/
theorem fromCreation_cases (es : List PostEvent) :
    (∀ e ∈ es, isCreation e = false) ∨ ∃ before post rest, fromCreation es = .created post :: rest ∧
      es = before ++ .created post :: rest ∧ ∀ e ∈ before, isCreation e = false := by
  have hsplit : es.takeWhile (fun e => !isCreation e) ++ fromCreation es = es := List.takeWhile_append_dropWhile
  have hbefore : ∀ e ∈ es.takeWhile (fun e => !isCreation e), isCreation e = false := by
    intro e he
    simpa using List.mem_takeWhile_imp he
  cases hfrom : fromCreation es with
  | nil =>
    rw [hfrom, List.append_nil] at hsplit
    exact .inl (hsplit ▸ hbefore)
  | cons e rest =>
    have hhead := List.head?_dropWhile_not (fun e => !isCreation e) es
    have hfrom' : es.dropWhile (fun e => !isCreation e) = e :: rest := hfrom
    rw [hfrom'] at hhead
    rw [hfrom] at hsplit
    cases e with
    | updated post => nomatch hhead
    | deleted id => nomatch hhead
    | created post => exact .inr ⟨_, post, rest, rfl, hsplit.symm, hbefore⟩

/-- Where a post is created and not deleted, its row is the one of the first creation with the last change after it. -/
theorem foldl_absorb {es : List PostEvent} (hd : ∀ e ∈ es, e.kind ≠ .deleted) (hc : ∃ e ∈ es, isCreation e = true) :
    ∃ post, .created post ∈ es ∧ es.foldl Cell.absorb ⟨none, false⟩ =
      ⟨some (amended post ((fromCreation es).filterMap changeOf).getLast?), false⟩ := by
  rcases fromCreation_cases es with hnone | ⟨before, post, rest, hfrom, hes, hbefore⟩
  · obtain ⟨e, he, hce⟩ := hc
    exact absurd ((hnone e he).symm.trans hce) (by decide)
  · have hnone := foldl_absorb_of_no_creation
      (fun e he => hd e (hes ▸ List.mem_append_left _ he)) hbefore
    have hrow := foldl_absorb_of_row
      (fun e he => hd e (hes ▸ List.mem_append_right _ (List.mem_cons_of_mem _ he))) post
    refine ⟨post, hes ▸ List.mem_append_right _ List.mem_cons_self, ?_⟩
    have hchanges : (fromCreation es).filterMap changeOf = rest.filterMap changeOf := by
      rw [hfrom]
      rfl
    rw [hchanges, hes, List.foldl_append, hnone, List.foldl_cons, Cell.absorb_created_new, hrow]

/-! ## Rows after events -/

variable {es evs : List PostEvent} {commits : List (Rows Post)} {rows : Rows Post} {key : String}

theorem mem_eventsOf {e : PostEvent} : e ∈ eventsOf key es ↔ e ∈ es ∧ e.postId.text = key := by
  simp [eventsOf]

theorem row_absorbAll (es : List PostEvent) (key : String) :
    (empty.absorbAll es).rows.get? key = ((eventsOf key es).foldl Cell.absorb ⟨none, false⟩).row :=
  congrArg Cell.row (cell_absorbAll empty es key)

theorem not_deleted_of_mem (hd : ¬Deletes es key) : ∀ e ∈ eventsOf key es, e.kind ≠ .deleted := by
  rintro (post | post | id) he hk
  · nomatch hk
  · nomatch hk
  · exact hd ⟨id, mem_eventsOf.1 he⟩

/-- A post that is created and not deleted has a row. -/
theorem row_absorbAll_of_created {post : Post} (hd : ¬Deletes es post.id.text) (hc : .created post ∈ es) :
    ∃ first, .created first ∈ es ∧ first.id = post.id ∧
      (empty.absorbAll es).rows.get? post.id.text = some (amended first (lastChange post.id.text es)) := by
  obtain ⟨first, hfirst, hrow⟩ := foldl_absorb (not_deleted_of_mem hd) ⟨_, mem_eventsOf.2 ⟨hc, rfl⟩, rfl⟩
  obtain ⟨hmem, hid⟩ := mem_eventsOf.1 hfirst
  refine ⟨first, hmem, congrArg PostId.mk hid, ?_⟩
  rw [row_absorbAll, hrow]
  rfl

theorem mem_of_lastChange {post : Post} (h : lastChange key es = some post) :
    .updated post ∈ es ∧ post.id.text = key := by
  have hmem := List.mem_of_getLast? h
  obtain ⟨e, he, hpost⟩ := List.mem_filterMap.1 hmem
  obtain ⟨hes, hkey⟩ := mem_eventsOf.1 ((List.dropWhile_sublist _).subset he)
  cases e with
  | created other => nomatch hpost
  | updated other =>
    obtain rfl := Option.some.inj hpost
    exact ⟨hes, hkey⟩
  | deleted id => nomatch hpost

/-! ## The same events in another order -/

/-- What no change of a post changes. -/
def owner (post : Post) : PostId × UserId × Calendar.Instant := (post.id, post.user, post.created)

/-- A post is created once. -/
theorem Told.created_unique (h : Told es commits rows) {post other : Post} (hp : .created post ∈ es)
    (ho : .created other ∈ es) (hid : post.id = other.id) : post = other := by
  induction h with
  | nil => nomatch hp
  | @snoc es commits rows rows' e h hw hnew ih =>
    rcases List.mem_append.1 hp with hp | hp
    · rcases List.mem_append.1 ho with ho | ho
      · exact ih hp ho
      · exact absurd hid (hnew other (List.mem_singleton.1 ho).symm post hp)
    · rcases List.mem_append.1 ho with ho | ho
      · exact absurd hid.symm (hnew post (List.mem_singleton.1 hp).symm other ho)
      · have hsame := (List.mem_singleton.1 hp).trans (List.mem_singleton.1 ho).symm
        exact PostEvent.created.inj hsame

/-- Rows and changes keep what the creation of their post set. -/
theorem Told.owner_eq (h : Told es commits rows) :
    (∀ k row, rows.get? k = some row → ∃ first, .created first ∈ es ∧ owner first = owner row) ∧
      ∀ post, .updated post ∈ es → ∃ first, .created first ∈ es ∧ owner first = owner post := by
  induction h with
  | nil => exact ⟨fun _ _ h => (nomatch h), fun _ h => (nomatch h)⟩
  | @snoc es commits rows rows' e h hw hnew ih =>
    obtain ⟨hrows, hes⟩ := ih
    have later {post : Post} (hp : ∃ first, .created first ∈ es ∧ owner first = owner post) :
        ∃ first, .created first ∈ es ++ [e] ∧ owner first = owner post := by
      obtain ⟨first, hmem, howner⟩ := hp
      exact ⟨first, List.mem_append_left _ hmem, howner⟩
    -- the row that is written is the one that the event carries
    have hwritten : ∀ post, e = .created post ∨ e = .updated post →
        ∃ first, .created first ∈ es ++ [e] ∧ owner first = owner post := by
      rintro post (rfl | rfl)
      · exact ⟨post, List.mem_append_right _ (List.mem_singleton.2 rfl), rfl⟩
      · cases hw with
        | @updated row _ hrow huser hcreated =>
          obtain ⟨first, hmem, howner⟩ := later (hrows _ row hrow)
          have hid : row.id = post.id := congrArg PostId.mk (h.keyed _ row hrow)
          exact ⟨first, hmem, howner.trans (by simp [owner, hid, huser, hcreated])⟩
    refine ⟨fun k row hrow => ?_, fun post hp => ?_⟩
    · rcases hw.row_cases hrow with hold | ⟨he, -⟩
      · exact later (hrows k row hold)
      · exact hwritten row he
    · rcases List.mem_append.1 hp with hp | hp
      · exact later (hes post hp)
      · exact hwritten post (.inr (List.mem_singleton.1 hp).symm)

/-- The row after a change that was told shows all of the change. -/
theorem Told.amended_lastChange (h : Told es commits rows) (hsub : ∀ e ∈ evs, e ∈ es) {post : Post}
    (hp : .created post ∈ es) :
    amended post (lastChange post.id.text evs) = (lastChange post.id.text evs).getD post ∧
      owner ((lastChange post.id.text evs).getD post) = owner post := by
  cases hlast : lastChange post.id.text evs with
  | none => exact ⟨rfl, rfl⟩
  | some change =>
    obtain ⟨hmem, hkey⟩ := mem_of_lastChange hlast
    obtain ⟨first, hfirst, howner⟩ := h.owner_eq.2 change (hsub _ hmem)
    have hid : first.id = post.id := (congrArg Prod.fst howner).trans (congrArg PostId.mk hkey)
    obtain rfl := h.created_unique hfirst hp hid
    refine ⟨?_, howner.symm⟩
    obtain ⟨hid', -, hcreated⟩ : first.id = change.id ∧ first.user = change.user ∧ first.created = change.created := by
      simpa [owner] using howner
    show updated first change = change
    unfold updated
    rw [hid', hcreated]

/-- A replica that absorbed what was told, in any order and any number of times, has a row of a post where the service
has one. Both rows show all of the post's last change, or its creation. -/
theorem Told.row_cases (h : Told es commits rows) (hsame : ∀ e, e ∈ evs ↔ e ∈ es) (key : String) :
    ((empty.absorbAll evs).rows.get? key = none ∧ rows.get? key = none) ∨
      ∃ post, .created post ∈ es ∧ post.id.text = key ∧
        (empty.absorbAll evs).rows.get? key = some ((lastChange key evs).getD post) ∧
        rows.get? key = some ((lastChange key es).getD post) := by
  rw [← h.rows_absorbAll]
  have hcreates : Creates evs key ↔ Creates es key := exists_congr fun post => and_congr_left' (hsame (.created post))
  have hdeletes : Deletes evs key ↔ Deletes es key := exists_congr fun id => and_congr_left' (hsame (.deleted id))
  by_cases hthere : Creates es key ∧ ¬Deletes es key
  · obtain ⟨⟨post, hpost, rfl⟩, hd⟩ := hthere
    obtain ⟨first, hfirst, hid, hrow⟩ := row_absorbAll_of_created hd hpost
    obtain ⟨first', hfirst', hid', hrow'⟩ := row_absorbAll_of_created (mt hdeletes.1 hd) ((hsame _).2 hpost)
    obtain rfl := h.created_unique hfirst hpost hid
    obtain rfl := h.created_unique ((hsame _).1 hfirst') hpost hid'
    rw [(h.amended_lastChange (fun _ he => he) hpost).1] at hrow
    rw [(h.amended_lastChange (fun e => (hsame e).1) hpost).1] at hrow'
    exact .inr ⟨_, hpost, rfl, hrow', hrow⟩
  · refine .inl ⟨(membership_absorbAll evs).get?_eq_none ?_, (membership_absorbAll es).get?_eq_none hthere⟩
    rw [hcreates, hdeletes]
    exact hthere

/-- The rows are of the same posts, by the same users and of the same times of creation. -/
theorem Told.owner_rows (h : Told es commits rows) (hsame : ∀ e, e ∈ evs ↔ e ∈ es) (key : String) :
    ((empty.absorbAll evs).rows.get? key).map owner = (rows.get? key).map owner := by
  rcases h.row_cases hsame key with ⟨hreplica, hrows⟩ | ⟨post, hp, rfl, hreplica, hrows⟩
  · rw [hreplica, hrows]
  · rw [hreplica, hrows, Option.map_some, Option.map_some, (h.amended_lastChange (fun e => (hsame e).1) hp).2,
      (h.amended_lastChange (fun _ he => he) hp).2]

/-- Every row of the replica was told as it is. -/
theorem Told.row_was_told (h : Told es commits rows) (hsame : ∀ e, e ∈ evs ↔ e ∈ es) {row : Post}
    (hrow : (empty.absorbAll evs).rows.get? key = some row) : .created row ∈ es ∨ .updated row ∈ es := by
  rcases h.row_cases hsame key with ⟨hnone, -⟩ | ⟨post, hp, rfl, hreplica, -⟩
  · nomatch hrow.symm.trans hnone
  · obtain rfl := Option.some.inj (hrow.symm.trans hreplica)
    cases hlast : lastChange post.id.text evs with
    | none => exact .inl hp
    | some change => exact .inr ((hsame _).1 (mem_of_lastChange hlast).1)

/-- The rows are the same when the last changes are. -/
theorem Told.rows_of_lastChange (h : Told es commits rows) (hsame : ∀ e, e ∈ evs ↔ e ∈ es)
    (hlast : ∀ key row, rows.get? key = some row → lastChange key evs = lastChange key es) :
    (empty.absorbAll evs).rows = rows := by
  refine Rows.ext_get? fun key => ?_
  rcases h.row_cases hsame key with ⟨hreplica, hrows⟩ | ⟨post, -, -, hreplica, hrows⟩
  · rw [hreplica, hrows]
  · rw [hreplica, hrows, hlast key _ hrows]

end Forum.Memory.Replica
