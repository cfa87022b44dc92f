import Mathlib.Data.List.Forall2
import Forum.Proofs.Replica.Membership
import Forum.Proofs.Service.Posts

/-!
# A replica that is fed in order

`Told` relates the events that a posts service tells of to the rows right after each of them. A replica that absorbs such
events in their order has the rows of the service at every point (`Told.rows_absorbAll`). It does so too when some
events come again (`absorbAll_feed`): a creation or a deletion at any later time, and an update until the next one.
-/

namespace Forum.Memory.Replica

/-! ## What a posts service tells -/

/-- Events, the rows after each of them, and the rows after all of them. No two posts are created under one identifier. -/
inductive Told : List PostEvent → List (Rows Post) → Rows Post → Prop
  | nil : Told [] [] .empty
  | snoc {es : List PostEvent} {commits : List (Rows Post)} {rows rows' : Rows Post} {e : PostEvent}
      (h : Told es commits rows) (hw : Written rows e rows')
      (hnew : ∀ post, e = .created post → ∀ other, .created other ∈ es → other.id ≠ post.id) :
    Told (es ++ [e]) (commits ++ [rows']) rows'

variable {es fs : List PostEvent} {commits : List (Rows Post)} {rows : Rows Post}

theorem Told.keyed (h : Told es commits rows) : rows.Keyed := by
  induction h with
  | nil => exact fun _ _ h => nomatch h
  | snoc _ hw _ ih => exact hw.keyed ih

theorem Told.length_eq (h : Told es commits rows) : commits.length = es.length := by
  induction h with
  | nil => rfl
  | snoc _ _ _ ih => simp [ih]

/-- The rows after all events are those after the last one. -/
theorem Told.rows_eq (h : Told es commits rows) : rows = commits.getLast?.getD .empty := by
  cases h with
  | nil => rfl
  | snoc _ _ _ => rw [List.getLast?_concat, Option.getD_some]

/-- The rows after the first events. -/
theorem Told.take (h : Told es commits rows) {k : Nat} (hk : k ≤ es.length) :
    ∃ rows', Told (es.take k) (commits.take k) rows' ∧ (Rows.empty :: commits)[k]? = some rows' := by
  induction h with
  | nil =>
    obtain rfl : k = 0 := by simpa using hk
    exact ⟨.empty, .nil, rfl⟩
  | @snoc es commits rows rows' e h hw hnew ih =>
    rw [List.length_append, List.length_singleton] at hk
    have hlen := h.length_eq
    rcases Nat.lt_or_ge es.length k with hlt | hle
    · obtain rfl : k = es.length + 1 := by omega
      refine ⟨rows', ?_, ?_⟩
      · rw [List.take_of_length_le (by simp), List.take_of_length_le (by simp [hlen])]
        exact .snoc h hw hnew
      · rw [List.getElem?_cons_succ, ← hlen, List.getElem?_concat_length]
    · obtain ⟨rows'', htake, hget⟩ := ih hle
      refine ⟨rows'', ?_, ?_⟩
      · rw [List.take_append_of_le_length hle, List.take_append_of_le_length (hlen ▸ hle)]
        exact htake
      · rw [← List.cons_append, List.getElem?_append_left (by simp [hlen]; omega)]
        exact hget

/-- Posts that have a row and posts that an event tells of were created. -/
theorem Told.was_created (h : Told es commits rows) :
    (∀ key row, rows.get? key = some row → Creates es key) ∧ ∀ e ∈ es, Creates es e.postId.text := by
  induction h with
  | nil => exact ⟨fun _ _ h => (nomatch h), fun _ h => (nomatch h)⟩
  | @snoc es commits rows rows' e h hw hnew ih =>
    obtain ⟨hrows, hes⟩ := ih
    have later {key : String} (hc : Creates es key) : Creates (es ++ [e]) key := by
      obtain ⟨post, hmem, hkey⟩ := hc
      exact ⟨post, List.mem_append_left _ hmem, hkey⟩
    refine ⟨fun key row hrow => ?_, fun f hf => ?_⟩
    · rcases hw.row_before hrow with ⟨old, hold⟩ | ⟨post, rfl, hkey⟩
      · exact later (hrows key old hold)
      · exact ⟨post, List.mem_append_right _ (List.mem_singleton.2 rfl), hkey⟩
    · rcases List.mem_append.1 hf with hf | hf
      · exact later (hes f hf)
      · obtain rfl := List.mem_singleton.1 hf
        rcases hw.row_of_event with ⟨old, hold⟩ | ⟨post, rfl⟩
        · exact later (hrows _ old hold)
        · exact ⟨post, List.mem_append_right _ (List.mem_singleton.2 rfl), rfl⟩

/-! ## Every event once -/

/-- An event that tells of a write is absorbed as that write, where the post is not marked as deleted. -/
theorem rows_absorb {r : Replica} {rows' : Rows Post} {e : PostEvent} (hk : r.rows.Keyed) (hw : Written r.rows e rows')
    (hgone : ∀ post, e = .created post → r.tombstones.contains post.id.text = false) : (r.absorb e).rows = rows' := by
  cases hw with
  | @created post hnew =>
    have hrow : r.rows.contains post.id.text = false := Rows.contains_eq_false.2 hnew
    simp [absorb, insert, hgone post rfl, hrow]
  | @updated row post hrow huser hcreated =>
    have hid : row.id = post.id := congrArg PostId.mk (hk _ _ hrow)
    have hupdated : updated row post = post := by
      unfold updated
      rw [hid, ← hcreated]
    simp [absorb, update, hrow, hupdated]
  | deleted hrow => rfl

/-- A replica that absorbed what was told has the rows of the service. -/
theorem Told.rows_absorbAll (h : Told es commits rows) : (empty.absorbAll es).rows = rows := by
  induction h with
  | nil => rfl
  | @snoc es commits rows rows' e h hw hnew ih =>
    rw [absorbAll_snoc]
    refine rows_absorb (ih ▸ h.keyed) (ih ▸ hw) fun post he => ?_
    -- a mark would stand for an earlier post of the same identifier
    by_contra hgone
    obtain ⟨id, hdel, hkey⟩ := ((membership_absorbAll es).tombstones post.id.text).1 (Bool.not_eq_false _ ▸ hgone)
    obtain ⟨other, hother, hid⟩ := h.was_created.2 _ hdel
    exact hnew post he other hother (congrArg PostId.mk (hid.trans hkey))

/-! ## Events that come again -/

/-- The first elements of a list in their order, each once and then perhaps again. An element that is marked comes again
only until the next one that is. -/
inductive Feed {α : Type} (marked : α → Prop) (xs : List α) : Nat → List α → Prop
  | nil : Feed marked xs 0 []
  | next {k : Nat} {ys : List α} {x : α} (h : Feed marked xs k ys) (hx : xs[k]? = some x) :
    Feed marked xs (k + 1) (ys ++ [x])
  | again {j k : Nat} {ys : List α} {x : α} (h : Feed marked xs k ys) (hj : j < k) (hx : xs[j]? = some x)
      (hlast : marked x → ∀ i y, j < i → i < k → xs[i]? = some y → ¬marked y) :
    Feed marked xs k (ys ++ [x])

theorem Feed.le_length {α : Type} {marked : α → Prop} {xs ys : List α} {k : Nat} (h : Feed marked xs k ys) :
    k ≤ xs.length := by
  induction h with
  | nil => exact Nat.zero_le _
  | next _ hx _ => exact (List.getElem?_eq_some_iff.1 hx).1
  | again _ _ _ _ ih => exact ih

theorem getElem?_of_forall₂ {α β : Type} {R : α → β → Prop} {xs : List α} {ys : List β} (h : List.Forall₂ R xs ys)
    {i : Nat} {x : α} (hx : xs[i]? = some x) : ∃ y, ys[i]? = some y ∧ R x y := by
  induction h generalizing i with
  | nil => simp at hx
  | @cons x' y' xs ys hR _ ih =>
    cases i with
    | zero =>
      obtain rfl : x' = x := by simpa using hx
      exact ⟨y', rfl, hR⟩
    | succ i => exact ih (by simpa using hx)

/-- A feed of one list is a feed of another one whose elements correspond. -/
theorem Feed.map {α β : Type} {marked : α → Prop} {marked' : β → Prop} {R : α → β → Prop} {xs : List α} {xs' : List β}
    (hR : List.Forall₂ R xs xs') (hmarked : ∀ x y, R x y → (marked x ↔ marked' y)) {k : Nat} {ys : List α}
    (h : Feed marked xs k ys) : ∃ ys', Feed marked' xs' k ys' ∧ List.Forall₂ R ys ys' := by
  induction h with
  | nil => exact ⟨[], .nil, .nil⟩
  | next _ hx ih =>
    obtain ⟨ys', hf, hys⟩ := ih
    obtain ⟨y, hy, hxy⟩ := getElem?_of_forall₂ hR hx
    exact ⟨ys' ++ [y], .next hf hy, List.rel_append hys (.cons hxy .nil)⟩
  | again _ hj hx hlast ih =>
    obtain ⟨ys', hf, hys⟩ := ih
    obtain ⟨y, hy, hxy⟩ := getElem?_of_forall₂ hR hx
    refine ⟨ys' ++ [y], .again hf hj hy (fun hm i z hji hik hz => ?_), List.rel_append hys (.cons hxy .nil)⟩
    obtain ⟨x', hx', hzx⟩ := getElem?_of_forall₂ hR.flip hz
    rw [← hmarked x' z hzx]
    exact hlast ((hmarked _ _ hxy).2 hm) i x' hji hik hx'

/-- The row of the post shows what the update carries, or the post is deleted. -/
def Cell.Shows (c : Cell) (post : Post) : Prop := (∃ row, c.row = some row ∧ updated row post = row) ∨ c = ⟨none, true⟩

theorem Cell.Shows.absorb {c : Cell} {post : Post} {e : PostEvent} (h : c.Shows post) (he : e.kind ≠ .updated) :
    (c.absorb e).Shows post := by
  obtain ⟨row, gone⟩ := c
  rcases h with ⟨row', hrow, hsame⟩ | h
  · obtain rfl : row = some row' := hrow
    cases e with
    | created other => exact .inl ⟨row', by rw [absorb_created_row], hsame⟩
    | updated other => exact absurd rfl he
    | deleted id => exact .inr rfl
  · rw [h]
    cases e with
    | created other => exact .inr rfl
    | updated other => exact absurd rfl he
    | deleted id => exact .inr rfl

theorem Cell.Shows.absorb_eq {c : Cell} {post : Post} (h : c.Shows post) : c.absorb (.updated post) = c := by
  obtain ⟨row, gone⟩ := c
  rcases h with ⟨row', hrow, hsame⟩ | h
  · obtain rfl : row = some row' := hrow
    rw [absorb_updated, Option.map_some, hsame]
  · rw [h]
    rfl

/-- An update of a post that has a row is absorbed again until the next update. -/
theorem absorb_absorbAll_of_last {r : Replica} {post row : Post} (hrow : r.rows.get? post.id.text = some row)
    {es : List PostEvent} (hes : ∀ e ∈ es, e.kind ≠ .updated) :
    ((r.absorb (.updated post)).absorbAll es).absorb (.updated post) = (r.absorb (.updated post)).absorbAll es := by
  have hshows : ((r.absorb (.updated post)).cell post.id.text).Shows post := by
    have hkey : post.id.text = (PostEvent.updated post).postId.text := rfl
    rw [cell_absorb, if_pos hkey]
    refine .inl ⟨updated row post, ?_, rfl⟩
    show (r.rows.get? post.id.text).map _ = _
    rw [hrow]
    rfl
  have hall : ∀ (s : Replica) (es : List PostEvent), (∀ e ∈ es, e.kind ≠ .updated) →
      (s.cell post.id.text).Shows post → ((s.absorbAll es).cell post.id.text).Shows post := by
    intro s es
    induction es generalizing s with
    | nil => exact fun _ h => h
    | cons e es ih =>
      intro hes h
      refine ih _ (fun e he => hes e (List.mem_cons_of_mem _ he)) ?_
      rw [cell_absorb]
      split
      · exact h.absorb (hes e List.mem_cons_self)
      · exact h
  rw [absorb_eq_self_iff]
  exact (hall _ es hes hshows).absorb_eq

/-- The rows before the last event. -/
theorem Told.before {e : PostEvent} (h : Told (es ++ [e]) commits rows) :
    ∃ commits' rows', Told es commits' rows' ∧ Written rows' e rows := by
  generalize hes : es ++ [e] = es' at h
  cases h with
  | nil => simp at hes
  | @snoc es₀ commits₀ rows₀ _ e₀ h hw _ =>
    obtain ⟨rfl, he⟩ := List.append_inj' hes rfl
    obtain rfl := List.singleton_inj.1 he
    exact ⟨commits₀, rows₀, h, hw⟩

/-- An update that was told found a row at a replica that absorbed what was told before. -/
theorem Told.row_of_update (h : Told es commits rows) {j : Nat} {post : Post} (hj : es[j]? = some (.updated post)) :
    ∃ row, (empty.absorbAll (es.take j)).rows.get? post.id.text = some row := by
  have hlt : j < es.length := (List.getElem?_eq_some_iff.1 hj).1
  obtain ⟨rows', htake, -⟩ := h.take (Nat.succ_le_of_lt hlt)
  rw [List.take_add_one, hj, Option.toList_some] at htake
  obtain ⟨commits₀, rows₀, hbefore, hw⟩ := htake.before
  rw [hbefore.rows_absorbAll]
  cases hw with
  | @updated row _ hrow _ _ => exact ⟨row, hrow⟩

/-- Events that come again change nothing. -/
theorem Told.absorbAll_feed (h : Told es commits rows) {k : Nat} (hf : Feed (fun e => e.kind = .updated) es k fs) :
    empty.absorbAll fs = empty.absorbAll (es.take k) := by
  induction hf with
  | nil => rfl
  | @next k ys e hf he ih => rw [absorbAll_snoc, ih, List.take_add_one, he, Option.toList_some, absorbAll_snoc]
  | @again j k ys e hf hj he hlast ih =>
    have hget : (es.take k)[j]? = some e := by rw [List.getElem?_take_of_lt hj, he]
    rw [absorbAll_snoc, ih]
    cases e with
    | created post => exact absorb_absorbAll_of_mem (by simp [PostEvent.kind]) (List.mem_of_getElem? hget) _
    | deleted id => exact absorb_absorbAll_of_mem (by simp [PostEvent.kind]) (List.mem_of_getElem? hget) _
    | updated post =>
      obtain ⟨row, hrow⟩ := h.row_of_update he
      obtain ⟨hlt, hget'⟩ := List.getElem?_eq_some_iff.1 hget
      have hsplit : es.take k = es.take j ++ .updated post :: (es.take k).drop (j + 1) := by
        rw [← hget', ← List.drop_eq_getElem_cons hlt]
        have hmin : es.take j = (es.take k).take j := by rw [List.take_take, Nat.min_eq_left (Nat.le_of_lt hj)]
        rw [hmin, List.take_append_drop]
      rw [hsplit, absorbAll_append, absorbAll_cons]
      refine absorb_absorbAll_of_last hrow fun f hf' => ?_
      obtain ⟨i, hi⟩ := List.mem_iff_getElem?.1 hf'
      rw [List.getElem?_drop, List.getElem?_take] at hi
      split at hi
      · rename_i hik
        exact hlast rfl (j + 1 + i) f (by omega) hik hi
      · cases hi

end Forum.Memory.Replica
