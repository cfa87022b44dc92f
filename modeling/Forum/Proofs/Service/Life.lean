import Mathlib.Data.List.Induction
import Mathlib.Tactic.Common
import Forum.Call
import Forum.Memory.Rows

/-!
# The lives of records

Records are created, changed and removed by writes that are committed. The milestones of all records, in their order, are
annals. Rows that come about by them (`Makes`) hold of each record what its own milestones say: who it is, as it was
created, and when it was changed last (`Makes.origin`). As long as a record is neither removed nor created anew, it is
there and stays who it is (`Makes.endures`). What a sound creation and sound changes make is sound (`Makes.sound_after`).
-/

namespace Forum

open Calendar Memory

/-- What a write that is committed does to a record. -/
inductive Milestone (ρ : Type) where
  /-- The record is there, in its first form. -/
  | created (first : ρ)
  | changed (now : Instant)
  | removed
deriving DecidableEq

/-- The milestones of all records by the texts of their keys, first first. -/
abbrev Annals (ρ : Type) := List (String × Milestone ρ)

/-- The milestones of one record. -/
def Annals.life {ρ : Type} (key : String) (ms : Annals ρ) : List (Milestone ρ) :=
  (ms.filter fun m => m.1 = key).map (·.2)

/-- What never changes of a record, and when it was changed last. -/
structure Traits (ρ ι : Type) where
  identity : ρ → ι
  updated : ρ → Instant

def Post.traits : Traits Post (PostId × UserId × Instant) := ⟨fun p => (p.id, p.user, p.created), Post.updated⟩

def Comment.traits : Traits Comment (CommentId × PostId × UserId × Instant) :=
  ⟨fun c => (c.id, c.post, c.user, c.created), Comment.updated⟩

namespace Annals

variable {ρ : Type}

theorem life_cons_self (key : String) (m : Milestone ρ) (ms : Annals ρ) :
    life key ((key, m) :: ms) = m :: life key ms := by
  simp [life]

theorem life_cons_of_ne {key : String} {m : String × Milestone ρ} (h : m.1 ≠ key) (ms : Annals ρ) :
    life key (m :: ms) = life key ms := by
  simp [life, h]

theorem mem_of_mem_life {key : String} {m : Milestone ρ} {ms : Annals ρ} (h : m ∈ life key ms) : (key, m) ∈ ms := by
  obtain ⟨⟨k, m'⟩, hmem, rfl⟩ := List.mem_map.1 h
  obtain ⟨hms, hk⟩ := List.mem_filter.1 hmem
  obtain rfl : k = key := of_decide_eq_true hk
  exact hms

theorem life_append (key : String) (ms ns : Annals ρ) : life key (ms ++ ns) = life key ms ++ life key ns := by
  simp [life]

end Annals

/-! ## What a life leaves -/

namespace Traits

variable {ρ ι : Type} (t : Traits ρ ι)

/-- What milestones tell of a record. -/
def view (r : ρ) : ι × Instant := (t.identity r, t.updated r)

/-- What there is of a record after a milestone. -/
def after (before : Option (ι × Instant)) : Milestone ρ → Option (ι × Instant)
  | .created first => some (t.view first)
  | .changed now => before.map fun v => (v.1, now)
  | .removed => none

/-- Changes leave who the record is, and the time of the last of them. -/
theorem foldl_changed (i : ι) (u : Instant) (times : List Instant) :
    (times.map Milestone.changed).foldl t.after (some (i, u)) = some (i, times.getLastD u) := by
  induction times generalizing u with
  | nil => rfl
  | cons now times ih =>
    rw [List.map_cons, List.foldl_cons, List.getLastD_cons]
    exact ih now

/-- A record that is there was created, and has only been changed since. -/
theorem eq_of_foldl {life : List (Milestone ρ)} {v : ι × Instant} (h : life.foldl t.after none = some v) :
    ∃ before first, ∃ times : List Instant, life = before ++ .created first :: times.map .changed ∧
      v.1 = t.identity first ∧ v.2 = times.getLastD (t.updated first) := by
  induction life using List.reverseRecOn generalizing v with
  | nil => nomatch h
  | append_singleton life m ih =>
    rw [List.foldl_append] at h
    cases m with
    | created first => exact ⟨life, first, [], rfl, congrArg Prod.fst (Option.some.inj h).symm,
        congrArg Prod.snd (Option.some.inj h).symm⟩
    | changed now =>
      obtain ⟨u, hu, rfl⟩ := Option.map_eq_some_iff.1 h
      obtain ⟨before, first, times, rfl, hid, -⟩ := ih hu
      refine ⟨before, first, times ++ [now], ?_, hid, ?_⟩
      · simp
      · simp
    | removed => nomatch h

end Traits

/-! ## Rows and their annals -/

section

variable {ρ ι : Type} (t : Traits ρ ι) (sound : String → ρ → Prop) (free : Option ρ → Prop)

/-- What a milestone makes of the rows. A creation is sound, and there is before it what there may be; a change keeps who
the record is and that it is sound. -/
inductive Made (rows : Rows ρ) : String × Milestone ρ → Rows ρ → Prop
  | created {key : String} {first : ρ} (hfree : free (rows.get? key)) (hsound : sound key first) :
    Made rows (key, .created first) (rows.insert key first)
  | changed {key : String} {now : Instant} {old new : ρ} (hold : rows.get? key = some old)
      (hidentity : t.identity new = t.identity old) (hupdated : t.updated new = now)
      (hsound : sound key old → sound key new) :
    Made rows (key, .changed now) (rows.insert key new)
  | removed {key : String} {old : ρ} (hold : rows.get? key = some old) : Made rows (key, .removed) (rows.erase key)

/-- What annals make of the rows. -/
inductive Makes : Rows ρ → Annals ρ → Rows ρ → Prop
  | nil {rows : Rows ρ} : Makes rows [] rows
  | cons {rows rows' rows'' : Rows ρ} {m : String × Milestone ρ} {ms : Annals ρ} (h : Made t sound free rows m rows')
      (hs : Makes rows' ms rows'') :
    Makes rows (m :: ms) rows''

variable {t sound free} {rows rows' rows'' : Rows ρ} {m : String × Milestone ρ} {ms ns : Annals ρ}

theorem Makes.of_eq (h : rows' = rows) : Makes t sound free rows [] rows' := h ▸ .nil

theorem Makes.append (h : Makes t sound free rows ms rows') (h' : Makes t sound free rows' ns rows'') :
    Makes t sound free rows (ms ++ ns) rows'' := by
  induction h with
  | nil => exact h'
  | cons hm _ ih => exact .cons hm (ih h')

/-! ## Sound records -/

theorem Made.sound_after (h : Made t sound free rows m rows') (hrows : ∀ k r, rows.get? k = some r → sound k r) :
    ∀ k r, rows'.get? k = some r → sound k r := by
  have hinsert {key : String} {new : ρ} (hnew : sound key new) : ∀ k r, (rows.insert key new).get? k = some r →
      sound k r := by
    intro k r hget
    rw [Rows.get?_insert] at hget
    split at hget
    · rename_i hk
      obtain rfl := Option.some.inj hget
      exact hk ▸ hnew
    · exact hrows k r hget
  cases h with
  | created _ hsound => exact hinsert hsound
  | changed hold _ _ hsound => exact hinsert (hsound (hrows _ _ hold))
  | removed _ =>
    intro k r hget
    rw [Rows.get?_erase] at hget
    split at hget
    · nomatch hget
    · exact hrows k r hget

theorem Makes.sound_after (h : Makes t sound free rows ms rows') (hrows : ∀ k r, rows.get? k = some r → sound k r) :
    ∀ k r, rows'.get? k = some r → sound k r := by
  induction h with
  | nil => exact hrows
  | cons hm _ ih => exact ih (hm.sound_after hrows)

/-! ## Who a record is -/

/-- A milestone of another record leaves a record, and one of its own leaves what it says. -/
theorem Made.view (h : Made t sound free rows m rows') (key : String) :
    (rows'.get? key).map t.view = (Annals.life key [m]).foldl t.after ((rows.get? key).map t.view) := by
  obtain ⟨k, m⟩ := m
  by_cases hk : k = key
  · subst hk
    rw [Annals.life_cons_self]
    cases h with
    | created _ _ =>
      rw [Rows.get?_insert, if_pos rfl]
      rfl
    | changed hold hidentity hupdated _ =>
      rw [Rows.get?_insert, if_pos rfl, hold]
      simp [Annals.life, Traits.after, Traits.view, hidentity, hupdated]
    | removed _ =>
      rw [Rows.get?_erase, if_pos rfl]
      rfl
  · rw [Annals.life_cons_of_ne hk]
    cases h with
    | created _ _ | changed _ _ _ _ =>
      rw [Rows.get?_insert, if_neg (Ne.symm hk)]
      rfl
    | removed _ =>
      rw [Rows.get?_erase, if_neg (Ne.symm hk)]
      rfl

/-- What is told of a record is what its life makes of what was told before. -/
theorem Makes.view (h : Makes t sound free rows ms rows') (key : String) :
    (rows'.get? key).map t.view = (Annals.life key ms).foldl t.after ((rows.get? key).map t.view) := by
  induction h with
  | nil => rfl
  | @cons _ _ _ m ms hm _ ih =>
    have hsplit : Annals.life key (m :: ms) = Annals.life key [m] ++ Annals.life key ms :=
      Annals.life_append key [m] ms
    rw [ih, hm.view, hsplit, List.foldl_append]

/-- A record that came about by annals was created and has only been changed since: it is who it was then, and it was
changed last when the last change says. -/
theorem Makes.origin (h : Makes t sound free .empty ms rows) {key : String} {r : ρ} (hr : rows.get? key = some r) :
    ∃ before first, ∃ times : List Instant, Annals.life key ms = before ++ .created first :: times.map .changed ∧
      (key, .created first) ∈ ms ∧ t.identity r = t.identity first ∧
      t.updated r = times.getLastD (t.updated first) := by
  have hview := h.view key
  rw [hr] at hview
  obtain ⟨before, first, times, hlife, hidentity, hupdated⟩ := t.eq_of_foldl hview.symm
  have hmem : .created first ∈ Annals.life key ms := by
    rw [hlife]
    exact List.mem_append_right _ List.mem_cons_self
  exact ⟨before, first, times, hlife, Annals.mem_of_mem_life hmem, hidentity, hupdated⟩

/-! ## Nothing but changes -/

/-- A life without a creation and a removal is one of changes. -/
theorem Milestone.eq_map_changed {life : List (Milestone ρ)} (hcreated : ∀ first, .created first ∉ life)
    (hremoved : .removed ∉ life) : ∃ times : List Instant, life = times.map .changed := by
  induction life with
  | nil => exact ⟨[], rfl⟩
  | cons m life ih =>
    obtain ⟨times, rfl⟩ := ih (fun first h => hcreated first (List.mem_cons_of_mem _ h))
      fun h => hremoved (List.mem_cons_of_mem _ h)
    cases m with
    | created first => exact absurd List.mem_cons_self (hcreated first)
    | changed now => exact ⟨now :: times, rfl⟩
    | removed => exact absurd List.mem_cons_self hremoved

/-- As long as it is neither created anew nor removed, a record is there and stays who it is. -/
theorem Makes.endures (h : Makes t sound free rows ms rows') {key : String} {r : ρ} (hr : rows.get? key = some r)
    (hcreated : ∀ first, .created first ∉ Annals.life key ms) (hremoved : .removed ∉ Annals.life key ms) :
    ∃ times : List Instant, ∃ r', Annals.life key ms = times.map .changed ∧ rows'.get? key = some r' ∧
      t.identity r' = t.identity r ∧ t.updated r' = times.getLastD (t.updated r) := by
  obtain ⟨times, hlife⟩ := Milestone.eq_map_changed hcreated hremoved
  have hview := h.view key
  rw [hr, hlife, Option.map_some, Traits.view, t.foldl_changed] at hview
  obtain ⟨r', hr', hv⟩ := Option.map_eq_some_iff.1 hview
  exact ⟨times, r', hlife, hr', congrArg Prod.fst hv, congrArg Prod.snd hv⟩

/-- Where a record is only created if there is none, one that is there is not created until it is removed. -/
theorem Makes.not_created (h : Makes t sound (· = none) rows ms rows') {key : String} {r : ρ}
    (hr : rows.get? key = some r) (hremoved : .removed ∉ Annals.life key ms) (first : ρ) :
    .created first ∉ Annals.life key ms := by
  induction h generalizing r with
  | nil => exact List.not_mem_nil
  | @cons rows _ _ m ms hm _ ih =>
    obtain ⟨k, m⟩ := m
    by_cases hk : k = key
    · subst hk
      rw [Annals.life_cons_self] at hremoved ⊢
      have hrest : .removed ∉ Annals.life k ms := fun h => hremoved (List.mem_cons_of_mem _ h)
      cases hm with
      | created hfree _ =>
        have hnone : rows.get? k = none := hfree
        nomatch hr.symm.trans hnone
      | removed _ => exact absurd List.mem_cons_self hremoved
      | changed _ _ _ _ =>
        have hnew := ih (Rows.get?_insert _ _ _ _ |>.trans (if_pos rfl)) hrest
        intro hmem
        rcases List.mem_cons.1 hmem with h | h
        · nomatch h
        · exact hnew h
    · rw [Annals.life_cons_of_ne hk] at hremoved ⊢
      refine ih (r := r) ?_ hremoved
      cases hm with
      | created _ _ | changed _ _ _ _ => rw [Rows.get?_insert, if_neg (Ne.symm hk), hr]
      | removed _ => rw [Rows.get?_erase, if_neg (Ne.symm hk), hr]

end

end Forum
