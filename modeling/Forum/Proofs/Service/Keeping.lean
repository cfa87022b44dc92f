import Forum.Proofs.Memory.Listing
import Forum.Proofs.Service.Deeds

/-!
# Rows are kept under their identifiers

A table keeps its rows, and the rows that transactions have staged, under their identifiers (`Table.KeptBy`). Every deed
keeps that (`Table.KeptBy.deed`), so whatever several parties do to a repository, from no rows on, each of them sees
rows that are kept so (`Posts.keptBy_view`, `Comments.keptBy_view`).
-/

namespace Forum.Memory

open Sharing

variable {κ ν : Type} {id : ν → String}

namespace Table

/-- The rows of a table, and those that transactions have staged, are kept under their identifiers. -/
structure KeptBy (id : ν → String) (t : Table ν) : Prop where
  rows : t.rows.KeptBy id
  staged : ∀ {tx : Handle} {ws : List (Rows.Write ν)}, t.staged[tx]? = some (some ws) → ∀ w ∈ ws, w.Proper id

theorem keptBy_empty : (empty : Table ν).KeptBy id where
  rows := Rows.keptBy_empty
  staged h := nomatch h

section

variable {t : Table ν} {party : Option Handle} {rows : Rows ν} {tx : Handle}

/-- Whoever sees rows sees them kept under their identifiers. -/
theorem KeptBy.view (h : t.KeptBy id) (hview : t.view party = .ok rows) : rows.KeptBy id := by
  cases party with
  | none =>
    obtain rfl := Except.ok.inj hview
    exact h.rows
  | some tx =>
    rw [view_some] at hview
    rcases hs : t.stagedBy tx with e | ws
    · rw [hs] at hview
      cases hview
    · rw [hs] at hview
      obtain rfl := Except.ok.inj hview
      exact h.rows.writeAll (h.staged (stagedBy_eq_ok hs))

theorem KeptBy.settled (h : t.KeptBy id) (hrows : rows.KeptBy id) {v : Option (List (Rows.Write ν))}
    (hv : ∀ ws, v = some ws → ∀ w ∈ ws, w.Proper id) : (t.settled rows tx v).KeptBy id where
  rows := hrows
  staged {tx' ws} hws := by
    rw [Table.settled] at hws
    rw [List.getElem?_set] at hws
    split at hws
    · split at hws
      · exact hv ws (Option.some.inj hws)
      · cases hws
    · exact h.staged hws

theorem KeptBy.begin (h : t.KeptBy id) : t.begin.2.KeptBy id where
  rows := h.rows
  staged {tx ws} hws := by
    rw [Table.begin] at hws
    rcases List.mem_append.1 (List.mem_of_getElem? hws) with hmem | hmem
    · obtain ⟨i, hi⟩ := List.getElem?_of_mem hmem
      exact h.staged hi
    · obtain rfl := Option.some.inj (List.mem_singleton.1 hmem)
      exact fun w hw => absurd hw List.not_mem_nil

end

variable {effect : κ → Answer → Option (Effect ν)} {may : Effect ν → Option ν → Prop} {m : Shared (Table ν)}
  (hproper : ∀ c answer f, effect c answer = some f → f.write.Proper id)

include hproper

/-- Every deed keeps the rows under their identifiers. -/
theorem KeptBy.deed (h : m.state.KeptBy id) {d : Deed κ} {result : Told × Shared (Table ν)}
    (hresult : DeedResult effect may m d result) : result.2.state.KeptBy id := by
  cases hresult with
  | refused _ => exact h
  | looked _ => exact h
  | begun => exact h.begin
  | made hsome _ => exact ⟨h.rows.write (hproper _ _ _ hsome), h.staged⟩
  | staged _ hws hsome _ =>
    refine h.settled h.rows ?_
    rintro _ ⟨⟩ w hw
    rcases List.mem_append.1 hw with hw | hw
    · exact h.staged hws w hw
    · rw [List.mem_singleton.1 hw]
      exact hproper _ _ _ hsome
  | committed _ hws => exact h.settled (h.rows.writeAll (h.staged hws)) nofun
  | rolledBack _ _ => exact h.settled h.rows nofun
  | barred => exact ⟨h.rows, h.staged⟩

theorem keptBy_after {faults : Faults} {run : κ → Option Handle → Action (Table ν) Answer}
    (hrun : ∀ c party t, CallResult effect may c party t (run c party t)) (ds : List (Deed κ)) :
    ∀ {m : Shared (Table ν)}, m.state.KeptBy id → (after (repository faults run) ds m).state.KeptBy id := by
  induction ds with
  | nil => exact fun h => h
  | cons d ds ih => exact fun h => ih (h.deed hproper (deed_result hrun _ d))

end Table

/-! ## Posts and comments -/

theorem Posts.proper {c : PostCall} {answer : Answer} {f : Effect Post} (h : c.effect answer = some f) :
    f.write.Proper Post.place.id := by
  unfold PostCall.effect at h
  split at h
  · obtain rfl := Option.some.inj h
    exact Rows.Write.proper_some rfl
  · obtain rfl := Option.some.inj h
    exact Rows.Write.proper_some rfl
  · obtain rfl := Option.some.inj h
    exact Rows.Write.proper_none _
  · cases h

theorem Comments.proper {c : CommentCall} {answer : Answer} {f : Effect Comment} (h : c.effect answer = some f) :
    f.write.Proper Comment.place.id := by
  unfold CommentCall.effect at h
  split at h
  · obtain rfl := Option.some.inj h
    exact Rows.Write.proper_some rfl
  · obtain rfl := Option.some.inj h
    exact Rows.Write.proper_some rfl
  · obtain rfl := Option.some.inj h
    exact Rows.Write.proper_none _
  · cases h

/-- A store of posts that several parties have used, beginning without posts. -/
def Posts.used (ds : List (Deed PostCall)) : Posts := (after repository ds (.new .empty)).state

/-- A database of comments that several parties have used, beginning without comments. -/
def Comments.used (replica : Replica) (ds : List (Deed CommentCall)) : Comments :=
  (after repository ds (.new ⟨.empty, replica⟩)).state

theorem Comments.used_replica (replica : Replica) (ds : List (Deed CommentCall)) : (used replica ds).replica = replica :=
  repository_wraps.rest_after ds (.new ⟨.empty, replica⟩)

/-- Whatever was done, whoever sees posts sees them kept under their identifiers. -/
theorem Posts.keptBy_view {ds : List (Deed PostCall)} {party : Option Handle} {rows : Rows Post}
    (h : (used ds).table.view party = .ok rows) : rows.KeptBy Post.place.id := by
  have hafter := (repository_wraps.run_eq ds (.new .empty)).2
  have hkept : ((after repository ds (.new .empty)).on table).state.KeptBy Post.place.id := by
    rw [hafter]
    exact Table.keptBy_after (fun _ _ _ => proper) call_result ds Table.keptBy_empty
  exact Table.KeptBy.view hkept h

/-- Whatever was done, whoever sees comments sees them kept under their identifiers. -/
theorem Comments.keptBy_view {replica : Replica} {ds : List (Deed CommentCall)} {party : Option Handle}
    {rows : Rows Comment} (h : (used replica ds).table.view party = .ok rows) : rows.KeptBy Comment.place.id := by
  have hafter := (repository_wraps.run_eq ds (.new ⟨.empty, replica⟩)).2
  have hkept : ((after repository ds (.new ⟨.empty, replica⟩)).on table).state.KeptBy Comment.place.id := by
    rw [hafter]
    exact Table.keptBy_after (fun _ _ _ => proper) (call_result replica) ds Table.keptBy_empty
  exact Table.KeptBy.view hkept h

end Forum.Memory
