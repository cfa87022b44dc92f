import Forum.Proofs.Database.Sql
import Forum.Proofs.Memory.Listing

/-!
# Tables of keyed rows

A table has the rows of a collection as records (comments as `commentRecord`), in any order. Where the rows are kept
under their identifiers, at most one record meets a condition on the identifier (`filter_records`), and to change the
records that meet it is to change the row of that identifier, if there is one (`map_records`).
-/

namespace Forum.Database

/-- The record of a comment. -/
def commentRecord (c : Comment) : Sql.Record :=
  [("id", .text c.id.text), ("description", .text c.description), ("post_id", .text c.post.text),
    ("user_id", .text c.user.text), ("date_created", .time c.created), ("date_updated", .time c.updated)]

namespace Sql

open Memory

theorem perm_toList {α : Type} {l : List α} {o : Option α} (h : l.Perm o.toList) : l = o.toList := by
  cases o with
  | none => exact h.eq_nil
  | some a => exact List.perm_singleton.1 h

theorem holds_text {column : String} {r : Record} {s : String} (h : r.lookup column = some (.text s)) (t : String) :
    Condition.holds ⟨column, 1⟩ [.text t] r = decide (s = t) := by
  unfold Condition.holds
  rw [h]
  show decide (Value.text s = Value.text t) = _
  simp

variable {ν : Type} {id : ν → String} {record : ν → Record} {rows : Rows ν} {records : List Record}
  {meets : Record → Bool} {key : String}

theorem filter_values (hkept : rows.KeptBy id) (key : String) :
    rows.values.filter (fun row => id row = key) = (rows.get? key).toList := by
  have hsame : rows.entries.filter (fun e => id e.2 = key) = rows.entries.filter fun e => e.1 = key :=
    List.filter_congr fun e he => by rw [hkept.of_mem he]
  have hmap := congrArg (List.map (·.2)) (hsame.trans (rows.filter_entries key))
  rw [Rows.values, List.filter_map]
  refine hmap.trans ?_
  cases rows.get? key <;> rfl

/-- The record of the identifier, if there is a row of it. -/
theorem filter_records (hkept : rows.KeptBy id) (hperm : records.Perm (rows.values.map record))
    (hmeets : ∀ row, meets (record row) = decide (id row = key)) :
    records.filter meets = (rows.get? key).toList.map record := by
  have hfilter := hperm.filter meets
  have hsame : meets ∘ record = fun row => decide (id row = key) := funext hmeets
  rw [List.filter_map, hsame, filter_values hkept, ← Option.toList_map] at hfilter
  rw [perm_toList hfilter, Option.toList_map]

theorem countP_records (hkept : rows.KeptBy id) (hperm : records.Perm (rows.values.map record))
    (hmeets : ∀ row, meets (record row) = decide (id row = key)) :
    records.countP meets = if rows.contains key then 1 else 0 := by
  rw [List.countP_eq_length_filter, filter_records hkept hperm hmeets, Rows.contains]
  cases rows.get? key <;> rfl

/-- The rows after the row of a key was edited, if there is one. -/
def edited (rows : Rows ν) (key : String) (edit : ν → ν) : Rows ν :=
  match rows.get? key with
  | none => rows
  | some old => rows.insert key (edit old)

theorem values_edited (hkept : rows.KeptBy id) (key : String) (edit : ν → ν) :
    (edited rows key edit).values = rows.values.map fun row => if id row = key then edit row else row := by
  unfold edited
  cases hrow : rows.get? key with
  | none =>
    refine ((List.map_congr_left fun row hmem => if_neg fun hid => ?_).trans (List.map_id' _)).symm
    have hfound : row ∈ rows.values.filter fun row => id row = key := List.mem_filter.2 ⟨hmem, by simpa using hid⟩
    rw [filter_values hkept, hrow] at hfound
    cases hfound
  | some old =>
    show ((rows.insert key (edit old)).entries.map (·.2)) = _
    rw [Rows.entries_insert_of_some hrow, Rows.values, List.map_map, List.map_map]
    refine List.map_congr_left fun e he => ?_
    simp only [Function.comp, hkept.of_mem he]
    by_cases hkey : e.1 = key
    · have hold : old = e.2 := Option.some.inj (hrow.symm.trans (hkey ▸ Rows.lookup_of_mem rows.ascending he))
      rw [if_pos hkey, if_pos hkey, hold]
    · rw [if_neg hkey, if_neg hkey]

/-- The records that meet a condition on the identifier are changed as the row of that identifier is edited. -/
theorem map_records (hkept : rows.KeptBy id) (hperm : records.Perm (rows.values.map record))
    (hmeets : ∀ row, meets (record row) = decide (id row = key)) {change : Record → Record} {edit : ν → ν}
    (hchange : ∀ row, change (record row) = record (edit row)) :
    (records.map fun r => if meets r then change r else r).Perm ((edited rows key edit).values.map record) := by
  refine (hperm.map _).trans (.of_eq ?_)
  rw [values_edited hkept, List.map_map, List.map_map]
  refine List.map_congr_left fun row _ => ?_
  simp only [Function.comp, hmeets, decide_eq_true_eq]
  split
  · exact hchange row
  · rfl

end Sql

end Forum.Database
