import Mathlib.Data.List.Induction
import Mathlib.Tactic.Common
import Forum.Memory.Rows

/-!
# Rows by their entries

A key has at most one entry (`Rows.filter_entries`). Where it has one, an insertion changes that and no other entry
(`Rows.entries_insert_of_some`); where it has none, an insertion adds one (`Rows.entries_insert_of_none`). Of many writes
of a key the last one counts (`Rows.get?_writeAll`).
-/

namespace Forum.Memory.Rows

variable {ν : Type} {r : Rows ν} {k : String}

/-! ## The entry of a key -/

theorem filter_lookup {es : List (String × ν)} (h : es.Pairwise fun a b => a.1 < b.1) (k : String) :
    es.filter (fun e => e.1 = k) = (es.lookup k).toList.map fun row => (k, row) := by
  induction es with
  | nil => rfl
  | cons e es ih =>
    obtain ⟨he, hes⟩ := List.pairwise_cons.1 h
    rw [lookup_entry]
    by_cases hk : k = e.1
    · subst hk
      have hnone : es.lookup e.1 = none := List.lookup_eq_none_iff.2 fun d hd =>
        bne_iff_ne.2 fun heq => String.lt_irrefl _ (heq ▸ he d hd)
      rw [List.filter_cons_of_pos (by simp), ih hes, hnone, if_pos rfl]
      rfl
    · rw [List.filter_cons_of_neg (by simpa using Ne.symm hk), ih hes, if_neg hk]

theorem filter_entries (r : Rows ν) (k : String) :
    r.entries.filter (fun e => e.1 = k) = (r.get? k).toList.map fun row => (k, row) :=
  filter_lookup r.ascending k

/-! ## What an insertion does to the entries -/

theorem map_insertEntry {es : List (String × ν)} (h : es.Pairwise fun a b => a.1 < b.1) {old : ν}
    (hk : es.lookup k = some old) (row : ν) :
    insertEntry k row es = es.map fun e => if e.1 = k then (k, row) else e := by
  induction es with
  | nil => nomatch hk
  | cons e es ih =>
    obtain ⟨he, hes⟩ := List.pairwise_cons.1 h
    rw [lookup_entry] at hk
    rw [insertEntry, List.map_cons]
    by_cases heq : k = e.1
    · subst heq
      have hrest : es.map (fun d => if d.1 = e.1 then (e.1, row) else d) = es := by
        refine (List.map_congr_left fun d hd => if_neg fun hde => ?_).trans (List.map_id' es)
        exact String.lt_irrefl _ (hde ▸ he d hd)
      rw [if_neg (String.lt_irrefl _), if_pos rfl, if_pos rfl, hrest]
    · rw [if_neg heq] at hk
      have hlt : ¬k < e.1 := fun hlt => String.lt_asymm hlt (he _ (mem_of_lookup hk))
      rw [if_neg hlt, if_neg heq, if_neg (Ne.symm heq), ih hes hk]

theorem entries_insert_of_some {old : ν} (h : r.get? k = some old) (row : ν) :
    (r.insert k row).entries = r.entries.map fun e => if e.1 = k then (k, row) else e :=
  map_insertEntry r.ascending h row

theorem perm_insertEntry {es : List (String × ν)} (h : es.lookup k = none) (row : ν) :
    (insertEntry k row es).Perm ((k, row) :: es) := by
  induction es with
  | nil => exact .refl _
  | cons e es ih =>
    rw [lookup_entry] at h
    rw [insertEntry]
    split
    · exact .refl _
    · by_cases heq : k = e.1
      · rw [if_pos heq] at h
        cases h
      · rw [if_neg heq] at h ⊢
        exact ((ih h).cons e).trans (.swap _ _ _)

theorem entries_insert_of_none (h : r.get? k = none) (row : ν) :
    (r.insert k row).entries.Perm ((k, row) :: r.entries) :=
  perm_insertEntry h row

/-! ## Many writes -/

/-- The last write of a key, if there is one. -/
def lastWrite (k : String) (ws : List (Write ν)) : Option (Option ν) := ws.reverse.lookup k

@[simp] theorem get?_write (r : Rows ν) (w : Write ν) (k : String) :
    (r.write w).get? k = if k = w.1 then w.2 else r.get? k := by
  obtain ⟨key, _ | row⟩ := w
  · exact get?_erase r key k
  · exact get?_insert r key row k

theorem writeAll_append (r : Rows ν) (ws us : List (Write ν)) : r.writeAll (ws ++ us) = (r.writeAll ws).writeAll us :=
  List.foldl_append

theorem get?_writeAll (r : Rows ν) (ws : List (Write ν)) (k : String) :
    (r.writeAll ws).get? k = (lastWrite k ws).getD (r.get? k) := by
  induction ws using List.reverseRecOn with
  | nil => rfl
  | append_singleton ws w ih =>
    rw [writeAll_append, lastWrite, List.reverse_append]
    show ((r.writeAll ws).write w).get? k = ((w :: ws.reverse).lookup k).getD (r.get? k)
    rw [get?_write, lookup_entry]
    split
    · rfl
    · exact ih

theorem lastWrite_append (k : String) (ws us : List (Write ν)) :
    lastWrite k (ws ++ us) = (lastWrite k us).or (lastWrite k ws) := by
  unfold lastWrite
  rw [List.reverse_append, List.lookup_append]

theorem mem_of_lastWrite {ws : List (Write ν)} {row? : Option ν} (h : lastWrite k ws = some row?) : (k, row?) ∈ ws :=
  List.mem_reverse.1 (mem_of_lookup h)

/-- A row that is seen through writes of one's own, found again when these are made after others. -/
theorem get?_writeAll_after (r : Rows ν) (k : String) (us vs ws : List (Write ν)) :
    (r.writeAll (us ++ vs ++ ws)).get? k = (lastWrite k (vs ++ ws)).getD (((r.writeAll us).writeAll ws).get? k) := by
  simp only [writeAll_append, get?_writeAll, lastWrite_append]
  cases lastWrite k ws <;> cases lastWrite k vs <;> rfl

end Forum.Memory.Rows
