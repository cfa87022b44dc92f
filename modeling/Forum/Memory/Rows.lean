/-!
# Rows

Rows with a text as their key, in the order of the keys and each key once. `get?` is the view: two collections of rows
are equal when they answer every key alike (`Rows.ext_get?`).
-/

namespace Forum.Memory

/-- Entries with ascending keys. -/
structure Rows (ν : Type) where
  entries : List (String × ν)
  ascending : entries.Pairwise fun a b => a.1 < b.1

namespace Rows

variable {ν : Type}

deriving instance DecidableEq for Rows

/-- No rows. -/
def empty : Rows ν := ⟨[], .nil⟩

instance : Inhabited (Rows ν) := ⟨empty⟩

/-- The row of a key. -/
def get? (r : Rows ν) (key : String) : Option ν := r.entries.lookup key

/-- There is a row of the key. -/
def contains (r : Rows ν) (key : String) : Bool := (r.get? key).isSome

/-- The rows in the order of their keys. -/
def values (r : Rows ν) : List ν := r.entries.map (·.2)

/-! ## Writing -/

/-- Entries with one more, in its place. -/
def insertEntry (key : String) (row : ν) : List (String × ν) → List (String × ν)
  | [] => [(key, row)]
  | e :: es =>
    if key < e.1 then (key, row) :: e :: es
    else if key = e.1 then (key, row) :: es
    else e :: insertEntry key row es

theorem insertEntry_mem {key : String} {row : ν} {es : List (String × ν)} {e : String × ν}
    (h : e ∈ insertEntry key row es) : e = (key, row) ∨ e ∈ es := by
  induction es with
  | nil => simpa [insertEntry] using h
  | cons d ds ih =>
    simp only [insertEntry] at h
    split at h
    · simpa using h
    · split at h
      · rcases List.mem_cons.1 h with h | h
        · exact .inl h
        · exact .inr (List.mem_cons_of_mem _ h)
      · rcases List.mem_cons.1 h with h | h
        · exact .inr (h ▸ List.mem_cons_self)
        · exact (ih h).imp_right (List.mem_cons_of_mem _)

theorem insertEntry_ascending (key : String) (row : ν) {es : List (String × ν)}
    (h : es.Pairwise fun a b => a.1 < b.1) :
    (insertEntry key row es).Pairwise fun a b => a.1 < b.1 := by
  induction es with
  | nil => exact List.pairwise_singleton _ _
  | cons e es ih =>
    obtain ⟨he, hes⟩ := List.pairwise_cons.1 h
    simp only [insertEntry]
    split
    · rename_i hlt
      refine List.pairwise_cons.2 ⟨fun d hd => ?_, h⟩
      rcases List.mem_cons.1 hd with rfl | hd
      · exact hlt
      · exact String.lt_trans hlt (he d hd)
    · split
      · rename_i heq
        refine List.pairwise_cons.2 ⟨fun d hd => ?_, hes⟩
        exact heq ▸ he d hd
      · rename_i hlt hne
        refine List.pairwise_cons.2 ⟨fun d hd => ?_, ih hes⟩
        rcases insertEntry_mem hd with rfl | hd
        · exact Classical.byContradiction fun hn =>
            hne (String.le_antisymm (String.not_lt.1 hn) (String.not_lt.1 hlt))
        · exact he d hd

/-- The rows with a row for a key, in the place of the one that it had. -/
def insert (r : Rows ν) (key : String) (row : ν) : Rows ν :=
  ⟨insertEntry key row r.entries, insertEntry_ascending key row r.ascending⟩

/-- The rows without that of a key. -/
def erase (r : Rows ν) (key : String) : Rows ν :=
  ⟨r.entries.filter (·.1 != key), r.ascending.filter _⟩

/-- A write: the row that a key gets, or none where its row goes. -/
abbrev Write (ν : Type) := String × Option ν

/-- The rows after a write. -/
def write (r : Rows ν) : Write ν → Rows ν
  | (key, some row) => r.insert key row
  | (key, none) => r.erase key

/-- The rows after writes, one after the other. -/
def writeAll (r : Rows ν) (ws : List (Write ν)) : Rows ν := ws.foldl write r

/-! ## What a write does to the view -/

theorem lookup_entry (k : String) (e : String × ν) (es : List (String × ν)) :
    (e :: es).lookup k = if k = e.1 then some e.2 else es.lookup k := by
  obtain ⟨key, row⟩ := e
  by_cases h : k = key
  · simp [h]
  · simp [List.lookup_cons, h, beq_false_of_ne h]

theorem lookup_insertEntry (key : String) (row : ν) (es : List (String × ν)) (k : String) :
    (insertEntry key row es).lookup k = if k = key then some row else es.lookup k := by
  induction es with
  | nil => simp [insertEntry, lookup_entry]
  | cons e es ih =>
    simp only [insertEntry]
    split
    · simp [lookup_entry]
    · split
      · rename_i heq
        subst heq
        simp only [lookup_entry]
        split <;> simp_all
      · rename_i hne
        simp only [lookup_entry, ih]
        split <;> split <;> simp_all

theorem lookup_filter_ne (key : String) (es : List (String × ν)) (k : String) :
    (es.filter (·.1 != key)).lookup k = if k = key then none else es.lookup k := by
  induction es with
  | nil => simp
  | cons e es ih =>
    by_cases he : e.1 = key
    · rw [List.filter_cons_of_neg (by simp [he]), ih, lookup_entry]
      split <;> simp_all
    · rw [List.filter_cons_of_pos (by simp [he]), lookup_entry, lookup_entry, ih]
      split <;> simp_all

@[simp] theorem get?_empty (k : String) : (empty : Rows ν).get? k = none := rfl

@[simp] theorem get?_insert (r : Rows ν) (key : String) (row : ν) (k : String) :
    (r.insert key row).get? k = if k = key then some row else r.get? k :=
  lookup_insertEntry key row r.entries k

@[simp] theorem get?_erase (r : Rows ν) (key k : String) :
    (r.erase key).get? k = if k = key then none else r.get? k :=
  lookup_filter_ne key r.entries k

/-! ## Equality -/

theorem mem_of_lookup {es : List (String × ν)} {k : String} {v : ν} (h : es.lookup k = some v) : (k, v) ∈ es := by
  induction es with
  | nil => simp at h
  | cons e es ih =>
    rw [lookup_entry] at h
    split at h
    · rename_i hk
      obtain rfl := Option.some.inj h
      exact hk ▸ List.mem_cons_self
    · exact List.mem_cons_of_mem _ (ih h)

theorem lookup_of_mem {es : List (String × ν)} (h : es.Pairwise fun a b => a.1 < b.1) {e : String × ν}
    (he : e ∈ es) : es.lookup e.1 = some e.2 := by
  induction es with
  | nil => cases he
  | cons d ds ih =>
    obtain ⟨hd, hds⟩ := List.pairwise_cons.1 h
    rw [lookup_entry]
    rcases List.mem_cons.1 he with rfl | he
    · simp
    · have hlt := hd e he
      rw [if_neg fun hk => String.lt_irrefl _ (hk ▸ hlt), ih hds he]

/-- Entries with ascending keys that answer every key alike are the same. -/
theorem eq_of_lookup_eq {es ds : List (String × ν)} (hes : es.Pairwise fun a b => a.1 < b.1)
    (hds : ds.Pairwise fun a b => a.1 < b.1) (h : ∀ k, es.lookup k = ds.lookup k) : es = ds := by
  induction es generalizing ds with
  | nil =>
    cases ds with
    | nil => rfl
    | cons d ds =>
      have := h d.1
      simp [lookup_entry] at this
  | cons e es ih =>
    cases ds with
    | nil =>
      have := h e.1
      simp [lookup_entry] at this
    | cons d ds =>
      obtain ⟨he, hes'⟩ := List.pairwise_cons.1 hes
      obtain ⟨hd, hds'⟩ := List.pairwise_cons.1 hds
      have hed : e = d := by
        have h1 := mem_of_lookup ((h e.1) ▸ lookup_of_mem hes List.mem_cons_self)
        have h2 := mem_of_lookup ((h d.1).symm ▸ lookup_of_mem hds List.mem_cons_self)
        rcases List.mem_cons.1 h1 with h1 | h1
        · exact h1
        · rcases List.mem_cons.1 h2 with h2 | h2
          · exact h2.symm
          · exact absurd (hd _ h1) (String.lt_asymm (he _ h2))
      subst hed
      congr 1
      refine ih hes' hds' fun k => ?_
      have hk := h k
      rw [lookup_entry, lookup_entry] at hk
      by_cases hke : k = e.1
      · subst hke
        have none_of {l : List (String × ν)} (hl : ∀ a ∈ l, e.1 < a.1) : l.lookup e.1 = none := by
          cases hv : l.lookup e.1 with
          | none => rfl
          | some v => exact absurd (hl _ (mem_of_lookup hv)) (String.lt_irrefl _)
        rw [none_of he, none_of hd]
      · simpa [hke] using hk

/-- Rows that answer every key alike are the same. -/
theorem ext_get? {r s : Rows ν} (h : ∀ k, r.get? k = s.get? k) : r = s := by
  obtain ⟨es, hes⟩ := r
  obtain ⟨ds, hds⟩ := s
  obtain rfl := eq_of_lookup_eq hes hds h
  rfl

/-- The last of two writes of one key counts. -/
theorem insert_insert (r : Rows ν) (key : String) (row row' : ν) :
    (r.insert key row).insert key row' = r.insert key row' := by
  refine ext_get? fun k => ?_
  simp only [get?_insert]
  split <;> rfl

/-- To write the row that is there changes nothing. -/
theorem insert_of_get? {r : Rows ν} {key : String} {row : ν} (h : r.get? key = some row) : r.insert key row = r := by
  refine ext_get? fun k => ?_
  rw [get?_insert]
  split
  · rename_i hk
    rw [hk, h]
  · rfl

end Rows

end Forum.Memory
