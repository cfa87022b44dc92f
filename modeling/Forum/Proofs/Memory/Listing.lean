import Mathlib.Data.List.Nodup
import Mathlib.Tactic.Common
import Forum.Memory.Comments
import Forum.Memory.Posts
import Forum.Proofs.Calendar.Order
import Forum.Proofs.Memory.Rows

/-!
# Listings

A listing is in the order of creation, and of the identifiers where the times are the same (`Place.Before`). Rows whose
identifiers differ have one listing only (`Place.eq_listed`). Rows that are kept under their identifiers
(`Rows.KeptBy`) differ in them, and a collection of rows shows them in that order (`Rows.KeptBy.ascending`); so it is
a listing just where the times of creation do not decrease along it (`Place.before_iff_timely`).
-/

namespace Forum

open Calendar Std

/-- What decides the place of a row in a listing. -/
structure Place (ν : Type) where
  created : ν → Instant
  id : ν → String

def Post.place : Place Post := ⟨Post.created, fun p => p.id.text⟩

def Comment.place : Place Comment := ⟨Comment.created, fun c => c.id.text⟩

namespace Place

variable {ν : Type} (p : Place ν) {a b : ν} {rows found : List ν}

/-- A row stands before another one: it was created earlier, or at the same time and its identifier is smaller. -/
def Before (a b : ν) : Prop :=
  (p.created a).compare (p.created b) = .lt ∨ p.created a = p.created b ∧ p.id a < p.id b

instance (a b : ν) : Decidable (p.Before a b) := inferInstanceAs (Decidable (_ ∨ _))

/-- A row was not created later than another one. -/
def Timely (a b : ν) : Prop := (p.created a).compare (p.created b) ≠ .gt

/-- Order by creation, then by identifier. -/
def compare (a b : ν) : Ordering := ((p.created a).compare (p.created b)).then (Ord.compare (p.id a) (p.id b))

/-- Rows as a listing. -/
def listed (rows : List ν) : List ν := rows.mergeSort fun a b => p.compare a b != .gt

/-- Posts are listed by their place. -/
theorem posts_listed : Memory.Posts.listed = Post.place.listed := rfl

/-- Comments are listed by their place. -/
theorem comments_listed : Memory.Comments.listed = Comment.place.listed := rfl

instance : TransCmp p.compare := inferInstanceAs (TransCmp (compareLex (compareOn p.created) (compareOn p.id)))

/-- The order of two places is that of the other way round, swapped. -/
theorem compare_swap (a b : ν) : p.compare b a = (p.compare a b).swap := Std.OrientedCmp.eq_swap

/-- Instants that compare as equal are equal. -/
theorem created_eq (h : (p.created a).compare (p.created b) = .eq) : p.created a = p.created b :=
  LawfulEqOrd.eq_of_compare (α := Instant) h

theorem created_refl (h : p.created a = p.created b) : (p.created a).compare (p.created b) = .eq := by
  rw [h]
  exact ReflOrd.compare_self (α := Instant)

/-- A row compares as less where it comes before. -/
theorem compare_eq_lt : p.compare a b = .lt ↔ p.Before a b := by
  unfold compare Before
  rw [Ordering.then_eq_lt]
  exact or_congr_right (and_congr ⟨p.created_eq, p.created_refl⟩ compareOfLessAndEq_eq_lt)

/-- Rows in the same place have the same identifier. -/
theorem id_eq (h : p.compare a b = .eq) : p.id a = p.id b := by
  unfold compare at h
  exact Std.compare_eq_iff_eq.1 (Ordering.then_eq_eq.1 h).2

theorem Before.ne_gt (h : p.Before a b) : p.compare a b ≠ .gt := by
  rw [p.compare_eq_lt.2 h]
  nofun

/-- Of two rows with different identifiers one stands before the other. -/
theorem before_of_ne_gt (h : p.compare a b ≠ .gt) (hid : p.id a ≠ p.id b) : p.Before a b := by
  rw [← compare_eq_lt]
  cases hab : p.compare a b with
  | lt => rfl
  | eq => exact absurd (p.id_eq hab) hid
  | gt => exact absurd hab h

/-! ## The listing of rows -/

/-- A listing has the rows that it is of. -/
theorem perm_listed (rows : List ν) : (p.listed rows).Perm rows := List.mergeSort_perm rows _

/-- A listing is in order. -/
theorem sorted_listed (rows : List ν) : (p.listed rows).Pairwise fun a b => p.compare a b ≠ .gt := by
  have htrans (a b c : ν) (hab : (p.compare a b != .gt) = true) (hbc : (p.compare b c != .gt) = true) :
      (p.compare a c != .gt) = true := by
    rw [bne_iff_ne] at *
    exact Ordering.isLE_iff_ne_gt.1
      (TransCmp.isLE_trans (Ordering.isLE_iff_ne_gt.2 hab) (Ordering.isLE_iff_ne_gt.2 hbc))
  have htotal (a b : ν) : (p.compare a b != .gt || p.compare b a != .gt) = true := by
    rw [p.compare_swap a b]
    cases p.compare a b <;> rfl
  exact (List.pairwise_mergeSort htrans htotal rows).imp bne_iff_ne.1

/-- Rows whose identifiers differ. -/
def Distinct (rows : List ν) : Prop := (rows.map p.id).Nodup

variable {p}

theorem Distinct.perm (h : p.Distinct rows) (hperm : found.Perm rows) : p.Distinct found :=
  (hperm.map p.id).nodup_iff.2 h

/-- Rows with different identifiers are different. -/
theorem Distinct.nodup (h : p.Distinct rows) : rows.Nodup := h.of_map _

theorem Distinct.filter (h : p.Distinct rows) (q : ν → Bool) : p.Distinct (rows.filter q) :=
  h.sublist (List.filter_sublist.map p.id)

/-- In order, rows with different identifiers stand strictly one before the other. -/
theorem Distinct.before (h : p.Distinct rows) (hsorted : rows.Pairwise fun a b => p.compare a b ≠ .gt) :
    rows.Pairwise p.Before :=
  hsorted.imp₂ (fun _ _ hab hid => p.before_of_ne_gt hab hid) (List.pairwise_map.1 h)

/-- In a listing of rows with different identifiers each row comes before the next ones. -/
theorem Distinct.listed_before (h : p.Distinct rows) : (p.listed rows).Pairwise p.Before :=
  (h.perm (p.perm_listed rows)).before (p.sorted_listed rows)

/-- Rows with different identifiers are listed in one way only. -/
theorem Distinct.eq_listed (h : p.Distinct rows) (hperm : found.Perm rows)
    (hsorted : found.Pairwise fun a b => p.compare a b ≠ .gt) : found = p.listed rows := by
  refine List.Perm.eq_of_pairwise (fun a b ha hb hab hba => ?_) hsorted (p.sorted_listed rows)
    (hperm.trans (p.perm_listed rows).symm)
  have heq : p.compare a b = .eq := by
    rw [p.compare_swap a b] at hba
    cases hc : p.compare a b with
    | lt => exact absurd (congrArg Ordering.swap hc) hba
    | eq => rfl
    | gt => exact absurd hc hab
  exact List.inj_on_of_nodup_map h (hperm.mem_iff.1 ha) ((p.perm_listed rows).mem_iff.1 hb) (p.id_eq heq)

/-- Rows are their listing just where they are in its order. -/
theorem Distinct.eq_listed_iff (h : p.Distinct rows) : rows = p.listed rows ↔ rows.Pairwise p.Before :=
  ⟨fun heq => heq ▸ h.listed_before, fun hbefore => h.eq_listed (.refl rows) (hbefore.imp (Before.ne_gt p))⟩

/-! ## Rows in the order of their identifiers -/

/-- Identifiers that go up are different. -/
theorem distinct_of_ascending (h : rows.Pairwise fun a b => p.id a < p.id b) : p.Distinct rows := by
  refine List.pairwise_map.2 (h.imp fun {a b} hlt heq => ?_)
  rw [heq] at hlt
  exact String.lt_irrefl _ hlt

/-- In the order of their identifiers, rows are a listing just where the times of creation do not decrease. -/
theorem before_iff_timely (h : rows.Pairwise fun a b => p.id a < p.id b) :
    rows.Pairwise p.Before ↔ rows.Pairwise p.Timely := by
  constructor
  · refine List.Pairwise.imp fun hab => ?_
    unfold Timely
    rcases hab with hlt | ⟨heq, -⟩
    · rw [hlt]
      nofun
    · rw [p.created_refl heq]
      nofun
  · refine fun htimely => htimely.imp₂ (fun a b htime hid => ?_) h
    unfold Timely at htime
    cases hab : (p.created a).compare (p.created b) with
    | lt => exact .inl hab
    | eq => exact .inr ⟨p.created_eq hab, hid⟩
    | gt => exact absurd hab htime

end Place

namespace Memory.Rows

variable {ν : Type} {id : ν → String} {r : Rows ν}

/-- Every row is kept under its identifier. -/
def KeptBy (id : ν → String) (r : Rows ν) : Prop := ∀ key row, r.get? key = some row → id row = key

theorem keptBy_empty : (empty : Rows ν).KeptBy id := nofun

/-- A row that is there is under its identifier. -/
theorem KeptBy.of_mem (h : r.KeptBy id) {e : String × ν} (he : e ∈ r.entries) : id e.2 = e.1 :=
  h e.1 e.2 (lookup_of_mem r.ascending he)

/-- What is written is written under its identifier. -/
def Write.Proper (id : ν → String) (w : Write ν) : Prop := ∀ row, w.2 = some row → id row = w.1

theorem Write.proper_some {key : String} {row : ν} (h : id row = key) : Write.Proper id (key, some row) := by
  intro row' hrow
  obtain rfl := Option.some.inj hrow
  exact h

theorem Write.proper_none (key : String) : Write.Proper id (key, none) := nofun

/-- A write of a row under its identifier keeps the others under theirs. -/
theorem KeptBy.write (h : r.KeptBy id) {w : Write ν} (hw : w.Proper id) : (r.write w).KeptBy id := by
  intro key row hrow
  rw [get?_write] at hrow
  split at hrow
  · rename_i hkey
    rw [hkey]
    exact hw row hrow
  · exact h key row hrow

/-- Writes of rows under their identifiers keep all rows under theirs. -/
theorem KeptBy.writeAll (h : r.KeptBy id) {ws : List (Write ν)} (hws : ∀ w ∈ ws, w.Proper id) :
    (r.writeAll ws).KeptBy id := by
  induction ws generalizing r with
  | nil => exact h
  | cons w ws ih =>
    obtain ⟨hw, hws⟩ := List.forall_mem_cons.1 hws
    exact ih (h.write hw) hws

/-- Rows are shown in the order of their identifiers. -/
theorem KeptBy.ascending (h : r.KeptBy id) : r.values.Pairwise fun a b => id a < id b := by
  refine List.pairwise_map.2 (r.ascending.imp_of_mem fun ha hb hab => ?_)
  rw [h.of_mem ha, h.of_mem hb]
  exact hab

end Memory.Rows

end Forum
