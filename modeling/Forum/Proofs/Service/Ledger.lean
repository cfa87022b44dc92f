import Forum.Proofs.Memory.Rows
import Forum.Proofs.Service.Deeds

/-!
# The ledger of a shared repository

What the parties are told of their deeds says which writes have taken effect, in which order, and which ones are staged
(`Ledger.of`). Of each write the ledger keeps how many others had taken effect when it was asked for, and which row was
in sight then. What the write finds once it takes effect is what the last write of its key has left since it was asked
for, or else what was in sight (`Ledger.Fair.made`).
-/

namespace Forum.Memory

open Sharing

variable {κ ν : Type}

/-- A write that was granted. -/
structure Grant (ν : Type) where
  effect : Effect ν
  /-- How many writes had taken effect when it was asked for. -/
  asked : Nat
  /-- The row that was in sight of whoever asked for it. -/
  saw : Option ν
deriving DecidableEq

namespace Grant

/-- The key of the row that is written. -/
def key (e : Grant ν) : String := e.effect.key

end Grant

/-- The writes that are granted. -/
def writes (es : List (Grant ν)) : List (Rows.Write ν) := es.map fun e => e.effect.write

theorem writes_append (es ds : List (Grant ν)) : writes (es ++ ds) = writes es ++ writes ds := List.map_append

structure Ledger (ν : Type) where
  /-- The writes that took effect, in order. -/
  made : List (Grant ν)
  /-- What the transaction of a name has staged. -/
  staged : String → List (Grant ν)

namespace Ledger

/-- Nothing was written. -/
def empty : Ledger ν := ⟨[], fun _ => []⟩

section

variable (start : Rows ν) (l : Ledger ν)

/-- The rows when so many writes had taken effect. -/
def before (n : Nat) : Rows ν := start.writeAll (writes (l.made.take n))

/-- The rows after all writes that took effect. -/
def rows : Rows ν := start.writeAll (writes l.made)

/-- What the transaction of a name has staged, and nothing outside of every transaction. -/
def stagedBy : Option String → List (Grant ν)
  | none => []
  | some name => l.staged name

/-- The rows in sight of a transaction, or outside of every transaction. -/
def view (name? : Option String) : Rows ν := (l.rows start).writeAll (writes (l.stagedBy name?))

end

/-! ## Keeping the ledger -/

/-- Staged by the transaction of a name is now this. -/
def stage (l : Ledger ν) (name : String) (es : List (Grant ν)) : Ledger ν :=
  { l with staged := fun y => if y = name then es else l.staged y }

theorem staged_stage_self (l : Ledger ν) (name : String) (es : List (Grant ν)) : (l.stage name es).staged name = es :=
  if_pos rfl

theorem staged_stage_other (l : Ledger ν) {name y : String} (h : y ≠ name) (es : List (Grant ν)) :
    (l.stage name es).staged y = l.staged y :=
  if_neg h

/-- These writes take effect. -/
def make (l : Ledger ν) (es : List (Grant ν)) : Ledger ν := { l with made := l.made ++ es }

/-- What is granted when a write is asked for now. -/
def grant (start : Rows ν) (l : Ledger ν) (name? : Option String) (f : Effect ν) : Grant ν :=
  ⟨f, l.made.length, (l.view start name?).get? f.key⟩

/-- A write takes effect at once, or it is staged. -/
def enter (start : Rows ν) (l : Ledger ν) (name? : Option String) (f : Effect ν) : Ledger ν :=
  match name? with
  | none => l.make [l.grant start none f]
  | some name => l.stage name (l.staged name ++ [l.grant start (some name) f])

/-- Notes a deed with what was told of it. Of what fails, nothing is noted. -/
def note (effect : κ → Answer → Option (Effect ν)) (start : Rows ν) (l : Ledger ν) : Deed κ × Told → Ledger ν
  | (.begin name, some (.ok _)) => l.stage name []
  | (.call name? c, some (.ok answer)) => (effect c answer).elim l (l.enter start name?)
  | (.commit name, some (.ok _)) => (l.make (l.staged name)).stage name []
  | (.rollback name, some (.ok _)) => l.stage name []
  | _ => l

/-- The ledger of deeds with what was told of them. -/
def of (effect : κ → Answer → Option (Effect ν)) (start : Rows ν) (told : List (Deed κ × Told)) : Ledger ν :=
  told.foldl (note effect start) empty

theorem note_refused {effect : κ → Answer → Option (Effect ν)} {start : Rows ν} (l : Ledger ν) (d : Deed κ)
    {told : Told} (h : ∀ answer, told ≠ some (.ok answer)) : l.note effect start (d, told) = l := by
  rcases told with _ | (e | answer)
  · cases d <;> rfl
  · cases d <;> rfl
  · exact absurd rfl (h answer)

/-! ## Overtaken writes -/

/-- What has taken effect since a write was asked for, up to the `i`-th write. -/
def since (l : Ledger ν) (e : Grant ν) (i : Nat) : List (Rows.Write ν) := writes ((l.made.take i).drop e.asked)

/-- The last write of the same key since a write was asked for has left a row. -/
def Overtaken (l : Ledger ν) (e : Grant ν) (i : Nat) : Prop :=
  ∃ row, Rows.lastWrite e.key (l.since e i) = some (some row)

/-- These are still to take effect, and each one was asked for in sight of what it says. -/
def Queued (start : Rows ν) (l : Ledger ν) (es : List (Grant ν)) : Prop :=
  ∀ n e, es[n]? = some e → e.asked ≤ l.made.length ∧
    e.saw = ((l.before start e.asked).writeAll (writes (es.take n))).get? e.key

/-- What was in sight of a write, and what it has found. -/
structure Fair (start : Rows ν) (l : Ledger ν) : Prop where
  made : ∀ {i e}, l.made[i]? = some e → e.asked ≤ i ∧
    (l.before start i).get? e.key = (Rows.lastWrite e.key (l.since e i)).getD e.saw
  staged : ∀ name, l.Queued start (l.staged name)

variable {start : Rows ν} {l : Ledger ν} {es : List (Grant ν)} {e f : Grant ν} {i j : Nat}

theorem before_make {n : Nat} (h : n ≤ l.made.length) (es : List (Grant ν)) :
    (l.make es).before start n = l.before start n := by
  unfold before make
  rw [List.take_append_of_le_length h]

theorem queued_nil (start : Rows ν) (l : Ledger ν) : l.Queued start [] := fun _ _ he => nomatch he

theorem Queued.make {ds : List (Grant ν)} (h : l.Queued start ds) (es : List (Grant ν)) :
    (l.make es).Queued start ds := by
  intro n e he
  obtain ⟨hasked, hsaw⟩ := h n e he
  rw [before_make hasked]
  refine ⟨Nat.le_trans hasked ?_, hsaw⟩
  rw [Ledger.make, List.length_append]
  exact Nat.le_add_right _ _

/-- What is granted now joins what is still to take effect. -/
theorem Queued.concat (h : l.Queued start es) {name? : Option String} (hes : l.stagedBy name? = es) (f : Effect ν) :
    l.Queued start (es ++ [l.grant start name? f]) := by
  intro n e he
  rcases Nat.lt_trichotomy n es.length with hn | rfl | hn
  · rw [List.getElem?_append_left hn] at he
    rw [List.take_append_of_le_length (Nat.le_of_lt hn)]
    exact h n e he
  · rw [List.getElem?_concat_length] at he
    obtain rfl := Option.some.inj he
    have hall : l.before start l.made.length = l.rows start := by rw [before, List.take_length, rows]
    rw [List.take_left]
    show l.made.length ≤ l.made.length ∧ _ = ((l.before start l.made.length).writeAll _).get? _
    rw [hall, ← hes]
    exact ⟨Nat.le_refl _, rfl⟩
  · rw [List.getElem?_eq_none (by rw [List.length_append]; exact hn)] at he
    cases he

theorem Fair.stage (h : l.Fair start) (name : String) (hes : l.Queued start es) : (l.stage name es).Fair start where
  made he := h.made he
  staged y := by
    by_cases hy : y = name
    · rw [hy, staged_stage_self]
      exact hes
    · rw [staged_stage_other l hy]
      exact h.staged y

/-- What is queued finds, once it takes effect, what it saw or what came between. -/
theorem Fair.make (h : l.Fair start) (hes : l.Queued start es) : (l.make es).Fair start where
  made {i e} he := by
    unfold Ledger.since Ledger.before
    by_cases hi : i < l.made.length
    · simp only [Ledger.make] at he ⊢
      rw [List.getElem?_append_left hi] at he
      rw [List.take_append_of_le_length (Nat.le_of_lt hi)]
      exact h.made he
    · -- what takes effect now stands behind all that had taken effect, in the order in which it was staged
      have hlength : l.made.length ≤ i := Nat.le_of_not_lt hi
      simp only [Ledger.make] at he ⊢
      rw [List.getElem?_append_right hlength] at he
      obtain ⟨hasked, hsaw⟩ := hes _ e he
      have htake : (l.made ++ es).take i = l.made ++ es.take (i - l.made.length) := by
        rw [List.take_append, List.take_of_length_le hlength]
      rw [htake, List.drop_append_of_le_length hasked, hsaw, writes_append]
      nth_rewrite 1 [← List.take_append_drop e.asked l.made]
      rw [writes_append, writes_append]
      exact ⟨Nat.le_trans hasked hlength, Rows.get?_writeAll_after start e.key _ _ _⟩
  staged name := (h.staged name).make es

theorem Fair.enter (h : l.Fair start) (name? : Option String) (f : Effect ν) : (l.enter start name? f).Fair start := by
  cases name? with
  | none => exact h.make ((queued_nil start l).concat (rfl : l.stagedBy none = []) f)
  | some name => exact h.stage name ((h.staged name).concat (rfl : l.stagedBy (some name) = _) f)

theorem Fair.note (h : l.Fair start) (effect : κ → Answer → Option (Effect ν)) (x : Deed κ × Told) :
    (l.note effect start x).Fair start := by
  unfold Ledger.note
  split
  · exact h.stage _ (queued_nil start l)
  · rename_i name? c answer
    cases effect c answer with
    | none => exact h
    | some f => exact h.enter name? f
  · rename_i name _
    exact (h.make (h.staged name)).stage name (queued_nil start _)
  · exact h.stage _ (queued_nil start l)
  · exact h

theorem fair_empty (start : Rows ν) : (empty : Ledger ν).Fair start where
  made he := nomatch he
  staged _ _ _ he := nomatch he

/-! ## Creations -/

/-- What takes effect as soon as it is asked for finds what was in sight. -/
theorem Fair.found_at_once (h : l.Fair start) (he : l.made[i]? = some e) (hi : e.asked = i) :
    (l.before start i).get? e.key = e.saw := by
  rw [(h.made he).2, since, hi, List.drop_take_self]
  rfl

/-- A creation in sight of no row replaces one just where it was overtaken. -/
theorem Fair.contains_iff (h : l.Fair start) (he : l.made[i]? = some e) (hsaw : e.saw = none) :
    (l.before start i).contains e.key = true ↔ l.Overtaken e i := by
  rw [Rows.contains, (h.made he).2, hsaw, Overtaken]
  rcases Rows.lastWrite e.key (l.since e i) with _ | (_ | row) <;> simp

/-- What stands before the place `j` and behind the place `i` stands between the two. -/
theorem take_split (hij : i < j) (he : es[i]? = some e) :
    ∃ rest, es.take j = es.take i ++ e :: rest ∧ ∀ g ∈ rest, ∃ k, i < k ∧ k < j ∧ es[k]? = some g := by
  refine ⟨(es.take j).drop (i + 1), ?_, fun g hg => ?_⟩
  · have hget : (es.take j)[i]? = some e := by rw [List.getElem?_take_of_lt hij, he]
    obtain ⟨hi, hei⟩ := List.getElem?_eq_some_iff.1 hget
    have hdrop : (es.take j).drop i = e :: (es.take j).drop (i + 1) := by rw [List.drop_eq_getElem_cons hi, hei]
    have htake : (es.take j).take i = es.take i := by rw [List.take_take, Nat.min_eq_left (Nat.le_of_lt hij)]
    rw [← hdrop, ← htake, List.take_append_drop]
  · obtain ⟨n, hn⟩ := List.mem_iff_getElem?.1 hg
    rw [List.getElem?_drop] at hn
    have hlt : i + 1 + n < j := by
      have hlength := (List.getElem?_eq_some_iff.1 hn).1
      rw [List.length_take] at hlength
      omega
    rw [List.getElem?_take_of_lt hlt] at hn
    exact ⟨i + 1 + n, by omega, hlt, hn⟩

/-- A row that one write has left is there when a later one takes effect, unless it was removed between the two. -/
theorem contains_of_kept {key : String} {row : ν} (hij : i < j) (he : l.made[i]? = some e)
    (hrow : e.effect.write = (key, some row))
    (hkept : ∀ k g, i < k → k < j → l.made[k]? = some g → g.effect ≠ .removes key) :
    (l.before start j).contains key = true := by
  obtain ⟨rest, hsplit, hrest⟩ := take_split hij he
  have hget : (l.before start j).get? key = (Rows.lastWrite key (writes rest)).getD (some row) := by
    have hone : ((l.before start i).writeAll [(key, some row)]).get? key = some row :=
      (Rows.get?_write _ (key, some row) key).trans (if_pos rfl)
    have hall : l.before start j = ((l.before start i).writeAll [(key, some row)]).writeAll (writes rest) := by
      rw [← hrow, before, hsplit, writes_append, Rows.writeAll_append]
      rfl
    rw [hall, Rows.get?_writeAll, hone]
  rw [Rows.contains, hget]
  -- the last write in between leaves a row too: if it did not, it would remove the row
  rcases hlast : Rows.lastWrite key (writes rest) with _ | (_ | row')
  · rfl
  · obtain ⟨g, hg, hremoves⟩ := List.mem_map.1 (Rows.mem_of_lastWrite hlast)
    obtain ⟨k, hik, hkj, hk⟩ := hrest g hg
    exact absurd (Effect.removes_of_write hremoves) (hkept k g hik hkj hk)
  · rfl

end Ledger

end Forum.Memory
