import Forum.Fixture
import Forum.Proofs.Service.Agreement

/-!
# Transactions are isolated

Several parties share a repository. They call it outside of every transaction or through transactions that they have
begun, in any order, and write down what they were told (`record`). A transaction that is never committed could as well
not have been there: without its deeds all others are told the same, and after every deed the rows are the same
(`repositories_isolate`).

The transactions of the two runs have different handles, because one run has begun fewer. `Parted` pairs them by their
names. A deed of others keeps that (`perform_other`), and so does a deed of the transaction that one run lacks, as long
as it is not committed (`perform_own`). Both are shown of a table; a repository does on its table what a table does
(`Wraps`).
-/

namespace Forum

/-! ## Parties that share a repository -/

namespace Sharing

/-- A store with its transactions. -/
structure Repository (σ κ : Type) where
  transactions : Transactions σ
  run : κ → Option Handle → Action σ Answer
  /-- Makes the writes of a key fail. -/
  fail : String → σ → σ

/-- What is done to a repository, outside of every transaction or through one that has a name. -/
inductive Deed (κ : Type) where
  | begin (name : String)
  | call (name : Option String) (call : κ)
  | commit (name : String)
  | rollback (name : String)
  | fail (key : String)
deriving DecidableEq

/-- The name of the transaction through which a deed is done. -/
def Deed.through {κ : Type} : Deed κ → Option String
  | begin name | commit name | rollback name => some name
  | call name _ => name
  | fail _ => none

/-- A repository with the transactions that were begun by their names. -/
structure Shared (σ : Type) where
  state : σ
  named : String → Option Handle

/-- What is told of a deed. Nothing is told where no transaction has the name. -/
abbrev Told := Option (Except Error Answer)

namespace Shared

variable {σ : Type}

/-- No transaction has a name. -/
def new (s : σ) : Shared σ := ⟨s, fun _ => none⟩

/-- Gives a transaction a name. -/
def name (m : Shared σ) (name : String) (tx : Handle) : Shared σ :=
  { m with named := fun y => if y = name then some tx else m.named y }

/-- Does an operation. -/
def act (m : Shared σ) (a : Action σ Answer) : Told × Shared σ := (some (a m.state).1, { m with state := (a m.state).2 })

/-- Does an operation through a transaction, if there is one of the name. -/
def actAs (m : Shared σ) (name : String) (a : Handle → Action σ Answer) : Told × Shared σ :=
  match m.named name with
  | some tx => m.act (a tx)
  | none => (none, m)

/-- A part of the state with the same transactions. -/
def on {τ : Type} (m : Shared σ) (part : σ → τ) : Shared τ := ⟨part m.state, m.named⟩

end Shared

section

variable {σ κ : Type} (r : Repository σ κ)

/-- Does a deed. -/
def perform (m : Shared σ) : Deed κ → Told × Shared σ
  | .begin name =>
    match r.transactions.begin m.state with
    | (.ok tx, s) => (some (.ok .done), { m with state := s }.name name tx)
    | (.error e, s) => (some (.error e), { m with state := s })
  | .call none call => m.act (r.run call none)
  | .call (some name) call => m.actAs name fun tx => r.run call (some tx)
  | .commit name => m.actAs name fun tx => (fun _ => .done) <$> r.transactions.commit tx
  | .rollback name => m.actAs name fun tx => (fun _ => .done) <$> r.transactions.rollback tx
  | .fail key => (some (.ok .done), { m with state := r.fail key m.state })

/-- Deeds one after the other, each with what is told of it. -/
def record : List (Deed κ) → Shared σ → List (Deed κ × Told)
  | [], _ => []
  | d :: ds, m => (d, (perform r m d).1) :: record ds (perform r m d).2

/-- What deeds leave, one after the other. -/
def after (ds : List (Deed κ)) (m : Shared σ) : Shared σ := ds.foldl (fun m d => (perform r m d).2) m

/-- The deed was to commit the transaction of a name, and succeeded. -/
def Commits (name : String) (e : Deed κ × Told) : Prop := e.1 = .commit name ∧ e.2 = some (.ok .done)

instance [DecidableEq κ] (name : String) (e : Deed κ × Told) : Decidable (Commits name e) :=
  inferInstanceAs (Decidable (_ ∧ _))

end

/-- Deeds without those that are done through the transaction of a name. -/
def without {κ : Type} (name : String) (ds : List (Deed κ)) : List (Deed κ) := ds.filter fun d => d.through ≠ some name

/-- Without the deeds of a transaction all others are told the same, and after every deed the rows are the same. -/
structure Unaffected {σ κ ν : Type} (r : Repository σ κ) (rows : σ → Memory.Rows ν) (name : String) (ds : List (Deed κ))
    (s : σ) : Prop where
  told : (record r ds (.new s)).filter (fun e => e.1.through ≠ some name) = record r (without name ds) (.new s)
  rows : ∀ n, rows (after r (ds.take n) (.new s)).state = rows (after r (without name (ds.take n)) (.new s)).state

end Sharing

namespace Memory

open Sharing

/-- The store of posts as a repository. -/
def Posts.repository : Repository Posts PostCall :=
  ⟨transactions, fun c tx => c.run store tx, fun key s => { s with table := s.table.fail key }⟩

/-- The database of comments as a repository. -/
def Comments.repository : Repository Comments CommentCall :=
  ⟨transactions, fun c tx => c.run store tx, fun key s => { s with table := s.table.fail key }⟩

namespace Table

/-- The errors of transactions that are made to fail. -/
structure Faults where
  begin : Option Error
  commit : Option Error
  rollback : Option Error

/-- An operation, unless it is made to fail. -/
def barred {σ α : Type} (fault : Option Error) (a : Action σ α) : Action σ α := fault.elim a throw

/-- A table as a repository. -/
def repository {κ ν : Type} (faults : Faults) (run : κ → Option Handle → Action (Table ν) Answer) :
    Repository (Table ν) κ where
  transactions := {
    begin := barred faults.begin fun t => (.ok t.begin.1, t.begin.2)
    commit tx := barred faults.commit (change fun t => t.commit tx)
    rollback tx := barred faults.rollback (change fun t => t.rollback tx)
    limit _ := none
    now _ := 0 }
  run := run
  fail key t := t.fail key

end Table

/-! ## Two runs side by side -/

namespace Table

/-- Transactions of a table that have names: each has been begun, and has one name. -/
structure Names (named : String → Option Handle) (begun : Nat) : Prop where
  lt : ∀ {y tx}, named y = some tx → tx < begun
  distinct : ∀ {y z tx}, named y = some tx → named z = some tx → y = z

/-- The second run lacks the deeds of the transaction of a name. All other transactions have staged the same in both. -/
structure Parted {ν : Type} (name : String) (m m' : Shared (Table ν)) : Prop where
  rows : m'.state.rows = m.state.rows
  failing : m'.state.failing = m.state.failing
  names : Names m.named m.state.staged.length
  names' : Names m'.named m'.state.staged.length
  staged : ∀ y, y ≠ name → (m.named y).bind (m.state.staged[·]?) = (m'.named y).bind (m'.state.staged[·]?)

variable {κ ν : Type} {name y : String} {named named' : String → Option Handle} {t q : Table ν} {tx tx' : Handle}
  {m m' : Shared (Table ν)}

/-- What one transaction stages, those of other names do not see. -/
theorem Names.bind_set {staged : List (Option (List (Rows.Write ν)))} (h : Names named staged.length)
    (hy : named y = some tx) {z : String} (hz : z ≠ y) (v : Option (List (Rows.Write ν))) :
    (named z).bind ((staged.set tx v)[·]?) = (named z).bind (staged[·]?) := by
  cases hk : named z with
  | none => rfl
  | some k =>
    have hne : tx ≠ k := fun heq => hz (h.distinct (heq ▸ hk) hy)
    exact List.getElem?_set_ne hne

/-- The table when a transaction has staged something else, or is over, and the rows may have changed. -/
def settled (t : Table ν) (rows : Rows ν) (tx : Handle) (v : Option (List (Rows.Write ν))) : Table ν :=
  { t with rows := rows, staged := t.staged.set tx v }

theorem length_settled (t : Table ν) (rows : Rows ν) (tx : Handle) (v : Option (List (Rows.Write ν))) :
    (t.settled rows tx v).staged.length = t.staged.length :=
  List.length_set

/-- A transaction sees the committed rows with its own writes. -/
theorem view_some (t : Table ν) (tx : Handle) : t.view (some tx) = (t.stagedBy tx).map t.rows.writeAll := rfl

/-- A transaction stages its write, unless writes of that key fail. -/
theorem write_some (t : Table ν) (tx : Handle) (w : Rows.Write ν) :
    t.write (some tx) w =
      if t.failing.contains w.1 then .error (.infrastructure s!"injected write failure for {w.1}")
      else (t.stagedBy tx).map fun ws => t.settled t.rows tx (some (ws ++ [w])) :=
  rfl

/-- What another transaction stages, or its end, is the same in both runs. -/
theorem Parted.settle_other (h : Parted name ⟨t, named⟩ ⟨q, named'⟩) (hy : y ≠ name) (hn : named y = some tx)
    (hn' : named' y = some tx') {rows rows' : Rows ν} (hrows : rows' = rows) (v : Option (List (Rows.Write ν))) :
    Parted name ⟨t.settled rows tx v, named⟩ ⟨q.settled rows' tx' v, named'⟩ where
  rows := hrows
  failing := h.failing
  names := (t.length_settled rows tx v).symm ▸ h.names
  names' := (q.length_settled rows' tx' v).symm ▸ h.names'
  staged z hz := by
    by_cases hzy : z = y
    · subst hzy
      simp only [settled, hn, hn', Option.bind_some]
      rw [List.getElem?_set_self (h.names.lt hn), List.getElem?_set_self (h.names'.lt hn')]
    · simp only [settled]
      rw [h.names.bind_set hn hzy, h.names'.bind_set hn' hzy]
      exact h.staged z hz

/-- What the transaction itself stages leaves the others as they are. -/
theorem Parted.settle_own (h : Parted name ⟨t, named⟩ m') (hn : named name = some tx)
    (v : Option (List (Rows.Write ν))) : Parted name ⟨t.settled t.rows tx v, named⟩ m' where
  rows := h.rows
  failing := h.failing
  names := (t.length_settled t.rows tx v).symm ▸ h.names
  names' := h.names'
  staged z hz := (h.names.bind_set hn hz v).trans (h.staged z hz)

/-- A transaction of another name has begun in both runs or in none. -/
theorem Parted.named_cases (h : Parted name m m') (hy : y ≠ name) :
    (m.named y = none ∧ m'.named y = none) ∨ ∃ tx tx', m.named y = some tx ∧ m'.named y = some tx' := by
  have hstaged := h.staged y hy
  cases hn : m.named y with
  | none =>
    cases hn' : m'.named y with
    | none => exact .inl ⟨rfl, rfl⟩
    | some tx' =>
      rw [hn, hn', Option.bind_none, Option.bind_some, List.getElem?_eq_getElem (h.names'.lt hn')] at hstaged
      cases hstaged
  | some tx =>
    cases hn' : m'.named y with
    | none =>
      rw [hn, hn', Option.bind_none, Option.bind_some, List.getElem?_eq_getElem (h.names.lt hn)] at hstaged
      cases hstaged
    | some tx' => exact .inr ⟨tx, tx', rfl, rfl⟩

/-- Another transaction has staged the same in both runs. -/
theorem Parted.stagedBy_eq (h : Parted name ⟨t, named⟩ ⟨q, named'⟩) (hy : y ≠ name) (hn : named y = some tx)
    (hn' : named' y = some tx') : q.stagedBy tx' = t.stagedBy tx := by
  have hstaged := h.staged y hy
  simp only [hn, hn', Option.bind_some] at hstaged
  unfold stagedBy
  rw [hstaged]

/-! ## Calls in both runs -/

/-- Outside of every transaction the two runs see the same rows. -/
theorem agree_unbound (name : String) (named named' : String → Option Handle) :
    Agree (fun t q : Table ν => Parted name ⟨t, named⟩ ⟨q, named'⟩) none none where
  view h := congrArg Except.ok h.rows.symm
  write {t q} h w := by
    have hfailing : q.failing = t.failing := h.failing
    unfold Table.write
    rw [hfailing]
    split
    · exact .inl ⟨_, rfl, rfl⟩
    · exact .inr ⟨_, _, rfl, rfl, congrArg (·.write w) h.rows, rfl, h.names, h.names', h.staged⟩

/-- Transactions of one other name see the same rows in the two runs. -/
theorem agree_other (hy : y ≠ name) (hn : named y = some tx) (hn' : named' y = some tx') :
    Agree (fun t q : Table ν => Parted name ⟨t, named⟩ ⟨q, named'⟩) (some tx) (some tx') where
  view {t q} h := by
    have hrows : q.rows = t.rows := h.rows
    rw [view_some, view_some, h.stagedBy_eq hy hn hn', hrows]
  write {t q} h w := by
    have hfailing : q.failing = t.failing := h.failing
    rw [write_some, write_some, hfailing, h.stagedBy_eq hy hn hn']
    split
    · exact .inl ⟨_, rfl, rfl⟩
    · cases t.stagedBy tx with
      | error e => exact .inl ⟨e, rfl, rfl⟩
      | ok ws => exact .inr ⟨_, _, rfl, rfl, h.settle_other hy hn hn' h.rows (some (ws ++ [w]))⟩

/-- What is called through the transaction that the second run lacks leaves the runs side by side. -/
theorem agree_own (hn : named name = some tx) (m' : Shared (Table ν)) :
    Agree (fun t q : Table ν => t = q ∧ Parted name ⟨t, named⟩ m') (some tx) (some tx) where
  view h := by rw [h.1]
  write {t q} h w := by
    obtain ⟨rfl, hparted⟩ := h
    rw [write_some]
    split
    · exact .inl ⟨_, rfl, rfl⟩
    · cases t.stagedBy tx with
      | error e => exact .inl ⟨e, rfl, rfl⟩
      | ok ws => exact .inr ⟨_, _, rfl, rfl, rfl, hparted.settle_own hn (some (ws ++ [w]))⟩

/-! ## Transactions that begin -/

/-- Names mean what they did when there are more transactions. -/
theorem Names.bind_append {staged : List (Option (List (Rows.Write ν)))} (h : Names named staged.length) (z : String)
    (more : List (Option (List (Rows.Write ν)))) :
    (named z).bind ((staged ++ more)[·]?) = (named z).bind (staged[·]?) := by
  cases hk : named z with
  | none => rfl
  | some k => exact List.getElem?_append_left (h.lt hk)

/-- A transaction that has begun has a name that no other one has. -/
theorem Names.begin {begun : Nat} (h : Names named begun) (y : String) :
    Names (fun z => if z = y then some begun else named z) (begun + 1) where
  lt {z tx} hz := by
    split at hz
    · exact Option.some.inj hz ▸ Nat.lt_succ_self begun
    · exact Nat.lt_succ_of_lt (h.lt hz)
  distinct {z w tx} hz hw := by
    split at hz <;> split at hw
    · rename_i hz' hw'
      exact hz'.trans hw'.symm
    · exact absurd (Option.some.inj hz ▸ h.lt hw) (Nat.lt_irrefl _)
    · exact absurd (Option.some.inj hw ▸ h.lt hz) (Nat.lt_irrefl _)
    · exact h.distinct hz hw

/-- A transaction that begins gets a name. -/
theorem names_begin (h : Names named t.staged.length) (y : String) :
    Names ((⟨t.begin.2, named⟩ : Shared (Table ν)).name y t.begin.1).named t.begin.2.staged.length := by
  have hlength : t.begin.2.staged.length = t.staged.length + 1 := List.length_append
  exact hlength ▸ h.begin y

/-- Another transaction begins in both runs. -/
theorem Parted.begin_other (h : Parted name ⟨t, named⟩ ⟨q, named'⟩) (y : String) :
    Parted name ((⟨t.begin.2, named⟩ : Shared (Table ν)).name y t.begin.1)
      ((⟨q.begin.2, named'⟩ : Shared (Table ν)).name y q.begin.1) where
  rows := h.rows
  failing := h.failing
  names := names_begin h.names y
  names' := names_begin h.names' y
  staged z hz := by
    simp only [Shared.name, Table.begin]
    split
    · rw [Option.bind_some, Option.bind_some, List.getElem?_concat_length, List.getElem?_concat_length]
    · rw [h.names.bind_append z, h.names'.bind_append z]
      exact h.staged z hz

/-- The transaction itself begins in the first run only. -/
theorem Parted.begin_own (h : Parted name ⟨t, named⟩ m') :
    Parted name ((⟨t.begin.2, named⟩ : Shared (Table ν)).name name t.begin.1) m' where
  rows := h.rows
  failing := h.failing
  names := names_begin h.names name
  names' := h.names'
  staged z hz := by
    simp only [Shared.name, Table.begin]
    rw [if_neg hz, h.names.bind_append z]
    exact h.staged z hz

/-! ## Deeds in both runs -/

section

variable {faults : Faults} {run : κ → Option Handle → Action (Table ν) Answer} {d : Deed κ}

/-- Operations that are alike answer alike in both runs. -/
theorem act_alike {a b : Action (Table ν) Answer}
    (h : Alike (fun t q => Parted name ⟨t, m.named⟩ ⟨q, m'.named⟩) a b) (hm : Parted name m m') :
    (m.act a).1 = (m'.act b).1 ∧ Parted name (m.act a).2 (m'.act b).2 := by
  obtain ⟨htold, hafter⟩ := h m.state m'.state hm
  exact ⟨congrArg some htold, hafter⟩

/-- Operations of another transaction that are alike answer alike in both runs. -/
theorem actAs_alike (hy : y ≠ name) {a : Handle → Action (Table ν) Answer}
    (h : ∀ tx tx', m.named y = some tx → m'.named y = some tx' →
      Alike (fun t q => Parted name ⟨t, m.named⟩ ⟨q, m'.named⟩) (a tx) (a tx')) (hm : Parted name m m') :
    (m.actAs y a).1 = (m'.actAs y a).1 ∧ Parted name (m.actAs y a).2 (m'.actAs y a).2 := by
  unfold Shared.actAs
  rcases hm.named_cases hy with ⟨hn, hn'⟩ | ⟨tx, tx', hn, hn'⟩
  · rw [hn, hn']
    exact ⟨rfl, hm⟩
  · rw [hn, hn']
    exact act_alike (h tx tx' hn hn') hm

/-- A fault that comes first is the same in both runs. -/
theorem alike_barred {α : Type} {P : Table ν → Table ν → Prop} {a b : Action (Table ν) α} (h : Alike P a b)
    (fault : Option Error) : Alike P (barred fault a) (barred fault b) := by
  cases fault with
  | none => exact h
  | some e => exact alike_throw e

/-- A transaction of another name is committed in both runs, or in none. -/
theorem alike_commit (hy : y ≠ name) (hn : named y = some tx) (hn' : named' y = some tx') :
    Alike (fun t q : Table ν => Parted name ⟨t, named⟩ ⟨q, named'⟩) (change fun t => t.commit tx)
      (change fun t => t.commit tx') := by
  refine alike_change fun t q h => ?_
  rw [Table.commit, Table.commit, h.stagedBy_eq hy hn hn']
  cases t.stagedBy tx with
  | error e => exact .inl ⟨e, rfl, rfl⟩
  | ok ws =>
    have hrows : q.rows.writeAll ws = t.rows.writeAll ws := congrArg (fun r : Rows ν => r.writeAll ws) h.rows
    exact .inr ⟨_, _, rfl, rfl, h.settle_other hy hn hn' hrows none⟩

/-- A transaction of another name is rolled back in both runs, or in none. -/
theorem alike_rollback (hy : y ≠ name) (hn : named y = some tx) (hn' : named' y = some tx') :
    Alike (fun t q : Table ν => Parted name ⟨t, named⟩ ⟨q, named'⟩) (change fun t => t.rollback tx)
      (change fun t => t.rollback tx') := by
  refine alike_change fun t q h => ?_
  rw [Table.rollback, Table.rollback, h.stagedBy_eq hy hn hn']
  cases t.stagedBy tx with
  | error e => exact .inl ⟨e, rfl, rfl⟩
  | ok ws => exact .inr ⟨_, _, rfl, rfl, h.settle_other hy hn hn' h.rows none⟩

/-- A deed of another is told the same in both runs, and leaves them side by side. -/
theorem perform_other (hrun : ∀ {P tx tx'}, Agree P tx tx' → ∀ c, Alike P (run c tx) (run c tx'))
    (hd : d.through ≠ some name) (hm : Parted name m m') :
    (perform (repository faults run) m d).1 = (perform (repository faults run) m' d).1 ∧
      Parted name (perform (repository faults run) m d).2 (perform (repository faults run) m' d).2 := by
  cases d with
  | begin y =>
    simp only [perform, repository, barred]
    cases faults.begin with
    | none => exact ⟨rfl, hm.begin_other y⟩
    | some e => exact ⟨rfl, hm⟩
  | call y c =>
    cases y with
    | none => exact act_alike (hrun (agree_unbound name m.named m'.named) c) hm
    | some y =>
      have hy : y ≠ name := fun h => hd (congrArg some h)
      exact actAs_alike hy (fun tx tx' hn hn' => hrun (agree_other hy hn hn') c) hm
  | commit y =>
    have hy : y ≠ name := fun h => hd (congrArg some h)
    refine actAs_alike hy (fun tx tx' hn hn' => ?_) hm
    exact (alike_barred (alike_commit hy hn hn') faults.commit).map _
  | rollback y =>
    have hy : y ≠ name := fun h => hd (congrArg some h)
    refine actAs_alike hy (fun tx tx' hn hn' => ?_) hm
    exact (alike_barred (alike_rollback hy hn hn') faults.rollback).map _
  | fail key => exact ⟨rfl, hm.rows, congrArg (key :: ·) hm.failing, hm.names, hm.names', hm.staged⟩

/-- What is called through the transaction that the second run lacks leaves the runs side by side. -/
theorem actAs_own {a : Handle → Action (Table ν) Answer} (hm : Parted name m m')
    (h : ∀ tx, m.named name = some tx → Parted name ⟨(a tx m.state).2, m.named⟩ m') :
    Parted name (m.actAs name a).2 m' := by
  unfold Shared.actAs
  cases hn : m.named name with
  | none => exact hm
  | some tx => exact h tx hn

/-- The transaction that the second run lacks is rolled back. -/
theorem alike_rollback_own (hn : named name = some tx) (m' : Shared (Table ν)) :
    Alike (fun t q : Table ν => t = q ∧ Parted name ⟨t, named⟩ m') (change fun t => t.rollback tx)
      (change fun t => t.rollback tx) := by
  refine alike_change fun t q h => ?_
  obtain ⟨rfl, hparted⟩ := h
  rw [Table.rollback]
  cases t.stagedBy tx with
  | error e => exact .inl ⟨e, rfl, rfl⟩
  | ok ws => exact .inr ⟨_, _, rfl, rfl, rfl, hparted.settle_own hn none⟩

/-- A commit fails and leaves the table, or it succeeds. -/
theorem barred_commit_cases (fault : Option Error) (tx : Handle) (t : Table ν) :
    (∃ e, barred fault (change fun t : Table ν => t.commit tx) t = (.error e, t)) ∨
      ∃ t', barred fault (change fun t : Table ν => t.commit tx) t = (.ok (), t') := by
  cases fault with
  | some e => exact .inl ⟨e, rfl⟩
  | none =>
    cases hcommit : t.commit tx with
    | error e => exact .inl ⟨e, change_of_error (f := fun t : Table ν => t.commit tx) hcommit⟩
    | ok t' => exact .inr ⟨t', change_of_ok (f := fun t : Table ν => t.commit tx) hcommit⟩

/-- A deed of the transaction that the second run lacks, unless it is committed, leaves the runs side by side. -/
theorem perform_own (hrun : ∀ {P tx tx'}, Agree P tx tx' → ∀ c, Alike P (run c tx) (run c tx'))
    (hd : d.through = some name) (hcommit : ¬Commits name (d, (perform (repository faults run) m d).1))
    (hm : Parted name m m') : Parted name (perform (repository faults run) m d).2 m' := by
  cases d with
  | begin y =>
    obtain rfl : y = name := Option.some.inj hd
    simp only [perform, repository, barred]
    cases faults.begin with
    | none => exact hm.begin_own
    | some e => exact hm
  | call y c =>
    obtain rfl : y = some name := hd
    exact actAs_own hm fun tx hn => (hrun (agree_own hn m') c m.state m.state ⟨rfl, hm⟩).2.2
  | commit y =>
    obtain rfl : y = name := Option.some.inj hd
    simp only [perform, Shared.actAs] at hcommit ⊢
    cases hn : m.named y with
    | none => exact hm
    | some tx =>
      rw [hn] at hcommit
      simp only [map_eq_pure_bind, Shared.act] at hcommit ⊢
      rcases barred_commit_cases faults.commit tx m.state with ⟨e, h⟩ | ⟨t, h⟩
      · have hfailed := Action.bind_of_error h fun _ => (pure Answer.done : Action (Table ν) Answer)
        simp only [repository, hfailed]
        exact hm
      · have hdone := Action.bind_of_ok h fun _ => (pure Answer.done : Action (Table ν) Answer)
        simp only [repository, hdone] at hcommit
        exact absurd ⟨rfl, rfl⟩ hcommit
  | rollback y =>
    obtain rfl : y = name := Option.some.inj hd
    exact actAs_own hm fun tx hn =>
      (((alike_barred (alike_rollback_own hn m') faults.rollback).map _) m.state m.state ⟨rfl, hm⟩).2.2
  | fail key => cases hd

/-- Deeds, and the same without those of a transaction that they do not commit, keep the runs side by side. -/
theorem run_parted (hrun : ∀ {P tx tx'}, Agree P tx tx' → ∀ c, Alike P (run c tx) (run c tx')) (ds : List (Deed κ)) :
    ∀ {m m' : Shared (Table ν)}, Parted name m m' →
      (∀ e ∈ record (repository faults run) ds m, ¬Commits name e) →
        (record (repository faults run) ds m).filter (fun e => e.1.through ≠ some name) =
            record (repository faults run) (without name ds) m' ∧
          Parted name (after (repository faults run) ds m) (after (repository faults run) (without name ds) m') := by
  induction ds with
  | nil => exact fun hm _ => ⟨rfl, hm⟩
  | cons d ds ih =>
    intro m m' hm hnever
    obtain ⟨hfirst, hlater⟩ := List.forall_mem_cons.1 hnever
    by_cases hd : d.through = some name
    · obtain ⟨hrecord, hafter⟩ := ih (perform_own hrun hd hfirst hm) hlater
      have hwithout : without name (d :: ds) = without name ds := List.filter_cons_of_neg (by simp [hd])
      rw [hwithout, record, List.filter_cons_of_neg (by simp [hd])]
      exact ⟨hrecord, hafter⟩
    · obtain ⟨htold, hparted⟩ := perform_other hrun hd hm
      obtain ⟨hrecord, hafter⟩ := ih hparted hlater
      have hwithout : without name (d :: ds) = d :: without name ds := List.filter_cons_of_pos (by simp [hd])
      rw [hwithout, record, record, List.filter_cons_of_pos (by simp [hd]), hrecord, htold]
      exact ⟨rfl, hafter⟩

end

/-- New tables are not parted. -/
theorem parted_new (name : String) (t : Table ν) : Parted name (.new t) (.new t) where
  rows := rfl
  failing := rfl
  names := ⟨nofun, nofun⟩
  names' := ⟨nofun, nofun⟩
  staged _ _ := rfl

end Table

/-! ## Repositories that hold a table -/

section

variable {σ τ ρ κ ν α β : Type}

/-- An operation does on a part of the state what the rest of the state decides, and leaves the rest. -/
def Carries (part : σ → τ) (rest : σ → ρ) (b : ρ → Action τ α) (a : Action σ α) : Prop :=
  ∀ s, (a s).1 = (b (rest s) (part s)).1 ∧ part (a s).2 = (b (rest s) (part s)).2 ∧ rest (a s).2 = rest s

/-- What is made of an answer is made of that of the table. -/
theorem Carries.map {part : σ → τ} {rest : σ → ρ} {b : ρ → Action τ α} {a : Action σ α}
    (h : Carries part rest b a) (f : α → β) : Carries part rest (fun x => f <$> b x) (f <$> a) := by
  intro s
  obtain ⟨hanswer, hpart, hrest⟩ := h s
  rw [map_eq_pure_bind]
  simp only [map_eq_pure_bind]
  rcases ha : a s with ⟨e | x, s'⟩
  · rcases hb : b (rest s) (part s) with ⟨y, t⟩
    rw [ha, hb] at hanswer hpart
    rw [ha] at hrest
    obtain rfl : Except.error e = y := hanswer
    rw [Action.bind_of_error ha, Action.bind_of_error hb]
    exact ⟨rfl, hpart, hrest⟩
  · rcases hb : b (rest s) (part s) with ⟨y, t⟩
    rw [ha, hb] at hanswer hpart
    rw [ha] at hrest
    obtain rfl : Except.ok x = y := hanswer
    rw [Action.bind_of_ok ha, Action.bind_of_ok hb]
    exact ⟨rfl, hpart, hrest⟩

/-- A repository does on its table what a repository of tables does, which the rest of its state decides. -/
structure Wraps (r : Repository σ κ) (table : σ → Table ν) (rest : σ → ρ) (q : ρ → Repository (Table ν) κ) : Prop where
  begin : Carries table rest (fun x => (q x).transactions.begin) r.transactions.begin
  commit : ∀ tx, Carries table rest (fun x => (q x).transactions.commit tx) (r.transactions.commit tx)
  rollback : ∀ tx, Carries table rest (fun x => (q x).transactions.rollback tx) (r.transactions.rollback tx)
  run : ∀ c tx, Carries table rest (fun x => (q x).run c tx) (r.run c tx)
  fail : ∀ key s, table (r.fail key s) = (q (rest s)).fail key (table s) ∧ rest (r.fail key s) = rest s

variable {r : Repository σ κ} {table : σ → Table ν} {rest : σ → ρ} {q : ρ → Repository (Table ν) κ}

/-- A repository answers as its table does, and the rest of it stays. -/
theorem act_carries {b : ρ → Action (Table ν) Answer} {a : Action σ Answer} (h : Carries table rest b a)
    (m : Shared σ) :
    (m.act a).1 = ((m.on table).act (b (rest m.state))).1 ∧
      (m.act a).2.on table = ((m.on table).act (b (rest m.state))).2 ∧ rest (m.act a).2.state = rest m.state := by
  obtain ⟨hanswer, htable, hrest⟩ := h m.state
  exact ⟨congrArg some hanswer, congrArg (Shared.mk · m.named) htable, hrest⟩

/-- A repository answers a transaction as its table does, and the rest of it stays. -/
theorem actAs_carries {b : ρ → Handle → Action (Table ν) Answer} {a : Handle → Action σ Answer}
    (h : ∀ tx, Carries table rest (fun x => b x tx) (a tx)) (m : Shared σ) (name : String) :
    (m.actAs name a).1 = ((m.on table).actAs name (b (rest m.state))).1 ∧
      (m.actAs name a).2.on table = ((m.on table).actAs name (b (rest m.state))).2 ∧
        rest (m.actAs name a).2.state = rest m.state := by
  have hnamed : (m.on table).named name = m.named name := rfl
  unfold Shared.actAs
  rw [hnamed]
  cases m.named name with
  | none => exact ⟨rfl, rfl, rfl⟩
  | some tx => exact act_carries (h tx) m

/-- A deed is told what it is told of the table, and does to the table what it does there. -/
theorem Wraps.perform (h : Wraps r table rest q) (m : Shared σ) (d : Deed κ) :
    (perform r m d).1 = (perform (q (rest m.state)) (m.on table) d).1 ∧
      (perform r m d).2.on table = (perform (q (rest m.state)) (m.on table) d).2 ∧
        rest (perform r m d).2.state = rest m.state := by
  cases d with
  | begin y =>
    obtain ⟨hanswer, htable, hrest⟩ := h.begin m.state
    rcases ha : r.transactions.begin m.state with ⟨x, s⟩
    rcases hb : (q (rest m.state)).transactions.begin (table m.state) with ⟨x', t⟩
    simp only [ha, hb] at hanswer htable hrest
    subst hanswer htable
    have hstate : (m.on table).state = table m.state := rfl
    simp only [Sharing.perform, ha, hstate, hb]
    cases x with
    | error e => exact ⟨rfl, rfl, hrest⟩
    | ok tx => exact ⟨rfl, rfl, hrest⟩
  | call y c =>
    cases y with
    | none => exact act_carries (h.run c none) m
    | some y => exact actAs_carries (fun tx => h.run c (some tx)) m y
  | commit y => exact actAs_carries (fun tx => (h.commit tx).map _) m y
  | rollback y => exact actAs_carries (fun tx => (h.rollback tx).map _) m y
  | fail key =>
    obtain ⟨htable, hrest⟩ := h.fail key m.state
    exact ⟨rfl, congrArg (Shared.mk · m.named) htable, hrest⟩

/-- Whatever is done, a repository answers as its table does. -/
theorem Wraps.run_eq (h : Wraps r table rest q) (ds : List (Deed κ)) (m : Shared σ) :
    record r ds m = record (q (rest m.state)) ds (m.on table) ∧
      (after r ds m).on table = after (q (rest m.state)) ds (m.on table) := by
  induction ds generalizing m with
  | nil => exact ⟨rfl, rfl⟩
  | cons d ds ih =>
    obtain ⟨htold, hafter, hrest⟩ := h.perform m d
    obtain ⟨hrecord, hlast⟩ := ih (Sharing.perform r m d).2
    rw [hrest, hafter] at hrecord hlast
    refine ⟨?_, hlast⟩
    rw [record, record, htold, hrecord]

/-- Whatever is done, the rest of a repository stays. -/
theorem Wraps.rest_after (h : Wraps r table rest q) (ds : List (Deed κ)) (m : Shared σ) :
    rest (after r ds m).state = rest m.state := by
  induction ds generalizing m with
  | nil => rfl
  | cons d ds ih => exact (ih (Sharing.perform r m d).2).trans (h.perform m d).2.2

/-- What was answered first does not depend on what is done later. -/
theorem record_take (ds : List (Deed κ)) (n : Nat) (m : Shared σ) :
    record r (ds.take n) m = (record r ds m).take n := by
  induction ds generalizing n m with
  | nil => rw [List.take_nil, record, List.take_nil]
  | cons d ds ih =>
    cases n with
    | zero => rfl
    | succ n => rw [List.take_succ_cons, record, record, List.take_succ_cons, ih]

/-- A repository around a table isolates its transactions. -/
theorem Wraps.unaffected {faults : ρ → Table.Faults} {run : ρ → κ → Option Handle → Action (Table ν) Answer}
    (h : Wraps r table rest fun x => Table.repository (faults x) (run x))
    (hrun : ∀ (x : ρ) {P : Table ν → Table ν → Prop} {tx tx' : Option Handle},
      Table.Agree P tx tx' → ∀ c, Alike P (run x c tx) (run x c tx')) {name : String}
    {ds : List (Deed κ)} {s : σ} (hnever : ∀ e ∈ record r ds (.new s), ¬Commits name e) :
    Unaffected r (fun s => (table s).rows) name ds s := by
  have hparted (ds : List (Deed κ)) (hnever : ∀ e ∈ record r ds (.new s), ¬Commits name e) := by
    rw [(h.run_eq ds (.new s)).1] at hnever
    exact Table.run_parted (hrun (rest s)) ds (Table.parted_new name (table s)) hnever
  constructor
  · rw [(h.run_eq ds _).1, (h.run_eq (without name ds) _).1]
    exact (hparted ds hnever).1
  · intro n
    have hnever' : ∀ e ∈ record r (ds.take n) (.new s), ¬Commits name e := fun e he =>
      hnever e (List.mem_of_mem_take (record_take (r := r) ds n _ ▸ he))
    have hrows := (hparted (ds.take n) hnever').2.rows
    have hfull := (h.run_eq (ds.take n) (.new s)).2
    have hless := (h.run_eq (without name (ds.take n)) (.new s)).2
    show ((after r (ds.take n) (.new s)).on table).state.rows =
      ((after r (without name (ds.take n)) (.new s)).on table).state.rows
    rw [hfull, hless]
    exact hrows.symm

end

/-! ## Posts and comments -/

/-- The switches of a store of posts that make its transactions fail. -/
def Posts.switches (s : Posts) : Bool × Bool × Bool := (s.failBegin, s.failCommit, s.failRollback)

/-- What is told where transactions are made to fail. -/
def Posts.faults (x : Bool × Bool × Bool) : Table.Faults where
  begin := if x.1 then some (.transaction "injected begin failure") else none
  commit := if x.2.1 then some (.transaction "injected commit failure") else none
  rollback := if x.2.2 then some (.transaction "injected rollback failure") else none

/-- The posts are a table with switches beside it. -/
theorem Posts.repository_wraps : Wraps repository table switches fun x =>
    Table.repository (faults x) fun c tx => c.run tableStore tx where
  begin s := by
    rcases s with ⟨t, journal, failBegin, failCommit, failRollback, limit⟩
    cases failBegin <;> exact ⟨rfl, rfl, rfl⟩
  commit tx s := by
    rcases s with ⟨t, journal, failBegin, failCommit, failRollback, limit⟩
    cases failCommit <;> exact ⟨rfl, rfl, rfl⟩
  rollback tx s := by
    rcases s with ⟨t, journal, failBegin, failCommit, failRollback, limit⟩
    cases failRollback <;> exact ⟨rfl, rfl, rfl⟩
  run c tx s := by
    show (c.run store tx s).1 = _ ∧ table (c.run store tx s).2 = _ ∧ switches (c.run store tx s).2 = _
    rw [run_store]
    exact ⟨rfl, rfl, rfl⟩
  fail key s := ⟨rfl, rfl⟩

/-- An operation on the table of comments leaves the replica. -/
theorem Comments.lift_carries {α : Type} (a : Action (Table Comment) α) :
    Carries table replica (fun _ => a) (rows.lift a) :=
  fun _ => ⟨rfl, rfl, rfl⟩

/-- The comments are a table with a replica beside it. -/
theorem Comments.repository_wraps : Wraps repository table replica fun x =>
    Table.repository ⟨none, none, none⟩ fun c tx => c.run (tableStore x) tx where
  begin := lift_carries _
  commit tx := lift_carries _
  rollback tx := lift_carries _
  run c tx := by
    cases c with
    | create comment => exact (lift_carries _).map _
    | update comment => exact (lift_carries _).map _
    | delete id => exact (lift_carries _).map _
    | page page => exact (lift_carries _).map _
    | find id => exact (lift_carries _).map _
    | ofUser user => exact (lift_carries _).map _
    | ofPost post => exact (lift_carries _).map _
    | withPost post =>
      refine Carries.map (fun s => ?_) _
      simp only [store, tableStore]
      cases s.replica.rows.get? post.text with
      | none => exact ⟨rfl, rfl, rfl⟩
      | some row => exact (lift_carries (Table.ask tx _)).map _ s
  fail key s := ⟨rfl, rfl⟩

/-- A transaction of a name that is never committed changes nothing of what all others are told, and nothing of the rows
that all see, in a store of posts and in a database of comments. -/
theorem repositories_isolate (name : String) :
    (∀ (ds : List (Deed PostCall)) (s : Posts),
        (∀ e ∈ record Posts.repository ds (.new s), ¬Commits name e) →
          Unaffected Posts.repository (fun s => s.table.rows) name ds s) ∧
      ∀ (ds : List (Deed CommentCall)) (s : Comments),
        (∀ e ∈ record Comments.repository ds (.new s), ¬Commits name e) →
          Unaffected Comments.repository (fun s => s.table.rows) name ds s :=
  ⟨fun _ _ hnever => Posts.repository_wraps.unaffected (fun _ _ _ _ h c => Table.alike_call h c) hnever,
    fun _ _ hnever =>
      Comments.repository_wraps.unaffected (fun x _ _ _ h c => Table.alike_commentCall h x c) hnever⟩

/-- Two transactions over one post: the first changes and removes it and is rolled back, the second adds a post. -/
def crossing : List (Deed PostCall) :=
  [.call none (.create (Fixture.post "p" "first")), .begin "a", .begin "b",
    .call (some "a") (.update (Fixture.post "p" "second")), .call (some "b") (.create (Fixture.post "q" "other")),
    .call (some "a") (.delete ⟨"p"⟩), .commit "b", .rollback "a", .call none (.find ⟨"p"⟩), .call none (.find ⟨"q"⟩)]

/-- Two transactions over one comment: the second is never ended, and the first removes the comment. -/
def crossingComments : List (Deed CommentCall) :=
  [.call none (.create ((Fixture.newComment "p" "first").toComment ⟨"c"⟩ Fixture.date)), .begin "b", .begin "a",
    .call (some "a") (.update ((Fixture.newComment "p" "second").toComment ⟨"c"⟩ Fixture.date)),
    .call (some "b") (.delete ⟨"c"⟩), .commit "b", .call none (.ofPost ⟨"p"⟩)]

/-- Two transactions that cross, of posts and of comments. -/
theorem crossing_isolated :
    (after Posts.repository crossing (.new .empty)).state.table.rows.values.length = 2 ∧
      Unaffected Posts.repository (fun s => s.table.rows) "a" crossing .empty ∧
      Unaffected Comments.repository (fun s => s.table.rows) "a" crossingComments .empty :=
  ⟨by decide +kernel, (repositories_isolate "a").1 _ _ (by decide +kernel),
    (repositories_isolate "a").2 _ _ (by decide +kernel)⟩

end Memory

end Forum
