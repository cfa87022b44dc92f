import Forum.Store

/-!
# Transactions

Work that belongs together runs within a transaction: it is committed when the work succeeds and rolled back when the
work fails. Work that runs within a transaction already stays in that one, and nothing is begun or finished for it.
Where time is limited, work that takes longer is abandoned and rolled back.
-/

namespace Forum

/-- Transactions of a store. Times are milliseconds. -/
structure Transactions (σ : Type) where
  begin : Action σ Handle
  commit : Handle → Action σ Unit
  rollback : Handle → Action σ Unit
  /-- How long work within a transaction may take, if that is limited. -/
  limit : σ → Option Nat
  now : σ → Nat

/-- Where work runs: the transaction it belongs to, and when its time is over. -/
structure Scope where
  tx : Option Handle
  deadline : Option Nat
deriving DecidableEq, Repr

/-- Outside of every transaction. -/
def Scope.unbound : Scope := ⟨none, none⟩

/-- Why work ends early. -/
inductive Halt where
  | failed (error : Error)
  | outOfTime
deriving DecidableEq, Repr

/-- Work that answers, fails, or is abandoned. -/
abbrev Work (σ α : Type) : Type := ExceptT Halt (StateM σ) α

/-- The error that early ending counts as. -/
def Halt.error (limit : Option Nat) : Halt → Error
  | failed e => e
  | outOfTime => .transactionTimeout (limit.getD 0 / 1000)

namespace Work

variable {σ α : Type}

/-- An operation as work. -/
def ofAction (a : Action σ α) : Work σ α := fun s =>
  match a s with
  | (.ok answer, s) => (.ok answer, s)
  | (.error e, s) => (.error (.failed e), s)

end Work

namespace Transactions

variable {σ α : Type}

/-- Commits after work that succeeded. -/
def finish (t : Transactions σ) (tx : Handle) (answer : α) : Action σ α := fun s =>
  match t.commit tx s with
  | (.ok _, s) => (.ok answer, s)
  | (.error e, s) => (.error e, s)

/-- Rolls back after work that failed. If that fails as well, both errors are told. -/
def abandon (t : Transactions σ) (tx : Handle) (e : Error) : Action σ α := fun s =>
  match t.rollback tx s with
  | (.ok _, s) => (.error e, s)
  | (.error r, s) => (.error (.rollbackFailed e r.message), s)

/-- Runs work within a transaction of its own. -/
def run (t : Transactions σ) (work : Scope → Work σ α) : Action σ α := fun s =>
  match t.begin s with
  | (.error e, s) => (.error e, s)
  | (.ok tx, s) =>
    let limit := t.limit s
    match work ⟨some tx, limit.map (t.now s + ·)⟩ s with
    | (.ok answer, s) => t.finish tx answer s
    | (.error halt, s) => t.abandon tx (halt.error limit) s

/-- Runs work within the transaction of a scope, or within one of its own where the scope has none. -/
def within (t : Transactions σ) (scope : Scope) (work : Scope → Work σ α) : Work σ α :=
  match scope.tx with
  | some _ => work scope
  | none => .ofAction (t.run work)

/-- Runs operations within a transaction: one that is open already, or else one of their own. -/
def atomically (t : Transactions σ) (tx : Option Handle) (work : Option Handle → Action σ α) : Action σ α :=
  match tx with
  | some _ => work tx
  | none => t.run fun scope => .ofAction (work scope.tx)

end Transactions

/-- Transactions of a part as those of the whole, with a clock of the whole. -/
def Part.transactions {ω σ : Type} (p : Part ω σ) (now : ω → Nat) (t : Transactions σ) : Transactions ω where
  begin := p.lift t.begin
  commit tx := p.lift (t.commit tx)
  rollback tx := p.lift (t.rollback tx)
  limit w := t.limit (p.get w)
  now := now

end Forum
