import Forum.Call

/-!
# Units of work

A unit of work is a list of steps that run within one transaction: calls of the posts store, failures, pauses, and units
of work inside. A step that fails ends the unit, unless it is marked as handled. What the steps answer is recorded in
the order in which they end, also where the unit fails in the end.
-/

namespace Forum

namespace UnitOfWork

/-- A step of a unit of work; `handled` says that its failure does not end the unit. -/
inductive Step where
  | call (call : PostCall) (handled : Bool)
  /-- Asks whether there is a transaction. -/
  | isBound
  | fail (error : Error) (handled : Bool)
  /-- Waits for some milliseconds. -/
  | pause (time : Nat)
  | nested (steps : List Step) (handled : Bool)

/-- What a step answers. -/
inductive Outcome where
  | call (answer : Answer)
  | isBound (is : Bool)
  | paused (time : Nat)
  | nested (outcomes : List Outcome)
  /-- A failure that was handled. -/
  | failed (error : Error)
deriving Repr

/-- What is recorded of a step that ended. -/
abbrev Entry := Except Error Outcome

/-- What units of work run on. -/
structure Setting (σ : Type) where
  store : PostStore σ
  transactions : Transactions σ
  /-- Waits for some milliseconds, but not beyond the deadline. -/
  pause : (deadline : Option Nat) → (time : Nat) → Work σ Unit

/-- A state with the record of the steps so far, last first. -/
abbrev Recorded (σ : Type) := σ × List Entry

variable {σ : Type}

/-- The state without the record. -/
def state : Part (Recorded σ) σ := ⟨Prod.fst, fun s r => (s, r.2)⟩

/-- Work on the state as work that leaves the record. -/
def unrecorded {α : Type} (w : Work σ α) : Work (Recorded σ) α := fun r =>
  let (answer, s) := w r.1
  (answer, (s, r.2))

/-- Records how a step ends, and goes on after a failure that is handled. A step that is abandoned is not recorded. -/
def recorded (handled : Bool) (w : Work (Recorded σ) Outcome) : Work (Recorded σ) Outcome := fun r =>
  match w r with
  | (.ok answer, s, entries) => (.ok answer, s, .ok answer :: entries)
  | (.error .outOfTime, s, entries) => (.error .outOfTime, s, entries)
  | (.error (.failed e), s, entries) =>
    (if handled then .ok (.failed e) else .error (.failed e), s, .error e :: entries)

mutual

/-- Runs a step. -/
def runStep (setting : Setting σ) (scope : Scope) : Step → Work (Recorded σ) Outcome
  | .call call handled =>
    recorded handled (unrecorded (.call <$> .ofAction (call.run setting.store scope.tx)))
  | .isBound => recorded false (pure (.isBound scope.tx.isSome))
  | .fail e handled => recorded handled (throw (.failed e))
  | .pause time =>
    recorded false (unrecorded ((fun _ => .paused time) <$> setting.pause scope.deadline time))
  | .nested steps handled =>
    recorded handled (.nested <$>
      (state.transactions (fun r => setting.transactions.now r.1) setting.transactions).within scope fun scope =>
        runSteps setting scope steps)

/-- Runs steps one after the other. -/
def runSteps (setting : Setting σ) (scope : Scope) : List Step → Work (Recorded σ) (List Outcome)
  | [] => pure []
  | step :: steps => do
    let answer ← runStep setting scope step
    let answers ← runSteps setting scope steps
    pure (answer :: answers)

end

/-- Runs a unit of work in a scope: its answers, the record, and the state afterwards. -/
def run (setting : Setting σ) (scope : Scope) (steps : List Step) (s : σ) :
    Except Halt (List Outcome) × List Entry × σ :=
  match (state.transactions (fun r => setting.transactions.now r.1) setting.transactions).within scope
      (fun scope => runSteps setting scope steps) (s, []) with
  | (answer, s, entries) => (answer, entries.reverse, s)

end UnitOfWork

end Forum
