import Forum.Proofs.Service.Program

/-!
# Blocks within a transaction

A plan is work of any kind as a tree: what it does next depends in any way on what its deeds have answered, and blocks
inside it are to run within a transaction, to any depth. Its inlined form has each block's deeds in the place of the
block, and a failure that ended the block goes to what followed the block (`Plan.inline`). Where there is a transaction
already, a plan runs as its inlined form, whatever it takes to begin, commit and roll back (`Plan.run_of_bound`): so what
the deeds keep is kept by the plan (`Plan.keeps_run`). Units of work are plans, with their pauses and their records
(`UnitOfWork.run_eq_plan`).
-/

namespace Forum

/-! ## Failures as answers, once more -/

namespace Work

variable {σ α β : Type}

/-- Work that ends with an answer or a failure. -/
def ofExcept : Except Error α → Work σ α
  | .ok answer => pure answer
  | .error e => throw (.failed e)

theorem attempt_bind_ofExcept (w : Work σ α) : w.attempt >>= ofExcept = w := by
  funext s
  rcases h : w s with ⟨(e | _) | answer, t⟩
  · exact Action.bind_of_ok (attempt_of_failed h) _
  · exact Action.bind_of_error (attempt_of_outOfTime h) _
  · exact Action.bind_of_ok (attempt_of_ok h) _

/-- What follows an attempt may be attempted with it. -/
theorem attempt_bind (w : Work σ α) (f : Except Error α → Work σ β) :
    (w.attempt >>= f).attempt = w.attempt >>= fun x => (f x).attempt := by
  funext s
  have hthen {x : Except Error α} {t : σ} (h : w.attempt s = (.ok x, t)) :
      (w.attempt >>= f).attempt s = (f x).attempt t := by
    rw [attempt, Action.bind_of_ok h f]
    rfl
  rcases h : w s with ⟨(e | _) | answer, t⟩
  · rw [hthen (attempt_of_failed h), Action.bind_of_ok (attempt_of_failed h)]
  · rw [Action.bind_of_error (attempt_of_outOfTime h)]
    exact attempt_of_outOfTime (Action.bind_of_error (attempt_of_outOfTime h) f)
  · rw [hthen (attempt_of_ok h), Action.bind_of_ok (attempt_of_ok h)]

theorem keeps_attempt {R : σ → σ → Prop} {w : Work σ α} (h : Keeps R w) : Keeps R w.attempt := by
  intro s
  have hs := h s
  rcases hw : w s with ⟨(e | _) | answer, t⟩
  · rw [hw] at hs
    rw [attempt_of_failed hw]
    exact hs
  · rw [hw] at hs
    rw [attempt_of_outOfTime hw]
    exact hs
  · rw [hw] at hs
    rw [attempt_of_ok hw]
    exact hs

end Work

/-! ## Plans -/

/-- Work of deeds that answer. A deed and a block go on with what they answer, or with the error they failed with. -/
inductive Plan (κ ρ : Type) : Type → Type 1 where
  | done {α : Type} (answer : α) : Plan κ ρ α
  | stop {α : Type} (halt : Halt) : Plan κ ρ α
  | deed {α : Type} (deed : κ) (next : Except Error ρ → Plan κ ρ α) : Plan κ ρ α
  /-- A block that is to run within a transaction. -/
  | within {α β : Type} (inner : Plan κ ρ β) (next : Except Error β → Plan κ ρ α) : Plan κ ρ α

namespace Plan

variable {κ ρ σ α β : Type}

/-- Runs a plan in a scope. What a deed does may depend on the scope. -/
def run (act : κ → Scope → Work σ ρ) (t : Transactions σ) : {α : Type} → Plan κ ρ α → Scope → Work σ α
  | _, done answer, _ => pure answer
  | _, stop halt, _ => throw halt
  | _, deed d next, scope => do
    let answer ← (act d scope).attempt
    (next answer).run act t scope
  | _, within inner next, scope => do
    let answer ← (t.within scope (inner.run act t)).attempt
    (next answer).run act t scope

/-- Goes on after an answer or a failure. -/
def andThen : {β : Type} → Plan κ ρ β → (Except Error β → Plan κ ρ α) → Plan κ ρ α
  | _, done answer, next => next (.ok answer)
  | _, stop (.failed e), next => next (.error e)
  | _, stop .outOfTime, _ => .stop .outOfTime
  | _, deed d k, next => .deed d fun answer => (k answer).andThen next
  | _, within inner k, next => .within inner fun answer => (k answer).andThen next

/-- The plan with the deeds of each block in the place of the block. -/
def inline : {α : Type} → Plan κ ρ α → Plan κ ρ α
  | _, done answer => .done answer
  | _, stop halt => .stop halt
  | _, deed d next => .deed d fun answer => (next answer).inline
  | _, within inner next => inner.inline.andThen fun answer => (next answer).inline

/-- There are no blocks in the plan. -/
inductive Plain : {α : Type} → Plan κ ρ α → Prop
  | done {α : Type} (answer : α) : Plain (.done answer)
  | stop {α : Type} (halt : Halt) : Plain (.stop halt : Plan κ ρ α)
  | deed {α : Type} {d : κ} {next : Except Error ρ → Plan κ ρ α} (h : ∀ answer, Plain (next answer)) :
    Plain (.deed d next)

theorem Plain.andThen {p : Plan κ ρ β} (h : p.Plain) {next : Except Error β → Plan κ ρ α}
    (hnext : ∀ answer, (next answer).Plain) : (p.andThen next).Plain := by
  induction h with
  | done answer => exact hnext (.ok answer)
  | stop halt =>
    cases halt with
    | failed e => exact hnext (.error e)
    | outOfTime => exact .stop .outOfTime
  | deed _ ih => exact .deed fun answer => ih answer

theorem plain_inline (p : Plan κ ρ α) : p.inline.Plain := by
  induction p with
  | done answer => exact .done answer
  | stop halt => exact .stop halt
  | deed d next ih => exact .deed ih
  | within inner next hinner ih => exact hinner.andThen ih

variable (act : κ → Scope → Work σ ρ) (t u : Transactions σ)

theorem run_andThen (p : Plan κ ρ β) (next : Except Error β → Plan κ ρ α) (scope : Scope) :
    (p.andThen next).run act t scope = (p.run act t scope).attempt >>= fun answer => (next answer).run act t scope := by
  induction p with
  | done answer =>
    have h : ((done answer : Plan κ ρ _).run act t scope).attempt = pure (.ok answer) := rfl
    rw [h, pure_bind]
    rfl
  | stop halt =>
    cases halt with
    | failed e =>
      rw [run, andThen]
      rfl
    | outOfTime => rfl
  | deed d k ih =>
    rw [andThen, run, run, Work.attempt_bind, bind_assoc]
    exact congrArg _ (funext fun answer => ih answer next)
  | within inner k _ ih =>
    rw [andThen, run, run, Work.attempt_bind, bind_assoc]
    exact congrArg _ (funext fun answer => ih answer next)

/-- Goes on with an answer. -/
def bind (p : Plan κ ρ β) (f : β → Plan κ ρ α) : Plan κ ρ α :=
  p.andThen fun
    | .ok answer => f answer
    | .error e => .stop (.failed e)

theorem run_bind (p : Plan κ ρ β) (f : β → Plan κ ρ α) (scope : Scope) :
    (p.bind f).run act t scope = p.run act t scope >>= fun answer => (f answer).run act t scope := by
  have hnext (x : Except Error β) :
      (match x with | .ok answer => f answer | .error e => .stop (.failed e) : Plan κ ρ α).run act t scope =
        Work.ofExcept x >>= fun answer => (f answer).run act t scope := by cases x <;> rfl
  calc (p.bind f).run act t scope
      = (p.run act t scope).attempt >>= fun x => Work.ofExcept x >>= fun answer => (f answer).run act t scope := by
        rw [bind, run_andThen]
        exact congrArg _ (funext hnext)
    _ = ((p.run act t scope).attempt >>= Work.ofExcept) >>= fun answer => (f answer).run act t scope :=
        (bind_assoc _ _ _).symm
    _ = p.run act t scope >>= fun answer => (f answer).run act t scope := by rw [Work.attempt_bind_ofExcept]

/-- In a scope with a transaction a plan runs as its inlined form, also where transactions are begun and ended
differently: it begins and ends none. -/
theorem run_of_bound {scope : Scope} {tx : Handle} (h : scope.tx = some tx) (p : Plan κ ρ α) :
    p.run act u scope = p.inline.run act t scope := by
  induction p with
  | done answer => rfl
  | stop halt => rfl
  | deed d next ih =>
    rw [run, inline, run]
    exact congrArg _ (funext ih)
  | within inner next hinner ih =>
    rw [run, inline, run_andThen, u.within_of_bound h, hinner]
    exact congrArg _ (funext ih)

variable {act}

/-- What the deeds keep in a scope with a transaction, a plan keeps. -/
theorem keeps_run {R : σ → σ → Prop} [IsPreorder σ R] {scope : Scope} {tx : Handle} (h : scope.tx = some tx)
    (hact : ∀ d, Keeps R (act d scope)) (p : Plan κ ρ α) : Keeps R (p.run act t scope) := by
  induction p with
  | done answer => exact keeps_pure answer
  | stop halt => exact keeps_throw halt
  | deed d next ih => exact (Work.keeps_attempt (hact d)).bind ih
  | within inner next hinner ih =>
    rw [run, t.within_of_bound h]
    exact (Work.keeps_attempt hinner).bind ih

end Plan

/-! ## In a transaction of its own -/

namespace Transactions

variable {σ α : Type} {v w : Scope → Work σ α}

/-- Work that runs alike in every transaction runs alike in one of its own. -/
theorem within_congr (t : Transactions σ) (h : ∀ tx deadline, v ⟨some tx, deadline⟩ = w ⟨some tx, deadline⟩)
    (scope : Scope) : t.within scope v = t.within scope w := by
  obtain ⟨_ | tx, deadline⟩ := scope
  · have hrun : t.run v = t.run w := by
      funext s
      unfold Transactions.run
      simp only [h]
    exact congrArg Work.ofAction hrun
  · exact h tx deadline

end Transactions

/-! ## Units of work as plans -/

namespace UnitOfWork

/-- What a unit of work does on its own state and its record. -/
inductive Deed where
  | call (call : PostCall)
  | isBound
  | pause (time : Nat)
  /-- Records how a step ended, and goes on after a failure that is handled. -/
  | record (handled : Bool) (answer : Except Error Outcome)

variable {σ : Type}

def Deed.act (setting : Setting σ) : Deed → Scope → Work (Recorded σ) Outcome
  | call c, scope => unrecorded (.call <$> .ofAction (c.run setting.store scope.tx))
  | isBound, scope => pure (.isBound scope.tx.isSome)
  | pause time, scope => unrecorded ((fun _ => .paused time) <$> setting.pause scope.deadline time)
  | record handled answer, _ => recorded handled (.ofExcept answer)

/-- Ends with an answer or a failure. -/
def conclude {α : Type} : Except Error α → Plan Deed Outcome α
  | .ok answer => .done answer
  | .error e => .stop (.failed e)

mutual

/-- A step as a plan. -/
def stepPlan : Step → Plan Deed Outcome Outcome
  | .call call handled => .deed (.call call) fun answer => .deed (.record handled answer) conclude
  | .isBound => .deed .isBound fun answer => .deed (.record false answer) conclude
  | .fail e handled => .deed (.record handled (.error e)) conclude
  | .pause time => .deed (.pause time) fun answer => .deed (.record false answer) conclude
  | .nested steps handled =>
    .within (plan steps) fun answer => .deed (.record handled (answer.map .nested)) conclude

/-- The steps of a unit of work as a plan. -/
def plan : List Step → Plan Deed Outcome (List Outcome)
  | [] => .done []
  | step :: steps => (stepPlan step).bind fun answer => (plan steps).bind fun answers => .done (answer :: answers)

end

/-- Runs a plan of a unit of work in a scope: its answers, the record, and the state afterwards. -/
def runPlan (setting : Setting σ) (scope : Scope) (p : Plan Deed Outcome (List Outcome)) (s : σ) :
    Except Halt (List Outcome) × List Entry × σ :=
  match (withRecord setting.transactions).within scope (p.run (Deed.act setting) (withRecord setting.transactions))
      (s, []) with
  | (answer, s, entries) => (answer, entries.reverse, s)

theorem run_conclude {α : Type} (setting : Setting σ) (t : Transactions (Recorded σ)) (scope : Scope)
    (x : Except Error α) : (conclude x).run (Deed.act setting) t scope = .ofExcept x := by
  cases x <;> rfl

/-- How a step ends is recorded after the step. -/
theorem recorded_eq (handled : Bool) (w : Work (Recorded σ) Outcome) :
    recorded handled w = w.attempt >>= fun answer => recorded handled (.ofExcept answer) := by
  funext r
  rcases h : w r with ⟨(e | _) | answer, s, entries⟩
  · rw [Action.bind_of_ok (Work.attempt_of_failed h), recorded, h]
    rfl
  · rw [Action.bind_of_error (Work.attempt_of_outOfTime h), recorded, h]
  · rw [Action.bind_of_ok (Work.attempt_of_ok h), recorded, h]
    rfl

theorem run_record (setting : Setting σ) (t : Transactions (Recorded σ)) (scope : Scope) (handled : Bool)
    (answer : Except Error Outcome) :
    (Plan.deed (.record handled answer) conclude).run (Deed.act setting) t scope =
      recorded handled (.ofExcept answer) := by
  rw [Plan.run]
  simp only [run_conclude]
  exact Work.attempt_bind_ofExcept _

mutual

/-- A step runs as its plan, with and without a transaction. -/
theorem runStep_eq_plan (setting : Setting σ) (scope : Scope) :
    ∀ step : Step, runStep setting scope step =
      (stepPlan step).run (Deed.act setting) (withRecord setting.transactions) scope
  | .call call handled => by
    rw [runStep, stepPlan, Plan.run, recorded_eq]
    exact congrArg _ (funext fun answer => (run_record setting _ scope handled answer).symm)
  | .isBound => by
    rw [runStep, stepPlan, Plan.run, recorded_eq]
    exact congrArg _ (funext fun answer => (run_record setting _ scope false answer).symm)
  | .fail e handled => by
    rw [runStep, stepPlan, run_record]
    rfl
  | .pause time => by
    rw [runStep, stepPlan, Plan.run, recorded_eq]
    exact congrArg _ (funext fun answer => (run_record setting _ scope false answer).symm)
  | .nested steps handled => by
    have hinner : (fun scope => runSteps setting scope steps) =
        (plan steps).run (Deed.act setting) (withRecord setting.transactions) :=
      funext fun scope => runSteps_eq_plan setting scope steps
    rw [runStep, stepPlan, Plan.run, recorded_eq, Work.attempt_map, bind_map_left, hinner]
    exact congrArg _ (funext fun answer => (run_record setting _ scope handled _).symm)

/-- Steps run as their plan, with and without a transaction. -/
theorem runSteps_eq_plan (setting : Setting σ) (scope : Scope) :
    ∀ steps : List Step, runSteps setting scope steps =
      (plan steps).run (Deed.act setting) (withRecord setting.transactions) scope
  | [] => rfl
  | step :: steps => by
    rw [runSteps, plan, Plan.run_bind, runStep_eq_plan setting scope step]
    refine congrArg _ (funext fun answer => ?_)
    rw [Plan.run_bind, runSteps_eq_plan setting scope steps]
    rfl

end

/-- A unit of work runs as its plan. -/
theorem run_eq_plan (setting : Setting σ) (scope : Scope) (steps : List Step) (s : σ) :
    run setting scope steps s = runPlan setting scope (plan steps) s := by
  have hsteps : (fun scope => runSteps setting scope steps) =
      (plan steps).run (Deed.act setting) (withRecord setting.transactions) :=
    funext fun scope => runSteps_eq_plan setting scope steps
  unfold run runPlan
  rw [hsteps]
  rfl

end UnitOfWork

end Forum
