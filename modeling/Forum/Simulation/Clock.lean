import Forum.Simulation.Subscribers

/-!
# The clock of the simulation

The clock moves to a time in steps: whenever a timer is due on the way, the clock stops there and what is due happens.
After everything that happens the subscribers work until there is nothing left for them to do.
-/

namespace Forum.Simulation.World

/-- What is due happens. -/
def happen (w : World) : Event → World
  | .expiry durable seq count => w.expire durable seq count
  | .rejoin subscriber task => w.rejoin subscriber task

/-- How many things happen at most before a move of the clock is broken off. -/
def patience : Nat := 1000000

/-- Lets the subscribers work until they are idle, in no more rounds than given. -/
def workFor : Nat → World → World
  | 0, w => w
  | n + 1, w =>
    match serveAll w.allTasks w with
    | (true, w) => workFor n w
    | (false, w) => w

/-- Lets the subscribers work until they are idle. -/
def work (w : World) : World := workFor patience w

/-- Lets happen what is due until a time, in no more steps than given. -/
def advanceFor : Nat → Nat → World → World
  | 0, _, w => w
  | n + 1, time, w =>
    match w.agenda.next? time with
    | none => { w with now := max w.now time }
    | some (timer, agenda) =>
      advanceFor n time (work ({ w with now := max w.now timer.due, agenda := agenda }.happen timer.event))

/-- Moves the clock to a time, unless it is later already. -/
def advanceTo (w : World) (time : Nat) : World := advanceFor patience time w

/-- Lets everything happen that is due now. -/
def rest (w : World) : World := w.work.advanceTo w.now

/-- Waits for some milliseconds, but not beyond a deadline. -/
def pause (deadline : Option Nat) (time : Nat) : Work World Unit := fun w =>
  match deadline with
  | some d => if d < w.now + time then (.error .outOfTime, w.advanceTo d) else (.ok (), w.advanceTo (w.now + time))
  | none => (.ok (), w.advanceTo (w.now + time))

/-- What units of work run on in the simulation. -/
def setting : UnitOfWork.Setting World := ⟨postStore, postTransactions, pause⟩

end Forum.Simulation.World
