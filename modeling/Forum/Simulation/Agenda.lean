/-!
# The agenda

What is to happen later, by the time at which it is due. What is due at the same time happens in the order in which it
was put on the agenda.
-/

namespace Forum.Simulation

/-- What happens at its time. -/
inductive Event where
  /-- The time of a delivery is over. -/
  | expiry (durable : String) (seq count : Nat)
  /-- A subscriber tries to subscribe to one of its subjects again. -/
  | rejoin (subscriber task : Nat)
deriving DecidableEq, Repr

structure Timer where
  due : Nat
  event : Event
deriving DecidableEq, Repr

/-- Timers in the order in which they go off. -/
abbrev Agenda := List Timer

/-- Puts a timer behind all that go off before it or together with it. -/
def Agenda.schedule (t : Timer) : Agenda → Agenda
  | [] => [t]
  | u :: us => if t.due < u.due then t :: u :: us else u :: schedule t us

/-- The next timer that goes off until a time, and the timers after it. -/
def Agenda.next? (time : Nat) : Agenda → Option (Timer × Agenda)
  | [] => none
  | t :: ts => if t.due ≤ time then some (t, ts) else none

end Forum.Simulation
