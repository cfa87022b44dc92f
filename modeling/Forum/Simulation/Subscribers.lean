import Forum.Simulation.World

/-!
# Subscribers in the simulation

A subscriber serves each of the three subjects by a task of its own. A task handles what arrives in its stream. When the
stream has ended it waits and subscribes again, waits longer when that fails, and so on; it stops only with its
subscriber.
-/

namespace Forum.Simulation

open Memory Replication

namespace World

/-- A task of a subscriber. -/
def task? (w : World) (subscriber task : Nat) : Option (SubscriberSettings × Task) := do
  let r ← w.subscribers[subscriber]?
  let t ← r.tasks[task]?
  pure (r.settings, t)

/-- Changes a task of a subscriber. -/
def changeTask (w : World) (subscriber task : Nat) (f : Task → Task) : World :=
  { w with subscribers := w.subscribers.modify subscriber fun r => { r with tasks := r.tasks.modify task f } }

/-! ## Starting and stopping -/

/-- Subscribes to subjects one after the other. Where one is refused, all streams are let go. -/
def subscribeAll (settings : SubscriberSettings) : List String → BrokerAction World (List Task)
  | [], w => (.ok [], w)
  | subject :: subjects, w =>
    match subscribe subject (settings.options subject) w with
    | (.error e, w) => (.error e, w)
    | (.ok member, w) =>
      match subscribeAll settings subjects w with
      | (.error e, w) => (.error e, w.dropStream member)
      | (.ok tasks, w) => (.ok (⟨subject, member, .receiving⟩ :: tasks), w)

/-- Starts a subscriber and tells its number. -/
def startSubscriber (settings : SubscriberSettings) : BrokerAction World Nat := fun w =>
  match subscribeAll settings Subject.posts w with
  | (.error e, w) => (.error e, w)
  | (.ok tasks, w) => (.ok w.subscribers.length, { w with subscribers := w.subscribers ++ [⟨settings, tasks⟩] })

/-- The subscriber has a task that is not stopped. -/
def isRunning (w : World) (subscriber : Nat) : Bool :=
  (w.subscribers[subscriber]?).any fun r => r.tasks.any fun t => t.phase ≠ .stopped

/-- Stops all tasks of a subscriber. -/
def stopSubscriber (w : World) (subscriber : Nat) : World :=
  match w.subscribers[subscriber]? with
  | none => w
  | some r =>
    let w := r.tasks.foldl (fun w t => w.dropStream t.member) w
    let r := { r with tasks := r.tasks.map fun t => { t with phase := .stopped } }
    { w with subscribers := w.subscribers.set subscriber r }

/-! ## Handling what arrived -/

/-- Handles deliveries one after the other. -/
def handle (settings : SubscriberSettings) : List HandOut → World → World
  | [], w => w
  | h :: hs, w => handle settings hs ((w.subscriber settings).process h.delivery (settlement h) w).2

/-- A task goes on with subscribing again: it sets the timer for the next attempt, or takes its new stream. -/
def proceed (w : World) (subscriber task : Nat) (r : Resubscription Nat) : World :=
  match r.stage with
  | .waiting delay =>
    let w := w.changeTask subscriber task fun t => { t with phase := .resubscribing r }
    { w with agenda := w.agenda.schedule ⟨w.now + delay, .rejoin subscriber task⟩ }
  | .asking _ => w
  | .restored member => w.changeTask subscriber task fun t => { t with member := member, phase := .receiving }
  | .stopped => w.changeTask subscriber task fun t => { t with phase := .stopped }

/-- Lets a task handle what is in its stream, or notice that its stream has ended. Tells whether there was something to
do. -/
def serve (w : World) (subscriber task : Nat) : Bool × World :=
  match w.task? subscriber task with
  | some (settings, ⟨subject, member, .receiving⟩) =>
    match w.stream? member with
    | none => (false, w)
    | some s =>
      if s.inbox.isEmpty && s.faults.isEmpty then
        if w.isOver member then (true, w.proceed subscriber task (.start settings subject none)) else (false, w)
      else (true, handle settings s.inbox (w.changeStream member fun s => { s with inbox := [], faults := [] }))
  | _ => (false, w)

/-- All tasks, by the number of their subscriber and their own. -/
def allTasks (w : World) : List (Nat × Nat) :=
  w.subscribers.zipIdx.flatMap fun (r, i) => (List.range r.tasks.length).map fun j => (i, j)

/-- Lets tasks do what there is to do, each in its turn. -/
def serveAll : List (Nat × Nat) → World → Bool × World
  | [], w => (false, w)
  | (i, j) :: tasks, w =>
    let (busy, w) := w.serve i j
    let (busy', w) := serveAll tasks w
    (busy || busy', w)

/-- A task that waits tries to subscribe. -/
def rejoin (w : World) (subscriber task : Nat) : World :=
  match w.task? subscriber task with
  | some (_, ⟨_, member, .resubscribing r⟩) =>
    let (answer, w) := subscribe r.petition.subject r.petition.options w
    let w := if answer.isOk then w.dropStream member else w
    w.proceed subscriber task ((r.step .waited).step (.answered answer))
  | _ => w

end World

end Forum.Simulation
