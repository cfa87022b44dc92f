import Forum.Simulation.World

/-!
# Probes

A subscriber handles a delivery that no broker made. How the delivery is settled is counted.
-/

namespace Forum.Simulation

open Replication

/-- How often a delivery was acknowledged and given up, failed calls included. -/
structure Tally where
  acks : Nat
  terms : Nat
deriving DecidableEq, Repr

namespace Tally

/-- Calls that are counted, and fail where they are told to. -/
def settlement (failAck failTerm : Bool) : Settlement (Tally × World) where
  ack := fun (t, w) =>
    (if failAck then .error (.ack "injected ack failure") else .ok (), { t with acks := t.acks + 1 }, w)
  term := fun (t, w) => (if failTerm then .error .closed else .ok (), { t with terms := t.terms + 1 }, w)

/-- The world beside the count. -/
def world : Part (Tally × World) World := ⟨Prod.snd, fun w s => (s.1, w)⟩

/-- A request to the world as one to both. -/
def liftBroker {α : Type} (a : BrokerAction World α) : BrokerAction (Tally × World) α := fun (t, w) =>
  let (answer, w) := a w
  (answer, t, w)

end Tally

/-- Lets a subscriber with the given settings handle a delivery. -/
def World.probe (w : World) (settings : SubscriberSettings) (d : Delivery) (failAck failTerm : Bool) :
    Outcome × Tally × World :=
  let subscriber : Subscriber (Tally × World) :=
    ⟨settings, ⟨Tally.world.replica World.replicaStore, w.codec⟩,
      fun subject headers payload => Tally.liftBroker (World.publish subject headers payload)⟩
  subscriber.process d (Tally.settlement failAck failTerm) (⟨0, 0⟩, w)

end Forum.Simulation
