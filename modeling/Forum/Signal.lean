/-!
# Signals

The replicator runs until it is told to stop.
-/

namespace Forum

/-- What tells the replicator to stop. -/
inductive Signal where
  | interrupt
  | terminate
deriving DecidableEq, Repr

namespace Signal

def all : List Signal := [interrupt, terminate]

/-- The name under which the signal is logged. -/
def name : Signal → String
  | interrupt => "SIGINT"
  | terminate => "SIGTERM"

end Signal

end Forum
