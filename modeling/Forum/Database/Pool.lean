import Forum.Database.Address
import Forum.Database.Session
import Forum.Settings
import Forum.Text.Blank

/-!
# Pools

How connections to the database are kept, and how a pool is opened. Durations are whole seconds.
-/

namespace Forum.Database

/-- The bounds of a pool. -/
structure PoolSettings where
  maxConnections : UInt32
  minConnections : UInt32
  connectTimeout : UInt64
  idleTimeout : UInt64
  maxLifetime : UInt64
  transactionTimeout : Option UInt64
deriving DecidableEq, Repr

/-- The pool that the settings of a database ask for. -/
def PoolSettings.ofSettings (s : DatabaseSettings) : PoolSettings :=
  ⟨s.poolSize, s.minIdle, s.connectTimeout, 600, 1800, s.transactionTimeout⟩

/-- Why there is no pool. -/
inductive PoolFault where
  | noUrl
  | notConnected (fault : Fault)
deriving DecidableEq, Repr

def PoolFault.message : PoolFault → String
  | noUrl => "Missing database URL"
  | notConnected fault => s!"Failed to connect to database: {fault.message}"

/-- What connecting to a database leads to. -/
abbrev Connector := DatabaseSettings → Except Fault Session

/-- Opens a pool. The address is checked before anything is connected. -/
def openPool (connect : Connector) (s : DatabaseSettings) : Except PoolFault Session :=
  if Text.isBlankText s.url then .error .noUrl
  else
    match checkAddress s.url with
    | .error fault => .error (.notConnected (.badAddress fault.message))
    | .ok _ => (connect s).mapError .notConnected

end Forum.Database
