import Forum.Codec
import Forum.Environment.File
import Forum.Event
import Forum.Text.Quoted

/-!
# Settings

What the replicator is told at its start: where the database and the message servers are, how it takes part in a queue
group, and how it logs. Durations are whole seconds.
-/

namespace Forum

open Text

/-- The database of the comments service. -/
structure DatabaseSettings where
  url : String
  /-- The largest number of open connections. -/
  poolSize : UInt32
  /-- How many connections are kept open while idle. -/
  minIdle : UInt32
  connectTimeout : UInt64
  /-- How long a unit of work may take, if that is bounded. -/
  transactionTimeout : Option UInt64
deriving DecidableEq, Repr

/-- The servers that messages go through. -/
structure MessagingSettings where
  /-- The servers, in the order in which they are tried. -/
  urls : List String
  /-- Names the stream that keeps the messages. -/
  cluster : String
  /-- The name under which the replicator is known to a server. -/
  client : String
  connectTimeout : UInt64
deriving DecidableEq, Repr

/-- How the replicator takes messages. -/
structure ReplicationSettings where
  group : String
  /-- How long a message may stay unacknowledged. -/
  ackWait : UInt64
  /-- At which delivery a message that cannot be applied is given up. -/
  maxDeliver : UInt32
  deadLetter : String
  /-- The name of the codec. -/
  codec : String
deriving DecidableEq, Repr

structure LoggingSettings where
  level : String
  /-- Lines are JSON. -/
  json : Bool
deriving DecidableEq, Repr

/-- All that the replicator is told. -/
structure Settings where
  database : DatabaseSettings
  messaging : MessagingSettings
  replication : ReplicationSettings
  logging : LoggingSettings
deriving DecidableEq, Repr

/-- The group, the wait, the number of deliveries, the dead letters and the codec, where nothing is said of them. -/
def ReplicationSettings.default : ReplicationSettings := ⟨"posts", 60, 5, Subject.deadLetter, Codec.name .binary⟩

/-! ## Errors -/

/-- What is wrong with the address of a database. -/
inductive AddressFault where
  | empty
  /-- The address starts with neither of the two schemes. -/
  | scheme (url : String)
  /-- The address names a host without a port number. -/
  | noPort (url : String)
  | badPort (digits : String)
deriving DecidableEq, Repr

/-- Which rule settings break. -/
inductive Violation where
  | emptyPool
  | idleAbovePool (minIdle poolSize : UInt32)
  | noTransactionTime
  | noServers
  | serverScheme (url : String)
  | serverPort (url : String)
  | blankGroup
  | noAckWait
  | noDeliveries
  | blankDeadLetter
  | unknownCodec (name : String)
deriving DecidableEq, Repr

/-- Why there are no settings to start with. -/
inductive SettingsError where
  /-- A variable that is needed is absent or blank. -/
  | missing (name : String)
  /-- A variable does not have a value of its kind. -/
  | badValue (name value : String)
  /-- The environment file is not read. -/
  | file (path : String) (fault : Environment.FileFault)
  | violated (rule : Violation)
  | address (fault : AddressFault)
deriving DecidableEq, Repr

namespace AddressFault

def message : AddressFault → String
  | empty => "Database URL cannot be empty"
  | scheme url => s!"Database URL must start with postgres:// or postgresql://, got: {url}"
  | noPort url => s!"Database URL must include port for network connections, got: {url}"
  | badPort digits => s!"Invalid port in database URL: {digits}"

end AddressFault

namespace Violation

/-- The names of the codecs, quoted, in brackets. -/
def codecNames : String := "[" ++ String.intercalate ", " ([Codec.binary, .json].map fun c => quoted c.name) ++ "]"

def message : Violation → String
  | emptyPool => "Database pool size must be greater than 0"
  | idleAbovePool minIdle poolSize =>
    s!"Min idle connections ({Decimal.text minIdle.toNat}) cannot be greater than pool size " ++
      s!"({Decimal.text poolSize.toNat})"
  | noTransactionTime => "Transaction timeout must be at least one second"
  | noServers => "NATS URLs cannot be empty"
  | serverScheme url => s!"NATS URL must start with nats:// or tls://, got: {url}"
  | serverPort url => s!"NATS URL must include port (e.g., nats://host:4222), got: {url}"
  | blankGroup => "Queue group cannot be empty"
  | noAckWait => "Ack wait must be at least one second"
  | noDeliveries => "Max deliver must be at least 1"
  | blankDeadLetter => "Dead letter subject cannot be empty"
  | unknownCodec name => s!"Unknown event codec '{name}', expected one of {codecNames}"

end Violation

namespace SettingsError

def message : SettingsError → String
  | missing name => s!"Missing required configuration: {name}"
  | badValue name value => s!"Invalid value for {name}: {value}"
  | file path fault => s!"Failed to load .env file from {path}: {fault.message}"
  | violated rule => s!"Configuration validation failed: {rule.message}"
  | address fault => s!"Invalid database URL format: {fault.message}"

/-- The messages of the errors behind this one, nearest first. -/
def causes : SettingsError → List String
  | file _ fault => fault.message :: fault.causes
  | _ => []

end SettingsError

end Forum
