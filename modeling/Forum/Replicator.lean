import Forum.CommandLine
import Forum.Database.Pool
import Forum.Database.Stores
import Forum.JetStream
import Forum.Replication.Subscriber
import Forum.Report

/-!
# The replicator

The program that keeps the replica of the comments service up to date. It reads its settings, opens the database, makes
the tables if it is told to, connects to the message servers and subscribes to the subjects of posts. Then it handles
what arrives, until it is told to stop.
-/

namespace Forum.Replicator

open Database Replication

/-- What the program finds around it, as operations on a state. -/
structure Host (σ : Type) where
  /-- Connects to a database. -/
  database : Connector
  /-- The session with the database. -/
  session : Part σ Session
  /-- Connects to the message servers and makes the stream, unless there is one. -/
  connect : JetStream.Connection → JetStream.StreamConfig → BrokerAction σ Unit
  /-- Joins a consumer, which is made if there is none. -/
  subscribe : JetStream.ConsumerConfig → BrokerAction σ Unit
  send : Sender σ
  /-- What arrives until the program is told to stop. -/
  arrivals : σ → List (JetStream.Message × Settlement σ)

/-- Why the program ends before it handles anything. -/
inductive Fault where
  | settings (error : SettingsError)
  | pool (fault : PoolFault)
  | schema (fault : StoreFault)
  | messaging (error : BrokerError)
  | codec (name : String)
  | subscriber (error : BrokerError)
deriving DecidableEq, Repr

namespace Fault

def message : Fault → String
  | settings e => e.message
  | pool _ => "Failed to open the comments database"
  | schema _ => "Failed to bootstrap the comments schema"
  | messaging _ => "Failed to connect to NATS"
  | codec name => Codec.unknownMessage name
  | subscriber _ => "Failed to start the replication subscriber"

/-- The messages of the errors behind this one, nearest first. -/
def causes : Fault → List String
  | settings e => e.causes
  | pool f => [f.message]
  | schema (.database f) => f.message :: f.causes
  | schema .transactionOver => [StoreFault.transactionOver.message]
  | messaging e => [e.message]
  | codec _ => []
  | subscriber e => [e.message]

end Fault

variable {σ : Type}

/-- A step of the start that may end the program. -/
abbrev Start (σ α : Type) : Type := ExceptT Fault (StateM σ) α

/-- A request to the message servers as a step of the start. -/
def ofBroker {α : Type} (fault : BrokerError → Fault) (a : BrokerAction σ α) : Start σ α := fun s =>
  match a s with
  | (.ok a, s) => (.ok a, s)
  | (.error e, s) => (.error (fault e), s)

/-- Opens the database. -/
def openDatabase (h : Host σ) (s : DatabaseSettings) : Start σ Unit := fun state =>
  match openPool h.database s with
  | .ok session => (.ok (), h.session.put session state)
  | .error f => (.error (.pool f), state)

/-- Makes the tables. -/
def bootstrap (h : Host σ) : Start σ Unit := fun state =>
  match createCommentsTables (h.session.get state) with
  | (.ok _, session) => (.ok (), h.session.put session state)
  | (.error e, session) => (.error (.schema e), h.session.put session state)

/-- What handles the messages. -/
def subscriber (h : Host σ) (s : ReplicationSettings) (codec : Codec) : Subscriber σ :=
  ⟨.ofSettings s, ⟨h.session.replica (replicaStore none), codec⟩, h.send⟩

/-- Gets everything ready for the messages. -/
def start (h : Host σ) (s : Settings) (migrate : Bool) : Start σ (Subscriber σ) := do
  openDatabase h s.database
  if migrate then bootstrap h
  ofBroker .messaging (h.connect (.ofSettings s.messaging) (.ofSettings s.messaging s.replication.deadLetter))
  match Codec.ofName? s.replication.codec with
  | none => throw (.codec s.replication.codec)
  | some codec =>
    let r := subscriber h s.replication codec
    Subject.posts.forM fun subject =>
      ofBroker .subscriber (h.subscribe (.ofOptions subject (r.settings.options subject)))
    pure r

/-- Handles messages one after the other. -/
def handle (r : Subscriber σ) : List (JetStream.Message × Settlement σ) → σ → σ
  | [], state => state
  | (m, settle) :: ms, state => handle r ms (r.process m.delivery settle state).2

/-- What a run of the program leaves behind. -/
structure Exit where
  code : Nat
  stdout : String
  stderr : String
deriving DecidableEq, Repr

/-- Nothing is said. -/
def Exit.quiet : Exit := ⟨0, "", ""⟩

/-- An end with a report of what went wrong. -/
def Exit.ofFault (f : Fault) : Exit := ⟨1, "", Report.text f.message f.causes⟩

/-- Runs with settings until the program is told to stop. -/
def runWith (h : Host σ) (s : Settings) (migrate : Bool) (state : σ) : Exit × σ :=
  match start h s migrate state with
  | (.ok r, state) => (.quiet, handle r (h.arrivals state) state)
  | (.error f, state) => (.ofFault f, state)

/-- Runs the program with arguments, in an environment, with the files that it finds. -/
def run (h : Host σ) (args : List String) (e : Environment) (files : Files) (state : σ) : Exit × σ :=
  match CommandLine.parse e.get? args with
  | .error fault => (⟨2, "", fault.report.text e⟩, state)
  | .ok .help => (⟨0, (CommandLine.helpText e.get?).text e, ""⟩, state)
  | .ok .version => (⟨0, CommandLine.versionText.text e, ""⟩, state)
  | .ok (.run o) =>
    match Settings.load e files o.environmentFile with
    | .error error => (.ofFault (.settings error), state)
    | .ok s => runWith h s o.migrate state

end Forum.Replicator
