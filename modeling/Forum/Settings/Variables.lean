import Forum.Settings.Rules

/-!
# Settings from variables

Every setting has a variable. The two addresses have to be given; of the others, one that is absent has a default, and
one that is present has to have a value of its kind. Numbers and words are read without the blanks around them.
-/

namespace Forum

open Text

namespace Variable

def databaseUrl : String := "AGORA_DATABASE_URL"

def poolSize : String := "AGORA_DB_POOL_SIZE"

def minIdle : String := "AGORA_DB_MIN_IDLE"

def databaseTimeout : String := "AGORA_DB_CONNECT_TIMEOUT_SECS"

def transactionTimeout : String := "AGORA_TX_TIMEOUT_SECS"

def messagingUrls : String := "AGORA_NATS_URL"

def cluster : String := "AGORA_NATS_CLUSTER_ID"

def client : String := "AGORA_NATS_CLIENT_ID"

def messagingTimeout : String := "AGORA_NATS_CONNECT_TIMEOUT_SECS"

def group : String := "AGORA_QUEUE_GROUP"

def ackWait : String := "AGORA_ACK_WAIT_SECS"

def maxDeliver : String := "AGORA_MAX_DELIVER"

def deadLetter : String := "AGORA_DEAD_LETTER_SUBJECT"

def codec : String := "AGORA_EVENT_CODEC"

def logLevel : String := "RUST_LOG"

def logJson : String := "AGORA_LOG_JSON"

/-- Names the environment file. -/
def environmentFile : String := "AGORA_ENV_FILE"

end Variable

/-- A source of variables: the value of each that is present. -/
abbrev Lookup := String → Option String

namespace Lookup

/-- A variable that has to be present and not blank. -/
def required (vars : Lookup) (name : String) : Except SettingsError String :=
  match (vars name).filter fun value => !isBlankText value with
  | some value => .ok value
  | none => .error (.missing name)

/-- A number below a bound, if the variable is present. -/
def number? (vars : Lookup) (bound : Nat) (name : String) : Except SettingsError (Option Nat) :=
  match vars name with
  | none => .ok none
  | some value =>
    match Decimal.parseBelow bound (trim value.toList) with
    | some n => .ok (some n)
    | none => .error (.badValue name value)

/-- A number of 32 bits. -/
def word32 (vars : Lookup) (name : String) (default : UInt32) : Except SettingsError UInt32 := do
  .ok (((← vars.number? UInt32.size name).map UInt32.ofNat).getD default)

/-- A number of 64 bits. -/
def word64 (vars : Lookup) (name : String) (default : UInt64) : Except SettingsError UInt64 := do
  .ok (((← vars.number? UInt64.size name).map UInt64.ofNat).getD default)

/-- A switch, off where the variable is absent. -/
def switch (vars : Lookup) (name : String) : Except SettingsError Bool :=
  match (vars name).map trimmed with
  | none => .ok false
  | some word =>
    if word = "" ∨ word = "0" ∨ word = "false" then .ok false
    else if word = "1" ∨ word = "true" then .ok true
    else .error (.badValue name word)

/-- The items of a list with commas between them, without blanks around them and without empty ones. -/
def items (value : String) : List String :=
  ((pieces ',' value.toList).map fun item => String.ofList (trim item)).filter fun item => !item.isEmpty

end Lookup

def DatabaseSettings.ofVariables (vars : Lookup) : Except SettingsError DatabaseSettings := do
  let url ← vars.required Variable.databaseUrl
  let poolSize ← vars.word32 Variable.poolSize 10
  let minIdle ← vars.word32 Variable.minIdle 1
  let connectTimeout ← vars.word64 Variable.databaseTimeout 30
  let transactionTimeout ← vars.number? UInt64.size Variable.transactionTimeout
  .ok ⟨url, poolSize, minIdle, connectTimeout, transactionTimeout.map UInt64.ofNat⟩

def MessagingSettings.ofVariables (vars : Lookup) : Except SettingsError MessagingSettings := do
  let urls ← vars.required Variable.messagingUrls
  let connectTimeout ← vars.word64 Variable.messagingTimeout 5
  .ok ⟨Lookup.items urls, (vars Variable.cluster).getD "social-network",
    (vars Variable.client).getD "comments-api", connectTimeout⟩

def ReplicationSettings.ofVariables (vars : Lookup) : Except SettingsError ReplicationSettings := do
  let ackWait ← vars.word64 Variable.ackWait default.ackWait
  let maxDeliver ← vars.word32 Variable.maxDeliver default.maxDeliver
  .ok ⟨(vars Variable.group).getD default.group, ackWait, maxDeliver,
    (vars Variable.deadLetter).getD default.deadLetter, ((vars Variable.codec).map lowerAscii).getD default.codec⟩
where
  /-- ASCII letters in lower case. -/
  lowerAscii (s : String) : String := String.ofList (s.toList.map Char.toLower)

def LoggingSettings.ofVariables (vars : Lookup) : Except SettingsError LoggingSettings := do
  let json ← vars.switch Variable.logJson
  .ok ⟨(vars Variable.logLevel).getD "info", json⟩

/-- The settings that variables give, read part by part. -/
def Settings.ofVariables (vars : Lookup) : Except SettingsError Settings := do
  let database ← DatabaseSettings.ofVariables vars
  let messaging ← MessagingSettings.ofVariables vars
  let replication ← ReplicationSettings.ofVariables vars
  let logging ← LoggingSettings.ofVariables vars
  .ok ⟨database, messaging, replication, logging⟩

/-- What there is under the name of a file: its octets, or why they cannot be read. -/
abbrev Files := String → Option (Except String (List UInt8))

/-- Why a folder cannot be read. -/
def Files.isFolder : String := "Is a directory (os error 21)"

/-- The environment with what a file adds to it. -/
def Environment.withFile (e : Environment) (files : Files) (path : String) : Except FileFault Environment :=
  match files path with
  | none => .error (.missing path)
  | some (.error reason) => .error (.unreadable reason)
  | some (.ok octets) => e.loadFile octets

/-- The settings that the environment and the file that may be named give, if they keep the rules. -/
def Settings.load (e : Environment) (files : Files) (path : Option String) : Except SettingsError Settings := do
  let e ← (match path with
    | none => .ok e
    | some path => (e.withFile files path).mapError (.file path))
  let settings ← Settings.ofVariables e.get?
  settings.check
  .ok settings

end Forum
