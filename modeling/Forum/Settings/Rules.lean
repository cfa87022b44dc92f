import Forum.Settings
import Forum.Text.Cut

/-!
# The rules of settings

Settings are checked part by part, and the first rule that is broken is reported. The address of a database names a host
and a port number, or no host; the address of a message server has a colon somewhere behind its scheme.
-/

namespace Forum

open Text

/-! ## Addresses -/

namespace AddressFault

/-- What stands behind the scheme of a database's address. -/
def afterScheme? (url : List Char) : Option (List Char) :=
  (after? "postgres://".toList url).or (after? "postgresql://".toList url)

end AddressFault

namespace DatabaseSettings

/-- Port numbers are below this bound. -/
def portBound : Nat := 65536

/-- The address of a database has one of two schemes. A slash behind what may be a user's name and password starts the
address of a local socket; else the host ends with a colon and a port number. -/
def checkUrl (url : String) : Except AddressFault Unit :=
  if url.isEmpty then .error .empty
  else match AddressFault.afterScheme? url.toList with
    | none => .error (.scheme url)
    | some rest =>
      let host := behindLast '@' rest
      if host.head? = some '/' then .ok ()
      else
        let authority := host.takeWhile (· != '/')
        if authority.contains ':' then
          let digits := behindLast ':' authority
          if (Decimal.parseBelow portBound digits).isSome then .ok () else .error (.badPort (String.ofList digits))
        else .error (.noPort url)

/-- A pool has room for a connection, and for all that are kept idle. -/
def checkPool (poolSize minIdle : UInt32) : Except Violation Unit :=
  if poolSize = 0 then .error .emptyPool
  else if poolSize < minIdle then .error (.idleAbovePool minIdle poolSize)
  else .ok ()

/-- A bound on units of work leaves them some time. -/
def checkTransactionTimeout (timeout : Option UInt64) : Except Violation Unit :=
  if timeout = some 0 then .error .noTransactionTime else .ok ()

end DatabaseSettings

namespace MessagingSettings

/-- What stands behind the scheme of a message server's address. -/
def afterScheme? (url : List Char) : Option (List Char) :=
  (after? "nats://".toList url).or (after? "tls://".toList url)

/-- The address of a message server has one of two schemes and a colon behind it. -/
def checkUrl (url : String) : Except Violation Unit :=
  match afterScheme? url.toList with
  | none => .error (.serverScheme url)
  | some rest => if rest.contains ':' then .ok () else .error (.serverPort url)

/-- There is a server, and every address is one. -/
def checkUrls (urls : List String) : Except Violation Unit :=
  if urls.isEmpty then .error .noServers else urls.forM checkUrl

end MessagingSettings

/-! ## Parts and the whole -/

namespace ReplicationSettings

/-- A codec is known by one of two names, in lower case. -/
def checkCodec (name : String) : Except Violation Unit :=
  if name = Codec.name .binary ∨ name = Codec.name .json then .ok () else .error (.unknownCodec name)

/-- Names are not blank, times and numbers not zero, and the codec is known. -/
def check (s : ReplicationSettings) : Except Violation Unit :=
  if isBlankText s.group then .error .blankGroup
  else if s.ackWait = 0 then .error .noAckWait
  else if s.maxDeliver = 0 then .error .noDeliveries
  else if isBlankText s.deadLetter then .error .blankDeadLetter
  else checkCodec s.codec

end ReplicationSettings

/-- All rules in their order. -/
def Settings.check (s : Settings) : Except SettingsError Unit := do
  (DatabaseSettings.checkUrl s.database.url).mapError .address
  (DatabaseSettings.checkPool s.database.poolSize s.database.minIdle).mapError .violated
  (DatabaseSettings.checkTransactionTimeout s.database.transactionTimeout).mapError .violated
  (MessagingSettings.checkUrls s.messaging.urls).mapError .violated
  s.replication.check.mapError .violated

end Forum
