import Forum.Database.Fault
import Forum.Database.Statement
import Forum.Store

/-!
# Sessions

A session is one connection to a database with what was sent over it. The database answers statements with parameters
from a list of replies, and refuses commands of its choice.

At most one transaction is open. While it is, statements outside of it find no connection. A transaction that is let go,
or whose end the database refused, is rolled back before the connection is used again.
-/

namespace Forum.Database

/-- A cell of a row: text, or null. -/
abbrev Cell := Option String

/-- What the database answers to a statement. -/
inductive Reply where
  | affected (rows : Nat)
  | rows (rows : List (List Cell))
  | refused (reason : String)
deriving DecidableEq, Repr

/-- What was sent to the database. -/
inductive Sent where
  | statement (statement : Statement)
  | command (command : Command)
deriving DecidableEq, Repr

structure Session where
  /-- The answers to the next statements; after them nothing is found or affected. -/
  replies : List Reply
  /-- Commands that start with one of these texts are refused. -/
  refused : List String
  /-- What was sent, in order. -/
  sent : List Sent
  /-- How many transactions were begun. -/
  begun : Nat
  /-- The transaction that is open. -/
  current : Option Handle
  /-- A transaction is still to be rolled back. -/
  abandoned : Bool
  /-- The pool of connections was closed. -/
  closed : Bool
  /-- How long work within a transaction may take, in milliseconds. -/
  limit : Option Nat
deriving DecidableEq

/-- A request to the database. -/
abbrev Request (α : Type) : Type := ExceptT StoreFault (StateM Session) α

namespace Session

/-- A session over which nothing was sent. -/
def new (replies : List Reply) (refused : List String) (limit : Option Nat) : Session :=
  ⟨replies, refused, [], 0, none, false, false, limit⟩

/-- A session of a pool that was closed. -/
def ofClosed (limit : Option Nat) : Session := { new [] [] limit with closed := true }

/-- The session after something was sent. -/
def record (s : Session) (x : Sent) : Session := { s with sent := s.sent ++ [x] }

/-- The database refuses a command. -/
def refuses (s : Session) (c : Command) : Bool := s.refused.any fun start => start.toList.isPrefixOf c.sql.toList

/-- The first word of a text. -/
def firstWord (text : String) : String := String.ofList (text.toList.takeWhile fun c => c ≠ ' ')

/-- Sends a command. -/
def command (c : Command) : Request Unit := fun s =>
  (if s.refuses c then .error (.database (.refused s!"scripted failure of {firstWord c.sql}")) else .ok (),
    s.record (.command c))

/-- Rolls back what was abandoned. Nobody learns whether that fails. -/
def settle (s : Session) : Session :=
  if s.abandoned then { s with abandoned := false }.record (.command .rollback) else s

/-- Finds the connection that is free. -/
def acquire : Request Unit := fun s =>
  if s.closed then (.error (.database .poolClosed), s)
  else if s.current.isSome then (.error (.database .noConnection), s)
  else (.ok (), s.settle)

/-- The transaction is open. -/
def requireOpen (tx : Handle) : Request Unit := fun s =>
  (if s.current = some tx then .ok () else .error .transactionOver, s)

/-- A reason as the database gives it: a text that ends at its first NUL. -/
def untilNul (reason : String) : String := String.ofList (reason.toList.takeWhile fun c => c ≠ '\x00')

/-- Sends a statement and takes the answer. -/
def exchange (statement : Statement) : Request Reply := fun s =>
  let s := s.record (.statement statement)
  match s.replies with
  | [] => (.ok (.rows []), s)
  | .refused reason :: replies => (.error (.database (.refused (untilNul reason))), { s with replies := replies })
  | reply :: replies => (.ok reply, { s with replies := replies })

/-- Sends a statement, in a transaction or outside of any. -/
def send (tx : Option Handle) (statement : Statement) : Request Reply := do
  match tx with
  | some tx => requireOpen tx
  | none => acquire
  exchange statement

/-- Executes a statement and tells how many rows it affected. -/
def execute (tx : Option Handle) (statement : Statement) : Request Nat := do
  match ← send tx statement with
  | .affected n => pure n
  | .rows rows => pure rows.length
  | .refused _ => pure 0

/-- Asks for the rows of a statement. -/
def query (tx : Option Handle) (statement : Statement) : Request (List (List Cell)) := do
  match ← send tx statement with
  | .rows rows => pure rows
  | _ => pure []

/-! ## Transactions -/

/-- Begins a transaction. -/
def begin : Request Handle := do
  acquire
  command .begin
  modifyGet fun s => (s.begun, { s with begun := s.begun + 1, current := some s.begun })

/-- Parts from the open transaction, which the next use of the connection rolls back. -/
def letGo (s : Session) : Session := { s with current := none, abandoned := true }

/-- Ends a transaction by a command. It is over also where the command is refused. -/
def finish (tx : Handle) (c : Command) : Request Unit := do
  requireOpen tx
  fun s =>
    match command c s with
    | (.ok _, s) => (.ok (), { s with current := none })
    | (.error e, s) => (.error e, s.letGo)

def commit (tx : Handle) : Request Unit := finish tx .commit

def rollback (tx : Handle) : Request Unit := finish tx .rollback

/-- Lets a transaction go, if it is open. Tells whether it was. -/
def drop (s : Session) (tx : Handle) : Bool × Session :=
  if s.current = some tx then (true, s.letGo) else (false, s)

end Session

/-- A request as an operation of a store. -/
def Request.action {α : Type} (r : Request α) : Action Session α := fun s =>
  match r s with
  | (.ok a, s) => (.ok a, s)
  | (.error e, s) => (.error e.error, s)

end Forum.Database
