import Forum.Error

/-!
# Faults of the database

What the database, or the way to it, has against a statement.
-/

namespace Forum.Database

/-- A column of a row, by the name or by the place under which it is read. -/
inductive Column where
  | named (name : String)
  | at (place : Nat)
deriving DecidableEq, Repr

/-- A column as messages show it. -/
def Column.shown : Column → String
  | named name => s!"\"{name}\""
  | .at place => Text.Decimal.text place

/-- Why a statement did not succeed. -/
inductive Fault where
  /-- The database refused the statement. -/
  | refused (reason : String)
  /-- The address of the database is not one. -/
  | badAddress (reason : String)
  | connectionLost (reason : String)
  | noRows
  | noColumn (name : String)
  | badData (reason : String)
  /-- A column that always has a value has none. -/
  | nullColumn (column : Column)
  /-- A value is none of its column's kind. -/
  | badColumn (column : Column) (reason : String)
  /-- No connection became free in time. -/
  | noConnection
  | poolClosed
  | crashed
deriving DecidableEq, Repr

/-- The message for a value that is null and must not be. -/
def unexpectedNull : String := "unexpected null; try decoding as an `Option`"

def Fault.message : Fault → String
  | refused reason => s!"error returned from database: {reason}"
  | badAddress reason => s!"error with configuration: {reason}"
  | connectionLost reason => s!"error communicating with database: {reason}"
  | noRows => "no rows returned by a query that expected to return at least one row"
  | noColumn name => s!"no column found for name: {name}"
  | badData reason => s!"encountered unexpected or invalid data: {reason}"
  | nullColumn column => s!"error occurred while decoding column {column.shown}: {unexpectedNull}"
  | badColumn column reason => s!"error occurred while decoding column {column.shown}: {reason}"
  | noConnection => "pool timed out while waiting for an open connection"
  | poolClosed => "attempted to acquire a connection on a closed pool"
  | crashed => "attempted to communicate with a crashed background worker"

/-- The messages of what is behind a fault. -/
def Fault.causes : Fault → List String
  | refused reason | badAddress reason | connectionLost reason | badColumn _ reason => [reason]
  | nullColumn _ => [unexpectedNull]
  | _ => []

/-- Why a store of the database did not do what it was asked. -/
inductive StoreFault where
  | database (fault : Fault)
  /-- The transaction is over. -/
  | transactionOver
deriving DecidableEq, Repr

namespace StoreFault

def message : StoreFault → String
  | database fault => s!"Database error: {fault.message}"
  | transactionOver => "Transaction already committed or rolled back"

/-- The fault as an error of the services. -/
def error : StoreFault → Error
  | database fault => .infrastructure fault.message
  | transactionOver => .transaction transactionOver.message

end StoreFault

end Forum.Database
