import Forum.Identifier
import Forum.Text.Decimal

/-!
# Errors of the services

Every operation of the posts and the comments service fails with one of these causes.
-/

namespace Forum

open Text

/-- Why an operation failed. -/
inductive Error where
  /-- A field of a request breaks its rule. -/
  | validation (field reason : String)
  /-- An identifier is no UUID. -/
  | invalidId (id : String)
  | postNotFound (id : PostId)
  | commentNotFound (id : CommentId)
  /-- A transaction cannot be used as asked. -/
  | transaction (reason : String)
  /-- Work failed, and undoing it failed too. -/
  | rollbackFailed (source : Error) (rollback : String)
  /-- Work took longer than a transaction may, in whole seconds. -/
  | transactionTimeout (seconds : Nat)
  /-- An event was not published. -/
  | publish (subject reason : String)
  /-- The store or the network failed. -/
  | infrastructure (reason : String)
deriving DecidableEq, Repr

namespace Error

/-- The text that describes an error. -/
def message : Error → String
  | validation field reason => s!"Invalid {field}: {reason}"
  | invalidId id => s!"ID is not in its proper form: {id}"
  | postNotFound id => s!"Post not found: {id.text}"
  | commentNotFound id => s!"Comment not found: {id.text}"
  | transaction reason => s!"Transaction error: {reason}"
  | rollbackFailed source rollback => s!"{source.message}; rollback also failed: {rollback}"
  | transactionTimeout seconds => s!"Transaction exceeded its {Decimal.text seconds}s timeout"
  | publish subject reason => s!"Publishing to {subject} failed: {reason}"
  | infrastructure reason => s!"Infrastructure error: {reason}"

/-- The caller caused the error and should not retry. -/
def isClientError : Error → Bool
  | validation _ _ | invalidId _ | postNotFound _ | commentNotFound _ => true
  | _ => false

/-- The messages of the errors behind this one, nearest first. -/
def causes : Error → List String
  | rollbackFailed source _ => source.message :: source.causes
  | _ => []

/-- An operation on a transaction that is over. -/
def completed : Error := transaction "transaction already completed"

end Error

/-! ## Identifiers in requests -/

/-- The post that a request names. -/
def PostId.read (text : String) : Except Error PostId := (PostId.parse? text).elim (.error (.invalidId text)) .ok

/-- The comment that a request names. -/
def CommentId.read (text : String) : Except Error CommentId :=
  (CommentId.parse? text).elim (.error (.invalidId text)) .ok

/-- The user that a request names. -/
def UserId.read (text : String) : Except Error UserId := (UserId.parse? text).elim (.error (.invalidId text)) .ok

end Forum
