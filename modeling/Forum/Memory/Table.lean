import Forum.Memory.Rows
import Forum.Store

/-!
# Tables

A table holds rows by the text of their key, and the writes that open transactions have staged. A transaction sees the
rows with its own writes; all others see its writes once it is committed. Writes of chosen keys can be made to fail.
-/

namespace Forum.Memory

/-- Rows, the keys whose writes fail, and what each transaction has staged; a transaction that is over has nothing. -/
structure Table (ν : Type) where
  rows : Rows ν
  failing : List String
  staged : List (Option (List (Rows.Write ν)))
deriving DecidableEq

namespace Table

variable {ν : Type}

/-- A table without rows. -/
def empty : Table ν := ⟨.empty, [], []⟩

/-- What an open transaction has staged. -/
def stagedBy (t : Table ν) (tx : Handle) : Except Error (List (Rows.Write ν)) :=
  match t.staged[tx]? with
  | some (some writes) => .ok writes
  | _ => .error .completed

/-- The rows as a transaction, or no transaction, sees them. -/
def view (t : Table ν) : Option Handle → Except Error (Rows ν)
  | none => .ok t.rows
  | some tx => (t.stagedBy tx).map t.rows.writeAll

/-- Writes, in a transaction or at once. -/
def write (t : Table ν) (tx : Option Handle) (w : Rows.Write ν) : Except Error (Table ν) :=
  if t.failing.contains w.1 then .error (.infrastructure s!"injected write failure for {w.1}")
  else match tx with
    | none => .ok { t with rows := t.rows.write w }
    | some tx => (t.stagedBy tx).map fun writes => { t with staged := t.staged.set tx (some (writes ++ [w])) }

/-- Begins a transaction. -/
def begin (t : Table ν) : Handle × Table ν := (t.staged.length, { t with staged := t.staged ++ [some []] })

/-- Ends a transaction and lets all see its writes. -/
def commit (t : Table ν) (tx : Handle) : Except Error (Table ν) :=
  (t.stagedBy tx).map fun writes => { t with rows := t.rows.writeAll writes, staged := t.staged.set tx none }

/-- Ends a transaction and forgets its writes. -/
def rollback (t : Table ν) (tx : Handle) : Except Error (Table ν) :=
  (t.stagedBy tx).map fun _ => { t with staged := t.staged.set tx none }

/-- Makes the writes of a key fail. -/
def fail (t : Table ν) (key : String) : Table ν := { t with failing := key :: t.failing }

/-! ## As operations -/

/-- Asks for what depends on the rows that a transaction sees. -/
def ask {α : Type} (tx : Option Handle) (f : Rows ν → Except Error α) : Action (Table ν) α := fun t =>
  ((t.view tx).bind f, t)

/-- Changes the table, or leaves it where that fails. -/
def change (f : Table ν → Except Error (Table ν)) : Action (Table ν) Unit := fun t =>
  match f t with
  | .ok t => (.ok (), t)
  | .error e => (.error e, t)

/-- Writes a row. -/
def put (tx : Option Handle) (key : String) (row : ν) : Action (Table ν) Unit :=
  change fun t => t.write tx (key, some row)

/-- Writes a row whose key is new. The look at the rows and the write are one step: a call is not split, and no other
one comes between the two. -/
def putNew (tx : Option Handle) (key : String) (row : ν) : Action (Table ν) Unit :=
  change fun t => do
    if (← t.view tx).contains key then
      .error (.infrastructure s!"duplicate key value violates unique constraint: {key}")
    else t.write tx (key, some row)

/-- Removes a row and tells whether there was one. Here too the look and the write are one step. -/
def remove (tx : Option Handle) (key : String) : Action (Table ν) Bool := fun t =>
  match (t.view tx).map (·.contains key) with
  | .error e => (.error e, t)
  | .ok false => (.ok false, t)
  | .ok true =>
    match t.write tx (key, none) with
    | .error e => (.error e, t)
    | .ok t => (.ok true, t)

end Table

end Forum.Memory
