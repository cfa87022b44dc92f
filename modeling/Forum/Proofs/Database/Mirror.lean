import Forum.Memory.Replica
import Forum.Proofs.Calendar.Reading
import Forum.Proofs.Database.Keyed
import Forum.Proofs.Database.Replica

/-!
# The replica in the database and in memory

The replica in the database decides what a write did by the number of records that a statement affected, and for a post
that was not inserted by asking for its tombstone. The replica in memory looks at its tombstones and rows first. As long
as the tables mirror the replica in memory (`Mirrors`), each statement does to the tables what the call does in memory
(`answer_replicate`, `answer_update`, `answer_bury`), and so the two answer every call alike and keep the same posts and
tombstones (`replicas_agree`).
-/

namespace Forum

open Calendar Database Session Sql

/-! ## Tables against the replica in memory -/

/-- The times of a post are whole microseconds. -/
def Post.AtMicros (p : Post) : Prop := p.created.toMicros = p.created ∧ p.updated.toMicros = p.updated

instance (p : Post) : Decidable p.AtMicros := inferInstanceAs (Decidable (_ ∧ _))

/-- The times that a call writes are whole microseconds. -/
def ReplicaCall.AtMicros : ReplicaCall → Prop
  | insert post | update post => post.AtMicros
  | delete _ | find _ => True

instance (c : ReplicaCall) : Decidable c.AtMicros :=
  match c with
  | .insert post | .update post => inferInstanceAs (Decidable post.AtMicros)
  | .delete _ | .find _ => isTrue trivial

namespace Database

/-- The record of a post. -/
def postRecord (p : Post) : Record :=
  [("id", .text p.id.text), ("title", .text p.title), ("description", .text p.description),
    ("user_id", .text p.user.text), ("date_created", .time p.created), ("date_updated", .time p.updated)]

/-- The record of a post that was deleted. -/
def tombstoneRecord (id : String) : Record := [("id", .text id)]

/-- The tables hold the posts and the tombstones of a replica, in any order. -/
structure Holds (T : Tables) (r : Memory.Replica) : Prop where
  posts : (T "posts").Perm (r.rows.values.map postRecord)
  tombstones : (T "deleted_posts").Perm (r.tombstones.entries.map fun e => tombstoneRecord e.1)

/-- The tables hold what is in a replica none of whose writes fail, and whose rows could be in tables. -/
structure Mirrors (T : Tables) (r : Memory.Replica) : Prop extends Holds T r where
  named : ∀ e ∈ r.rows.entries, e.2.id.text = e.1
  atMicros : ∀ e ∈ r.rows.entries, e.2.AtMicros
  sound : r.failing = []

variable {T : Tables} {r : Memory.Replica}

/-- The condition on the identifier. -/
def byId (id : String) : Record → Bool := Condition.holds ⟨"id", 1⟩ [.text id]

/-- The record of a post is found by its identifier. -/
theorem byId_postRecord (id : String) (p : Post) : byId id (postRecord p) = decide (p.id.text = id) := by
  show decide (Value.text p.id.text = Value.text id) = _
  simp

/-- A tombstone is found by the identifier of its post. -/
theorem byId_tombstoneRecord (id id' : String) : byId id (tombstoneRecord id') = decide (id' = id) := by
  show decide (Value.text id' = Value.text id) = _
  simp

/-- Records that are in conflict over the identifier are found by it. -/
theorem meets_eq_byId {record : Record} {id : String} (h : record.lookup "id" = some (.text id)) :
    Record.meets record = byId id := by
  funext s
  simp only [Record.meets, byId, Condition.holds, h]
  cases s.lookup "id" with
  | none => rfl
  | some v =>
    show (some (Value.text id) == some v) = decide (v = Value.text id)
    by_cases hv : v = .text id <;> simp [hv, Ne.symm]

/-- The rows of a replica that tables mirror are kept under their identifiers. -/
theorem Mirrors.kept (h : Mirrors T r) : r.rows.KeptBy fun p => p.id.text := fun key row hrow =>
  h.named (key, row) (Memory.Rows.mem_of_lookup hrow)

/-- A post is found in its table where the replica has it, and once. -/
theorem Mirrors.filter_posts (h : Mirrors T r) (id : String) :
    (T "posts").filter (byId id) = (r.rows.get? id).toList.map postRecord :=
  filter_records h.kept h.posts (byId_postRecord id)

/-- A tombstone is found in its table where the replica has it, and once. -/
theorem Holds.filter_tombstones (h : Holds T r) (id : String) :
    (T "deleted_posts").filter (byId id) = (r.tombstones.get? id).toList.map fun _ => tombstoneRecord id := by
  have hfilter := h.tombstones.filter (byId id)
  rw [List.filter_map] at hfilter
  have hsame : r.tombstones.entries.filter (byId id ∘ fun e => tombstoneRecord e.1) =
      r.tombstones.entries.filter fun e => e.1 = id :=
    List.filter_congr fun e he => by
      rw [Function.comp, byId_tombstoneRecord]
  rw [hsame, Memory.Rows.filter_entries] at hfilter
  simp only [← Option.toList_map, Option.map_map] at hfilter ⊢
  exact perm_toList hfilter

/-- A statement by identifier affects one record or none. -/
theorem Mirrors.countP_posts (h : Mirrors T r) (id : String) :
    (T "posts").countP (byId id) = if r.rows.contains id then 1 else 0 :=
  countP_records h.kept h.posts (byId_postRecord id)

theorem any_eq_filter {α : Type} (p : α → Bool) (l : List α) : l.any p = !(l.filter p).isEmpty := by
  induction l with
  | nil => rfl
  | cons a l ih => cases h : p a <;> simp [h, ih]

/-- A post is in its table just where the replica has it. -/
theorem Mirrors.any_posts (h : Mirrors T r) (id : String) : (T "posts").any (byId id) = r.rows.contains id := by
  rw [any_eq_filter, h.filter_posts, Memory.Rows.contains]
  cases r.rows.get? id <;> rfl

/-- A tombstone is in its table just where the replica has it. -/
theorem Holds.any_tombstones (h : Holds T r) (id : String) :
    (T "deleted_posts").any (byId id) = r.tombstones.contains id := by
  rw [any_eq_filter, h.filter_tombstones, Memory.Rows.contains]
  cases r.tombstones.get? id <;> rfl

/-! ## What the statements do to tables that mirror a replica -/

/-- What a post is inserted as. -/
theorem record_replicate {post : Post} (hp : post.AtMicros) :
    Insertion.record ⟨"posts", Statement.postColumns, .unlessIn "deleted_posts" ⟨"id", 1⟩⟩
      (Statement.replicatePost post).parameters = postRecord post := by
  simp only [Insertion.record, Statement.parameters, Value.micros, hp.1, hp.2]
  rfl

/-- A record that is added is that of a row that is inserted. -/
theorem perm_insert {r : Memory.Rows Post} {records : List Record} (h : records.Perm (r.values.map postRecord))
    {id : String} (hnone : r.get? id = none) (post : Post) :
    (records ++ [postRecord post]).Perm ((r.insert id post).values.map postRecord) := by
  have hentries := ((Memory.Rows.entries_insert_of_none hnone post).map (·.2)).map postRecord
  exact List.perm_append_comm.trans ((h.cons (postRecord post)).trans hentries.symm)

/-- An insertion adds a record where the replica in memory adds a row, and affects no record otherwise. -/
theorem answer_replicate (h : Mirrors T r) {post : Post} (hp : post.AtMicros) :
    (T.answer (.replicatePost post)).1 = .affected (if (r.insert post).1 = .applied then 1 else 0) ∧
      Mirrors (T.answer (.replicatePost post)).2 (r.insert post).2 := by
  have hmeets : Record.meets (postRecord post) = byId post.id.text := meets_eq_byId rfl
  have hgives : Origin.gives T (Statement.replicatePost post).parameters (.unlessIn "deleted_posts" ⟨"id", 1⟩) =
      !r.tombstones.contains post.id.text := by
    rw [← h.any_tombstones]
    rfl
  show Reply.affected (Insertion.run _ _ T).1 = _ ∧ Mirrors (Insertion.run _ _ T).2 _
  simp only [Insertion.run, record_replicate hp, hgives, hmeets, h.any_posts, Memory.Replica.insert]
  by_cases htomb : r.tombstones.contains post.id.text
  · simp [htomb, h]
  by_cases hrow : r.rows.contains post.id.text
  · simp [htomb, hrow, h]
  have hnone : r.rows.get? post.id.text = none := by
    simpa [Memory.Rows.contains] using hrow
  simp only [htomb, hrow]
  refine ⟨rfl, ⟨perm_insert h.posts hnone post, h.tombstones⟩, fun e he => ?_, fun e he => ?_, h.sound⟩
  · rcases Memory.Rows.insertEntry_mem he with rfl | he
    · rfl
    · exact h.named e he
  · rcases Memory.Rows.insertEntry_mem he with rfl | he
    · exact hp
    · exact h.atMicros e he

/-- What the columns of a record become that an update changes. -/
def updateColumns : List (String × Nat) := [("title", 2), ("description", 3), ("user_id", 4), ("date_updated", 5)]

/-- The columns that an update writes are those that the replica updates. -/
theorem change_postRecord (row : Post) {post : Post} (hp : post.AtMicros) :
    (postRecord row).change updateColumns (Statement.updateReplica post).parameters =
      postRecord (Memory.Replica.updated row post) := by
  simp only [Statement.parameters, Value.micros, hp.2]
  rfl

/-- An update affects a record where the replica in memory has a row, and changes what that changes. -/
theorem answer_update (h : Mirrors T r) {post : Post} (hp : post.AtMicros) :
    (T.answer (.updateReplica post)).1 = .affected (if (r.update post).1 = .applied then 1 else 0) ∧
      Mirrors (T.answer (.updateReplica post)).2 (r.update post).2 := by
  show Reply.affected ((T "posts").countP (byId post.id.text)) = _ ∧
    Mirrors (T.set "posts" ((T "posts").map fun record =>
      if byId post.id.text record then record.change updateColumns _ else record)) _
  have hperm := map_records h.kept h.posts (byId_postRecord post.id.text) fun row => change_postRecord row hp
  rw [h.countP_posts, Memory.Rows.contains, Memory.Replica.update]
  unfold edited at hperm
  cases hrow : r.rows.get? post.id.text with
  | none =>
    rw [hrow] at hperm
    exact ⟨rfl, ⟨hperm, h.tombstones⟩, h.named, h.atMicros, h.sound⟩
  | some row =>
    rw [hrow] at hperm
    have hrow_mem := Memory.Rows.mem_of_lookup hrow
    refine ⟨rfl, ⟨hperm, h.tombstones⟩, fun e he => ?_, fun e he => ?_, h.sound⟩
    · rcases Memory.Rows.insertEntry_mem he with rfl | he
      · exact h.named (post.id.text, row) hrow_mem
      · exact h.named e he
    · rcases Memory.Rows.insertEntry_mem he with rfl | he
      · exact ⟨(h.atMicros (post.id.text, row) hrow_mem).1, hp.2⟩
      · exact h.atMicros e he

/-- The first half of a removal. -/
def burial : Insertion := ⟨"deleted_posts", ["id"], .values⟩

/-- A burial leaves the posts, and adds a tombstone if there is none. -/
theorem run_burial (h : Holds T r) (id : String) :
    (burial.run [.text id] T).2 "posts" = T "posts" ∧
      ((burial.run [.text id] T).2 "deleted_posts").Perm
        ((r.tombstones.insert id ()).entries.map fun e => tombstoneRecord e.1) := by
  have hmeets : Record.meets (tombstoneRecord id) = byId id := meets_eq_byId rfl
  have hrecord : burial.record [.text id] = tombstoneRecord id := rfl
  have htable : burial.table = "deleted_posts" := rfl
  have horigin : burial.origin.gives T [.text id] = true := rfl
  simp only [Insertion.run, hrecord, htable, horigin, hmeets, h.any_tombstones, Bool.true_and]
  cases htomb : r.tombstones.get? id with
  | some u =>
    rw [Memory.Rows.contains, htomb, Memory.Rows.insert_of_get? htomb]
    exact ⟨rfl, h.tombstones⟩
  | none =>
    rw [Memory.Rows.contains, htomb]
    have hentries := (Memory.Rows.entries_insert_of_none htomb ()).map fun e => tombstoneRecord e.1
    exact ⟨rfl, List.perm_append_comm.trans ((h.tombstones.cons (tombstoneRecord id)).trans hentries.symm)⟩

/-- A removal affects a record where the replica in memory has a row, and leaves a tombstone in any case. -/
theorem answer_bury (h : Mirrors T r) (id : PostId) :
    (T.answer (.buryPost id)).1 = .affected (if (r.delete id).1 = .applied then 1 else 0) ∧
      Mirrors (T.answer (.buryPost id)).2 (r.delete id).2 := by
  obtain ⟨hposts, htombs⟩ := run_burial h.toHolds id.text
  show Reply.affected (((burial.run [.text id.text] T).2 "posts").countP (byId id.text)) = _ ∧
    Mirrors ((burial.run [.text id.text] T).2.set "posts"
      (((burial.run [.text id.text] T).2 "posts").filter fun record => !byId id.text record)) _
  rw [hposts, h.countP_posts, Memory.Replica.delete]
  refine ⟨?_, ⟨?_, htombs⟩, fun e he => h.named e (List.mem_filter.1 he |>.1),
    fun e he => h.atMicros e (List.mem_filter.1 he |>.1), h.sound⟩
  · cases r.rows.contains id.text <;> rfl
  · refine (h.posts.filter _).trans (.of_eq ?_)
    rw [Memory.Rows.values, Memory.Rows.values, List.map_map, List.map_map, List.filter_map]
    refine congrArg _ (List.filter_congr fun e he => ?_)
    simp only [Function.comp, byId_postRecord, h.named e he]
    by_cases hid : e.1 = id.text <;> simp [hid]

/-- The database says whether there is a tombstone. -/
theorem answer_tombstone (h : Mirrors T r) (id : PostId) :
    T.answer (.tombstoneById id) = (.rows (if r.tombstones.contains id.text then [[some id.text]] else []), T) := by
  show (Reply.rows (((T "deleted_posts").filter (byId id.text)).map fun record => record.cells ["id"]), T) = _
  rw [h.filter_tombstones, Memory.Rows.contains]
  cases r.tombstones.get? id.text <;> rfl

/-- The database answers the row of a post, if there is one. -/
theorem answer_find (h : Mirrors T r) (id : PostId) :
    T.answer (.postById id) =
      (.rows ((r.rows.get? id.text).toList.map fun row => (postRecord row).cells Statement.postColumns), T) := by
  show (Reply.rows (((T "posts").filter (byId id.text)).map fun record => record.cells Statement.postColumns), T) = _
  rw [h.filter_posts, List.map_map]
  rfl

/-! ## Reading the cells of a record -/

namespace RowReader

variable {α β : Type} {cells rest : List Cell}

theorem bind_of_ok {x : RowReader α} {a : α} (h : x cells = .ok (a, rest)) (f : α → RowReader β) :
    (x >>= f) cells = f a rest := by
  show (x cells >>= fun p => f p.1 p.2) = _
  rw [h]
  rfl

theorem text_some (column : Column) (t : String) (rest : List Cell) :
    text column (some t :: rest) = .ok (t, rest) :=
  rfl

/-- A time is read as it was written, to the microsecond. -/
theorem timeOf_text (column : Column) (t : Instant) : timeOf column t.text = pure t.toMicros := by
  rw [timeOf, Instant.parse_text]

/-- A time is read as it was written, with whole microseconds. -/
theorem time_text (column : Column) (t : Instant) (rest : List Cell) :
    time column (some t.text :: rest) = .ok (t.toMicros, rest) := by
  rw [time, bind_of_ok (text_some ..), timeOf_text]
  rfl

/-- A post is read from its cells. -/
theorem post_cells {p : Post} (hp : p.AtMicros) (rest : List Cell) :
    RowReader.post (some p.id.text :: some p.title :: some p.description :: some p.user.text ::
      some p.created.text :: some p.updated.text :: rest) = .ok (p, rest) := by
  rw [RowReader.post, bind_of_ok (text_some ..), bind_of_ok (text_some ..), bind_of_ok (text_some ..),
    bind_of_ok (text_some ..), bind_of_ok (time_text ..), bind_of_ok (time_text ..), hp.1, hp.2]
  rfl

end RowReader

/-- A post with whole microseconds is read back from its record. -/
theorem readPost_cells {post : Post} (hp : post.AtMicros) :
    readPost ((postRecord post).cells Statement.postColumns) = .ok post := by
  show readPost [some post.id.text, some post.title, some post.description, some post.user.text,
    some post.created.text, some post.updated.text] = _
  rw [readPost, RowReader.post_cells hp]

/-! ## Both replicas side by side -/

theorem wrote_of_affected (w : ReplicaWrite) (hw : w = .applied ∨ w = .missing) :
    ReplicaCall.wrote (.affected (if w = .applied then 1 else 0)) = .wrote w := by
  rcases hw with rfl | rfl <;> rfl

/-- A post that is not inserted was deleted, or is there. -/
theorem insert_of_ne_applied {post : Post} (h : (r.insert post).1 ≠ .applied) :
    r.insert post = (if r.tombstones.contains post.id.text then .tombstoned else .alreadyPresent, r) := by
  unfold Memory.Replica.insert at h ⊢
  split
  · rfl
  · rename_i hdead
    rw [if_neg hdead] at h
    split
    · rfl
    · rename_i hrow
      rw [if_neg hrow] at h
      exact absurd rfl h

/-- Over tables, an insertion that affects no record is asked about. -/
theorem onTables_insert (h : Mirrors T r) {post : Post} (hp : post.AtMicros) :
    ((ReplicaCall.insert post).onTables T).1 = .ok (.wrote (r.insert post).1) ∧
      Mirrors ((ReplicaCall.insert post).onTables T).2 (r.insert post).2 := by
  obtain ⟨hreply, hmirrors⟩ := answer_replicate h hp
  have htomb := answer_tombstone hmirrors post.id
  by_cases happlied : (r.insert post).1 = .applied
  · rw [if_pos happlied] at hreply
    have hasks : (ReplicaCall.insert post).asks T = [.replicatePost post] := by
      simp only [ReplicaCall.asks, ReplicaCall.first, ReplicaCall.second?, hreply]
      rfl
    simp only [ReplicaCall.onTables, hasks, Tables.serve, hreply, happlied]
    exact ⟨rfl, hmirrors⟩
  · rw [if_neg happlied] at hreply
    have hasks : (ReplicaCall.insert post).asks T = [.replicatePost post, .tombstoneById post.id] := by
      simp only [ReplicaCall.asks, ReplicaCall.first, ReplicaCall.second?, hreply]
      rfl
    simp only [ReplicaCall.onTables, hasks, Tables.serve, hreply, htomb]
    refine ⟨?_, hmirrors⟩
    show ReplicaCall.kept <$> ReplicaCall.foundTombstone (.rows _) = _
    rw [insert_of_ne_applied happlied]
    cases r.tombstones.contains post.id.text <;> rfl

/-- Over tables, a write that sends one statement answers whether that affected a record. -/
theorem onTables_write {c : ReplicaCall} {w : ReplicaWrite} (hwrote : w = .applied ∨ w = .missing)
    (hreply : (T.answer c.first).1 = .affected (if w = .applied then 1 else 0))
    (hc : (c.onTables T).1 = (T.answer c.first).1.checked >>= fun r => .ok (ReplicaCall.wrote r)) :
    (c.onTables T).1 = .ok (.wrote w) := by
  rw [hc, hreply]
  exact congrArg Except.ok (wrote_of_affected w hwrote)

/-- An update is applied, or there is no row. -/
theorem update_wrote (r : Memory.Replica) (post : Post) :
    (r.update post).1 = .applied ∨ (r.update post).1 = .missing := by
  unfold Memory.Replica.update
  split <;> simp

/-- A deletion is applied, or there is no row. -/
theorem delete_wrote (r : Memory.Replica) (id : PostId) : (r.delete id).1 = .applied ∨ (r.delete id).1 = .missing := by
  unfold Memory.Replica.delete
  split <;> simp

/-- Over tables, the row that is found is the one in memory. -/
theorem onTables_find (h : Mirrors T r) (id : PostId) :
    ((ReplicaCall.find id).onTables T).1 = .ok (.found (r.rows.get? id.text)) := by
  have hanswer : ((ReplicaCall.find id).onTables T).1 = (ReplicaCall.find id).answer [(T.answer (.postById id)).1] := rfl
  have hread (row : List Cell) : (ReplicaCall.find id).answer [.rows [row]] =
      (fun post => .found (some post)) <$> readPost row := rfl
  rw [hanswer, answer_find h]
  cases hrow : r.rows.get? id.text with
  | none => rfl
  | some row =>
    rw [Option.toList_some, List.map_singleton, hread,
      readPost_cells (h.atMicros (id.text, row) (Memory.Rows.mem_of_lookup hrow))]
    rfl

/-- In memory, a write is made where none fail. -/
theorem run_guarded (h : r.failing = []) (id : PostId) (write : Memory.Replica → ReplicaWrite × Memory.Replica) :
    (Answer.wrote <$> Memory.Replica.guarded id write) r = (.ok (.wrote (write r).1), (write r).2) := by
  have hrun : Memory.Replica.guarded id write r = (.ok (write r).1, (write r).2) := by
    rw [Memory.Replica.guarded, h, if_neg (by simp)]
  rw [map_eq_pure_bind, Action.bind_of_ok hrun]
  rfl

/-- A call answers over tables what it answers in memory, if it writes whole microseconds. -/
theorem onTables_mirrors (h : Mirrors T r) {c : ReplicaCall} (hc : c.AtMicros) :
    ∃ answer, (c.onTables T).1 = .ok answer ∧ (c.run Memory.Replica.store r).1 = .ok answer ∧
      Mirrors (c.onTables T).2 (c.run Memory.Replica.store r).2 := by
  cases c with
  | insert post =>
    have hmemory : (ReplicaCall.insert post).run Memory.Replica.store r = _ :=
      run_guarded h.sound post.id fun r => r.insert post
    rw [hmemory]
    exact ⟨_, (onTables_insert h hc).1, rfl, (onTables_insert h hc).2⟩
  | update post =>
    have hmemory : (ReplicaCall.update post).run Memory.Replica.store r = _ :=
      run_guarded h.sound post.id fun r => r.update post
    obtain ⟨hreply, hmirrors⟩ := answer_update h hc
    rw [hmemory]
    exact ⟨_, onTables_write (update_wrote r post) hreply rfl, rfl, hmirrors⟩
  | delete id =>
    have hmemory : (ReplicaCall.delete id).run Memory.Replica.store r = _ := run_guarded h.sound id fun r => r.delete id
    obtain ⟨hreply, hmirrors⟩ := answer_bury h id
    rw [hmemory]
    exact ⟨_, onTables_write (delete_wrote r id) hreply rfl, rfl, hmirrors⟩
  | find id =>
    refine ⟨_, onTables_find h id, rfl, ?_⟩
    show Mirrors (T.answer (.postById id)).2 r
    rw [answer_find h]
    exact h

end Database

namespace Memory.Replica

/-- What calls answer in memory, with the replica after each. -/
def trace : List ReplicaCall → Replica → List (Except Error Answer × Replica)
  | [], _ => []
  | c :: calls, r => c.run store r :: trace calls (c.run store r).2

end Memory.Replica

namespace Database

variable {tx : Option Handle} {s : Session}

/-- A step over a database and one in memory agree: both calls answer the same, and the tables hold what is in memory. -/
def Agree (a : Except Error Answer × Tables) (b : Except Error Answer × Memory.Replica) : Prop :=
  ∃ answer, a.1 = .ok answer ∧ b.1 = .ok answer ∧ Holds a.2 b.2

/-- On tables that mirror a replica, calls one after the other are answered as by the replica. -/
theorem allOnTables_mirrors (h : Mirrors T r) {calls : List ReplicaCall} (hcalls : ∀ c ∈ calls, c.AtMicros) :
    List.Forall₂ Agree (allOnTables calls T) (Memory.Replica.trace calls r) := by
  induction calls generalizing T r with
  | nil => exact .nil
  | cons c calls ih =>
    obtain ⟨hc, hcalls⟩ := List.forall_mem_cons.1 hcalls
    obtain ⟨answer, hover, hmemory, hmirrors⟩ := onTables_mirrors h hc
    exact .cons ⟨answer, hover, hmemory, hmirrors.toHolds⟩ (ih hmirrors hcalls)

/-- Empty tables mirror an empty replica. -/
theorem mirrors_empty : Mirrors .empty .empty where
  posts := .refl []
  tombstones := .refl []
  named _ he := absurd he List.not_mem_nil
  atMicros _ he := absurd he List.not_mem_nil
  sound := rfl

/-- From empty tables on, the replica in the database and the one in memory answer all calls alike, and hold the same
posts and tombstones after each. And a database with tables can answer all calls. -/
theorem replicas_agree {calls : List ReplicaCall} (hcalls : ∀ c ∈ calls, c.AtMicros) (hs : s.Ready tx) :
    (∃ replies steps, Served tx .empty { s with replies := replies } calls steps) ∧
      ∀ steps, Served tx .empty s calls steps →
        List.Forall₂ Agree steps (Memory.Replica.trace calls .empty) := by
  constructor
  · obtain ⟨replies, hserved⟩ := exists_served calls .empty hs
    exact ⟨replies, _, hserved⟩
  · intro steps hserved
    rw [hserved.steps_eq hs]
    exact allOnTables_mirrors mirrors_empty hcalls

/-- A post is inserted twice, deleted, inserted again and asked for. -/
def reinsertion : List ReplicaCall :=
  let p := Fixture.post "p" "first"
  [.insert p, .insert p, .delete p.id, .insert p, .find p.id]

/-- A post that is deleted is not inserted again, in the database as in memory. -/
theorem reinsertion_agrees :
    (Memory.Replica.trace reinsertion .empty).map (·.1) =
        [.ok (.wrote .applied), .ok (.wrote .alreadyPresent), .ok (.wrote .applied), .ok (.wrote .tombstoned),
          .ok (.found none)] ∧
      (∃ replies steps, Served none .empty (.new replies [] none) reinsertion steps) ∧
        ∀ replies steps, Served none .empty (.new replies [] none) reinsertion steps →
          List.Forall₂ Agree steps (Memory.Replica.trace reinsertion .empty) := by
  have hcalls : ∀ c ∈ reinsertion, c.AtMicros := by decide
  have hs (replies : List Reply) : (Session.new replies [] none).Ready none := ⟨rfl, rfl⟩
  exact ⟨by decide, (replicas_agree hcalls (hs [])).1, fun replies => (replicas_agree hcalls (hs replies)).2⟩

end Database

end Forum
