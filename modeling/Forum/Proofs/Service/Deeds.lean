import Forum.Proofs.Service.Isolation

/-!
# What a deed does to a table

A call fails, or only looks, or makes the one write that its answer tells of (`CallResult`), and it creates a post only
in sight of no row of its id (`Posts.call_result`); a comment is created whatever there is (`Comments.call_result`). So
what a deed does to a table that several parties share is one of eight things (`DeedResult`, `deed_result`).
-/

namespace Forum

namespace Memory

open Sharing

variable {κ ν : Type}

/-! ## Effects -/

/-- What is done to the row of a key. -/
inductive Effect (ν : Type) where
  | creates (key : String) (row : ν)
  | puts (key : String) (row : ν)
  | removes (key : String)
deriving DecidableEq

namespace Effect

def key : Effect ν → String
  | creates key _ | puts key _ | removes key => key

def write : Effect ν → Rows.Write ν
  | creates key row | puts key row => (key, some row)
  | removes key => (key, none)

/-- An effect that writes no row removes one. -/
theorem removes_of_write {f : Effect ν} {key : String} (h : f.write = (key, none)) : f = .removes key := by
  cases f with
  | creates _ _ => cases h
  | puts _ _ => cases h
  | removes _ => cases h; rfl

end Effect

end Memory

open Memory

/-- What a call of posts does, given its answer. -/
def PostCall.effect : PostCall → Answer → Option (Effect Post)
  | create post, _ => some (.creates post.id.text post)
  | update post, _ => some (.puts post.id.text post)
  | delete id, .existed true => some (.removes id.text)
  | _, _ => none

/-- What a call of comments does, given its answer. -/
def CommentCall.effect : CommentCall → Answer → Option (Effect Comment)
  | create comment, _ => some (.creates comment.id.text comment)
  | update comment, _ => some (.puts comment.id.text comment)
  | delete id, .existed true => some (.removes id.text)
  | _, _ => none

namespace Memory

open Sharing

namespace Table

variable {κ ν α : Type} {t t' : Table ν} {tx : Handle} {party : Option Handle} {ws : List (Rows.Write ν)}

/-! ## What succeeds on a table -/

/-- An open transaction has staged something, if only nothing. -/
theorem stagedBy_eq_ok (h : t.stagedBy tx = .ok ws) : t.staged[tx]? = some (some ws) := by
  unfold stagedBy at h
  split at h
  · rename_i ws' hws
    rw [hws, Except.ok.inj h]
  · cases h

/-- An open transaction is committed. -/
theorem commit_of_getElem? (h : t.staged[tx]? = some (some ws)) :
    t.commit tx = .ok (t.settled (t.rows.writeAll ws) tx none) := by
  unfold commit
  rw [stagedBy_of_getElem? h]
  rfl

/-- An open transaction is rolled back. -/
theorem rollback_of_getElem? (h : t.staged[tx]? = some (some ws)) :
    t.rollback tx = .ok (t.settled t.rows tx none) := by
  unfold rollback
  rw [stagedBy_of_getElem? h]
  rfl

/-- Only an open transaction is committed. -/
theorem commit_eq_ok (h : t.commit tx = .ok t') :
    ∃ ws, t.staged[tx]? = some (some ws) ∧ t' = t.settled (t.rows.writeAll ws) tx none := by
  unfold commit at h
  rcases hs : t.stagedBy tx with e | ws
  · rw [hs] at h
    cases h
  · rw [hs] at h
    exact ⟨ws, stagedBy_eq_ok hs, (Except.ok.inj h).symm⟩

/-- Only an open transaction is rolled back. -/
theorem rollback_eq_ok (h : t.rollback tx = .ok t') :
    ∃ ws, t.staged[tx]? = some (some ws) ∧ t' = t.settled t.rows tx none := by
  unfold rollback at h
  rcases hs : t.stagedBy tx with e | ws
  · rw [hs] at h
    cases h
  · rw [hs] at h
    exact ⟨ws, stagedBy_eq_ok hs, (Except.ok.inj h).symm⟩

/-- A write at once changes the rows. -/
theorem write_none_eq_ok {w : Rows.Write ν} (h : t.write none w = .ok t') : t' = { t with rows := t.rows.write w } := by
  unfold write at h
  split at h
  · cases h
  · exact (Except.ok.inj h).symm

/-- A write in a transaction is staged after its others. -/
theorem write_some_eq_ok {w : Rows.Write ν} (h : t.write (some tx) w = .ok t') :
    ∃ ws, t.staged[tx]? = some (some ws) ∧ t' = t.settled t.rows tx (some (ws ++ [w])) := by
  rw [write_some] at h
  split at h
  · cases h
  · rcases hs : t.stagedBy tx with e | ws
    · rw [hs] at h
      cases h
    · rw [hs] at h
      exact ⟨ws, stagedBy_eq_ok hs, (Except.ok.inj h).symm⟩

/-- Who writes has rows in sight. -/
theorem view_of_write {w : Rows.Write ν} (h : t.write party w = .ok t') : ∃ rows, t.view party = .ok rows := by
  cases party with
  | none => exact ⟨t.rows, rfl⟩
  | some tx =>
    obtain ⟨ws, hws, -⟩ := write_some_eq_ok h
    exact ⟨_, view_of_getElem? hws⟩

/-! ## Calls -/

/-- A call fails, or only looks, or makes the write that its answer tells of. What is in sight of whoever writes is as
it may be. -/
inductive CallResult (effect : κ → Answer → Option (Effect ν)) (may : Effect ν → Option ν → Prop) (c : κ)
    (party : Option Handle) (t : Table ν) : Except Error Answer × Table ν → Prop
  | failed {e : Error} : CallResult effect may c party t (.error e, t)
  | looked {answer : Answer} (h : effect c answer = none) : CallResult effect may c party t (.ok answer, t)
  | wrote {answer : Answer} {f : Effect ν} {t' : Table ν} {rows : Rows ν} (h : effect c answer = some f)
      (hview : t.view party = .ok rows) (hmay : may f (rows.get? f.key)) (hwrite : t.write party f.write = .ok t') :
    CallResult effect may c party t (.ok answer, t')

variable {effect : κ → Answer → Option (Effect ν)} {may : Effect ν → Option ν → Prop} {c : κ}

/-- What only looks at the rows leaves the table. -/
theorem call_ask (f : Rows ν → Except Error α) (g : α → Answer) (h : ∀ x, effect c (g x) = none) :
    CallResult effect may c party t ((g <$> ask party f : Action (Table ν) Answer) t) := by
  have hask : ask party f t = ((t.view party).bind f, t) := rfl
  rcases hx : (t.view party).bind f with e | x
  · rw [Action.map_of_error (hask.trans (by rw [hx]))]
    exact .failed
  · rw [Action.map_of_ok (hask.trans (by rw [hx]))]
    exact .looked (h x)

/-- What a call does that writes a row. -/
theorem call_put {key : String} {row : ν} {answer : Answer} {f : Effect ν} (h : effect c answer = some f)
    (hf : f.write = (key, some row)) (hmay : ∀ saw, may f saw) :
    CallResult effect may c party t (((fun _ => answer) <$> put party key row : Action (Table ν) Answer) t) := by
  rcases hw : t.write party (key, some row) with e | t'
  · have hput : put party key row t = (.error e, t) := change_of_error hw
    rw [Action.map_of_error hput]
    exact .failed
  · have hput : put party key row t = (.ok (), t') := change_of_ok hw
    obtain ⟨rows, hview⟩ := view_of_write hw
    rw [Action.map_of_ok hput]
    exact .wrote h hview (hmay _) (hf ▸ hw)

/-- What a call does that writes a new row. -/
theorem call_putNew {key : String} {row : ν} {answer : Answer} (h : effect c answer = some (.creates key row))
    (hmay : may (.creates key row) none) :
    CallResult effect may c party t (((fun _ => answer) <$> putNew party key row : Action (Table ν) Answer) t) := by
  rcases hview : t.view party with e | rows
  · have hput : putNew party key row t = (.error e, t) := change_of_error (by rw [hview]; rfl)
    rw [Action.map_of_error hput]
    exact .failed
  · cases hrow : rows.get? key with
    | some old =>
      have hput : putNew party key row t =
          (.error (.infrastructure s!"duplicate key value violates unique constraint: {key}"), t) :=
        change_of_error (by simp [hview, Rows.contains, hrow, bind, Except.bind])
      rw [Action.map_of_error hput]
      exact .failed
    | none =>
      rcases hw : t.write party (key, some row) with e | t'
      · have hput : putNew party key row t = (.error e, t) :=
          change_of_error (by simp [hview, Rows.contains, hrow, hw, bind, Except.bind])
        rw [Action.map_of_error hput]
        exact .failed
      · have hput : putNew party key row t = (.ok (), t') :=
          change_of_ok (by simp [hview, Rows.contains, hrow, hw, bind, Except.bind])
        rw [Action.map_of_ok hput]
        have hsaw : may (.creates key row) (rows.get? key) := hrow ▸ hmay
        exact .wrote h hview hsaw hw

/-- What a call does that removes a row. -/
theorem call_remove {key : String} (hfalse : effect c (.existed false) = none)
    (htrue : effect c (.existed true) = some (.removes key)) (hmay : ∀ saw, may (.removes key) saw) :
    CallResult effect may c party t ((Answer.existed <$> remove party key : Action (Table ν) Answer) t) := by
  rcases hview : t.view party with e | rows
  · have hremove : remove party key t = (.error e, t) := by simp [remove, hview, Except.map]
    rw [Action.map_of_error hremove]
    exact .failed
  · cases hrow : rows.contains key with
    | false =>
      have hremove : remove party key t = (.ok false, t) := by simp [remove, hview, Except.map, hrow]
      rw [Action.map_of_ok hremove]
      exact .looked hfalse
    | true =>
      rcases hw : t.write party (key, none) with e | t'
      · have hremove : remove party key t = (.error e, t) := by simp [remove, hview, Except.map, hrow, hw]
        rw [Action.map_of_error hremove]
        exact .failed
      · have hremove : remove party key t = (.ok true, t') := by simp [remove, hview, Except.map, hrow, hw]
        rw [Action.map_of_ok hremove]
        exact .wrote htrue hview (hmay _) hw

end Table

/-- A post is created only in sight of no row of its id. -/
def Unseen {ν : Type} (f : Effect ν) (saw : Option ν) : Prop := ∀ key row, f = .creates key row → saw = none

/-- What a call of posts does. -/
theorem Posts.call_result (c : PostCall) (party : Option Handle) (t : Table Post) :
    Table.CallResult PostCall.effect Unseen c party t (c.run tableStore party t) := by
  cases c with
  | create post => exact Table.call_putNew rfl fun _ _ _ => rfl
  | update post => exact Table.call_put rfl rfl fun _ _ _ h => nomatch h
  | delete id => exact Table.call_remove rfl rfl fun _ _ _ h => nomatch h
  | page page => exact Table.call_ask _ _ fun _ => rfl
  | find id => exact Table.call_ask _ _ fun _ => rfl
  | ofUser user => exact Table.call_ask _ _ fun _ => rfl

/-- What a call of comments does. -/
theorem Comments.call_result (replica : Replica) (c : CommentCall) (party : Option Handle) (t : Table Comment) :
    Table.CallResult CommentCall.effect (fun _ _ => True) c party t (c.run (tableStore replica) party t) := by
  cases c with
  | create comment => exact Table.call_put rfl rfl fun _ => trivial
  | update comment => exact Table.call_put rfl rfl fun _ => trivial
  | delete id => exact Table.call_remove rfl rfl fun _ => trivial
  | page page => exact Table.call_ask _ _ fun _ => rfl
  | find id => exact Table.call_ask _ _ fun _ => rfl
  | ofUser user => exact Table.call_ask _ _ fun _ => rfl
  | ofPost post => exact Table.call_ask _ _ fun _ => rfl
  | withPost post =>
    simp only [CommentCall.run, tableStore]
    cases replica.rows.get? post.text with
    | none => exact .looked rfl
    | some row =>
      rw [← comp_map]
      exact Table.call_ask _ _ fun _ => rfl

/-! ## Deeds -/

namespace Table

variable {κ ν : Type}

/-- What a deed does to a table that several parties share: it is refused, or it only looks, or it begins or ends a
transaction, or it makes or stages a write, or from now on the writes of a key fail. -/
inductive DeedResult (effect : κ → Answer → Option (Effect ν)) (may : Effect ν → Option ν → Prop)
    (m : Shared (Table ν)) : Deed κ → Told × Shared (Table ν) → Prop
  | refused {d : Deed κ} {told : Told} (h : ∀ answer, told ≠ some (.ok answer)) : DeedResult effect may m d (told, m)
  | looked {name? : Option String} {c : κ} {answer : Answer} (h : effect c answer = none) :
    DeedResult effect may m (.call name? c) (some (.ok answer), m)
  | begun {name : String} : DeedResult effect may m (.begin name)
      (some (.ok .done), (⟨m.state.begin.2, m.named⟩ : Shared (Table ν)).name name m.state.begin.1)
  | made {c : κ} {answer : Answer} {f : Effect ν} (h : effect c answer = some f)
      (hmay : may f (m.state.rows.get? f.key)) :
    DeedResult effect may m (.call none c)
      (some (.ok answer), { m with state := { m.state with rows := m.state.rows.write f.write } })
  | staged {name : String} {tx : Handle} {ws : List (Rows.Write ν)} {c : κ} {answer : Answer} {f : Effect ν}
      (hname : m.named name = some tx) (hws : m.state.staged[tx]? = some (some ws)) (h : effect c answer = some f)
      (hmay : may f ((m.state.rows.writeAll ws).get? f.key)) :
    DeedResult effect may m (.call (some name) c)
      (some (.ok answer), { m with state := m.state.settled m.state.rows tx (some (ws ++ [f.write])) })
  | committed {name : String} {tx : Handle} {ws : List (Rows.Write ν)} (hname : m.named name = some tx)
      (hws : m.state.staged[tx]? = some (some ws)) :
    DeedResult effect may m (.commit name)
      (some (.ok .done), { m with state := m.state.settled (m.state.rows.writeAll ws) tx none })
  | rolledBack {name : String} {tx : Handle} {ws : List (Rows.Write ν)} (hname : m.named name = some tx)
      (hws : m.state.staged[tx]? = some (some ws)) :
    DeedResult effect may m (.rollback name)
      (some (.ok .done), { m with state := m.state.settled m.state.rows tx none })
  | barred {key : String} : DeedResult effect may m (.fail key) (some (.ok .done), { m with state := m.state.fail key })

variable {effect : κ → Answer → Option (Effect ν)} {may : Effect ν → Option ν → Prop} {faults : Faults}
  {run : κ → Option Handle → Action (Table ν) Answer} {m : Shared (Table ν)}

theorem refused_error {d : Deed κ} {e : Error} : DeedResult effect may m d (some (.error e), m) :=
  .refused fun _ => by simp

theorem refused_untold {d : Deed κ} : DeedResult effect may m d (none, m) := .refused fun _ => by simp

/-- The end of a transaction is refused, or the transaction was open and is over. -/
theorem ending_cases (close : Table ν → Except Error (Table ν)) (fault : Option Error) (t : Table ν) :
    (∃ e, ((fun _ => Answer.done) <$> barred fault (change close) : Action (Table ν) Answer) t = (.error e, t)) ∨
      ∃ t', ((fun _ => Answer.done) <$> barred fault (change close) : Action (Table ν) Answer) t = (.ok .done, t') ∧
        close t = .ok t' := by
  cases fault with
  | some e => exact .inl ⟨e, rfl⟩
  | none =>
    rcases hend : close t with e | t'
    · exact .inl ⟨e, Action.map_of_error (change_of_error hend) _⟩
    · exact .inr ⟨t', Action.map_of_ok (change_of_ok hend) _, rfl⟩

/-- A call outside of every transaction makes its write. -/
theorem deed_alone {c : κ} {result : Except Error Answer × Table ν} (h : CallResult effect may c none m.state result) :
    DeedResult effect may m (.call none c) (some result.1, { m with state := result.2 }) := by
  cases h with
  | failed => exact refused_error
  | looked h => exact .looked h
  | wrote h hview hmay hwrite =>
    obtain rfl := write_none_eq_ok hwrite
    obtain rfl := Except.ok.inj hview
    exact .made h hmay

/-- A call through a transaction stages its write. -/
theorem deed_within {name : String} {tx : Handle} (hname : m.named name = some tx) {c : κ}
    {result : Except Error Answer × Table ν} (h : CallResult effect may c (some tx) m.state result) :
    DeedResult effect may m (.call (some name) c) (some result.1, { m with state := result.2 }) := by
  cases h with
  | failed => exact refused_error
  | looked h => exact .looked h
  | wrote h hview hmay hwrite =>
    obtain ⟨ws, hws, rfl⟩ := write_some_eq_ok hwrite
    rw [view_of_getElem? hws] at hview
    obtain rfl := Except.ok.inj hview
    exact .staged hname hws h hmay

/-- What a deed does, whoever does it. -/
theorem deed_result (hrun : ∀ c party t, CallResult effect may c party t (run c party t)) (m : Shared (Table ν))
    (d : Deed κ) : DeedResult effect may m d (perform (repository faults run) m d) := by
  cases d with
  | begin name =>
    simp only [perform, repository]
    cases faults.begin with
    | some e => exact refused_error
    | none => exact .begun
  | call name? c =>
    cases name? with
    | none => exact deed_alone (hrun c none m.state)
    | some name =>
      simp only [perform, Shared.actAs]
      cases hname : m.named name with
      | none => exact refused_untold
      | some tx => exact deed_within hname (hrun c (some tx) m.state)
  | commit name =>
    simp only [perform, Shared.actAs]
    cases hname : m.named name with
    | none => exact refused_untold
    | some tx =>
      rcases ending_cases (fun t => t.commit tx) faults.commit m.state with ⟨e, h⟩ | ⟨t', h, hcommit⟩
      · simp only [Shared.act, repository, h]
        exact refused_error
      · obtain ⟨ws, hws, rfl⟩ := commit_eq_ok hcommit
        simp only [Shared.act, repository, h]
        exact .committed hname hws
  | rollback name =>
    simp only [perform, Shared.actAs]
    cases hname : m.named name with
    | none => exact refused_untold
    | some tx =>
      rcases ending_cases (fun t => t.rollback tx) faults.rollback m.state with ⟨e, h⟩ | ⟨t', h, hrollback⟩
      · simp only [Shared.act, repository, h]
        exact refused_error
      · obtain ⟨ws, hws, rfl⟩ := rollback_eq_ok hrollback
        simp only [Shared.act, repository, h]
        exact .rolledBack hname hws
  | fail key => exact .barred

end Table

end Memory

end Forum
