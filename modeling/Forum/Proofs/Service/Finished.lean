import Forum.Proofs.Service.Deeds

/-!
# Transactions that are over

A transaction of a table is over once it has been committed or rolled back (`over_of_end`), and nothing that is done to
the table opens it again (`Over.deed`). What is done through it is refused and leaves the table: calls of posts
(`Shut.posts`), calls of comments (`Shut.comments`), and its end, once more (`Over.refuses`). In a repository around a
table such a transaction is dead (`Wraps.dead`).
-/

namespace Forum

namespace Sharing

variable {σ τ κ : Type} {name : String}

/-- The deed is to end the transaction of a name. -/
def Deed.Ends (name : String) (d : Deed κ) : Prop := d = .commit name ∨ d = .rollback name

/-- The deed is done through the transaction of a name, which has begun before. -/
def Deed.Uses (name : String) (d : Deed κ) : Prop := d.through = some name ∧ d ≠ .begin name

/-- A deed is refused for a reason, and nothing of what is kept changes. -/
def Refuses (r : Repository σ κ) (kept : σ → τ) (reason : σ → Error → Prop) (m : Shared σ) (d : Deed κ) : Prop :=
  ∃ e, (perform r m d).1 = some (.error e) ∧ reason m.state e ∧ kept (perform r m d).2.state = kept m.state

/-- Whatever is done later, as long as no other transaction gets the name, each deed through the transaction is refused,
unless it is of those that are left out. -/
def Dead (r : Repository σ κ) (kept : σ → τ) (reason : σ → Error → Prop) (leftOut : Deed κ → Prop) (name : String)
    (m : Shared σ) : Prop :=
  ∀ later : List (Deed κ), (∀ d ∈ later, d ≠ .begin name) →
    ∀ d : Deed κ, d.Uses name → ¬leftOut d → Refuses r kept reason (after r later m) d

/-- What every deed keeps, and what lets the deeds through a transaction be refused, makes it a dead one. -/
theorem dead_of_kept {r : Repository σ κ} {kept : σ → τ} {reason : σ → Error → Prop} {leftOut : Deed κ → Prop}
    {P : Shared σ → Prop} (hkept : ∀ m d, P m → d ≠ .begin name → P (perform r m d).2)
    (hrefuses : ∀ m d, P m → d.Uses name → ¬leftOut d → Refuses r kept reason m d) {m : Shared σ} (hm : P m) :
    Dead r kept reason leftOut name m := by
  intro later
  induction later generalizing m with
  | nil => exact fun _ d huses hleft => hrefuses m d hm huses hleft
  | cons d later ih =>
    intro hlater
    obtain ⟨hd, hrest⟩ := List.forall_mem_cons.1 hlater
    exact ih (hkept m d hm hd) hrest

/-- What is done through a transaction is a call, or its end. -/
theorem perform_of_uses {r : Repository σ κ} {m : Shared σ} {tx : Handle} (hname : m.named name = some tx)
    {d : Deed κ} (huses : d.Uses name) {P : Action σ Answer → Prop}
    (hcall : ∀ c, d = .call (some name) c → P (r.run c (some tx)))
    (hcommit : P ((fun _ => .done) <$> r.transactions.commit tx))
    (hrollback : P ((fun _ => .done) <$> r.transactions.rollback tx)) : ∃ a, P a ∧ perform r m d = m.act a := by
  have hact (a : Handle → Action σ Answer) : m.actAs name a = m.act (a tx) := by rw [Shared.actAs, hname]
  obtain ⟨hthrough, hbegin⟩ := huses
  cases d with
  | begin y => exact absurd (congrArg Deed.begin (Option.some.inj hthrough)) hbegin
  | call y c =>
    obtain rfl : y = some name := hthrough
    exact ⟨_, hcall c rfl, hact fun tx => r.run c (some tx)⟩
  | commit y =>
    obtain rfl : y = name := Option.some.inj hthrough
    exact ⟨_, hcommit, hact fun tx => (fun _ => .done) <$> r.transactions.commit tx⟩
  | rollback y =>
    obtain rfl : y = name := Option.some.inj hthrough
    exact ⟨_, hrollback, hact fun tx => (fun _ => .done) <$> r.transactions.rollback tx⟩
  | fail key => cases hthrough

end Sharing

open Sharing

/-- The call asks for the comments on a post that the replica does not have, so that it does not come to the table. -/
def CommentCall.Unposted (replica : Memory.Replica) (c : CommentCall) : Prop :=
  ∃ id, c = .withPost id ∧ replica.rows.get? id.text = none

namespace Memory

namespace Table

variable {κ ν α β : Type} {t : Table ν} {tx : Handle}

/-! ## Calls through a transaction that is over -/

/-- Why a deed through a transaction that is over is refused: it is over, or the writes of a key are made to fail. -/
def Refusal (t : Table ν) (e : Error) : Prop :=
  (∃ reason, e = .transaction reason) ∨ ∃ key ∈ t.failing, e = .infrastructure s!"injected write failure for {key}"

/-- The transaction is over. -/
def Shut (tx : Handle) (t : Table ν) : Prop := t.stagedBy tx = .error .completed

/-- An operation is refused and leaves the table. -/
def Fails (t : Table ν) (a : Action (Table ν) α) : Prop := ∃ e, t.Refusal e ∧ a t = (.error e, t)

theorem refusal_completed (t : Table ν) : t.Refusal .completed := .inl ⟨_, rfl⟩

theorem Fails.map {a : Action (Table ν) α} (h : Fails t a) (f : α → β) : Fails t (f <$> a) := by
  obtain ⟨e, he, ha⟩ := h
  exact ⟨e, he, Action.map_of_error ha f⟩

theorem Shut.view (h : Shut tx t) : t.view (some tx) = .error .completed := by
  rw [view_some, h]
  rfl

theorem Shut.write (h : Shut tx t) (w : Rows.Write ν) : ∃ e, t.Refusal e ∧ t.write (some tx) w = .error e := by
  rw [write_some]
  split
  · rename_i hfailing
    exact ⟨_, .inr ⟨w.1, List.contains_iff_mem.1 hfailing, rfl⟩, rfl⟩
  · rw [h]
    exact ⟨_, t.refusal_completed, rfl⟩

theorem Shut.put (h : Shut tx t) (key : String) (row : ν) : Fails t (put (some tx) key row) := by
  obtain ⟨e, he, hwrite⟩ := h.write (key, some row)
  exact ⟨e, he, change_of_error hwrite⟩

theorem Shut.putNew (h : Shut tx t) (key : String) (row : ν) : Fails t (putNew (some tx) key row) := by
  refine ⟨_, t.refusal_completed, change_of_error ?_⟩
  rw [h.view]
  rfl

theorem Shut.remove (h : Shut tx t) (key : String) : Fails t (remove (some tx) key) := by
  refine ⟨_, t.refusal_completed, ?_⟩
  unfold Table.remove
  rw [h.view]
  rfl

theorem Shut.ask (h : Shut tx t) (f : Rows ν → Except Error α) : Fails t (ask (some tx) f) := by
  refine ⟨_, t.refusal_completed, ?_⟩
  unfold Table.ask
  rw [h.view]
  rfl

theorem Shut.posts {t : Table Post} (h : Shut tx t) (c : PostCall) : Fails t (c.run Posts.tableStore (some tx)) := by
  cases c with
  | create post => exact (h.putNew _ _).map _
  | update post => exact (h.put _ _).map _
  | delete id => exact (h.remove _).map _
  | page page => exact (h.ask _).map _
  | find id => exact (h.ask _).map _
  | ofUser user => exact (h.ask _).map _

theorem Shut.comments {t : Table Comment} (h : Shut tx t) {replica : Replica} {c : CommentCall}
    (hpost : ¬c.Unposted replica) : Fails t (c.run (Comments.tableStore replica) (some tx)) := by
  cases c with
  | create comment => exact (h.put _ _).map _
  | update comment => exact (h.put _ _).map _
  | delete id => exact (h.remove _).map _
  | page page => exact (h.ask _).map _
  | find id => exact (h.ask _).map _
  | ofUser user => exact (h.ask _).map _
  | ofPost post => exact (h.ask _).map _
  | withPost post =>
    simp only [CommentCall.run, Comments.tableStore]
    cases hrow : replica.rows.get? post.text with
    | none => exact absurd ⟨post, rfl, hrow⟩ hpost
    | some row => exact ((h.ask _).map _).map _

/-! ## Transactions of a name -/

/-- The transaction of a name has begun and is over. -/
structure Over (name : String) (m : Shared (Table ν)) : Prop where
  names : Names m.named m.state.staged.length
  ended : ∃ tx, m.named name = some tx ∧ m.state.staged[tx]? = some none

/-- The errors of transactions that are made to fail are those of transactions. -/
def Faults.Transactional (f : Faults) : Prop :=
  ∀ e, f.begin = some e ∨ f.commit = some e ∨ f.rollback = some e → ∃ reason, e = .transaction reason

/-- The error of a deed that is made to fail before it comes to the table. -/
def Faults.of (f : Faults) : Deed κ → Option Error
  | .begin _ => f.begin
  | .commit _ => f.commit
  | .rollback _ => f.rollback
  | _ => none

variable {effect : κ → Answer → Option (Effect ν)} {may : Effect ν → Option ν → Prop} {faults : Faults}
  {run : κ → Option Handle → Action (Table ν) Answer} {m : Shared (Table ν)} {name : String} {d : Deed κ}
  {result : Told × Shared (Table ν)}

theorem names_settled (h : Names m.named m.state.staged.length) (rows : Rows ν) (tx : Handle)
    (v : Option (List (Rows.Write ν))) : Names m.named (m.state.settled rows tx v).staged.length :=
  (m.state.length_settled rows tx v).symm ▸ h

theorem names_deed (h : Names m.named m.state.staged.length) (hresult : DeedResult effect may m d result) :
    Names result.2.named result.2.state.staged.length := by
  cases hresult with
  | refused _ => exact h
  | looked _ => exact h
  | begun => exact names_begin h _
  | made _ _ => exact h
  | staged _ _ _ _ => exact names_settled h _ _ _
  | committed _ _ => exact names_settled h _ _ _
  | rolledBack _ _ => exact names_settled h _ _ _
  | barred => exact h

theorem names_after (hrun : ∀ c party t, CallResult effect may c party t (run c party t)) (ds : List (Deed κ)) :
    ∀ {m : Shared (Table ν)}, Names m.named m.state.staged.length →
      Names (after (repository faults run) ds m).named (after (repository faults run) ds m).state.staged.length := by
  induction ds with
  | nil => exact fun h => h
  | cons d ds ih => exact fun h => ih (names_deed h (deed_result hrun _ d))

/-- Where an open transaction stages something or ends, one that is over stays so. -/
theorem Over.settled (h : Over name m) {tx : Handle} {ws : List (Rows.Write ν)}
    (hws : m.state.staged[tx]? = some (some ws)) (rows : Rows ν) (v : Option (List (Rows.Write ν))) :
    Over name { m with state := m.state.settled rows tx v } := by
  obtain ⟨tx', hname, hover⟩ := h.ended
  have hne : tx ≠ tx' := by
    rintro rfl
    rw [hover] at hws
    cases hws
  exact ⟨names_settled h.names _ _ _, tx', hname, (List.getElem?_set_ne hne).trans hover⟩

/-- A transaction that is over stays so. -/
theorem Over.deed (h : Over name m) (hd : d ≠ .begin name) (hresult : DeedResult effect may m d result) :
    Over name result.2 := by
  obtain ⟨tx, hname, hover⟩ := h.ended
  have hnames := names_deed h.names hresult
  cases hresult with
  | refused _ => exact h
  | looked _ => exact h
  | @begun other =>
    have hother : name ≠ other := fun heq => hd (heq ▸ rfl)
    exact ⟨hnames, tx, (if_neg hother).trans hname, (List.getElem?_append_left (h.names.lt hname)).trans hover⟩
  | made _ _ => exact ⟨hnames, tx, hname, hover⟩
  | staged _ hws _ _ => exact h.settled hws _ _
  | committed _ hws => exact h.settled hws _ _
  | rolledBack _ hws => exact h.settled hws _ _
  | barred => exact ⟨hnames, tx, hname, hover⟩

theorem Over.shut (h : Over name m) {tx : Handle} (hname : m.named name = some tx) : Shut tx m.state := by
  obtain ⟨tx', hname', hover⟩ := h.ended
  obtain rfl := Option.some.inj (hname.symm.trans hname')
  exact stagedBy_of_not_open fun ws hws => nomatch hover.symm.trans hws

theorem over_of_close (h : Names m.named m.state.staged.length) {tx : Handle} (hname : m.named name = some tx)
    {close : Table ν → Except Error (Table ν)} {rows : Rows ν}
    (hclose : close m.state = .ok (m.state.settled rows tx none)) :
    Over name (m.act ((fun _ => Answer.done) <$> barred none (change close))).2 := by
  have hact : ((fun _ => Answer.done) <$> barred none (change close) : Action (Table ν) Answer) m.state =
      (.ok .done, m.state.settled rows tx none) :=
    Action.map_of_ok (change_of_ok hclose) _
  rw [Shared.act, hact]
  exact ⟨names_settled h rows tx none, tx, hname, List.getElem?_set_self (h.lt hname)⟩

/-- Once its end has come to the table, a transaction is over. -/
theorem over_of_end (hrun : ∀ c party t, CallResult effect may c party t (run c party t))
    (h : Names m.named m.state.staged.length) (hname : (m.named name).isSome = true) (hd : d.Ends name)
    (hfault : faults.of d = none) : Over name (perform (repository faults run) m d).2 := by
  obtain ⟨tx, htx⟩ := Option.isSome_iff_exists.1 hname
  rcases hstaged : m.state.staged[tx]? with _ | (_ | ws)
  · exact absurd (List.getElem?_eq_none_iff.1 hstaged) (Nat.not_le.2 (h.lt htx))
  · -- it was over before, and its end is refused once more
    have hover : Over name m := ⟨h, tx, htx, hstaged⟩
    refine hover.deed ?_ (deed_result hrun m d)
    rcases hd with rfl | rfl <;> exact nofun
  · rcases hd with rfl | rfl
    · have hcommit : faults.commit = none := hfault
      simp only [perform, Shared.actAs, htx, repository, hcommit]
      exact over_of_close h htx (commit_of_getElem? hstaged)
    · have hrollback : faults.rollback = none := hfault
      simp only [perform, Shared.actAs, htx, repository, hrollback]
      exact over_of_close h htx (rollback_of_getElem? hstaged)

/-- The end of a transaction that is over is refused. -/
theorem fails_ending {close : Table ν → Except Error (Table ν)} (hclose : close t = .error .completed)
    {fault : Option Error} (hfault : ∀ e, fault = some e → ∃ reason, e = .transaction reason) :
    Fails t ((fun _ => Answer.done) <$> barred fault (change close) : Action (Table ν) Answer) := by
  refine Fails.map ?_ _
  cases fault with
  | some e => exact ⟨e, .inl (hfault e rfl), rfl⟩
  | none => exact ⟨_, t.refusal_completed, change_of_error hclose⟩

/-- What is done through a transaction that is over is refused, and leaves the table. -/
theorem Over.refuses (h : Over name m) (hfaults : faults.Transactional) {leftOut : Deed κ → Prop}
    (hfails : ∀ c, ¬leftOut (.call (some name) c) → ∀ tx t, Shut tx t → Fails t (run c (some tx)))
    (huses : d.Uses name) (hleft : ¬leftOut d) :
    ∃ e, m.state.Refusal e ∧ perform (repository faults run) m d = (some (.error e), m) := by
  obtain ⟨tx, hname, -⟩ := h.ended
  have hshut := h.shut hname
  have hcommit : m.state.commit tx = .error .completed := by
    rw [Table.commit, hshut]
    rfl
  have hrollback : m.state.rollback tx = .error .completed := by
    rw [Table.rollback, hshut]
    rfl
  obtain ⟨a, ⟨e, he, ha⟩, hperform⟩ := perform_of_uses (r := repository faults run) (P := Fails m.state) hname huses
    (fun c hc => hfails c (hc ▸ hleft) tx _ hshut)
    (fails_ending hcommit fun e he => hfaults e (.inr (.inl he)))
    (fails_ending hrollback fun e he => hfaults e (.inr (.inr he)))
  exact ⟨e, he, by rw [hperform, Shared.act, ha]⟩

end Table

/-! ## Repositories around a table -/

section

variable {σ ρ κ ν : Type} {r : Repository σ κ} {table : σ → Table ν} {rest : σ → ρ} {faults : ρ → Table.Faults}
  {run : ρ → κ → Option Handle → Action (Table ν) Answer} {effect : κ → Answer → Option (Effect ν)}
  {may : Effect ν → Option ν → Prop} {m : Shared σ} {name : String}

/-- Where the end of a transaction has come to the table, the transaction is dead. -/
theorem Wraps.dead (h : Wraps r table rest fun x => Table.repository (faults x) (run x))
    (hrun : ∀ x c party t, Table.CallResult effect may c party t (run x c party t))
    (hfaults : ∀ x, (faults x).Transactional) {s : σ} {leftOut : Deed κ → Prop}
    (hfails : ∀ c, ¬leftOut (.call (some name) c) → ∀ tx t, Table.Shut tx t → Table.Fails t (run (rest s) c (some tx)))
    (ds : List (Deed κ)) {d : Deed κ} (hname : ((after r ds (.new s)).named name).isSome = true) (hd : d.Ends name)
    (hfault : (faults (rest s)).of d = none) :
    Dead r table (fun s => (table s).Refusal) leftOut name (Sharing.perform r (after r ds (.new s)) d).2 := by
  have hrest : rest (after r ds (.new s)).state = rest s := h.rest_after ds _
  refine dead_of_kept (P := fun m => rest m.state = rest s ∧ Table.Over name (m.on table)) ?_ ?_ ?_
  · rintro m d ⟨hm, hover⟩ hd
    obtain ⟨-, htable, hrest⟩ := h.perform m d
    rw [htable]
    exact ⟨hrest.trans hm, hover.deed hd (Table.deed_result (hrun _) _ d)⟩
  · rintro m d ⟨hm, hover⟩ huses hleft
    obtain ⟨htold, htable, -⟩ := h.perform m d
    rw [hm] at htold htable
    obtain ⟨e, he, hperform⟩ := hover.refuses (hfaults (rest s)) hfails huses hleft
    rw [hperform] at htold htable
    exact ⟨e, htold, he, congrArg Shared.state htable⟩
  · obtain ⟨-, htable, hafter⟩ := h.perform (after r ds (.new s)) d
    refine ⟨hafter.trans hrest, ?_⟩
    rw [htable, hrest]
    refine Table.over_of_end (hrun _) ?_ hname hd hfault
    rw [(h.run_eq ds (.new s)).2]
    exact Table.names_after (hrun _) ds (Table.parted_new name _).names

end

end Memory

end Forum
