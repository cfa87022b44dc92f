import Forum.Proofs.Database.Finished
import Forum.Proofs.Service.Nesting

/-!
# Blocks within a transaction, in memory and in the database

A call through an open transaction of a table stages a write at most (`Posts.run_grows`, `Comments.run_grows`), and one
through the open transaction of a database sends statements at most (`conversed_run`). So a plan that runs within a
transaction does no more than that, however its blocks end, and in a transaction of its own it does what its inlined form
does (`nested_transparent`).
-/

namespace Forum

open Sharing

variable {σ κ : Type}

/-- A call of a repository as a deed of a plan. -/
def Sharing.Repository.act (r : Repository σ κ) (c : κ) (scope : Scope) : Work σ Answer := .ofAction (r.run c scope.tx)

namespace Memory

/-! ## Tables -/

namespace Table

variable {ν : Type} {tx : Handle} {t t' : Table ν}

/-- A transaction may have staged more, and nothing else has changed: it is open still, and so are all others. -/
def Grown (tx : Handle) (t t' : Table ν) : Prop :=
  t' = t ∨ ∃ ws more, t.staged[tx]? = some (some ws) ∧ t' = t.settled t.rows tx (some (ws ++ more))

theorem Grown.trans {t'' : Table ν} (h : Grown tx t t') (h' : Grown tx t' t'') : Grown tx t t'' := by
  rcases h with rfl | ⟨ws, more, hws, rfl⟩
  · exact h'
  · rcases h' with rfl | ⟨ws', more', hws', rfl⟩
    · exact .inr ⟨ws, more, hws, rfl⟩
    · have hself : (t.staged.set tx (some (ws ++ more)))[tx]? = some (some (ws ++ more)) :=
        List.getElem?_set_self (List.getElem?_eq_some_iff.1 hws).1
      obtain rfl : ws ++ more = ws' := Option.some.inj (Option.some.inj (hself.symm.trans hws'))
      refine .inr ⟨ws, more ++ more', hws, ?_⟩
      simp [settled, List.append_assoc]

instance : IsPreorder (Table ν) (Grown tx) where
  refl _ := .inl rfl
  trans _ _ _ := Grown.trans

/-- A call through a transaction stages the write that its answer tells of. -/
theorem CallResult.grows {effect : κ → Answer → Option (Effect ν)} {may : Effect ν → Option ν → Prop} {c : κ}
    {result : Except Error Answer × Table ν} (h : CallResult effect may c (some tx) t result) : Grown tx t result.2 := by
  cases h with
  | failed => exact .inl rfl
  | looked _ => exact .inl rfl
  | wrote _ _ _ hwrite =>
    obtain ⟨ws, hws, rfl⟩ := write_some_eq_ok hwrite
    exact .inr ⟨ws, _, hws, rfl⟩

end Table

/-! ## Posts and comments -/

/-- A transaction of posts may have staged more, and nothing else has changed, nor was anything counted. -/
def Posts.Grown (tx : Handle) (s s' : Posts) : Prop := s.table.Grown tx s'.table ∧ s' = { s with table := s'.table }

instance (tx : Handle) : IsPreorder Posts (Posts.Grown tx) where
  refl _ := ⟨.inl rfl, rfl⟩
  trans _ _ _ h h' := ⟨h.1.trans h'.1, by rw [h'.2, h.2]⟩

theorem Posts.run_grows (c : PostCall) (tx : Handle) : Keeps (Posts.Grown tx) (c.run store (some tx)) := by
  intro s
  rw [run_store]
  exact ⟨(call_result c (some tx) s.table).grows, rfl⟩

/-- A transaction of comments may have staged more, and nothing else has changed. -/
def Comments.Grown (tx : Handle) (s s' : Comments) : Prop := s.table.Grown tx s'.table ∧ s'.replica = s.replica

instance (tx : Handle) : IsPreorder Comments (Comments.Grown tx) where
  refl _ := ⟨.inl rfl, rfl⟩
  trans _ _ _ h h' := ⟨h.1.trans h'.1, h'.2.trans h.2⟩

theorem Comments.run_grows (c : CommentCall) (tx : Handle) : Keeps (Comments.Grown tx) (c.run store (some tx)) := by
  intro s
  obtain ⟨-, htable, hreplica⟩ := repository_wraps.run c (some tx) s
  refine ⟨?_, hreplica⟩
  rw [show (c.run store (some tx) s).2.table = _ from htable]
  exact (call_result s.replica c (some tx) s.table).grows

end Memory

namespace Database

open Session

/-! ## Sessions -/

/-- Statements may have been sent, and no commands. The same transaction is open. -/
structure Conversed (s s' : Session) : Prop where
  sent : ∃ sts : List Statement, s'.sent = s.sent ++ sts.map .statement
  current : s'.current = s.current
  begun : s'.begun = s.begun
  abandoned : s'.abandoned = s.abandoned

theorem Conversed.trans {s s' s'' : Session} (h : Conversed s s') (h' : Conversed s' s'') : Conversed s s'' := by
  obtain ⟨⟨sts, hsent⟩, hcurrent, hbegun, habandoned⟩ := h
  obtain ⟨⟨sts', hsent'⟩, hcurrent', hbegun', habandoned'⟩ := h'
  refine ⟨⟨sts ++ sts', ?_⟩, hcurrent'.trans hcurrent, hbegun'.trans hbegun, habandoned'.trans habandoned⟩
  rw [hsent', hsent, List.map_append, List.append_assoc]

instance : IsPreorder Session Conversed where
  refl _ := ⟨⟨[], (List.append_nil _).symm⟩, rfl, rfl, rfl⟩
  trans _ _ _ := Conversed.trans

theorem conversed_exchange (st : Statement) : Keeps Conversed (exchange st) := by
  rintro ⟨_ | ⟨reply, replies⟩⟩
  · exact ⟨⟨[st], rfl⟩, rfl, rfl, rfl⟩
  · cases reply <;> exact ⟨⟨[st], rfl⟩, rfl, rfl, rfl⟩

theorem conversed_send (tx : Handle) (st : Statement) : Keeps Conversed (send (some tx) st) := by
  have hopen : Keeps Conversed (requireOpen tx) := fun s => refl_of Conversed s
  exact hopen.bind fun _ => conversed_exchange st

theorem conversed_run (tx : Handle) (c : StoreCall) : Keeps Conversed (c.run (some tx)) :=
  keeps_run (conversed_send tx) c

end Database

/-! ## All together -/

/-- In a transaction of its own, a plan with blocks inside answers and leaves what its inlined form does: the same state,
so the same rows and the same messages sent. Units of work do so too, with the record of their steps. In a transaction
that is open, a plan runs the same whatever beginning, committing and rolling back would do: it stages writes of posts or
comments, or sends statements, and that transaction and all others stay open. -/
theorem nested_transparent :
    (∀ {κ ρ σ α : Type} (act : κ → Scope → Work σ ρ) (t : Transactions σ) (p : Plan κ ρ α), p.inline.Plain ∧
        t.within .unbound (p.run act t) = t.within .unbound (p.inline.run act t) ∧
        ∀ tx deadline u, p.run act u ⟨some tx, deadline⟩ = p.inline.run act t ⟨some tx, deadline⟩) ∧
      (∀ {σ : Type} (setting : UnitOfWork.Setting σ) (steps : List UnitOfWork.Step) (s : σ),
        UnitOfWork.run setting .unbound steps s =
          UnitOfWork.runPlan setting .unbound (UnitOfWork.plan steps).inline s) ∧
      (∀ {α : Type} (p : Plan PostCall Answer α) (t : Transactions Memory.Posts) tx deadline,
        Keeps (Memory.Posts.Grown tx) (p.run Memory.Posts.repository.act t ⟨some tx, deadline⟩)) ∧
      (∀ {α : Type} (p : Plan CommentCall Answer α) (t : Transactions Memory.Comments) tx deadline,
        Keeps (Memory.Comments.Grown tx) (p.run Memory.Comments.repository.act t ⟨some tx, deadline⟩)) ∧
      ∀ {α : Type} (p : Plan Database.StoreCall Answer α) (t : Transactions Database.Session) tx deadline,
        Keeps Database.Conversed (p.run Database.repository.act t ⟨some tx, deadline⟩) := by
  have hinline {κ ρ σ α : Type} (act : κ → Scope → Work σ ρ) (t : Transactions σ) (p : Plan κ ρ α) :
      t.within .unbound (p.run act t) = t.within .unbound (p.inline.run act t) :=
    t.within_congr (fun _ _ => Plan.run_of_bound act t t rfl p) .unbound
  refine ⟨fun act t p => ⟨p.plain_inline, hinline act t p, fun _ _ u => Plan.run_of_bound act t u rfl p⟩,
    fun setting steps s => ?_, fun p t tx _ => ?_, fun p t tx _ => ?_, fun p t tx _ => ?_⟩
  · rw [UnitOfWork.run_eq_plan, UnitOfWork.runPlan, hinline]
    rfl
  · exact Plan.keeps_run t rfl (fun c => (Memory.Posts.run_grows c tx).ofAction) p
  · exact Plan.keeps_run t rfl (fun c => (Memory.Comments.run_grows c tx).ofAction) p
  · exact Plan.keeps_run t rfl (fun c => (Database.conversed_run tx c).ofAction) p

/-- A block inside finds nothing to change and fails, and the unit goes on and is committed, once. -/
example : (UnitOfWork.run ⟨Database.postStore, Database.transactions, fun _ _ => pure ()⟩ .unbound
    [.call (.create (Fixture.post "p" "first")) false,
      .nested [.call (.update (Fixture.post "q" "second")) false, .call (.delete ⟨"p"⟩) false] true,
      .call (.update (Fixture.post "p" "third")) false]
    (.new [.affected 1, .affected 0, .affected 1] [] none)).2.2.sent =
      [.command .begin, .statement (.insertPost (Fixture.post "p" "first")),
        .statement (.updatePost (Fixture.post "q" "second")), .statement (.updatePost (Fixture.post "p" "third")),
        .command .commit] := by
  decide +kernel

end Forum
