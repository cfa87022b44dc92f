import Forum.Proofs.Pipeline.Run

/-!
# How a delivery is settled

A subscriber whose requests are recorded (`Subscriber.watched`) answers and leaves what it does on its own, and what it
does with a delivery is one of five things (`Handling`, `process_watched`). So a delivery is acknowledged exactly where
its event was applied, and forwarded exactly where it was not and was handed out often enough (`settled_in_order`). The
outcome that is told is true of what was done, unless a dead letter could not be given up (`outcome_truthful_iff`,
`outcome_untrue`).
-/

namespace Forum

open Memory

/-! ## Requests on record -/

namespace Replication

/-- What a subscriber asks for, with what it is answered. -/
inductive Act where
  | asked (call : ReplicaCall) (answer : Except Error Answer)
  | acked (answer : Except BrokerError Unit)
  | sent (subject : String) (headers : Headers) (payload : Payload) (answer : Except BrokerError Unit)
  | gaveUp (answer : Except BrokerError Unit)
deriving DecidableEq

/-- The act is a publication. -/
def Act.isSent : Act → Bool
  | sent _ _ _ _ => true
  | _ => false

/-- A state with the record of what was asked for, first first. -/
abbrev Watched (σ : Type) := σ × List Act

/-- A request that is put on record when it is answered. -/
def observed {ε σ α : Type} (note : Except ε α → Act) (a : ExceptT ε (StateM σ) α) :
    ExceptT ε (StateM (Watched σ)) α := fun w =>
  let (answer, s) := a w.1
  (answer, s, w.2 ++ [note answer])

end Replication

open Replication

variable {σ : Type}

def ReplicaStore.watched (r : ReplicaStore σ) : ReplicaStore (Watched σ) where
  insert post := observed (fun answer => .asked (.insert post) (answer.map .wrote)) (r.insert post)
  update post := observed (fun answer => .asked (.update post) (answer.map .wrote)) (r.update post)
  delete id := observed (fun answer => .asked (.delete id) (answer.map .wrote)) (r.delete id)
  find id := observed (fun answer => .asked (.find id) (answer.map .found)) (r.find id)

def Settlement.watched (settle : Settlement σ) : Settlement (Watched σ) :=
  ⟨observed .acked settle.ack, observed .gaveUp settle.term⟩

/-- What the replica is asked for when an event is applied. -/
def PostEvent.call : PostEvent → ReplicaCall
  | created post => .insert post
  | updated post => .update post
  | deleted id => .delete id

namespace Replication

def Applier.watched (a : Applier σ) : Applier (Watched σ) := ⟨a.replica.watched, a.codec⟩

def Subscriber.watched (r : Subscriber σ) : Subscriber (Watched σ) :=
  ⟨r.settings, r.applier.watched,
    fun subject headers payload => observed (.sent subject headers payload) (r.send subject headers payload)⟩

/-! ## Applying a delivery -/

namespace Applier

variable (a : Applier σ) (subject : String) (payload : Payload) (s : σ)

/-- What is asked of the replica for what arrived on a subject. -/
def asks : List Act :=
  match read a.codec subject payload with
  | .ok e => [.asked e.call ((a.write e s).1.map .wrote)]
  | .error _ => []

theorem write_watched (e : PostEvent) (before : List Act) :
    a.watched.write e (s, before) =
      ((a.write e s).1, (a.write e s).2, before ++ [.asked e.call ((a.write e s).1.map .wrote)]) := by
  cases e <;> rfl

theorem apply_watched (before : List Act) :
    a.watched.apply subject payload (s, before) =
      ((a.apply subject payload s).1, (a.apply subject payload s).2, before ++ a.asks subject payload s) := by
  have hcodec : a.watched.codec = a.codec := rfl
  unfold apply asks
  rw [hcodec]
  cases read a.codec subject payload with
  | error e => simp
  | ok e =>
    simp only [applyEvent, write_watched]
    rcases a.write e s with ⟨_ | _, _⟩ <;> rfl

variable {a subject payload s} {t : σ}

/-- Where an event was applied, the replica was asked for its write and made it. -/
theorem asks_of_ok {done : Applied} (h : a.apply subject payload s = (.ok done, t)) :
    ∃ call write, a.asks subject payload s = [.asked call (.ok (.wrote write))] := by
  unfold apply at h
  unfold asks
  cases hread : read a.codec subject payload with
  | error e =>
    rw [hread] at h
    cases h
  | ok e =>
    rw [hread] at h
    simp only [applyEvent] at h
    rcases hw : a.write e s with ⟨fault | write, u⟩
    · rw [hw] at h
      cases h
    · refine ⟨e.call, write, ?_⟩
      simp only [hw]
      rfl

/-- Nothing but the replica is asked for anything. -/
theorem asked_of_mem_asks {act : Act} (h : act ∈ a.asks subject payload s) : ∃ call answer, act = .asked call answer := by
  unfold asks at h
  cases hread : read a.codec subject payload with
  | error e =>
    rw [hread] at h
    nomatch h
  | ok e =>
    rw [hread] at h
    exact ⟨_, _, List.mem_singleton.1 h⟩

@[simp] theorem acked_notMem_asks (answer : Except BrokerError Unit) :
    Act.acked answer ∉ a.asks subject payload s := by
  intro h
  obtain ⟨_, _, heq⟩ := asked_of_mem_asks h
  nomatch heq

@[simp] theorem gaveUp_notMem_asks (answer : Except BrokerError Unit) :
    Act.gaveUp answer ∉ a.asks subject payload s := by
  intro h
  obtain ⟨_, _, heq⟩ := asked_of_mem_asks h
  nomatch heq

@[simp] theorem sent_notMem_asks (topic : String) (headers : Headers) (bytes : Payload)
    (answer : Except BrokerError Unit) : Act.sent topic headers bytes answer ∉ a.asks subject payload s := by
  intro h
  obtain ⟨_, _, heq⟩ := asked_of_mem_asks h
  nomatch heq

theorem filter_isSent_asks : (a.asks subject payload s).filter Act.isSent = [] := by
  refine List.filter_eq_nil_iff.2 fun act hmem => ?_
  obtain ⟨call, answer, rfl⟩ := asked_of_mem_asks hmem
  exact Bool.false_ne_true

end Applier

/-! ## Handling a delivery -/

/-- What a subscriber does with a delivery, and what it leaves. Its event is applied, and the delivery is acknowledged or
that fails. Or it is not applied: then it is left, or it is published as a dead letter, and given up unless that
fails. -/
inductive Handling (r : Subscriber σ) (d : Delivery) (settle : Settlement σ) (s : σ) : Outcome × σ → List Act → Prop
  | acked {done : Applied} {t u : σ} (happly : r.applier.apply d.subject d.payload s = (.ok done, t))
      (hack : settle.ack t = (.ok (), u)) :
    Handling r d settle s (.acked, u) (r.applier.asks d.subject d.payload s ++ [.acked (.ok ())])
  | unacked {done : Applied} {fault : BrokerError} {t u : σ}
      (happly : r.applier.apply d.subject d.payload s = (.ok done, t)) (hack : settle.ack t = (.error fault, u)) :
    Handling r d settle s (.unacked, u) (r.applier.asks d.subject d.payload s ++ [.acked (.error fault)])
  | left {e : ApplyError} {t : σ} (happly : r.applier.apply d.subject d.payload s = (.error e, t))
      (hcount : d.count < r.settings.maxDeliver) :
    Handling r d settle s (.unacked, t) (r.applier.asks d.subject d.payload s)
  | kept {e : ApplyError} {fault : BrokerError} {t u : σ}
      (happly : r.applier.apply d.subject d.payload s = (.error e, t)) (hcount : r.settings.maxDeliver ≤ d.count)
      (hsend : r.send r.settings.deadLetter [(Subject.originHeader, d.subject)] d.payload t = (.error fault, u)) :
    Handling r d settle s (.unacked, u) (r.applier.asks d.subject d.payload s ++
      [.sent r.settings.deadLetter [(Subject.originHeader, d.subject)] d.payload (.error fault)])
  | forwarded {e : ApplyError} {answer : Except BrokerError Unit} {t u v : σ}
      (happly : r.applier.apply d.subject d.payload s = (.error e, t)) (hcount : r.settings.maxDeliver ≤ d.count)
      (hsend : r.send r.settings.deadLetter [(Subject.originHeader, d.subject)] d.payload t = (.ok (), u))
      (hterm : settle.term u = (answer, v)) :
    Handling r d settle s (.deadLettered, v) (r.applier.asks d.subject d.payload s ++
      [.sent r.settings.deadLetter [(Subject.originHeader, d.subject)] d.payload (.ok ()), .gaveUp answer])

/-- A record changes nothing, and it shows how a delivery was handled. -/
theorem process_watched (r : Subscriber σ) (d : Delivery) (settle : Settlement σ) (s : σ) (before : List Act) :
    ∃ outcome t acts, r.process d settle s = (outcome, t) ∧
      r.watched.process d settle.watched (s, before) = (outcome, t, before ++ acts) ∧
      Handling r d settle s (outcome, t) acts := by
  have hwatched := r.applier.apply_watched d.subject d.payload s before
  have happlier : r.watched.applier = r.applier.watched := rfl
  have hsettings : r.watched.settings = r.settings := rfl
  unfold Subscriber.process
  rw [happlier, hwatched, hsettings]
  rcases happly : r.applier.apply d.subject d.payload s with ⟨e | done, t⟩
  · simp only [Subscriber.forward, hsettings]
    by_cases hcount : d.count < r.settings.maxDeliver
    · rw [if_pos hcount, if_pos hcount]
      exact ⟨_, _, _, rfl, rfl, .left happly hcount⟩
    · rw [if_neg hcount, if_neg hcount]
      have hsent : r.watched.send r.settings.deadLetter [(Subject.originHeader, d.subject)] d.payload =
          observed (.sent r.settings.deadLetter [(Subject.originHeader, d.subject)] d.payload)
            (r.send r.settings.deadLetter [(Subject.originHeader, d.subject)] d.payload) := rfl
      rw [hsent]
      rcases hsend : r.send r.settings.deadLetter [(Subject.originHeader, d.subject)] d.payload t with ⟨fault | _, u⟩
      · simp only [observed, hsend, List.append_assoc]
        exact ⟨_, _, _, rfl, rfl, .kept happly (Nat.not_lt.1 hcount) hsend⟩
      · rcases hterm : settle.term u with ⟨answer, v⟩
        simp only [observed, hsend, Settlement.watched, hterm, List.append_assoc, List.cons_append, List.nil_append]
        exact ⟨_, _, _, rfl, rfl, .forwarded happly (Nat.not_lt.1 hcount) hsend hterm⟩
  · rcases hack : settle.ack t with ⟨fault | _, u⟩
    · simp only [Settlement.watched, observed, hack, List.append_assoc]
      exact ⟨_, _, _, rfl, rfl, .unacked happly hack⟩
    · simp only [Settlement.watched, observed, hack, List.append_assoc]
      exact ⟨_, _, _, rfl, rfl, .acked happly hack⟩

/-! ## In order -/

/-- What is done with a delivery is what there is cause for, in the right order. -/
structure Disciplined (settings : SubscriberSettings) (d : Delivery) (applied : Except ApplyError Applied)
    (acts : List Act) : Prop where
  acks : (∃ answer, Act.acked answer ∈ acts) ↔ ∃ done, applied = .ok done
  /-- Before it is acknowledged its write is made, and nothing else is done. -/
  acks_last : ∀ answer, Act.acked answer ∈ acts →
    ∃ call write, acts = [.asked call (.ok (.wrote write)), .acked answer]
  sends : (∃ subject headers payload answer, Act.sent subject headers payload answer ∈ acts) ↔
    (∃ e, applied = .error e) ∧ settings.maxDeliver ≤ d.count
  sends_once : (acts.filter Act.isSent).length ≤ 1
  sends_whole : ∀ subject headers payload answer, Act.sent subject headers payload answer ∈ acts →
    subject = settings.deadLetter ∧ headers = [(Subject.originHeader, d.subject)] ∧ payload = d.payload
  gives_up : (∃ answer, Act.gaveUp answer ∈ acts) ↔
    ∃ subject headers payload, Act.sent subject headers payload (.ok ()) ∈ acts
  /-- Before it is given up its dead letter is taken, and it is given up last. -/
  gives_up_last : ∀ answer, Act.gaveUp answer ∈ acts → ∃ first subject headers payload,
    acts = first ++ [.sent subject headers payload (.ok ()), .gaveUp answer] ∧
      ∀ act ∈ first, ∃ call answer, act = .asked call answer
  one_way : ¬((∃ answer, Act.acked answer ∈ acts) ∧ ∃ answer, Act.gaveUp answer ∈ acts)

variable {r : Subscriber σ} {d : Delivery} {settle : Settlement σ} {s t : σ} {outcome : Outcome} {acts : List Act}

/-- A delivery whose event was applied is acknowledged once, whatever comes of that. -/
theorem disciplined_of_ok (settings : SubscriberSettings) (d : Delivery) (done : Applied) (call : ReplicaCall)
    (write : ReplicaWrite) (answer : Except BrokerError Unit) :
    Disciplined settings d (.ok done) [.asked call (.ok (.wrote write)), .acked answer] where
  acks := by simp
  acks_last := by simp
  sends := by simp
  sends_once := by simp [Act.isSent]
  sends_whole := by simp
  gives_up := by simp
  gives_up_last := by simp
  one_way := by simp

theorem Handling.disciplined (h : Handling r d settle s (outcome, t) acts) :
    Disciplined r.settings d (r.applier.apply d.subject d.payload s).1 acts := by
  cases h with
  | acked happly _ | unacked happly _ =>
    obtain ⟨call, write, hasks⟩ := Applier.asks_of_ok happly
    rw [happly, hasks]
    exact disciplined_of_ok r.settings d _ call write _
  | left happly hcount =>
    rw [happly]
    exact {
      acks := by simp
      acks_last := by simp
      sends := by simp [hcount]
      sends_once := by simp [Applier.filter_isSent_asks]
      sends_whole := by simp
      gives_up := by simp
      gives_up_last := by simp
      one_way := by simp }
  | kept happly hcount _ =>
    rw [happly]
    exact {
      acks := by simp
      acks_last := by simp
      sends := by simp [hcount]
      sends_once := by
        rw [List.filter_append, Applier.filter_isSent_asks]
        exact Nat.le_refl 1
      sends_whole := by simp +contextual
      gives_up := by simp
      gives_up_last := by simp
      one_way := by simp }
  | forwarded happly hcount _ _ =>
    rw [happly]
    exact {
      acks := by simp
      acks_last := by simp
      sends := by simp [hcount]
      sends_once := by
        rw [List.filter_append, Applier.filter_isSent_asks]
        exact Nat.le_refl 1
      sends_whole := by simp +contextual
      gives_up := by simp
      gives_up_last := by
        simp only [List.mem_append, Applier.gaveUp_notMem_asks, false_or]
        rintro answer (_ | ⟨_, _ | ⟨_, h⟩⟩)
        · exact ⟨_, _, _, _, rfl, fun _ h => Applier.asked_of_mem_asks h⟩
        · nomatch h
      one_way := by simp }

/-! ## Beside a replica -/

end Replication

section

variable {β : Type} {α : Type}

/-- A replica beside everything else. -/
def Memory.Replica.beside : Part (Replica × β) Replica := ⟨Prod.fst, fun r w => (r, w.2)⟩

/-- A request to everything else. -/
def besideReplica (a : BrokerAction β α) : BrokerAction (Replica × β) α := fun w =>
  let (answer, b) := a w.2
  (answer, w.1, b)

/-- A subscriber whose deliveries go to a replica in memory, and its dead letters elsewhere. -/
def Memory.Replica.subscriber (settings : SubscriberSettings) (codec : Codec) (send : Sender β) :
    Subscriber (Replica × β) :=
  ⟨settings, ⟨Replica.beside.replica Replica.store, codec⟩,
    fun subject headers payload => besideReplica (send subject headers payload)⟩

/-- Deliveries that are settled elsewhere. -/
def Settlement.beside (settle : Settlement β) : Settlement (Replica × β) :=
  ⟨besideReplica settle.ack, besideReplica settle.term⟩

namespace Replication

variable {codec : Codec} {subject : String} {payload : Payload}

theorem apply_beside (settings : SubscriberSettings) (codec : Codec) (send : Sender β) (subject : String)
    (payload : Payload) (replica : Replica) (rest : β) :
    (Replica.subscriber settings codec send).applier.apply subject payload (replica, rest) =
      (((Replica.applier codec).apply subject payload replica).1,
        ((Replica.applier codec).apply subject payload replica).2, rest) := by
  unfold Applier.apply Replica.subscriber Replica.applier
  simp only []
  cases Applier.read codec subject payload with
  | error e => rfl
  | ok e => exact Pipeline.applyEvent_lift Replica.beside Replica.store codec e (replica, rest)

/-- What is not applied changes nothing. -/
theorem apply_of_error {replica after : Replica} {e : ApplyError}
    (h : (Replica.applier codec).apply subject payload replica = (.error e, after)) : after = replica := by
  have hcodec : (Replica.applier codec).codec = codec := rfl
  unfold Applier.apply at h
  rw [hcodec] at h
  cases hread : Applier.read codec subject payload with
  | error e =>
    rw [hread] at h
    exact (Prod.mk.inj h).2.symm
  | ok e =>
    rw [hread] at h
    simp only [Replica.applyEvent_eq] at h
    split at h
    · exact (Prod.mk.inj h).2.symm
    · nomatch (Prod.mk.inj h).1

/-- What is done with a delivery leaves the replica as applying it left it. -/
theorem Handling.replica_eq {settings : SubscriberSettings} {send : Sender β} {d : Delivery} {settle : Settlement β}
    {replica : Replica} {rest : β} {outcome : Outcome} {after : Replica × β} {acts : List Act}
    (h : Handling (Replica.subscriber settings codec send) d settle.beside (replica, rest) (outcome, after) acts) :
    after.1 = ((Replica.applier codec).apply d.subject d.payload replica).2 := by
  have of_apply {answer t} (h : (Replica.subscriber settings codec send).applier.apply d.subject d.payload
      (replica, rest) = (answer, t)) : t.1 = ((Replica.applier codec).apply d.subject d.payload replica).2 := by
    rw [apply_beside] at h
    exact congrArg Prod.fst (Prod.mk.inj h).2.symm
  have of_beside {α : Type} {a : BrokerAction β α} {t u : Replica × β} {answer} (h : besideReplica a t = (answer, u)) :
      u.1 = t.1 := by
    rw [← (Prod.mk.inj h).2]
  cases h with
  | acked happly hack => exact (of_beside hack).trans (of_apply happly)
  | unacked happly hack => exact (of_beside hack).trans (of_apply happly)
  | left happly _ => exact of_apply happly
  | kept happly _ hsend => exact (of_beside hsend).trans (of_apply happly)
  | forwarded happly _ hsend hterm => exact (of_beside hterm).trans ((of_beside hsend).trans (of_apply happly))

/-- Whatever comes of applying, publishing and settling: a delivery is acknowledged exactly where its event was applied,
once that is done. It is published as a dead letter exactly where its event was not applied and it was handed out often
enough, and given up exactly where that succeeded, after it. What is not applied leaves the replica as it was. -/
theorem settled_in_order (settings : SubscriberSettings) (codec : Codec) (send : Sender β) (settle : Settlement β)
    (d : Delivery) (replica : Replica) (rest : β) (before : List Act) :
    ∃ outcome after acts,
      (Replica.subscriber settings codec send).process d settle.beside (replica, rest) = (outcome, after) ∧
      (Replica.subscriber settings codec send).watched.process d settle.beside.watched ((replica, rest), before) =
        (outcome, after, before ++ acts) ∧
      Disciplined settings d ((Replica.applier codec).apply d.subject d.payload replica).1 acts ∧
      after.1 = ((Replica.applier codec).apply d.subject d.payload replica).2 ∧
      ∀ e, ((Replica.applier codec).apply d.subject d.payload replica).1 = .error e → after.1 = replica := by
  obtain ⟨outcome, after, acts, hplain, hwatched, hhandling⟩ :=
    process_watched (Replica.subscriber settings codec send) d settle.beside (replica, rest) before
  have hdisciplined := hhandling.disciplined
  rw [apply_beside] at hdisciplined
  refine ⟨outcome, after, acts, hplain, hwatched, hdisciplined, hhandling.replica_eq, fun e he => ?_⟩
  rw [hhandling.replica_eq]
  exact apply_of_error (Prod.ext he rfl)

end Replication

end

/-! ## What is told -/

namespace Replication

/-- The outcome says nothing but what was done. -/
def Outcome.Truthful (settings : SubscriberSettings) (d : Delivery) (applied : Except ApplyError Applied)
    (acts : List Act) : Outcome → Prop
  | acked => (∃ done, applied = .ok done) ∧ Act.acked (.ok ()) ∈ acts
  | deadLettered =>
    Act.sent settings.deadLetter [(Subject.originHeader, d.subject)] d.payload (.ok ()) ∈ acts ∧
      Act.gaveUp (.ok ()) ∈ acts
  | unacked => Act.acked (.ok ()) ∉ acts ∧ Act.gaveUp (.ok ()) ∉ acts

/-- The outcome is true where everything was done that it stands for. A message that was forwarded and could not be given
up is told of as a dead letter all the same. -/
theorem outcome_truthful_iff (r : Subscriber σ) (d : Delivery) (settle : Settlement σ) (s : σ) (before : List Act) :
    ∃ outcome t acts, r.process d settle s = (outcome, t) ∧
      r.watched.process d settle.watched (s, before) = (outcome, t, before ++ acts) ∧
      (outcome = .acked ↔
        (∃ done, (r.applier.apply d.subject d.payload s).1 = .ok done) ∧ Act.acked (.ok ()) ∈ acts) ∧
      (outcome = .deadLettered ↔
        Act.sent r.settings.deadLetter [(Subject.originHeader, d.subject)] d.payload (.ok ()) ∈ acts) ∧
      (outcome = .unacked → Act.acked (.ok ()) ∉ acts ∧ ∀ answer, Act.gaveUp answer ∉ acts) ∧
      (outcome.Truthful r.settings d (r.applier.apply d.subject d.payload s).1 acts ↔
        ∀ fault, Act.gaveUp (.error fault) ∉ acts) := by
  obtain ⟨outcome, t, acts, hplain, hwatched, hhandling⟩ := process_watched r d settle s before
  refine ⟨outcome, t, acts, hplain, hwatched, ?_⟩
  cases hhandling with
  | acked happly _ => simp [happly, Outcome.Truthful]
  | unacked happly _ => simp [happly, Outcome.Truthful]
  | left happly _ => simp [happly, Outcome.Truthful]
  | kept happly _ _ => simp [happly, Outcome.Truthful]
  | @forwarded _ answer _ _ _ happly _ _ _ =>
    cases answer with
    | error fault => simp [happly, Outcome.Truthful]
    | ok _ => simp [happly, Outcome.Truthful]

/-- A message that nobody can read, handed out for the last time. -/
def unreadable : Delivery := ⟨Subject.postCreated, [0], 5⟩

/-- Dead letters are taken, and nothing can be given up. -/
def stubborn : Settlement Simulation.World := ⟨pure (), throw .closed⟩

/-- The message was forwarded and is still to come, and it is told of as forwarded and given up. -/
theorem outcome_untrue : ¬∀ (r : Subscriber Simulation.World) (d : Delivery) (settle : Settlement Simulation.World)
    (w : Simulation.World), (r.process d settle w).1.Truthful r.settings d
      (r.applier.apply d.subject d.payload w).1 (r.watched.process d settle.watched (w, [])).2.2 := by
  intro h
  have hdead : (((Simulation.World.start .json).subscriber .default).process unreadable stubborn (.start .json)).1 =
      .deadLettered := by decide +kernel
  have htrue := h ((Simulation.World.start .json).subscriber .default) unreadable stubborn (.start .json)
  rw [hdead] at htrue
  exact absurd htrue.2 (by decide +kernel)

end Replication

end Forum
