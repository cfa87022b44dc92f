import Mathlib.Algebra.Group.Nat.Defs
import Forum.Replication.Resubscription

/-!
# Waits double

The waits of a subscriber in closed form (`delayBefore_eq`), and what they are in every run of a resubscription: a stage
tells how many attempts there were and how they went (`Reached`), each occurrence keeps that so (`Regular.step`), and
hence each run (`Regular.run`).
-/

namespace Forum.Replication

namespace SubscriberSettings

variable {s : SubscriberSettings}

/-- A wait is the first one doubled as often as there were failures, up to the bound. -/
theorem delayBefore_eq (h : s.resubscribeDelay ≤ s.maxResubscribeDelay) (n : Nat) :
    s.delayBefore n = min (s.resubscribeDelay * 2 ^ n) s.maxResubscribeDelay := by
  induction n with
  | zero => rw [delayBefore, Nat.pow_zero, Nat.mul_one, Nat.min_eq_left h]
  | succ n ih =>
    rw [delayBefore, nextDelay, ih, Nat.pow_succ, ← Nat.mul_assoc, Nat.mul_comm 2]
    omega

/-- Delays do not get shorter. -/
theorem delayBefore_mono (h : s.resubscribeDelay ≤ s.maxResubscribeDelay) {i j : Nat} (hij : i ≤ j) :
    s.delayBefore i ≤ s.delayBefore j := by
  rw [delayBefore_eq h, delayBefore_eq h]
  have hpow : s.resubscribeDelay * 2 ^ i ≤ s.resubscribeDelay * 2 ^ j :=
    Nat.mul_le_mul_left _ (Nat.pow_le_pow_right Nat.two_pos hij)
  omega

/-- No delay is longer than allowed. -/
theorem delayBefore_le (h : s.resubscribeDelay ≤ s.maxResubscribeDelay) (n : Nat) :
    s.delayBefore n ≤ s.maxResubscribeDelay := by
  rw [delayBefore_eq h]
  exact Nat.min_le_right _ _

/-- It makes no difference if a wait is doubled only up to the longest one that there is. -/
theorem nextDelay_saturating {longest : Nat} (h : s.maxResubscribeDelay ≤ longest) (delay : Nat) :
    min (min (2 * delay) longest) s.maxResubscribeDelay = s.nextDelay delay := by
  unfold nextDelay
  omega

/-- The first delay is not longer than allowed. -/
theorem ofSettings_delays (r : ReplicationSettings) :
    (ofSettings r).resubscribeDelay ≤ (ofSettings r).maxResubscribeDelay := by
  show 1000 ≤ 60000
  decide

end SubscriberSettings

namespace Resubscription

variable {α : Type} {s : SubscriberSettings} {subject : String} {r : Resubscription α}

/-! ## Runs with their trials -/

/-- What comes of one occurrence after the other. -/
def run (r : Resubscription α) (os : List (Occurrence α)) : Resubscription α := os.foldl step r

/-- An attempt that was answered. -/
structure Trial (α : Type) where
  /-- How long the subscriber has waited before it. -/
  wait : Nat
  petition : Petition
  answer : Except BrokerError α

/-- The attempt that is answered by an occurrence. -/
def trial? (r : Resubscription α) (o : Occurrence α) : Option (Trial α) :=
  match o, r.stage with
  | .answered answer, .asking delay => some ⟨delay, r.petition, answer⟩
  | _, _ => none

/-- The attempts that are answered in a run. -/
def trials : Resubscription α → List (Occurrence α) → List (Trial α)
  | _, [] => []
  | r, o :: os => (r.trial? o).toList ++ trials (r.step o) os

/-- None of the attempts was successful. -/
def Failed (ts : List (Trial α)) : Prop := ∀ t ∈ ts, ∃ e, t.answer = .error e

/-- Trials that failed, one after the other. -/
theorem Failed.append {ts ts' : List (Trial α)} (h : Failed ts) (h' : Failed ts') : Failed (ts ++ ts') := fun t ht =>
  (List.mem_append.1 ht).elim (h t) (h' t)

/-! ## What a stage says about the trials -/

/-- After these trials a subscriber, which may be over, is at this stage. -/
inductive Reached (s : SubscriberSettings) : List (Trial α) → Option Ending → Stage α → Prop
  | waiting {ts : List (Trial α)} {ending : Option Ending} (h : Failed ts) :
    Reached s ts ending (.waiting (s.delayBefore ts.length))
  | asking {ts : List (Trial α)} {ending : Option Ending} (h : Failed ts) :
    Reached s ts ending (.asking (s.delayBefore ts.length))
  | restored {ts : List (Trial α)} {t : Trial α} {ending : Option Ending} {stream : α} (h : Failed ts)
    (ht : t.answer = .ok stream) : Reached s (ts ++ [t]) ending (.restored stream)
  | stopped {ts : List (Trial α)} {ending : Ending} (h : Failed ts) : Reached s ts (some ending) .stopped

/-- A resubscription after its trials so far. -/
structure Regular (s : SubscriberSettings) (subject : String) (ts : List (Trial α)) (r : Resubscription α) : Prop where
  settings : r.settings = s
  petition : r.petition = ⟨subject, s.group, s.options subject⟩
  same : ∀ t ∈ ts, t.petition = ⟨subject, s.group, s.options subject⟩
  waits : ts.map Trial.wait = (List.range ts.length).map s.delayBefore
  reached : Reached s ts r.ending r.stage

/-- An ending that comes in between leaves what was reached. -/
theorem Reached.ended {ts : List (Trial α)} {ending ending' : Option Ending} {stage : Stage α}
    (h : Reached s ts ending stage) : Reached s ts (ending.or ending') stage := by
  cases h with
  | waiting h => exact .waiting h
  | asking h => exact .asking h
  | restored h ht => exact .restored h ht
  | stopped h => exact .stopped h

/-- After a failed trial the next delay begins, or it is over. -/
theorem Reached.pause {ts : List (Trial α)} (h : Failed ts) (r : Resubscription α) :
    Reached s ts r.ending (r.pause (s.delayBefore ts.length)).stage := by
  unfold Resubscription.pause
  split
  · rename_i hending
    rw [hending]
    exact .stopped h
  · exact .waiting h

theorem Regular.start (s : SubscriberSettings) (subject : String) (ending : Option Ending) :
    Regular (α := α) s subject [] (start s subject ending) where
  settings := rfl
  petition := rfl
  same _ h := nomatch h
  waits := rfl
  reached := by
    have hnone : Failed ([] : List (Trial α)) := fun _ h => nomatch h
    exact Reached.pause hnone ⟨s, ⟨subject, s.group, s.options subject⟩, ending, .stopped⟩

/-- One more trial, after the wait that is due. -/
theorem Regular.snoc {ts : List (Trial α)} {r' : Resubscription α} (h : Regular s subject ts r)
    (answer : Except BrokerError α) (hsettings : r'.settings = r.settings) (hpetition : r'.petition = r.petition)
    (hreached : Reached s (ts ++ [⟨s.delayBefore ts.length, r.petition, answer⟩]) r'.ending r'.stage) :
    Regular s subject (ts ++ [⟨s.delayBefore ts.length, r.petition, answer⟩]) r' where
  settings := hsettings.trans h.settings
  petition := hpetition.trans h.petition
  same t ht := by
    rcases List.mem_append.1 ht with ht | ht
    · exact h.same t ht
    · rw [List.mem_singleton.1 ht]
      exact h.petition
  waits := by
    rw [List.map_append, h.waits, List.length_append, List.length_singleton, List.range_succ, List.map_append]
    rfl
  reached := hreached

/-- Each occurrence keeps a resubscription regular, and adds a trial where it is an answer. -/
theorem Regular.step {ts : List (Trial α)} (h : Regular s subject ts r) (o : Occurrence α) :
    Regular s subject (ts ++ (r.trial? o).toList) (r.step o) := by
  -- what does not answer an attempt leaves the trials as they are
  have still {r' : Resubscription α} (hsettings : r'.settings = r.settings) (hpetition : r'.petition = r.petition)
      (hreached : Reached s ts r'.ending r'.stage) : Regular s subject (ts ++ []) r' := by
    rw [List.append_nil]
    exact ⟨hsettings.trans h.settings, hpetition.trans h.petition, h.same, h.waits, hreached⟩
  obtain ⟨settings, petition, ending, stage⟩ := r
  have hreached := h.reached
  cases o with
  | ends e => exact still rfl rfl hreached.ended
  | looks =>
    cases hreached with
    | @waiting ts ending hf =>
      cases ending with
      | none => exact still rfl rfl h.reached
      | some e => exact still rfl rfl (.stopped hf)
    | _ => exact still rfl rfl h.reached
  | waited =>
    cases hreached with
    | waiting hf => exact still rfl rfl (.asking hf)
    | _ => exact still rfl rfl h.reached
  | answered answer =>
    cases hreached with
    | asking hf =>
      cases answer with
      | ok stream => exact h.snoc (.ok stream) rfl rfl (.restored hf rfl)
      | error e =>
        -- the wait is doubled after the attempt, and so is the one that belongs to one more trial
        obtain rfl : settings = s := h.settings
        have hf' : Failed (ts ++ [⟨settings.delayBefore ts.length, petition, .error e⟩]) :=
          hf.append fun t ht => ⟨e, by rw [List.mem_singleton.1 ht]⟩
        have hpause := Reached.pause (s := settings) hf'
          ⟨settings, petition, ending, .asking (settings.delayBefore ts.length)⟩
        rw [List.length_append] at hpause
        exact h.snoc (.error e) rfl rfl hpause
    | _ => cases answer <;> exact still rfl rfl h.reached

/-- A resubscription is regular all the way. -/
theorem Regular.run {ts : List (Trial α)} (h : Regular s subject ts r) (os : List (Occurrence α)) :
    Regular s subject (ts ++ r.trials os) (r.run os) := by
  induction os generalizing ts r with
  | nil =>
    rw [trials, List.append_nil]
    exact h
  | cons o os ih =>
    rw [trials, ← List.append_assoc]
    exact ih (h.step o)

/-! ## As long as the subscriber is not over -/

/-- An ending comes when one is told, and stays. -/
theorem ending_step (r : Resubscription α) (o : Occurrence α) :
    (r.step o).ending = none ↔ r.ending = none ∧ ∀ e, o ≠ .ends e := by
  obtain ⟨settings, petition, ending, stage⟩ := r
  cases o with
  | ends e => cases ending <;> simp [Resubscription.step]
  | looks => cases stage <;> cases ending <;> simp [Resubscription.step]
  | waited => cases stage <;> simp [Resubscription.step]
  | answered answer => cases stage <;> cases answer <;> simp [Resubscription.step, pause]

/-- There is no ending as long as none is told. -/
theorem ending_run (os : List (Occurrence α)) :
    (r.run os).ending = none ↔ r.ending = none ∧ ∀ e, .ends e ∉ os := by
  induction os generalizing r with
  | nil => simp [Resubscription.run]
  | cons o os ih =>
    show ((r.step o).run os).ending = none ↔ _
    rw [ih, ending_step]
    simp only [List.mem_cons, not_or, and_assoc, forall_and, ne_comm (a := o)]

/-- The subscriber waits and is turned away, once for each of the errors. -/
def rejections (errors : List BrokerError) : List (Occurrence α) :=
  errors.flatMap fun e => [.waited, .answered (.error e)]

/-- The subscriber waits and gets a stream, and may be over by the time that it does. -/
def success (endings : List Ending) (stream : α) : List (Occurrence α) :=
  .waited :: (endings.map .ends ++ [.answered (.ok stream)])

/-- An attempt is finished, whatever the subscriber is told in the meantime. -/
theorem restored_of_asking {delay : Nat} (h : r.stage = .asking delay) (endings : List Ending) (stream : α) :
    (r.run (endings.map .ends ++ [.answered (.ok stream)])).stage = .restored stream := by
  induction endings generalizing r with
  | nil =>
    show (r.step (.answered (.ok stream))).stage = _
    simp only [Resubscription.step, h]
  | cons ending endings ih => exact ih (r := r.step (.ends ending)) h

/-- Attempts go on until one of them succeeds. -/
theorem restored_of_waiting {delay : Nat} (h : r.stage = .waiting delay) (hnone : r.ending = none)
    (errors : List BrokerError) (endings : List Ending) (stream : α) :
    (r.run (rejections errors ++ success endings stream)).stage = .restored stream := by
  induction errors generalizing r delay with
  | nil =>
    have hasking : (r.step .waited).stage = .asking delay := by simp only [Resubscription.step, h]
    exact restored_of_asking hasking endings stream
  | cons e errors ih =>
    have hstep : (r.step .waited).step (.answered (.error e)) =
        { r with stage := .waiting (r.settings.nextDelay delay) } := by
      simp only [Resubscription.step, h, pause, hnone, reduceCtorEq, if_false]
    refine ih (r := (r.step .waited).step (.answered (.error e))) (congrArg stage hstep) ?_
    rw [hstep]
    exact hnone

/-! ## What comes of a run -/

/-- There is nothing left to do: the subscriber has a stream again, or does without. -/
def Done (r : Resubscription α) : Prop := (∃ stream, r.stage = .restored stream) ∨ r.stage = .stopped

/-- Nothing more is tried. -/
theorem Done.step (h : r.Done) (o : Occurrence α) : (r.step o).stage = r.stage ∧ r.trial? o = none := by
  obtain ⟨settings, petition, ending, stage⟩ := r
  rcases h with ⟨stream, h⟩ | h
  · obtain rfl : stage = .restored stream := h
    cases o with
    | answered answer => cases answer <;> exact ⟨rfl, rfl⟩
    | _ => exact ⟨rfl, rfl⟩
  · obtain rfl : stage = .stopped := h
    cases o with
    | answered answer => cases answer <;> exact ⟨rfl, rfl⟩
    | _ => exact ⟨rfl, rfl⟩

/-- What is done stays so, and nothing is tried any more. -/
theorem Done.run (h : r.Done) (os : List (Occurrence α)) : (r.run os).stage = r.stage ∧ r.trials os = [] := by
  induction os generalizing r with
  | nil => exact ⟨rfl, rfl⟩
  | cons o os ih =>
    obtain ⟨hstage, hnone⟩ := h.step o
    have hdone : (r.step o).Done := by
      unfold Done
      rw [hstage]
      exact h
    obtain ⟨hrest, htrials⟩ := ih hdone
    refine ⟨hrest.trans hstage, ?_⟩
    rw [trials, hnone, htrials]
    rfl

/-- As long as nothing is restored all trials have failed. -/
theorem Reached.failed {ts : List (Trial α)} {ending : Option Ending} {stage : Stage α} (h : Reached s ts ending stage)
    (hne : ∀ stream, stage ≠ .restored stream) : Failed ts := by
  cases h with
  | waiting hf => exact hf
  | asking hf => exact hf
  | restored _ _ => exact absurd rfl (hne _)
  | stopped hf => exact hf

/-- The delay is that for as many trials. -/
theorem Reached.delay_eq {ts : List (Trial α)} {ending : Option Ending} {stage : Stage α}
    (h : Reached s ts ending stage) {delay : Nat} (hstage : stage = .waiting delay ∨ stage = .asking delay) :
    delay = s.delayBefore ts.length := by
  rcases hstage with rfl | rfl
  · cases h
    rfl
  · cases h
    rfl

/-- It stops only at an ending, and all trials have failed then. -/
theorem Reached.of_stopped {ts : List (Trial α)} {ending : Option Ending} (h : Reached s ts ending .stopped) :
    ending ≠ none ∧ Failed ts := by
  cases h with
  | stopped hf => exact ⟨Option.some_ne_none _, hf⟩

theorem not_failed_of_ok {failed : List (Trial α)} {t : Trial α} {stream : α} (ht : t.answer = .ok stream) :
    ¬Failed (failed ++ [t]) := by
  intro h
  obtain ⟨e, he⟩ := h t (List.mem_append_right _ (List.mem_singleton.2 rfl))
  rw [ht] at he
  nomatch he

/-- A stream is restored just where the last trial has brought it. -/
theorem Reached.restored_iff {ts : List (Trial α)} {ending : Option Ending} {stage : Stage α}
    (h : Reached s ts ending stage) (stream : α) :
    stage = .restored stream ↔ ∃ failed t, ts = failed ++ [t] ∧ Failed failed ∧ t.answer = .ok stream := by
  constructor
  · rintro rfl
    cases h with
    | restored hf ht => exact ⟨_, _, rfl, hf, ht⟩
  · rintro ⟨failed, t, hts, -, ht⟩
    cases stage with
    | restored stream' =>
      cases h with
      | restored _ ht' =>
        obtain ⟨-, hlast⟩ := List.append_inj' hts rfl
        obtain rfl := List.singleton_inj.1 hlast
        rw [Except.ok.inj (ht'.symm.trans ht)]
    | _ => exact absurd (hts ▸ h.failed fun _ h => nomatch h) (not_failed_of_ok ht)

/-- What the occurrences after the end of a stream come to: the trials, and how far the subscriber has got. -/
structure BacksOff (s : SubscriberSettings) (subject : String) (ending : Option Ending) (os : List (Occurrence α))
    (ts : List (Trial α)) (r : Resubscription α) : Prop where
  /-- The waits before the attempts, and before the one that is not answered yet, -/
  waits : ts.map Trial.wait =
    (List.range ts.length).map fun n => min (s.resubscribeDelay * 2 ^ n) s.maxResubscribeDelay
  next : ∀ delay, r.stage = .waiting delay ∨ r.stage = .asking delay →
    delay = min (s.resubscribeDelay * 2 ^ ts.length) s.maxResubscribeDelay
  /-- which never decrease, and never exceed the bound. -/
  ascending : (ts.map Trial.wait).Pairwise (· ≤ ·)
  bounded : ∀ t ∈ ts, t.wait ≤ s.maxResubscribeDelay
  /-- Every attempt is one to join the same durable consumer on the same subject. -/
  same : ∀ t ∈ ts, t.petition = ⟨subject, s.group, s.options subject⟩
  /-- What comes of them is the stream of the first attempt that succeeds, -/
  restored : ∀ stream, r.stage = .restored stream ↔
    ∃ failed t, ts = failed ++ [t] ∧ Failed failed ∧ t.answer = .ok stream
  /-- to which it comes unless the subscriber is over before that attempt. -/
  restores : r.ending = none → ∀ delay, r.stage = .waiting delay → ∀ errors endings stream,
    (r.run (rejections errors ++ success endings stream)).stage = .restored stream
  /-- Nothing comes of them only if the subscriber is over, and no attempt has succeeded. -/
  stopped : r.stage = .stopped → r.ending ≠ none ∧ Failed ts
  /-- It is over once it has ended for one reason or another, or if it was so from the beginning. -/
  ended : r.ending = none ↔ ending = none ∧ ∀ e, .ends e ∉ os
  /-- When it has a stream, or does without, it tries nothing more. -/
  final : r.Done → ∀ os', (r.run os').stage = r.stage ∧ r.trials os' = []

/-- A subscriber that subscribes again backs off, whatever happens in the meantime. The settings that the replicator is
told to run with allow for that, and so do waits of a limited length. -/
theorem subscribes_again (hle : s.resubscribeDelay ≤ s.maxResubscribeDelay) (subject : String)
    (ending : Option Ending) (os : List (Occurrence α)) :
    BacksOff s subject ending os ((start s subject ending).trials os) ((start s subject ending).run os) ∧
      (∀ r : ReplicationSettings, (SubscriberSettings.ofSettings r).resubscribeDelay ≤
        (SubscriberSettings.ofSettings r).maxResubscribeDelay) ∧
      ∀ longest ≥ s.maxResubscribeDelay, ∀ delay,
        min (min (2 * delay) longest) s.maxResubscribeDelay = s.nextDelay delay := by
  refine ⟨?_, SubscriberSettings.ofSettings_delays, fun _ => SubscriberSettings.nextDelay_saturating⟩
  have h := (Regular.start (α := α) s subject ending).run os
  rw [List.nil_append] at h
  exact {
    waits := by
      rw [h.waits]
      exact List.map_congr_left fun n _ => s.delayBefore_eq hle n
    next := fun delay hstage => by
      rw [← s.delayBefore_eq hle]
      exact h.reached.delay_eq hstage
    ascending := by
      rw [h.waits]
      exact List.pairwise_le_range.map _ fun _ _ hij => s.delayBefore_mono hle hij
    bounded := fun t ht => by
      have hwait : t.wait ∈ ((start s subject ending).trials os).map Trial.wait := List.mem_map_of_mem ht
      rw [h.waits] at hwait
      obtain ⟨n, -, hn⟩ := List.mem_map.1 hwait
      exact hn ▸ s.delayBefore_le hle n
    same := h.same
    restored := h.reached.restored_iff
    restores := fun hnone delay hstage => restored_of_waiting hstage hnone
    stopped := fun hstage => (hstage ▸ h.reached).of_stopped
    ended := ending_run os
    final := fun hdone => hdone.run }

/-- The broker turns a subscriber away seven times, and the subscriber is told to stop while it asks for the eighth. -/
def turnedAway : List (Occurrence Nat) := rejections (List.replicate 7 .closed) ++ success [.requested] 3

/-- Seven trials fail, and the delays double up to the longest one. -/
theorem turnedAway_waits :
    ((start .default Subject.postCreated none).trials turnedAway).map Trial.wait =
        [1000, 2000, 4000, 8000, 16000, 32000, 60000, 60000] ∧
      ((start .default Subject.postCreated none).run turnedAway).stage = .restored 3 ∧
      BacksOff .default Subject.postCreated none turnedAway
        ((start .default Subject.postCreated none).trials turnedAway)
        ((start .default Subject.postCreated none).run turnedAway) := by
  refine ⟨by decide +kernel, by decide +kernel, ?_⟩
  have hle : SubscriberSettings.default.resubscribeDelay ≤ SubscriberSettings.default.maxResubscribeDelay := by decide
  exact (subscribes_again hle Subject.postCreated none turnedAway).1

end Resubscription

end Forum.Replication
