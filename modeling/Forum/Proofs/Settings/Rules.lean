import Forum.Proofs.Service.Part
import Forum.Proofs.Settings.Variables
import Forum.Replicator

/-!
# What settings that pass promise

Settings pass just where they keep ten rules, and else the first rule that they break is reported (`Rule`,
`check_eq_forM`). The name of the codec in settings that pass is the name of a codec and means that codec
(`Codec.ofName?_name`), so the start of the program does not fail for want of one (`Replicator.start_spares_codec`).
Variables that differ in the case of the letters of the codec give the same settings (`ofVariables_of_sameButCase`), and
letters outside of ASCII mean no codec in any case (`Codec.ofName?_of_lowered`). `Settings.rules_decide` puts these
together.
-/

namespace Forum

open Text

/-! ## Rules -/

/-- A rule of settings. -/
inductive Rule where
  | databaseUrl
  | pool
  | idle
  | transactionTime
  | servers
  | group
  | ackWait
  | deliveries
  | deadLetter
  | codec

namespace Rule

/-- The rules in the order in which they are checked. -/
def order : List Rule :=
  [databaseUrl, pool, idle, transactionTime, servers, group, ackWait, deliveries, deadLetter, codec]

/-- The settings keep the rule. -/
def Kept (s : Settings) : Rule → Prop
  | databaseUrl => DatabaseSettings.checkUrl s.database.url = .ok ()
  | pool => 0 < s.database.poolSize
  | idle => s.database.minIdle ≤ s.database.poolSize
  | transactionTime => s.database.transactionTimeout ≠ some 0
  | servers => MessagingSettings.checkUrls s.messaging.urls = .ok ()
  | group => trimmed s.replication.group ≠ ""
  | ackWait => 0 < s.replication.ackWait
  | deliveries => 1 ≤ s.replication.maxDeliver
  | deadLetter => trimmed s.replication.deadLetter ≠ ""
  | codec => s.replication.codec ∈ ["bincode", "json"]

/-- What is reported where the settings break the rule. -/
def Reports (s : Settings) (e : SettingsError) : Rule → Prop
  | databaseUrl => ∃ fault, DatabaseSettings.checkUrl s.database.url = .error fault ∧ e = .address fault
  | pool => e = .violated .emptyPool
  | idle => e = .violated (.idleAbovePool s.database.minIdle s.database.poolSize)
  | transactionTime => e = .violated .noTransactionTime
  | servers => ∃ rule, MessagingSettings.checkUrls s.messaging.urls = .error rule ∧ e = .violated rule
  | group => e = .violated .blankGroup
  | ackWait => e = .violated .noAckWait
  | deliveries => e = .violated .noDeliveries
  | deadLetter => e = .violated .blankDeadLetter
  | codec => e = .violated (.unknownCodec s.replication.codec)

/-- What is demanded holds, or it is reported as broken. -/
def demand (p : Prop) [Decidable p] (rule : Violation) : Except SettingsError Unit :=
  if p then .ok () else .error (.violated rule)

/-- The check of one rule. -/
def check (s : Settings) : Rule → Except SettingsError Unit
  | databaseUrl => (DatabaseSettings.checkUrl s.database.url).mapError .address
  | pool => demand (s.database.poolSize ≠ 0) .emptyPool
  | idle => demand (¬s.database.poolSize < s.database.minIdle) (.idleAbovePool s.database.minIdle s.database.poolSize)
  | transactionTime => demand (s.database.transactionTimeout ≠ some 0) .noTransactionTime
  | servers => (MessagingSettings.checkUrls s.messaging.urls).mapError .violated
  | group => demand (¬isBlankText s.replication.group) .blankGroup
  | ackWait => demand (s.replication.ackWait ≠ 0) .noAckWait
  | deliveries => demand (s.replication.maxDeliver ≠ 0) .noDeliveries
  | deadLetter => demand (¬isBlankText s.replication.deadLetter) .blankDeadLetter
  | codec =>
    demand (s.replication.codec = Codec.name .binary ∨ s.replication.codec = Codec.name .json)
      (.unknownCodec s.replication.codec)

theorem mem_order (r : Rule) : r ∈ order := by
  cases r <;> simp [order]

section Demand

variable {p q : Prop} [Decidable p] {rule : Violation}

/-- What is demanded passes where it holds, and else the rule is reported. -/
theorem demand_settles (hp : p ↔ q) :
    (demand p rule = .ok () ↔ q) ∧ ∀ e, demand p rule = .error e ↔ ¬q ∧ e = .violated rule := by
  unfold demand
  by_cases h : p
  · simp [h, ← hp]
  · simp [h, ← hp, eq_comm]

/-- A check whose error is wrapped passes where the check does. -/
theorem mapError_settles {ε : Type} (x : Except ε Unit) (f : ε → SettingsError) :
    (x.mapError f = .ok () ↔ x = .ok ()) ∧
      ∀ e, x.mapError f = .error e ↔ ¬x = .ok () ∧ ∃ fault, x = .error fault ∧ e = f fault := by
  refine ⟨mapError_eq_ok, fun e => mapError_eq_error.trans (and_iff_right_of_imp ?_).symm⟩
  rintro ⟨fault, hfault, -⟩ hpass
  nomatch hfault.symm.trans hpass

/-- A rule that is broken is reported before others are checked. -/
theorem mapError_ite_error (x : Except Violation Unit) :
    (if p then .error rule else x).mapError .violated = demand (¬p) rule >>= fun _ => x.mapError .violated := by
  unfold demand
  by_cases h : p
  · simp only [if_pos h, if_neg (not_not.2 h)]
    rfl
  · simp only [if_neg h, if_pos h]
    rfl

/-- A rule that is checked last. -/
theorem mapError_ite_ok :
    (if p then .ok () else .error rule : Except Violation Unit).mapError .violated = demand p rule >>= fun _ => .ok () := by
  unfold demand
  by_cases h : p
  · simp only [if_pos h]
    rfl
  · simp only [if_neg h]
    rfl

end Demand

/-- The check of a rule succeeds where it is kept, and else it says what is reported. -/
theorem check_settles (s : Settings) (r : Rule) :
    (r.check s = .ok () ↔ r.Kept s) ∧ ∀ e, r.check s = .error e ↔ ¬r.Kept s ∧ r.Reports s e := by
  cases r with
  | databaseUrl => exact mapError_settles _ _
  | servers => exact mapError_settles _ _
  | pool => exact demand_settles UInt32.pos_iff_ne_zero.symm
  | idle => exact demand_settles UInt32.not_lt
  | transactionTime => exact demand_settles Iff.rfl
  | group => exact demand_settles (not_congr (isBlankText_iff _))
  | ackWait => exact demand_settles UInt64.pos_iff_ne_zero.symm
  | deliveries => exact demand_settles UInt32.pos_iff_ne_zero.symm
  | deadLetter => exact demand_settles (not_congr (isBlankText_iff _))
  | codec => exact demand_settles (by simp [Codec.name, Kept])

/-- All rules are checked in their order. -/
theorem check_eq_forM (s : Settings) : s.check = order.forM (check s) := by
  -- The alternatives of a part's check become steps, and the steps of all parts one row.
  unfold Settings.check DatabaseSettings.checkPool DatabaseSettings.checkTransactionTimeout ReplicationSettings.check
    ReplicationSettings.checkCodec
  simp only [mapError_ite_error, mapError_ite_ok, bind_assoc]
  rfl

end Rule

/-! ## Codecs -/

/-- The name of a codec means the codec. -/
theorem Codec.ofName?_name (codec : Codec) : Codec.ofName? codec.name = some codec := by
  cases codec <;> rfl

/-- A codec that passes is named by its own name, and is known. -/
theorem Rule.codec_of_kept {s : Settings} (h : Rule.codec.Kept s) :
    ∃ codec, Codec.ofName? s.replication.codec = some codec ∧ codec.name = s.replication.codec := by
  obtain ⟨codec, hcodec⟩ : ∃ codec : Codec, codec.name = s.replication.codec := by
    obtain h | h := List.mem_cons.1 h
    · exact ⟨.binary, h.symm⟩
    · exact ⟨.json, (List.mem_singleton.1 h).symm⟩
  exact ⟨codec, hcodec ▸ Codec.ofName?_name codec, hcodec⟩

namespace Replicator

variable {σ α β : Type}

/-- A step of the start does not end the program for want of a codec. -/
def SparesCodec (a : Start σ α) : Prop := ∀ state name, (a state).1 ≠ .error (.codec name)

/-- Steps of the start, one after the other. -/
theorem SparesCodec.bind {a : Start σ α} {f : α → Start σ β} (ha : SparesCodec a) (hf : ∀ x, SparesCodec (f x)) :
    SparesCodec (a >>= f) := by
  intro state name
  rcases hstep : a state with ⟨e | x, next⟩
  · rw [Action.bind_of_error hstep]
    have hspares := ha state name
    rw [hstep] at hspares
    rintro ⟨⟩
    exact hspares rfl
  · rw [Action.bind_of_ok hstep]
    exact hf x next name

theorem sparesCodec_pure (x : α) : SparesCodec (pure x : Start σ α) := nofun

/-- A step of the broker fails for reasons of its own. -/
theorem sparesCodec_ofBroker {fault : BrokerError → Fault} (hfault : ∀ e name, fault e ≠ .codec name)
    (a : BrokerAction σ α) : SparesCodec (ofBroker fault a) := by
  intro state name
  unfold ofBroker
  split
  · nofun
  · exact fun h => hfault _ name (Except.error.inj h)

/-- The opening of the database fails for reasons of its own. -/
theorem sparesCodec_openDatabase (h : Host σ) (s : DatabaseSettings) : SparesCodec (openDatabase h s) := by
  intro state name
  unfold openDatabase
  split <;> nofun

theorem sparesCodec_bootstrap (h : Host σ) : SparesCodec (bootstrap h) := by
  intro state name
  unfold bootstrap
  split <;> nofun

/-- A step for each of several things. -/
theorem sparesCodec_forM {f : α → Start σ Unit} (hf : ∀ x, SparesCodec (f x)) (l : List α) :
    SparesCodec (l.forM f) := by
  induction l with
  | nil => exact sparesCodec_pure ()
  | cons x l ih => exact (hf x).bind fun _ => ih

/-- Where the codec is known, the start does not fail for want of it. -/
theorem start_spares_codec {s : Settings} {codec : Codec} (hcodec : Codec.ofName? s.replication.codec = some codec)
    (h : Host σ) (migrate : Bool) : SparesCodec (start h s migrate) := by
  have hmessaging : ∀ e name, Fault.messaging e ≠ .codec name := nofun
  have hsubscriber : ∀ e name, Fault.subscriber e ≠ .codec name := nofun
  -- What follows the opening of the database does so with new tables and without.
  have hlate : SparesCodec (do
      ofBroker .messaging (h.connect (.ofSettings s.messaging) (.ofSettings s.messaging s.replication.deadLetter))
      let r := subscriber h s.replication codec
      Subject.posts.forM fun subject =>
        ofBroker .subscriber (h.subscribe (.ofOptions subject (r.settings.options subject)))
      pure r) :=
    (sparesCodec_ofBroker hmessaging _).bind fun _ =>
      (sparesCodec_forM (fun _ => sparesCodec_ofBroker hsubscriber _) _).bind fun _ => sparesCodec_pure _
  unfold start
  rw [hcodec]
  refine (sparesCodec_openDatabase h _).bind fun _ => ?_
  cases migrate with
  | false => exact hlate
  | true => exact (sparesCodec_bootstrap h).bind fun _ => hlate

end Replicator

/-! ## The case of letters -/

/-- The capital letters of ASCII. -/
def capital (i : Fin 26) : Char := .ofNat ('A'.toNat + i)

/-- The small letters of ASCII. -/
def small (i : Fin 26) : Char := .ofNat ('a'.toNat + i)

theorem toLower_capital : ∀ i, (capital i).toLower = small i := by decide

theorem toLower_small : ∀ i, (small i).toLower = small i := by decide

/-- One character, or the two cases of a letter. -/
inductive SameLetter : Char → Char → Prop where
  | same (c : Char) : SameLetter c c
  | lowered (i : Fin 26) : SameLetter (capital i) (small i)
  | raised (i : Fin 26) : SameLetter (small i) (capital i)

/-- The two cases of a letter are one in lower case. -/
theorem SameLetter.toLower {c d : Char} (h : SameLetter c d) : d.toLower = c.toLower := by
  cases h with
  | same => rfl
  | lowered i => rw [toLower_capital, toLower_small]
  | raised i => rw [toLower_capital, toLower_small]

/-- The texts are the same but for the case of letters. -/
def SameButCase (a b : String) : Prop := List.Forall₂ SameLetter a.toList b.toList

/-- Texts that are the same but for the case of letters are one in lower case. -/
theorem SameButCase.lower {a b : String} (h : SameButCase a b) :
    ReplicationSettings.ofVariables.lowerAscii b = ReplicationSettings.ofVariables.lowerAscii a := by
  unfold SameButCase at h
  unfold ReplicationSettings.ofVariables.lowerAscii
  congr 1
  generalize a.toList = cs at h
  generalize b.toList = ds at h
  induction h with
  | nil => rfl
  | cons hcd _ ih => rw [List.map_cons, List.map_cons, hcd.toLower, ih]

/-- The characters of the names of codecs. -/
def Codec.nameLetters : List Char := "bincode".toList ++ "binary".toList ++ "json".toList

theorem Codec.toNat_lt_of_mem_nameLetters {c : Char} (h : c ∈ nameLetters) : c.toNat < 128 := by
  have hall : (nameLetters.all fun c => c.toNat < 128) = true := by decide
  exact of_decide_eq_true (List.all_eq_true.1 hall c h)

theorem toLower_of_not_ascii {c : Char} (h : 128 ≤ c.toNat) : c.toLower = c := by
  have hcapital : ¬(c.toNat ≥ 'A'.toNat ∧ c.toNat ≤ 'Z'.toNat) := fun ⟨_, hle⟩ => absurd (h.trans hle) (by decide)
  exact dif_neg hcapital

/-- What may become of a character where a text is put in lower case. One of ASCII is lowered by itself; of any other one
something is left that is in no codec's name. -/
inductive Lowered : Char → List Char → Prop where
  | ascii {c : Char} (h : c.toNat < 128) : Lowered c [c.toLower]
  | other {c d : Char} {cs : List Char} (h : 128 ≤ c.toNat) (hd : d ∈ cs) (hleft : d ∉ Codec.nameLetters) : Lowered c cs

/-- A text in lower case is the name of a codec just where it is one with the letters of ASCII in lower case. -/
theorem flatten_eq_iff_of_lowered {cs name : List Char} {parts : List (List Char)} (h : List.Forall₂ Lowered cs parts)
    (hname : name ⊆ Codec.nameLetters) : parts.flatten = name ↔ cs.map Char.toLower = name := by
  induction h generalizing name with
  | nil => rfl
  | @cons c part cs parts hc _ ih =>
    rw [List.flatten_cons, List.map_cons]
    cases hc with
    | ascii _ =>
      cases name with
      | nil => simp
      | cons d name =>
        have hrest := ih fun c hc => hname (List.mem_cons_of_mem d hc)
        simp [hrest]
    | @other d _ hc hd hleft =>
      refine iff_of_false (fun heq => hleft (hname ?_)) fun heq => ?_
      · rw [← heq]
        exact List.mem_append_left _ hd
      · have hmem : c ∈ name := by
          rw [← heq, toLower_of_not_ascii hc]
          exact List.mem_cons_self
        exact absurd (Codec.toNat_lt_of_mem_nameLetters (hname hmem)) (Nat.not_lt.2 hc)

/-- Letters outside of ASCII do not matter for which codec a name means, whatever they are in lower case. -/
theorem Codec.ofName?_of_lowered {s lower : String} {parts : List (List Char)}
    (h : List.Forall₂ Lowered s.toList parts) (hlower : lower.toList = parts.flatten) :
    ofName? s = if lower = "bincode" ∨ lower = "binary" then some .binary
      else if lower = "json" then some .json else none := by
  have hiff (name : String) (hname : name.toList ⊆ nameLetters) : lowerName s = name ↔ lower = name := by
    rw [← String.toList_inj, ← String.toList_inj, lowerName, String.toList_ofList, hlower]
    exact (flatten_eq_iff_of_lowered h hname).symm
  have hbincode := hiff "bincode" (by decide)
  have hbinary := hiff "binary" (by decide)
  have hjson := hiff "json" (by decide)
  simp only [ofName?, hbincode, hbinary, hjson]

-- a dotted capital is small with its dot apart, which is in no name
example : Lowered 'İ' ['i', '\u0307'] := .other (by decide) (List.mem_cons_of_mem _ List.mem_cons_self) (by decide)

section Codec

variable {vars vars' : Lookup}

/-- Variables of which only the codec differs, in the case of its letters, give the same settings. -/
theorem ofVariables_of_sameButCase (hcodec : Option.Rel SameButCase (vars Variable.codec) (vars' Variable.codec))
    (hothers : ∀ name ≠ Variable.codec, vars' name = vars name) :
    Settings.ofVariables vars' = Settings.ofVariables vars := by
  have hlower : (vars' Variable.codec).map ReplicationSettings.ofVariables.lowerAscii =
      (vars Variable.codec).map ReplicationSettings.ofVariables.lowerAscii := by
    generalize vars Variable.codec = value at hcodec
    generalize vars' Variable.codec = value' at hcodec
    cases hcodec with
    | none => rfl
    | some h => exact congrArg some h.lower
  have hdatabase : DatabaseSettings.ofVariables vars' = DatabaseSettings.ofVariables vars := by
    simp (disch := decide) only [DatabaseSettings.ofVariables, Lookup.required, Lookup.word32, Lookup.word64,
      Lookup.number?, hothers]
  have hmessaging : MessagingSettings.ofVariables vars' = MessagingSettings.ofVariables vars := by
    simp (disch := decide) only [MessagingSettings.ofVariables, Lookup.required, Lookup.word64, Lookup.number?, hothers]
  have hreplication : ReplicationSettings.ofVariables vars' = ReplicationSettings.ofVariables vars := by
    simp (disch := decide) only [ReplicationSettings.ofVariables, Lookup.word32, Lookup.word64, Lookup.number?, hothers,
      hlower]
  have hlogging : LoggingSettings.ofVariables vars' = LoggingSettings.ofVariables vars := by
    simp (disch := decide) only [LoggingSettings.ofVariables, Lookup.switch, hothers]
  unfold Settings.ofVariables
  rw [hdatabase, hmessaging, hreplication, hlogging]

end Codec

namespace Settings

open Variable

/-- Settings pass just where all rules are kept, and else the first one that is not is reported. The codec of settings
that pass has the name that they give, and no start with them fails for want of a codec. In variables the case of its
letters does not matter. -/
theorem rules_decide (s : Settings) :
    (s.check = .ok () ↔ ∀ r : Rule, r.Kept s) ∧
      (∀ e, s.check = .error e ↔ ∃ r : Rule, FirstBroken (Rule.Kept s) Rule.order r ∧ r.Reports s e) ∧
      (s.check = .ok () →
        (∃ codec, Codec.ofName? s.replication.codec = some codec ∧ codec.name = s.replication.codec) ∧
          ∀ (σ : Type) (h : Replicator.Host σ) (migrate : Bool) (state : σ) (name : String),
            (Replicator.start h s migrate state).1 ≠ .error (.codec name)) ∧
      ∀ vars vars' : Lookup, Option.Rel SameButCase (vars codec) (vars' codec) →
        (∀ name ≠ codec, vars' name = vars name) → Settings.ofVariables vars' = Settings.ofVariables vars := by
  have hok : s.check = .ok () ↔ ∀ r : Rule, r.Kept s := by
    rw [Rule.check_eq_forM, forM_eq_ok_iff fun r => (Rule.check_settles s r).1]
    exact ⟨fun h r => h r r.mem_order, fun h r _ => h r⟩
  refine ⟨hok, fun e => ?_, fun hpass => ?_, fun vars vars' => ofVariables_of_sameButCase⟩
  · rw [Rule.check_eq_forM, forM_eq_error_iff fun r => (Rule.check_settles s r).1]
    refine exists_congr fun r => and_congr_right fun ⟨_, _, _, _, hbroken⟩ => ?_
    exact ((Rule.check_settles s r).2 e).trans (and_iff_right hbroken)
  · obtain ⟨codec, hcodec, hname⟩ := Rule.codec_of_kept (hok.1 hpass .codec)
    exact ⟨⟨codec, hcodec, hname⟩, fun σ h migrate => Replicator.start_spares_codec hcodec h migrate⟩

/-- The same variables with the codec in other letters. -/
def respelledVariables : Lookup := fun name => if name = codec then some "jSOn" else someVariables name

/-- Settings that break two rules. -/
def idleSettings : Settings where
  database := { someSettings.database with minIdle := 8 }
  messaging := someSettings.messaging
  replication := { someSettings.replication with codec := "cbor" }
  logging := someSettings.logging

/-- Settings that pass, and settings with more idle connections than the pool has. -/
theorem some_rules_decide :
    (∀ r : Rule, r.Kept someSettings) ∧
      (∃ codec, Codec.ofName? "json" = some codec ∧ codec.name = "json") ∧
      Settings.ofVariables respelledVariables = Settings.ofVariables someVariables ∧
      ∃ r : Rule, FirstBroken (Rule.Kept idleSettings) Rule.order r ∧
        r.Reports idleSettings (.violated (.idleAbovePool 8 7)) := by
  obtain ⟨hpass, -, hcodec, hspelling⟩ := rules_decide someSettings
  have hok : someSettings.check = .ok () := rfl
  refine ⟨hpass.1 hok, (hcodec hok).1, hspelling _ _ ?_ fun name hname => if_neg hname,
    (rules_decide idleSettings).2.1 _ |>.1 rfl⟩
  exact .some (.cons (.lowered 9) (.cons (.same _) (.cons (.same _) (.cons (.lowered 13) .nil))))

end Settings

end Forum
