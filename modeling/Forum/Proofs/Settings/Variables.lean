import Forum.JetStream
import Forum.Proofs.Steps
import Forum.Proofs.Text.Cut
import Forum.Proofs.Text.Decimal
import Forum.Settings.Variables

/-!
# What variables say

Something is asked of ten variables (`Variable.demands`): the two addresses have to be given, and of the numbers and the
switch, those that are given have to say something of their kind. One lemma for each kind of reader says that it reads
just where this is met, what it reads there, and what it complains about else (`Variable.Reads`).

Hence settings are read just where all demands are met. Else the complaint is about the first variable whose demand is
not, in the order in which they are read. What is read is what the variables say, with defaults only for variables that
are absent (`Settings.TakenFrom`), and the servers are the same again when they are put together and read once more
(`Settings.variables_heeded`).
-/

namespace Forum

open Text

namespace Variable

/-! ## Demands -/

/-- What is asked of a variable. -/
inductive Demand where
  /-- It is present and not blank. -/
  | text
  /-- If it is present, it is a number below a bound. -/
  | number (bound : Nat)
  /-- If it is present, it is a word for on or off. -/
  | switch

/-- The words that turn a switch off. -/
def offWords : List String := ["", "0", "false"]

/-- The words that turn a switch on. -/
def onWords : List String := ["1", "true"]

/-- The text is a number, but for blanks around it. -/
def MeansNumber (given : String) (n : Nat) : Prop := Decimal.Numeral (trim given.toList) n

namespace Demand

/-- A value, if there is one, is as it is asked for. -/
def Met (value : Option String) : Demand → Prop
  | text => ∃ given, value = some given ∧ trimmed given ≠ ""
  | number bound => ∀ given, value = some given → ∃ n < bound, MeansNumber given n
  | switch => ∀ given, value = some given → trimmed given ∈ offWords ++ onWords

/-- What is said of a value that is not. A number is quoted as it stands, a word without the blanks around it. -/
def complaint (name : String) (value : Option String) : Demand → SettingsError
  | text => .missing name
  | number _ => .badValue name (value.getD "")
  | switch => .badValue name (trimmed (value.getD ""))

end Demand

def databaseDemands : List (String × Demand) :=
  [(databaseUrl, .text), (poolSize, .number (2 ^ 32)), (minIdle, .number (2 ^ 32)), (databaseTimeout, .number (2 ^ 64)),
    (transactionTimeout, .number (2 ^ 64))]

def messagingDemands : List (String × Demand) := [(messagingUrls, .text), (messagingTimeout, .number (2 ^ 64))]

def replicationDemands : List (String × Demand) := [(ackWait, .number (2 ^ 64)), (maxDeliver, .number (2 ^ 32))]

def loggingDemands : List (String × Demand) := [(logJson, .switch)]

/-- The variables that something is asked of, in the order in which they are read. -/
def demands : List (String × Demand) := databaseDemands ++ (messagingDemands ++ (replicationDemands ++ loggingDemands))

/-! ## Readers -/

/-- What is taken from a variable is what its value says, or the default where it is absent. -/
def Taken {α : Type} (value : Option String) (meant : String → α → Prop) (default taken : α) : Prop :=
  (value = none → taken = default) ∧ ∀ given, value = some given → meant given taken

/-- What is read from a variable is as `meant` tells where its demand is met, and else there is a complaint. -/
def Reads {α : Type} (name : String) (value : Option String) (d : Demand) (meant : α → Prop) (x : Except SettingsError α) :
    Prop :=
  (d.Met value ∧ ∃ a, x = .ok a ∧ meant a) ∨ (¬d.Met value ∧ x = .error (d.complaint name value))

section Reads

variable {α β : Type} {name : String} {value : Option String} {d : Demand} {meant : α → Prop}
  {x : Except SettingsError α} {e : SettingsError}

/-- What was read is what is meant. -/
theorem Reads.meant_of_ok (h : Reads name value d meant x) {a : α} (ha : x = .ok a) : meant a := by
  obtain ⟨-, b, hb, hmeant⟩ | ⟨-, herror⟩ := h
  · obtain rfl := Except.ok.inj (ha.symm.trans hb)
    exact hmeant
  · nomatch ha.symm.trans herror

/-- Something is read just where the demand is met. -/
theorem Reads.outcome_eq_ok_iff (h : Reads name value d meant x) : outcome x = .ok () ↔ d.Met value := by
  rw [Forum.outcome_eq_ok_iff]
  obtain ⟨hmet, a, ha, -⟩ | ⟨hmet, herror⟩ := h
  · exact iff_of_true ⟨a, ha⟩ hmet
  · exact iff_of_false (fun ⟨_, ha⟩ => nomatch ha.symm.trans herror) hmet

/-- Where nothing is read, the complaint is that of the demand. -/
theorem Reads.eq_complaint (h : Reads name value d meant x) (he : outcome x = .error e) : e = d.complaint name value := by
  rw [outcome_eq_error_iff] at he
  obtain ⟨-, a, ha, -⟩ | ⟨-, herror⟩ := h
  · nomatch he.symm.trans ha
  · exact Except.error.inj (he.symm.trans herror)

/-- What is made of what was read is known from that. -/
theorem Reads.made (h : Reads name value d meant x) (f : α → β) {meant' : β → Prop} (hmade : ∀ a, meant a → meant' (f a)) :
    Reads name value d meant' (x >>= fun a => .ok (f a)) := by
  obtain ⟨hmet, a, rfl, hmeant⟩ | ⟨hmet, rfl⟩ := h
  · exact .inl ⟨hmet, f a, rfl, hmade a hmeant⟩
  · exact .inr ⟨hmet, rfl⟩

end Reads

variable (vars : Lookup) (name : String)

/-- A variable that has to be given is read as it stands. -/
theorem reads_required : Reads name (vars name) .text (fun text => vars name = some text) (vars.required name) := by
  unfold Lookup.required Reads
  cases hvalue : vars name with
  | none =>
    have hmet : ¬Demand.text.Met none := fun ⟨_, h, _⟩ => nomatch h
    exact .inr ⟨hmet, rfl⟩
  | some given =>
    by_cases hblank : trimmed given = ""
    · have hmet : ¬Demand.text.Met (some given) := fun ⟨_, h, hne⟩ => hne (Option.some.inj h ▸ hblank)
      exact .inr ⟨hmet, by simp [Option.filter, (isBlankText_iff given).2 hblank, Demand.complaint]⟩
    · have hnot : isBlankText given = false := Bool.eq_false_iff.2 fun h => hblank ((isBlankText_iff given).1 h)
      exact .inl ⟨⟨given, rfl, hblank⟩, given, by simp [Option.filter, hnot], rfl⟩

/-- A number that may be absent. -/
theorem reads_number? (bound : Nat) :
    Reads name (vars name) (.number bound)
      (Taken (vars name) (fun given read => ∃ n < bound, read = some n ∧ MeansNumber given n) none)
        (vars.number? bound name) := by
  unfold Lookup.number? Reads
  cases hvalue : vars name with
  | none => exact .inl ⟨nofun, none, rfl, fun _ => rfl, nofun⟩
  | some given =>
    simp only
    cases hparse : Decimal.parseBelow bound (trim given.toList) with
    | none =>
      refine .inr ⟨fun hmet => ?_, rfl⟩
      obtain ⟨n, hn, hmeant⟩ := hmet given rfl
      nomatch hparse.symm.trans (Decimal.parseBelow_eq_some_iff.2 ⟨hmeant, hn⟩)
    | some n =>
      obtain ⟨hmeant, hn⟩ := Decimal.parseBelow_eq_some_iff.1 hparse
      refine .inl ⟨?_, some n, rfl, nofun, ?_⟩ <;> rintro _ ⟨⟩
      · exact ⟨n, hn, hmeant⟩
      · exact ⟨n, hn, rfl, hmeant⟩

/-- A number below a bound that is kept as a word, given that words of numbers below the bound are these numbers again. -/
theorem reads_word {ω : Type} {bound : Nat} {ofNat : Nat → ω} {toNat : ω → Nat}
    (hword : ∀ n < bound, toNat (ofNat n) = n) (default : ω) :
    Reads name (vars name) (.number bound) (Taken (vars name) (fun given w => MeansNumber given (toNat w)) default)
      (vars.number? bound name >>= fun read => .ok ((read.map ofNat).getD default)) := by
  refine (reads_number? vars name bound).made _ fun read hread => ⟨fun hnone => ?_, fun given hsome => ?_⟩
  · rw [hread.1 hnone]
    rfl
  · obtain ⟨n, hn, rfl, hmeant⟩ := hread.2 given hsome
    simpa [hword n hn] using hmeant

/-- A number of 32 bits. -/
theorem reads_word32 (default : UInt32) :
    Reads name (vars name) (.number (2 ^ 32)) (Taken (vars name) (fun given w => MeansNumber given w.toNat) default)
      (vars.word32 name default) :=
  reads_word vars name (fun _ => UInt32.toNat_ofNat_of_lt') default

/-- A number of 64 bits. -/
theorem reads_word64 (default : UInt64) :
    Reads name (vars name) (.number (2 ^ 64)) (Taken (vars name) (fun given w => MeansNumber given w.toNat) default)
      (vars.word64 name default) :=
  reads_word vars name (fun _ => UInt64.toNat_ofNat_of_lt') default

/-- A switch is read from the words for on and off, and is off where the variable is absent. -/
theorem reads_switch :
    Reads name (vars name) .switch
      (Taken (vars name) (fun given on => trimmed given ∈ if on then onWords else offWords) false) (vars.switch name) := by
  unfold Lookup.switch Reads
  cases hvalue : vars name with
  | none => exact .inl ⟨nofun, false, rfl, fun _ => rfl, nofun⟩
  | some given =>
    simp only [Option.map_some]
    split
    · rename_i hoff
      have hword : trimmed given ∈ offWords := by simpa [offWords] using hoff
      refine .inl ⟨?_, false, rfl, nofun, ?_⟩ <;> rintro _ ⟨⟩
      · exact List.mem_append_left _ hword
      · exact hword
    · split
      · rename_i hon
        have hword : trimmed given ∈ onWords := by simpa [onWords] using hon
        refine .inl ⟨?_, true, rfl, nofun, ?_⟩ <;> rintro _ ⟨⟩
        · exact List.mem_append_right _ hword
        · exact hword
      · rename_i hoff hon
        refine .inr ⟨fun hmet => ?_, rfl⟩
        obtain hword | hword := List.mem_append.1 (hmet given rfl)
        · exact hoff (by simpa [offWords] using hword)
        · exact hon (by simpa [onWords] using hword)

/-! ## The order of reading -/

/-- The check of a variable is the outcome of its reader. -/
def check (vars : Lookup) : String × Demand → Except SettingsError Unit
  | (name, .text) => outcome (vars.required name)
  | (name, .number bound) => outcome (vars.number? bound name)
  | (name, .switch) => outcome (vars.switch name)

variable {vars}

/-- The check of a variable succeeds just where its demand is met. -/
theorem check_eq_ok_iff (d : String × Demand) : check vars d = .ok () ↔ d.2.Met (vars d.1) := by
  match d with
  | (name, .text) => exact (reads_required vars name).outcome_eq_ok_iff
  | (name, .number bound) => exact (reads_number? vars name bound).outcome_eq_ok_iff
  | (name, .switch) => exact (reads_switch vars name).outcome_eq_ok_iff

/-- The check of a variable fails with the complaint of its demand. -/
theorem eq_complaint_of_check {d : String × Demand} {e : SettingsError} (h : check vars d = .error e) :
    e = d.2.complaint d.1 (vars d.1) := by
  match d with
  | (name, .text) => exact (reads_required vars name).eq_complaint h
  | (name, .number bound) => exact (reads_number? vars name bound).eq_complaint h
  | (name, .switch) => exact (reads_switch vars name).eq_complaint h

variable (vars)

theorem outcome_word32 (name : String) (default : UInt32) :
    outcome (vars.word32 name default) = check vars (name, .number (2 ^ 32)) := outcome_bind_ok _ _

theorem outcome_word64 (name : String) (default : UInt64) :
    outcome (vars.word64 name default) = check vars (name, .number (2 ^ 64)) := outcome_bind_ok _ _

/-- The variables of the database are checked one after the other. -/
theorem outcome_database : outcome (DatabaseSettings.ofVariables vars) = databaseDemands.forM (check vars) :=
  outcome_bind_cons rfl fun _ => outcome_bind_cons (outcome_word32 ..) fun _ => outcome_bind_cons (outcome_word32 ..) fun _ =>
    outcome_bind_cons (outcome_word64 ..) fun _ => outcome_bind_cons rfl fun _ => rfl

/-- The variables of the broker are checked one after the other. -/
theorem outcome_messaging : outcome (MessagingSettings.ofVariables vars) = messagingDemands.forM (check vars) :=
  outcome_bind_cons rfl fun _ => outcome_bind_cons (outcome_word64 ..) fun _ => rfl

/-- The variables of the replication are checked one after the other. -/
theorem outcome_replication : outcome (ReplicationSettings.ofVariables vars) = replicationDemands.forM (check vars) :=
  outcome_bind_cons (outcome_word64 ..) fun _ => outcome_bind_cons (outcome_word32 ..) fun _ => rfl

theorem outcome_logging : outcome (LoggingSettings.ofVariables vars) = loggingDemands.forM (check vars) :=
  outcome_bind_cons rfl fun _ => rfl

/-- All variables are checked one after the other. -/
theorem outcome_settings : outcome (Settings.ofVariables vars) = demands.forM (check vars) :=
  outcome_bind_append (outcome_database vars) fun _ => outcome_bind_append (outcome_messaging vars) fun _ =>
    outcome_bind_append (outcome_replication vars) fun _ => (outcome_bind_ok _ _).trans (outcome_logging vars)

end Variable

/-! ## Lists of servers -/

/-- The items are what is left of the segments between commas when they are trimmed, in their order, without those of
which nothing is left. -/
def Segmented (given : String) (items : List String) : Prop :=
  ∃ segments : List String, segments ≠ [] ∧ (∀ segment ∈ segments, ',' ∉ segment.toList) ∧
    given = String.intercalate "," segments ∧ items = (segments.map trimmed).filter (· ≠ "")

theorem toList_map_ofList (ps : List (List Char)) : (ps.map String.ofList).map String.toList = ps := by
  simp [List.map_map, Function.comp_def]

/-- What was cut at the commas is what the commas put together. -/
theorem intercalate_pieces (given : String) :
    String.intercalate "," ((pieces ',' given.toList).map String.ofList) = given := by
  rw [← String.toList_inj, String.toList_intercalate, toList_map_ofList, pieces_eq_splitOn]
  exact List.intercalate_splitOn ','

/-- Texts without commas that are put together with commas are the pieces between these. -/
theorem pieces_intercalate {items : List String} (hne : items ≠ []) (hcomma : ∀ item ∈ items, ',' ∉ item.toList) :
    (pieces ',' (String.intercalate "," items).toList).map String.ofList = items := by
  rw [String.toList_intercalate, pieces_eq_splitOn]
  have hpieces : List.splitOn ',' (",".toList.intercalate (items.map String.toList)) = items.map String.toList := by
    refine List.splitOn_intercalate ',' ?_ (by simpa using hne)
    intro p hp
    obtain ⟨item, hitem, rfl⟩ := List.mem_map.1 hp
    exact hcomma item hitem
  rw [hpieces]
  simp [List.map_map, Function.comp_def]

/-- Items are the pieces between commas, without the blanks around them and without those that have nothing else. -/
theorem items_eq (given : String) :
    Lookup.items given = (((pieces ',' given.toList).map String.ofList).map trimmed).filter (· ≠ "") := by
  have htrimmed : (pieces ',' given.toList).map (fun item => String.ofList (trim item)) =
      ((pieces ',' given.toList).map String.ofList).map trimmed := by simp [trimmed, Function.comp_def]
  rw [Lookup.items, htrimmed]
  refine List.filter_congr fun item _ => ?_
  by_cases hempty : item = "" <;> simp [hempty]

/-- The items of a text are segments of it. -/
theorem segmented_items (given : String) : Segmented given (Lookup.items given) := by
  refine ⟨_, ?_, ?_, (intercalate_pieces given).symm, items_eq given⟩
  · rw [pieces_eq_splitOn]
    simp
  · intro segment hsegment
    obtain ⟨p, hp, rfl⟩ := List.mem_map.1 hsegment
    rw [String.toList_ofList]
    exact not_mem_of_mem_pieces hp

/-- An item is trimmed, and something is left of it. -/
theorem mem_items {given item : String} (h : item ∈ Lookup.items given) :
    ',' ∉ item.toList ∧ trimmed item = item ∧ item ≠ "" := by
  rw [items_eq, List.mem_filter] at h
  obtain ⟨hmem, hne⟩ := h
  obtain ⟨segment, hsegment, rfl⟩ := List.mem_map.1 hmem
  obtain ⟨p, hp, rfl⟩ := List.mem_map.1 hsegment
  refine ⟨fun hcomma => ?_, ?_, by simpa using hne⟩
  · rw [trimmed, String.toList_ofList, String.toList_ofList] at hcomma
    exact not_mem_of_mem_pieces hp (mem_of_mem_trim hcomma)
  · rw [trimmed, trimmed, String.toList_ofList, trim_trim]

/-- Items that are put together with commas are cut into the same items again. -/
theorem items_intercalate (given : String) : Lookup.items (String.intercalate "," (Lookup.items given)) = Lookup.items given := by
  by_cases hne : Lookup.items given = []
  · rw [hne]
    rfl
  · rw [items_eq, pieces_intercalate hne fun item hitem => (mem_items hitem).1]
    have hkept : (Lookup.items given).map trimmed = Lookup.items given := by
      conv_rhs => rw [← List.map_id (Lookup.items given)]
      exact List.map_congr_left fun item hitem => (mem_items hitem).2.1
    rw [hkept]
    exact List.filter_eq_self.2 fun item hitem => by simpa using (mem_items hitem).2.2

/-! ## Settings -/

section Parts

open Variable

variable (vars : Lookup)

structure DatabaseSettings.TakenFrom (s : DatabaseSettings) : Prop where
  url : vars Variable.databaseUrl = some s.url
  poolSize : Taken (vars Variable.poolSize) (fun given w => MeansNumber given w.toNat) 10 s.poolSize
  minIdle : Taken (vars Variable.minIdle) (fun given w => MeansNumber given w.toNat) 1 s.minIdle
  connectTimeout : Taken (vars Variable.databaseTimeout) (fun given w => MeansNumber given w.toNat) 30 s.connectTimeout
  transactionTimeout :
    Taken (vars Variable.transactionTimeout) (fun given bound => ∃ w : UInt64, bound = some w ∧ MeansNumber given w.toNat) none
      s.transactionTimeout

structure MessagingSettings.TakenFrom (s : MessagingSettings) : Prop where
  urls : ∃ given, vars Variable.messagingUrls = some given ∧ Segmented given s.urls
  cluster : Taken (vars Variable.cluster) Eq "social-network" s.cluster
  client : Taken (vars Variable.client) Eq "comments-api" s.client
  connectTimeout : Taken (vars Variable.messagingTimeout) (fun given w => MeansNumber given w.toNat) 5 s.connectTimeout

structure ReplicationSettings.TakenFrom (s : ReplicationSettings) : Prop where
  group : Taken (vars Variable.group) Eq "posts" s.group
  ackWait : Taken (vars Variable.ackWait) (fun given w => MeansNumber given w.toNat) 60 s.ackWait
  maxDeliver : Taken (vars Variable.maxDeliver) (fun given w => MeansNumber given w.toNat) 5 s.maxDeliver
  deadLetter : Taken (vars Variable.deadLetter) Eq "post-dead-letter" s.deadLetter
  /-- A codec is known in letters of any case. -/
  codec : Taken (vars Variable.codec) (fun given name => name.toList = given.toList.map Char.toLower) "bincode" s.codec

structure LoggingSettings.TakenFrom (s : LoggingSettings) : Prop where
  level : Taken (vars Variable.logLevel) Eq "info" s.level
  json : Taken (vars Variable.logJson) (fun given on => trimmed given ∈ if on then onWords else offWords) false s.json

/-- The settings are what the variables say, with defaults only for variables that are absent. -/
structure Settings.TakenFrom (s : Settings) : Prop where
  database : s.database.TakenFrom vars
  messaging : s.messaging.TakenFrom vars
  replication : s.replication.TakenFrom vars
  logging : s.logging.TakenFrom vars

end Parts

section Taken

open Variable

variable {vars : Lookup}

/-- A text is taken as it is given, or the default. -/
theorem Variable.taken_getD (value : Option String) (default : String) : Taken value Eq default (value.getD default) := by
  cases value with
  | none => exact ⟨fun _ => rfl, nofun⟩
  | some text => exact ⟨nofun, fun _ h => (Option.some.inj h).symm⟩

/-- The settings of the database are taken from their variables. -/
theorem DatabaseSettings.takenFrom {s : DatabaseSettings} (h : DatabaseSettings.ofVariables vars = .ok s) :
    s.TakenFrom vars := by
  obtain ⟨url, hurl, h⟩ := bind_eq_ok.1 h
  obtain ⟨poolSize, hpoolSize, h⟩ := bind_eq_ok.1 h
  obtain ⟨minIdle, hminIdle, h⟩ := bind_eq_ok.1 h
  obtain ⟨connectTimeout, hconnect, h⟩ := bind_eq_ok.1 h
  obtain ⟨bound, hbound, h⟩ := bind_eq_ok.1 h
  obtain rfl := Except.ok.inj h
  have hread := (reads_number? vars Variable.transactionTimeout _).meant_of_ok hbound
  refine ⟨(reads_required ..).meant_of_ok hurl, (reads_word32 ..).meant_of_ok hpoolSize,
    (reads_word32 ..).meant_of_ok hminIdle, (reads_word64 ..).meant_of_ok hconnect, fun hnone => ?_, fun given hgiven => ?_⟩
  · rw [hread.1 hnone]
    rfl
  · obtain ⟨n, hn, rfl, hmeant⟩ := hread.2 given hgiven
    exact ⟨.ofNat n, rfl, by rwa [UInt64.toNat_ofNat_of_lt' hn]⟩

/-- The settings of the broker are taken from their variables, the servers item by item. -/
theorem MessagingSettings.takenFrom {s : MessagingSettings} (h : MessagingSettings.ofVariables vars = .ok s) :
    s.TakenFrom vars ∧ ∃ given, s.urls = Lookup.items given := by
  obtain ⟨urls, hurls, h⟩ := bind_eq_ok.1 h
  obtain ⟨connectTimeout, hconnect, h⟩ := bind_eq_ok.1 h
  obtain rfl := Except.ok.inj h
  refine ⟨⟨⟨urls, ?_, segmented_items urls⟩, taken_getD .., taken_getD .., ?_⟩, urls, rfl⟩
  · exact (reads_required ..).meant_of_ok hurls
  · exact (reads_word64 ..).meant_of_ok hconnect

/-- The settings of the replication are taken from their variables. -/
theorem ReplicationSettings.takenFrom {s : ReplicationSettings} (h : ReplicationSettings.ofVariables vars = .ok s) :
    s.TakenFrom vars := by
  obtain ⟨ackWait, hwait, h⟩ := bind_eq_ok.1 h
  obtain ⟨maxDeliver, hdeliver, h⟩ := bind_eq_ok.1 h
  obtain rfl := Except.ok.inj h
  refine ⟨taken_getD .., (reads_word64 ..).meant_of_ok hwait, (reads_word32 ..).meant_of_ok hdeliver, taken_getD ..,
    fun hnone => ?_, fun given hgiven => ?_⟩
  · simp only [hnone]
    rfl
  · simp only [hgiven]
    exact String.toList_ofList

theorem LoggingSettings.takenFrom {s : LoggingSettings} (h : LoggingSettings.ofVariables vars = .ok s) :
    s.TakenFrom vars := by
  obtain ⟨json, hjson, h⟩ := bind_eq_ok.1 h
  obtain rfl := Except.ok.inj h
  exact ⟨taken_getD .., (reads_switch ..).meant_of_ok hjson⟩

/-- All settings are taken from their variables. -/
theorem Settings.takenFrom {s : Settings} (h : Settings.ofVariables vars = .ok s) :
    s.TakenFrom vars ∧ ∃ given, s.messaging.urls = Lookup.items given := by
  obtain ⟨database, hdatabase, h⟩ := bind_eq_ok.1 h
  obtain ⟨messaging, hmessaging, h⟩ := bind_eq_ok.1 h
  obtain ⟨replication, hreplication, h⟩ := bind_eq_ok.1 h
  obtain ⟨logging, hlogging, h⟩ := bind_eq_ok.1 h
  obtain rfl := Except.ok.inj h
  obtain ⟨hmessaging, hitems⟩ := MessagingSettings.takenFrom hmessaging
  exact ⟨⟨DatabaseSettings.takenFrom hdatabase, hmessaging, ReplicationSettings.takenFrom hreplication,
    LoggingSettings.takenFrom hlogging⟩, hitems⟩

end Taken

namespace Settings

open Variable

/-- Settings are read from variables just where all that is asked of them is met, and else the complaint is about the
first variable of which it is not. What is read is what the variables say, and servers that are put together with commas
to connect to them are the same servers when they are cut again. -/
theorem variables_heeded (vars : Lookup) :
    ((∃ s, Settings.ofVariables vars = .ok s) ↔ ∀ d ∈ demands, d.2.Met (vars d.1)) ∧
      (∀ e, Settings.ofVariables vars = .error e ↔
        ∃ d, FirstBroken (fun d => d.2.Met (vars d.1)) demands d ∧ e = d.2.complaint d.1 (vars d.1)) ∧
      ∀ s, Settings.ofVariables vars = .ok s →
        s.TakenFrom vars ∧ Lookup.items (JetStream.Connection.ofSettings s.messaging).servers = s.messaging.urls ∧
          (s.messaging.urls ≠ [] →
            (pieces ',' (JetStream.Connection.ofSettings s.messaging).servers.toList).map String.ofList =
              s.messaging.urls) := by
  refine ⟨?_, fun e => ?_, fun s hs => ?_⟩
  · rw [← Forum.outcome_eq_ok_iff, outcome_settings, forM_eq_ok_iff check_eq_ok_iff]
  · rw [← outcome_eq_error_iff, outcome_settings, forM_eq_error_iff check_eq_ok_iff]
    refine exists_congr fun d => and_congr_right fun hbroken => ⟨eq_complaint_of_check, ?_⟩
    rintro rfl
    cases hcheck : Variable.check vars d with
    | ok u =>
      obtain ⟨_, _, _, _, hnot⟩ := hbroken
      exact absurd ((check_eq_ok_iff d).1 hcheck) hnot
    | error e => rw [eq_complaint_of_check hcheck]
  · obtain ⟨htaken, given, hitems⟩ := takenFrom hs
    refine ⟨htaken, ?_, fun hne => pieces_intercalate hne fun url hurl => ?_⟩
    · show Lookup.items (String.intercalate "," s.messaging.urls) = _
      rw [hitems]
      exact items_intercalate given
    · rw [hitems] at hurl
      exact (mem_items hurl).1

/-- Variables for two servers, with blanks and a comma too many. -/
def someVariables : Lookup := fun name => [(databaseUrl, "postgres://localhost:5432/comments"), (poolSize, " +7 "),
  (messagingUrls, " nats://a:4222 ,, nats://b:4222"), (codec, "JSON"), (logJson, " 1 ")].lookup name

/-- The same with two values that are not what is asked for. -/
def wrongVariables : Lookup := fun name =>
  if name = maxDeliver then some "many" else if name = logJson then some " no " else someVariables name

/-- What the variables say. -/
def someSettings : Settings where
  database := ⟨"postgres://localhost:5432/comments", 7, 1, 30, none⟩
  messaging := ⟨["nats://a:4222", "nats://b:4222"], "social-network", "comments-api", 5⟩
  replication := ⟨"posts", 60, 5, "post-dead-letter", "json"⟩
  logging := ⟨"info", true⟩

/-- Variables that are read, and some of which one means no number. -/
theorem some_variables_heeded :
    (∀ d ∈ demands, d.2.Met (someVariables d.1)) ∧ someSettings.TakenFrom someVariables ∧
      Lookup.items "nats://a:4222,nats://b:4222" = ["nats://a:4222", "nats://b:4222"] ∧
      ∃ d, FirstBroken (fun d => d.2.Met (wrongVariables d.1)) demands d ∧
        .badValue "AGORA_MAX_DELIVER" "many" = d.2.complaint d.1 (wrongVariables d.1) := by
  obtain ⟨hok, -, hread⟩ := variables_heeded someVariables
  have hsome : Settings.ofVariables someVariables = .ok someSettings := rfl
  exact ⟨hok.1 ⟨_, hsome⟩, (hread _ hsome).1, (hread _ hsome).2.1, (variables_heeded wrongVariables).2.1 _ |>.1 rfl⟩

end Settings

end Forum
