import PicoBroker.Broker.Steps

set_option autoImplicit false

namespace PicoBroker

open Execution (Run Anything)

variable {maxSessions maxSubs maxInflight maxRetained : Nat}

structure Identified (registry : SessionRegistry maxSessions maxSubs maxInflight) : Prop where
  distinct : ∀ slot other session rival, registry.get slot = some session →
    registry.get other = some rival → session.clientId = rival.clientId → slot = other
  nonempty : ∀ slot session, registry.get slot = some session → session.clientId.items ≠ []

variable {registry after : SessionRegistry maxSessions maxSubs maxInflight}

-- No client is new in its slot.
theorem Identified.of_known (identified : Identified registry)
    (known : ∀ slot session, after.get slot = some session →
      ∃ old, registry.get slot = some old ∧ session.clientId = old.clientId) : Identified after where
  distinct slot other session rival present rivalPresent same := by
    obtain ⟨old, found, kept⟩ := known slot session present
    obtain ⟨oldRival, rivalFound, rivalKept⟩ := known other rival rivalPresent
    exact identified.distinct slot other old oldRival found rivalFound (by rw [← kept, same, rivalKept])
  nonempty slot session present := by
    obtain ⟨old, found, kept⟩ := known slot session present
    rw [kept]
    exact identified.nonempty slot old found

theorem Identified.of_maps (identified : Identified registry) (maps : Maps Keeps registry after) :
    Identified after := by
  refine identified.of_known fun slot session present => ?_
  obtain ⟨old, found, kept⟩ := maps.of_present present
  exact ⟨old, found, kept.clientId⟩

theorem Identified.put (identified : Identified registry) {slot : SessionId}
    {old new : SessionState maxSubs maxInflight} (found : registry.get slot = some old)
    (same : new.clientId = old.clientId) : Identified (registry.put slot new) := by
  refine identified.of_known fun other session present => ?_
  rw [SessionRegistry.get_put found] at present
  split at present
  · next here =>
    subst here
    cases present
    exact ⟨old, found, same⟩
  · exact ⟨session, present, rfl⟩

theorem Identified.remove (identified : Identified registry) (slot : SessionId) :
    Identified (registry.remove slot).2 := by
  refine identified.of_known fun other session present => ?_
  rw [SessionRegistry.get_remove] at present
  split at present
  · cases present
  · exact ⟨session, present, rfl⟩

theorem Identified.of_displace (identified : Identified registry) (clientId : Bytes) :
    Identified (displace registry clientId).2 :=
  identified.of_known fun _ session present => ⟨session, get_of_displace present, rfl⟩

theorem Identified.findByClientId (identified : Identified registry) {slot : SessionId}
    {session : SessionState maxSubs maxInflight} (present : registry.get slot = some session) :
    registry.findByClientId session.clientId.items = some slot := by
  cases found : registry.findByClientId session.clientId.items with
  | none => exact absurd rfl (SessionRegistry.findByClientId_eq_none.mp found slot session present)
  | some first =>
    obtain ⟨known, stored, same⟩ := SessionRegistry.findByClientId_eq_some found
    rw [identified.distinct first slot known session stored present (Bounded.ext same)]

-- The displaced registry has no session of that client left: there was at most one.
theorem Identified.displaced (identified : Identified registry) {clientId : Bytes} {slot : SessionId}
    {session : SessionState maxSubs maxInflight}
    (present : (displace registry clientId).2.get slot = some session) : session.clientId.items ≠ clientId := by
  rintro rfl
  have found := identified.findByClientId (get_of_displace present)
  rw [get_displace, if_pos found] at present
  cases present

theorem Identified.insert (identified : Identified registry) {packet : Connect} {id : SessionId}
    {state : SessionState maxSubs maxInflight} (named : packet.clientId ≠ [])
    (free : (displace registry packet.clientId).2.slots.firstFree = some id)
    (valid : freshState packet = .ok state)
    (inserted : ∀ slot, after.get slot =
      ((displace registry packet.clientId).2.slots.set id (some state)).get slot) :
    Identified after := by
  obtain ⟨inside, _, _⟩ := Slots.firstFree_eq_some.mp free
  obtain ⟨clientId, lwt, owner, _, rfl⟩ := freshState_ok valid
  have cases (slot : SessionId) (session : SessionState maxSubs maxInflight)
      (present : after.get slot = some session) : (slot = id ∧ session.clientId.items = packet.clientId) ∨
        (displace registry packet.clientId).2.get slot = some session := by
    rw [inserted] at present
    by_cases here : slot = id
    · subst here
      rw [Slots.get_set_self _ _ inside] at present
      cases present
      exact .inl ⟨rfl, owner⟩
    · rw [Slots.get_set_ne _ _ here] at present
      exact .inr present
  constructor
  · intro slot other session rival present rivalPresent same
    rcases cases slot session present with ⟨rfl, mine⟩ | kept
    · rcases cases other rival rivalPresent with ⟨rfl, _⟩ | rivalKept
      · rfl
      · exact absurd (same ▸ mine) (identified.displaced rivalKept)
    · rcases cases other rival rivalPresent with ⟨rfl, mine⟩ | rivalKept
      · exact absurd (same ▸ mine) (identified.displaced kept)
      · exact (identified.of_displace packet.clientId).distinct slot other session rival kept rivalKept same
  · intro slot session present
    rcases cases slot session present with ⟨_, mine⟩ | kept
    · rw [mine]
      exact named
    · exact (identified.of_displace packet.clientId).nonempty slot session kept

theorem Identified.admission (identified : Identified registry) {packet : Connect} {houseToken : HouseToken}
    {result : Except ConnectError PreparedConnect}
    (admission : Admission registry packet houseToken after result) : Identified after := by
  cases admission with
  | refused => exact identified
  | badWill => exact identified
  | resumed _ _ present => exact identified.put present rfl
  | unavailable => exact identified
  | invalid => exact identified.of_displace packet.clientId
  | unrecorded admissible _ free valid => exact identified.insert admissible.2.1 free valid fun _ => rfl
  | created admissible _ free valid => exact identified.insert admissible.2.1 free valid fun _ => rfl

theorem identified_new : Identified (SessionRegistry.new : SessionRegistry maxSessions maxSubs maxInflight) where
  distinct _ _ _ _ present := by cases present.symm.trans (SessionRegistry.get_new _)
  nonempty _ _ present := by cases present.symm.trans (SessionRegistry.get_new _)

section

variable {env : Env}

theorem Identified.step {system next : System maxSessions maxSubs maxInflight maxRetained} {label : Label}
    {new : List Event} (identified : Identified system.broker.registry)
    (taken : System.step env system label = some (next, new)) : Identified next.broker.registry := by
  cases step_transition taken with
  | spawned => exact identified
  | outbound sent =>
    rw [sent]
    exact identified.of_maps ((processOutboundPublish_maps ..).mono fun _ _ routed => routed.keepsAll.toKeeps)
  | connected _ _ connected =>
    cases connected with
    | accepted admission present => exact (identified.admission admission).put present rfl
    | refused admission => exact identified.admission admission
  | removed => exact identified.remove _
  | ordinary _ _ ordinary => exact identified.of_maps ordinary.keeps

end

structure ClientsUnique (registry : SessionRegistry maxSessions maxSubs maxInflight) : Prop
    extends Identified registry where
  lookup : ∀ clientId slot, registry.findByClientId clientId = some slot ↔
    ∃ session, registry.get slot = some session ∧ session.clientId.items = clientId
  room : ∀ clientId, registry.findByClientId clientId ≠ none → (displace registry clientId).2.isFull = false

theorem clients_unique (env : Env) {labels : List Label} {events : List Event}
    {system : System maxSessions maxSubs maxInflight maxRetained}
    (run : Run (System.step env) Anything .new labels events system) : ClientsUnique system.broker.registry := by
  have identified : Identified system.broker.registry :=
    run.invariant (P := fun _ system => Identified system.broker.registry) identified_new
      fun _ _ _ _ _ identified _ taken => identified.step taken
  refine ⟨identified, ?_, ?_⟩
  · intro clientId slot
    constructor
    · exact SessionRegistry.findByClientId_eq_some
    · rintro ⟨session, present, rfl⟩
      exact identified.findByClientId present
  · intro clientId known
    by_contra full
    exact known (displace_full (by simpa using full))

-- Two clients, and the first one again while its loop still runs.
theorem clients_unique_after_takeover :
    ∃ (system : System 2 1 1 1) (events : List Event),
      Run (System.step gatomqttEnv) Anything .new
        [.spawn, .spawn, .spawn, .connect 0 (houseConnect [97] true none),
          .connect 1 (houseConnect [98] false none), .connect 2 (houseConnect [97] true none)] events system ∧
      system.broker.registry.isFull = true ∧ ClientsUnique system.broker.registry := by
  obtain ⟨system, events, run, full⟩ : ∃ (system : System 2 1 1 1) (events : List Event),
      Run (System.step gatomqttEnv) Anything .new
        [.spawn, .spawn, .spawn, .connect 0 (houseConnect [97] true none),
          .connect 1 (houseConnect [98] false none), .connect 2 (houseConnect [97] true none)] events system ∧
      system.broker.registry.isFull = true :=
    Execution.exists_run (by decide +kernel)
  exact ⟨system, events, run, full, clients_unique gatomqttEnv run⟩

end PicoBroker
