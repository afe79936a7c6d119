import PicoBroker.Broker.Steps

set_option autoImplicit false

namespace PicoBroker

open Execution (Run Anything)

variable {maxSessions maxSubs maxInflight maxRetained : Nat} {env : Env}

def noteId (slot : SessionId) (ids : List Nat) : Event → List Nat
  | .created created => if created = slot then [] else ids
  | .untracked receiver packetId => if receiver = slot then ids ++ [packetId] else ids
  | .acknowledged sender packetId => if sender = slot then ids.filter (· ≠ packetId) else ids
  | _ => ids

def outstanding (slot : SessionId) (events : List Event) : List Nat := events.foldl (noteId slot) []

section

variable {slot : SessionId} {ids : List Nat} {packetId : Nat}

theorem mem_noteId {event : Event} (member : packetId ∈ noteId slot ids event) :
    packetId ∈ ids ∨ event = .untracked slot packetId := by
  cases event with
  | created created =>
    simp only [noteId] at member
    split at member
    · cases member
    · exact .inl member
  | untracked receiver id =>
    simp only [noteId] at member
    split at member
    · next same =>
      refine (List.mem_append.mp member).imp_right fun new => ?_
      rw [same, List.mem_singleton.mp new]
    · exact .inl member
  | acknowledged sender id =>
    simp only [noteId] at member
    split at member
    · exact .inl (List.mem_of_mem_filter member)
    · exact .inl member
  | _ => exact .inl member

theorem mem_foldl_noteId {new : List Event} (member : packetId ∈ new.foldl (noteId slot) ids) :
    packetId ∈ ids ∨ .untracked slot packetId ∈ new := by
  induction new generalizing ids with
  | nil => exact .inl member
  | cons event rest ih =>
    rcases ih member with noted | later
    · rcases mem_noteId noted with old | rfl
      · exact .inl old
      · exact .inr List.mem_cons_self
    · exact .inr (List.mem_cons_of_mem _ later)

theorem mem_outstanding_append {events new : List Event}
    (member : packetId ∈ outstanding slot (events ++ new)) :
    packetId ∈ outstanding slot events ∨ .untracked slot packetId ∈ new := by
  rw [outstanding, List.foldl_append] at member
  exact mem_foldl_noteId member

theorem mem_outstanding_created {events new : List Event} (created : .created slot ∈ new)
    (member : packetId ∈ outstanding slot (events ++ new)) : .untracked slot packetId ∈ new := by
  obtain ⟨before, after, rfl⟩ := List.append_of_mem created
  rw [outstanding, ← List.append_assoc, List.foldl_append, List.foldl_cons] at member
  rcases mem_foldl_noteId member with none | later
  · simp [noteId] at none
  · exact List.mem_append_right _ (List.mem_cons_of_mem _ later)

end

def SessionState.inflightIds (session : SessionState maxSubs maxInflight) : List Nat :=
  session.inflight.items.map InflightEntry.packetId

theorem SessionState.inflightIds_eq_tags (session : SessionState maxSubs maxInflight) :
    session.inflightIds = session.tags.map Prod.fst := by
  simp [inflightIds, tags]

structure Apart (session : SessionState maxSubs maxInflight) (ids : List Nat) : Prop where
  counted : ∀ packetId ∈ session.inflightIds, packetId ≤ session.packetIdCounter
  spent : ∀ packetId ∈ ids, packetId ≤ session.packetIdCounter
  apart : ∀ packetId ∈ ids, packetId ∉ session.inflightIds

def Distinct (events : List Event) (registry : SessionRegistry maxSessions maxSubs maxInflight) : Prop :=
  ∀ slot session, registry.get slot = some session → Apart session (outstanding slot events)

def Spent (registry : SessionRegistry maxSessions maxSubs maxInflight) (slot : SessionId) (packetId : Nat) :
    Prop :=
  ∀ session ∈ registry.get slot, packetId ≤ session.packetIdCounter ∧
    ∀ inFlight ∈ session.inflightIds, packetId < inFlight

instance (registry : SessionRegistry maxSessions maxSubs maxInflight) (slot : SessionId) (packetId : Nat) :
    Decidable (Spent registry slot packetId) :=
  inferInstanceAs (Decidable (∀ session ∈ registry.get slot, _))

def Unwrapped (registry : SessionRegistry maxSessions maxSubs maxInflight) : Prop :=
  ∀ slot < maxSessions, ∀ session ∈ registry.get slot, session.packetIdCounter < 65535

instance (registry : SessionRegistry maxSessions maxSubs maxInflight) : Decidable (Unwrapped registry) :=
  inferInstanceAs (Decidable (∀ slot < maxSessions, _))

def Phase.untrackedPuts : Phase → List (SessionId × Nat)
  | .write slot (.publish publish) _ => publish.qospid.pid.toList.map fun pid => (slot, pid.value)
  | .deliverLwt _ _ deliveries =>
      (deliveries.filter fun delivery => delivery.2 ≠ .atMostOnce).map fun delivery =>
        (delivery.1, Pid.new.value)
  | _ => []

def Label.routes : Label → Bool
  | .outbound _ _ => true
  | .conn _ (.packet (.publish _) _ _ _) => true
  | _ => false

def Label.conn? : Label → Option Nat
  | .conn id _ => some id
  | _ => none

def IdsSpent (system : System maxSessions maxSubs maxInflight maxRetained) (label : Label) : Prop :=
  (label.routes = true → Unwrapped system.broker.registry) ∧
    ∀ id ∈ label.conn?, ∀ conn ∈ system.conns[id]?, ∀ put ∈ conn.phase.untrackedPuts,
      Spent system.broker.registry put.1 put.2

instance (system : System maxSessions maxSubs maxInflight maxRetained) (label : Label) :
    Decidable (IdsSpent system label) :=
  inferInstanceAs (Decidable (_ ∧ _))

section

variable {before after : SessionRegistry maxSessions maxSubs maxInflight} {events new : List Event}

def KeepsIds (old new : SessionState maxSubs maxInflight) : Prop :=
  new.packetIdCounter = old.packetIdCounter ∧ ∀ packetId ∈ new.inflightIds, packetId ∈ old.inflightIds

theorem KeepsIds.refl (session : SessionState maxSubs maxInflight) : KeepsIds session session :=
  ⟨rfl, fun _ member => member⟩

theorem KeepsIds.of_tags {old new : SessionState maxSubs maxInflight}
    (counter : new.packetIdCounter = old.packetIdCounter) (tags : new.tags = old.tags) : KeepsIds old new := by
  refine ⟨counter, fun packetId member => ?_⟩
  rwa [SessionState.inflightIds_eq_tags, ← tags, ← SessionState.inflightIds_eq_tags]

-- A step that numbers nothing itself, and reuses only ids that are spent.
theorem Distinct.keep (distinct : Distinct events before) (maps : Maps KeepsIds before after)
    (spent : ∀ slot packetId, .untracked slot packetId ∈ new → Spent before slot packetId) :
    Distinct (events ++ new) after := by
  intro slot session present
  obtain ⟨old, found, counter, ids⟩ := maps.of_present present
  have apart := distinct slot old found
  refine ⟨fun packetId member => ?_, fun packetId member => ?_, fun packetId member inFlight => ?_⟩
  · rw [counter]
    exact apart.counted packetId (ids packetId member)
  · rw [counter]
    rcases mem_outstanding_append member with earlier | now
    · exact apart.spent packetId earlier
    · exact (spent slot packetId now old found).1
  · rcases mem_outstanding_append member with earlier | now
    · exact apart.apart packetId earlier (ids packetId inFlight)
    · exact Nat.lt_irrefl _ ((spent slot packetId now old found).2 packetId (ids packetId inFlight))

inductive Numbering (old new : SessionState maxSubs maxInflight) : Prop
  | same (counter : new.packetIdCounter = old.packetIdCounter) (inflight : new.inflight = old.inflight)
  | next (counter : new.packetIdCounter = SessionState.succPacketId old.packetIdCounter)
      (inflight : new.inflight = old.inflight)
  | tracked (counter : new.packetIdCounter = SessionState.succPacketId old.packetIdCounter)
      (ids : new.inflightIds = old.inflightIds ++ [new.packetIdCounter])

theorem Received.numbering {codec : Codec} {message : Message} {now : Instant} {maxOutboxDrops : Nat}
    {old new : SessionState maxSubs maxInflight} {qos : QoS}
    (received : Received codec message now maxOutboxDrops old qos new) : Numbering old new := by
  have plain {new : SessionState maxSubs maxInflight}
      (counter : new.packetIdCounter = (numbered old qos).packetIdCounter)
      (inflight : new.inflight = old.inflight) : Numbering old new := by
    rw [numbered_packetIdCounter] at counter
    split at counter
    · exact .same counter inflight
    · exact .next counter inflight
  cases received with
  | failed => exact plain rfl (by simp)
  | dropped => exact plain rfl (by simp [droppedSession])
  | queued => exact plain rfl (by simp [queuedSession])
  | tracked qos1 _ _ added =>
    subst qos1
    have counter : (numbered old .atLeastOnce).packetIdCounter =
        SessionState.succPacketId old.packetIdCounter := by
      simp [numbered_packetIdCounter]
    refine .tracked counter ?_
    have assigned : assignedId old .atLeastOnce = SessionState.succPacketId old.packetIdCounter :=
      assignedId_of_ne (by simp)
    simp [SessionState.inflightIds, (Bounded.push_eq_some.mp added).2, assigned, queuedSession, counter]

theorem Routed.numbering {codec : Codec} {old new : SessionState maxSubs maxInflight}
    (routed : Routed codec old new) : Numbering old new := by
  obtain ⟨rate, lastActivity, rfl | ⟨_, _, _, _, received⟩⟩ := routed
  · exact .same rfl rfl
  · cases received.numbering with
    | same counter inflight => exact .same counter inflight
    | next counter inflight => exact .next counter inflight
    | tracked counter ids => exact .tracked counter ids

section

variable {old session : SessionState maxSubs maxInflight} {ids after : List Nat}

theorem Apart.of_keeps (apart : Apart old ids) (keeps : KeepsIds old session) (subset : ∀ packetId ∈ after, packetId ∈ ids) :
    Apart session after where
  counted packetId member := by
    rw [keeps.1]
    exact apart.counted packetId (keeps.2 packetId member)
  spent packetId member := by
    rw [keeps.1]
    exact apart.spent packetId (subset packetId member)
  apart packetId member inFlight := apart.apart packetId (subset packetId member) (keeps.2 packetId inFlight)

theorem Apart.of_next (apart : Apart old ids) (counter : session.packetIdCounter = old.packetIdCounter + 1)
    (same : session.inflightIds = old.inflightIds)
    (noted : ∀ packetId ∈ after, packetId ∈ ids ∨ packetId = session.packetIdCounter) : Apart session after where
  counted packetId member := by
    have := apart.counted packetId (same ▸ member)
    omega
  spent packetId member := by
    rcases noted packetId member with earlier | rfl
    · have := apart.spent packetId earlier
      omega
    · exact Nat.le_refl _
  apart packetId member inFlight := by
    rw [same] at inFlight
    rcases noted packetId member with earlier | rfl
    · exact apart.apart packetId earlier inFlight
    · have := apart.counted _ inFlight
      omega

theorem Apart.of_tracked (apart : Apart old ids) (counter : session.packetIdCounter = old.packetIdCounter + 1)
    (tracked : session.inflightIds = old.inflightIds ++ [session.packetIdCounter])
    (subset : ∀ packetId ∈ after, packetId ∈ ids) : Apart session after where
  counted packetId member := by
    rw [tracked] at member
    rcases List.mem_append.mp member with earlier | last
    · have := apart.counted packetId earlier
      omega
    · rw [List.mem_singleton.mp last]
  spent packetId member := by
    have := apart.spent packetId (subset packetId member)
    omega
  apart packetId member inFlight := by
    rw [tracked] at inFlight
    have below := apart.spent packetId (subset packetId member)
    rcases List.mem_append.mp inFlight with earlier | last
    · exact apart.apart packetId (subset packetId member) earlier
    · have := List.mem_singleton.mp last
      omega

end

theorem Distinct.route {codec : Codec} (distinct : Distinct events before)
    (maps : Maps (Routed codec) before after) (unwrapped : Unwrapped before)
    (untracked : ∀ slot packetId, .untracked slot packetId ∈ new →
      .untracked slot packetId ∈ untrackedAt before after slot) :
    Distinct (events ++ new) after := by
  intro slot session present
  obtain ⟨old, found, routed⟩ := maps.of_present present
  have apart := distinct slot old found
  have below := unwrapped slot (Slots.lt_of_get found) old found
  have noted (packetId : Nat) (member : packetId ∈ outstanding slot (events ++ new)) :
      packetId ∈ outstanding slot events ∨ packetId = session.packetIdCounter ∧
        session.packetIdCounter ≠ old.packetIdCounter ∧ session.inflight = old.inflight := by
    refine (mem_outstanding_append member).imp_right fun now => ?_
    obtain ⟨_, _, oldAt, newAt, _, counter, inflight, same⟩ := mem_untrackedAt (untracked slot packetId now)
    rw [found] at oldAt
    cases oldAt
    rw [present] at newAt
    cases newAt
    cases same
    exact ⟨rfl, counter, inflight⟩
  have idsOf (inflight : session.inflight = old.inflight) : session.inflightIds = old.inflightIds := by
    simp [SessionState.inflightIds, inflight]
  cases routed.numbering with
  | same counter inflight =>
    refine apart.of_keeps ⟨counter, fun _ member => idsOf inflight ▸ member⟩ fun packetId member => ?_
    exact (noted packetId member).resolve_right fun ⟨_, changed, _⟩ => changed counter
  | next counter inflight =>
    rw [SessionState.succPacketId_of_lt below] at counter
    exact apart.of_next counter (idsOf inflight) fun packetId member => (noted packetId member).imp_right And.left
  | tracked counter ids =>
    rw [SessionState.succPacketId_of_lt below] at counter
    refine apart.of_tracked counter ids fun packetId member => (noted packetId member).resolve_right ?_
    rintro ⟨_, _, inflight⟩
    rw [idsOf inflight] at ids
    simp at ids

theorem Apart.of_fresh {session : SessionState maxSubs maxInflight} {ids : List Nat}
    (fresh : session.inflightIds = []) (none : ∀ packetId, packetId ∉ ids) : Apart session ids where
  counted packetId member := by simp [fresh] at member
  spent packetId member := absurd member (none packetId)
  apart packetId member := absurd member (none packetId)

theorem Distinct.connected {broker : Broker maxSessions maxSubs maxInflight maxRetained} {id : Nat}
    {connect : Connect} {now : Instant} {result : Result maxSessions maxSubs maxInflight maxRetained}
    (distinct : Distinct events broker.registry) (connected : Connected env broker id connect now result) :
    Distinct (events ++ result.events) result.broker.registry := by
  have untracked (slot : SessionId) (packetId : Nat) : .untracked slot packetId ∉ result.events :=
    fun member => connected.bookkeeping member
  intro slot session kept
  have earlier (packetId : Nat) (member : packetId ∈ outstanding slot (events ++ result.events)) :
      packetId ∈ outstanding slot events :=
    (mem_outstanding_append member).resolve_right (untracked slot packetId)
  cases connected.seated kept with
  | untouched same => exact (distinct slot session same).of_keeps (.refl session) earlier
  | resumed _ _ found same =>
    subst same
    exact (distinct slot _ found).of_keeps ⟨rfl, fun _ member => member⟩ earlier
  | created _ _ _ _ same created =>
    subst same
    exact .of_fresh rfl fun packetId member => untracked slot packetId (mem_outstanding_created created member)

theorem Distinct.remove (distinct : Distinct events before) (slot : SessionId) :
    Distinct events (before.remove slot).2 := by
  intro other session present
  rw [SessionRegistry.get_remove] at present
  split at present
  · cases present
  · exact distinct other session present

end

theorem untracked_of_routedEvents {before after : SessionRegistry maxSessions maxSubs maxInflight}
    {slot : SessionId} {packetId : Nat} (member : .untracked slot packetId ∈ routedEvents before after) :
    .untracked slot packetId ∈ untrackedAt before after slot := by
  obtain ⟨receiver, _, here⟩ := List.mem_flatMap.mp member
  rcases List.mem_append.mp here with queued | untracked
  · obtain ⟨_, _, _, _, _, _, same⟩ := mem_queuedAt queued
    cases same
  · obtain ⟨_, _, _, _, _, _, _, same⟩ := mem_untrackedAt untracked
    cases same
    exact untracked

theorem untracked_of_willEvents {before after : SessionRegistry maxSessions maxSubs maxInflight}
    {deliveries : List (SessionId × QoS)} {slot : SessionId} {packetId : Nat} {origin : SessionId}
    {lwt : LwtMessage} (member : .untracked slot packetId ∈ willEvents before after deliveries) :
    (slot, packetId) ∈ (Phase.deliverLwt origin lwt deliveries).untrackedPuts := by
  obtain ⟨receiver, _, here⟩ := List.mem_flatMap.mp member
  have notQueued : .untracked slot packetId ∉ queuedAt before after receiver := by
    intro queued
    obtain ⟨_, _, _, _, _, _, same⟩ := mem_queuedAt queued
    cases same
  split at here
  · cases here
  · split at here
    · next numbered =>
      obtain ⟨delivery, listed, isReceiver⟩ := List.any_eq_true.mp numbered
      obtain ⟨rfl, qos⟩ := of_decide_eq_true isReceiver
      cases List.mem_singleton.mp ((List.mem_append.mp here).resolve_left notQueued)
      exact List.mem_map.mpr ⟨delivery, List.mem_filter.mpr ⟨listed, by simpa using qos⟩, rfl⟩
    · exact absurd here notQueued

theorem untracked_of_writeEvents {id : Nat} {slot receiver : SessionId} {packet : Packet}
    {rest : List Packet} {packetId : Nat} (member : .untracked receiver packetId ∈ writeEvents id slot packet) :
    (receiver, packetId) ∈ (Phase.write slot packet rest).untrackedPuts := by
  cases packet with
  | publish publish =>
    have untracked := (List.mem_cons.mp member).resolve_left (by simp)
    obtain ⟨pid, found, same⟩ := List.mem_map.mp untracked
    cases same
    exact List.mem_map.mpr ⟨pid, found, rfl⟩
  | _ => simp [writeEvents] at member

theorem Distinct.turn {events : List Event}
    {broker : Broker maxSessions maxSubs maxInflight maxRetained} {id : Nat} {conn : Conn}
    {input : Input} {result : Result maxSessions maxSubs maxInflight maxRetained}
    (distinct : Distinct events broker.registry) (turn : Turn env broker id conn input result)
    (unwrapped : (Label.conn id input).routes = true → Unwrapped broker.registry)
    (spent : ∀ put ∈ conn.phase.untrackedPuts, Spent broker.registry put.1 put.2) :
    Distinct (events ++ result.events) result.broker.registry := by
  have same : Maps KeepsIds broker.registry broker.registry := .of_eq KeepsIds.refl fun _ => rfl
  have wrote {written : List Event} (quiet : ∀ event ∈ written, ∃ packet, event = .wrote id packet)
      (slot : SessionId) (packetId : Nat) (member : .untracked slot packetId ∈ written) :
      Spent broker.registry slot packetId := by
    obtain ⟨packet, same⟩ := quiet _ member
    cases same
  cases turn with
  | connect _ => exact distinct.connected (connectStep_connected ..)
  | abandoned _ quiet => exact distinct.keep same (wrote quiet)
  | unanswered _ _ quiet => exact distinct.keep same (wrote quiet)
  | moved _ _ quiet => exact distinct.keep same (wrote quiet)
  | flushed => exact distinct.keep same (by simp)
  | wrote waiting _ =>
    refine distinct.keep same fun slot packetId member => spent (slot, packetId) ?_
    rw [waiting]
    exact untracked_of_writeEvents member
  | popped _ present _ =>
    exact distinct.keep (.put KeepsIds.refl present ⟨rfl, fun _ member => member⟩) (by simp)
  | drained _ present =>
    exact distinct.keep (.put KeepsIds.refl present ⟨rfl, fun _ member => member⟩) (by simp)
  | handled _ present _ _ =>
    exact distinct.keep (.put KeepsIds.refl present ⟨rfl, fun _ member => member⟩) (by simp)
  | served _ retries _ =>
    refine distinct.keep (retries.retried.maps.mono ?_) (by simp)
    rintro old new ⟨inflight, rfl, tags⟩
    exact .of_tags rfl tags
  | published _ present handled _ =>
    refine distinct.route (published_maps present handled) (unwrapped rfl) fun slot packetId member => ?_
    rcases List.mem_append.mp member with routed | given
    · exact untracked_of_routedEvents routed
    · obtain ⟨_, _, impossible⟩ := List.mem_map.mp given
      cases impossible
  | acknowledged _ present =>
    refine distinct.keep ((acknowledged_maps present _ _).mono ?_) (by simp)
    rintro old new ⟨_, _, rfl, fewer⟩
    exact ⟨rfl, fun _ member => (fewer.map _).subset member⟩
  | announced _ _ _ shown =>
    refine distinct.keep same fun slot packetId member => ?_
    obtain ⟨_, impossible⟩ := shown _ member
    cases impossible
  | @delivered slot lwt deliveries state waiting sent =>
    have extended := deliverLwts_maps env.codec lwt (broker.registry, broker.signals) deliveries
    rw [← sent] at extended
    refine distinct.keep (extended.mono ?_) fun receiver packetId member => spent (receiver, packetId) ?_
    · rintro old new ⟨outbox, rfl, _⟩
      exact ⟨rfl, fun _ member => member⟩
    · rw [waiting]
      exact untracked_of_willEvents member
  | removed _ => simpa [removeStep] using distinct.remove _

theorem Distinct.step {events new : List Event}
    {system next : System maxSessions maxSubs maxInflight maxRetained} {label : Label}
    (distinct : Distinct events system.broker.registry) (idsSpent : IdsSpent system label)
    (taken : System.step env system label = some (next, new)) :
    Distinct (events ++ new) next.broker.registry := by
  cases step_transition taken with
  | spawned => simpa using distinct
  | outbound sent =>
    rw [sent]
    exact distinct.route (processOutboundPublish_maps ..) (idsSpent.1 rfl)
      fun _ _ member => untracked_of_routedEvents member
  | connected _ _ connected => exact distinct.connected connected
  | removed _ _ => simpa [removeStep] using distinct.remove _
  | ordinary found turn _ => exact distinct.turn turn idsSpent.1 (idsSpent.2 _ rfl _ found)

theorem run_distinct {labels : List Label} {events : List Event}
    {system : System maxSessions maxSubs maxInflight maxRetained}
    (run : Run (System.step env) IdsSpent .new labels events system) :
    Distinct events system.broker.registry :=
  run.invariant (P := fun events system => Distinct events system.broker.registry)
    (fun _ _ present => by simp [System.new, Broker.new] at present)
    fun _ _ _ _ _ distinct idsSpent taken => distinct.step idsSpent taken

theorem acknowledge_of_absent {registry : SessionRegistry maxSessions maxSubs maxInflight} {slot : SessionId}
    {session : SessionState maxSubs maxInflight} {packetId : Nat}
    (present : registry.get slot = some session) (absent : packetId ∉ session.inflightIds) :
    acknowledge registry slot packetId = registry := by
  have nothing : session.inflightRemove packetId = none := by
    rw [SessionState.inflightRemove_eq_none]
    intro entry member same
    exact absent (List.mem_map.mpr ⟨entry, member, same⟩)
  simp [acknowledge, present, handlePuback, nothing]

theorem untracked_never_in_flight {labels : List Label} {events : List Event}
    {system : System maxSessions maxSubs maxInflight maxRetained}
    (run : Run (System.step env) IdsSpent .new labels events system) {slot : SessionId}
    {session : SessionState maxSubs maxInflight} (present : system.broker.registry.get slot = some session)
    {packetId : Nat} (untracked : packetId ∈ outstanding slot events) :
    packetId ∉ session.inflightIds ∧
      acknowledge system.broker.registry slot packetId = system.broker.registry := by
  have apart := (run_distinct run slot session present).apart packetId untracked
  exact ⟨apart, acknowledge_of_absent present apart⟩

def bulletin (topic : Text 128) (qos : QoS) (retain : Bool) : MqttPublish :=
  ⟨topic, .truncate [120], qos, retain⟩

-- The first bulletin is tracked with id 1; the second, at QoS 2, is not, and has id 2.
def mixedBulletins : List Label :=
  .spawn :: Label.admit 0 [97] ++ Label.subscribe 0 (.truncate [116]) .exactlyOnce ++
    [.outbound (bulletin (.truncate [116]) .atLeastOnce false) 0,
      .outbound (bulletin (.truncate [116]) .exactlyOnce false) 0]

theorem untracked_never_in_flight_in_bulletins :
    ∃ (system : System 1 1 1 1) (events : List Event) (session : SessionState 1 1),
      Run (System.step gatomqttEnv) IdsSpent .new mixedBulletins events system ∧
      system.broker.registry.get 0 = some session ∧ 2 ∈ outstanding 0 events ∧ session.inflightIds = [1] ∧
      2 ∉ session.inflightIds ∧ acknowledge system.broker.registry 0 2 = system.broker.registry := by
  obtain ⟨system, events, run, tested⟩ : ∃ (system : System 1 1 1 1) (events : List Event),
      Run (System.step gatomqttEnv) IdsSpent .new mixedBulletins events system ∧
      decide (2 ∈ outstanding 0 events ∧
        (system.broker.registry.get 0).map SessionState.inflightIds = some [1]) = true :=
    Execution.exists_run (by decide +kernel)
  obtain ⟨untracked, tracked⟩ := of_decide_eq_true tested
  obtain ⟨session, present, ids⟩ := Option.map_eq_some_iff.mp tracked
  exact ⟨system, events, session, run, present, untracked, ids, untracked_never_in_flight run present untracked⟩

-- With a bulletin in flight under id 1, the client subscribes to the topic of a retained one.
def replayOverInFlight : List Label :=
  .spawn :: Label.admit 0 [97] ++ Label.subscribe 0 (.truncate [116]) .atLeastOnce ++
    [.outbound (bulletin (.truncate [116]) .atLeastOnce false) 0,
      .outbound (bulletin (.truncate [114]) .atLeastOnce true) 0, .conn 0 .lock, .conn 0 (.write true),
      .conn 0 .lock, .conn 0 (.service 0 0 [])] ++
    Label.subscribe 0 (.truncate [114]) .atLeastOnce ++ [.conn 0 (.write true)]

theorem replay_cancels_in_flight :
    ∃ (system : System 1 2 1 1) (events : List Event) (session : SessionState 2 1),
      Run (System.step gatomqttEnv) Anything .new replayOverInFlight events system ∧
      system.broker.registry.get 0 = some session ∧ 1 ∈ outstanding 0 events ∧ 1 ∈ session.inflightIds ∧
      acknowledge system.broker.registry 0 1 ≠ system.broker.registry := by
  obtain ⟨system, events, run, tested⟩ : ∃ (system : System 1 2 1 1) (events : List Event),
      Run (System.step gatomqttEnv) Anything .new replayOverInFlight events system ∧
      decide (1 ∈ outstanding 0 events ∧
        (system.broker.registry.get 0).map SessionState.inflightIds = some [1] ∧
        acknowledge system.broker.registry 0 1 ≠ system.broker.registry) = true :=
    Execution.exists_run (by decide +kernel)
  obtain ⟨untracked, tracked, removed⟩ := of_decide_eq_true tested
  obtain ⟨session, present, ids⟩ := Option.map_eq_some_iff.mp tracked
  exact ⟨system, events, session, run, present, untracked, by simp [ids], removed⟩

end PicoBroker
