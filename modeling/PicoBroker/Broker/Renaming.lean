import PicoBroker.Broker.Admission
import PicoBroker.Broker.Retries
import PicoBroker.Broker.Routing

set_option autoImplicit false

namespace PicoBroker

variable {maxSessions maxSubs maxInflight maxRetained : Nat}

def StoredPublishHandle.rename (relabel : Nat → Nat) (handle : StoredPublishHandle) : StoredPublishHandle :=
  { handle with generation := relabel handle.generation }

def InflightEntry.rename (relabel : Nat → Nat) (entry : InflightEntry) : InflightEntry :=
  { entry with publish := entry.publish.rename relabel }

def SessionState.rename (relabel : Nat → Nat) (session : SessionState maxSubs maxInflight) :
    SessionState maxSubs maxInflight :=
  { session with inflight := session.inflight.map (InflightEntry.rename relabel) }

def StoredPublish.rename (relabel : Nat → Nat) (stored : StoredPublish) : StoredPublish :=
  { stored with generation := relabel stored.generation }

def SessionRegistry.rename (relabel : Nat → Nat) (registry : SessionRegistry maxSessions maxSubs maxInflight) :
    SessionRegistry maxSessions maxSubs maxInflight :=
  ⟨registry.slots.map (SessionState.rename relabel), registry.publishedLwts,
    registry.storedPublishes.map (StoredPublish.rename relabel), relabel registry.nextPublishGeneration⟩

section

variable (relabel : Nat → Nat) (registry : SessionRegistry maxSessions maxSubs maxInflight)

theorem get_rename (id : SessionId) :
    (registry.rename relabel).get id = (registry.get id).map (SessionState.rename relabel) :=
  Slots.get_map ..

theorem put_rename (id : SessionId) (session : SessionState maxSubs maxInflight) :
    (registry.rename relabel).put id (session.rename relabel) = (registry.put id session).rename relabel := by
  simp only [SessionRegistry.put, SessionRegistry.rename, ← Slots.set_map, Option.map_some]

theorem findByClientId_rename (clientId : Bytes) :
    (registry.rename relabel).findByClientId clientId = registry.findByClientId clientId :=
  Slots.find?_map ..

theorem isFull_rename : (registry.rename relabel).isFull = registry.isFull := by
  simp only [SessionRegistry.isFull, SessionRegistry.rename, Slots.count_map]

theorem collectSubscribers_rename (topic : Bytes)
    (skipped : SessionId → SessionState maxSubs maxInflight → Bool)
    (blind : ∀ id session, skipped id (session.rename relabel) = skipped id session) :
    collectSubscribers (registry.rename relabel) topic skipped = collectSubscribers registry topic skipped := by
  have entries : (registry.rename relabel).iter =
      registry.iter.map fun entry => (entry.1, entry.2.rename relabel) := Slots.occupied_map ..
  rw [collectSubscribers, collectSubscribers, entries, List.filterMap_map]
  congr 2
  funext ⟨id, session⟩
  simp only [Function.comp_apply, blind]
  rfl

theorem storedPublish_rename {handle : StoredPublishHandle} {stored : StoredPublish}
    (found : registry.storedPublish handle = some stored) :
    (registry.rename relabel).storedPublish (handle.rename relabel) = some (stored.rename relabel) := by
  obtain ⟨present, current⟩ := SessionRegistry.storedPublish_eq_some.mp found
  refine SessionRegistry.storedPublish_eq_some.mpr ⟨?_, ?_⟩
  · have mapped := Slots.get_map (StoredPublish.rename relabel) registry.storedPublishes handle.slot
    rw [present] at mapped
    exact mapped
  · exact congrArg relabel current

theorem putStored_rename (slot : Nat) (stored : Option StoredPublish) :
    (registry.rename relabel).putStored slot (stored.map (StoredPublish.rename relabel)) =
      (registry.putStored slot stored).rename relabel := by
  simp only [SessionRegistry.putStored, SessionRegistry.rename, ← Slots.set_map]

theorem releaseStoredPublish_rename {handle : StoredPublishHandle} {stored : StoredPublish}
    (found : registry.storedPublish handle = some stored) :
    (registry.rename relabel).releaseStoredPublish (handle.rename relabel) =
      (registry.releaseStoredPublish handle).rename relabel := by
  simp only [SessionRegistry.releaseStoredPublish, storedPublish_rename relabel registry found, found]
  by_cases last : stored.refcount - 1 = 0
  · have renamedLast : (stored.rename relabel).refcount - 1 = 0 := last
    simp only [last, renamedLast, if_true]
    exact putStored_rename relabel registry handle.slot none
  · have renamedLast : ¬ (stored.rename relabel).refcount - 1 = 0 := last
    simp only [last, renamedLast, if_false]
    exact putStored_rename relabel registry handle.slot (some { stored with refcount := stored.refcount - 1 })

theorem acquireStoredPublish_rename {handle : StoredPublishHandle} {stored : StoredPublish}
    (found : registry.storedPublish handle = some stored) :
    (registry.rename relabel).acquireStoredPublish (handle.rename relabel) =
      (registry.acquireStoredPublish handle).map (SessionRegistry.rename relabel) := by
  simp only [SessionRegistry.acquireStoredPublish, storedPublish_rename relabel registry found, found]
  by_cases room : stored.refcount + 1 < 65536
  · have renamedRoom : (stored.rename relabel).refcount + 1 < 65536 := room
    simp only [room, renamedRoom, if_true]
    exact congrArg Except.ok
      (putStored_rename relabel registry handle.slot (some { stored with refcount := stored.refcount + 1 }))
  · have renamedRoom : ¬ (stored.rename relabel).refcount + 1 < 65536 := room
    simp only [room, renamedRoom, if_false]
    rfl

end

def Offer.rename (relabel : Nat → Nat) : Offer maxSubs maxInflight → Offer maxSubs maxInflight
  | .failed session error => .failed (session.rename relabel) error
  | .dropped session => .dropped (session.rename relabel)
  | .queued session packetId => .queued (session.rename relabel) packetId

def Fanout.rename (relabel : Nat → Nat) (fanout : Fanout maxSessions maxSubs maxInflight) :
    Fanout maxSessions maxSubs maxInflight :=
  { fanout with
    registry := fanout.registry.rename relabel
    sharedPublish := fanout.sharedPublish.map (StoredPublishHandle.rename relabel) }

def Fanout.Resolves (fanout : Fanout maxSessions maxSubs maxInflight) : Prop :=
  ∀ handle, fanout.sharedPublish = some handle → ∃ stored, fanout.registry.storedPublish handle = some stored

theorem Acquisition.resolves {registry after : SessionRegistry maxSessions maxSubs maxInflight} {message : Message}
    {before shared : Option StoredPublishHandle} {handle : StoredPublishHandle}
    (acquisition : Acquisition registry message before after shared (some handle)) :
    shared = some handle ∧ ∃ stored, after.storedPublish handle = some stored := by
  cases acquisition with
  | stored free =>
    obtain ⟨inside, _⟩ := Slots.firstFree_eq_some.mp free
    exact ⟨rfl, _, SessionRegistry.storedPublish_eq_some.mpr ⟨Slots.get_set_self _ _ inside, rfl⟩⟩
  | acquired found =>
    obtain ⟨present, current⟩ := SessionRegistry.storedPublish_eq_some.mp found
    exact ⟨rfl, _, SessionRegistry.storedPublish_eq_some.mpr
      ⟨Slots.get_set_self _ _ (Slots.lt_of_get present), current⟩⟩

theorem Delivery.resolves {codec : Codec} {message : Message} {now : Instant} {maxOutboxDrops : Nat}
    {before after : Fanout maxSessions maxSubs maxInflight} {id : SessionId} {qos : QoS}
    {error : Option PublishError} (resolves : before.Resolves)
    (delivery : Delivery codec message now maxOutboxDrops before id qos after error) : after.Resolves := by
  cases delivery with
  | absent | failed | dropped | queued => exact resolves
  | tracked _ _ _ _ acquired =>
    obtain ⟨rfl, stored⟩ := acquired.resolves
    rintro handle ⟨⟩
    exact stored

section

variable {relabel : Nat → Nat} (counted : ∀ generation,
  relabel (SessionRegistry.succGeneration generation) = SessionRegistry.succGeneration (relabel generation))
  {registry : SessionRegistry maxSessions maxSubs maxInflight}

include counted in
theorem storePublishRef_rename (topic payload : Bytes) (retain : Bool) :
    (registry.rename relabel).storePublishRef topic payload retain =
      ((registry.storePublishRef topic payload retain).1.rename relabel,
        (registry.storePublishRef topic payload retain).2.map (StoredPublishHandle.rename relabel)) := by
  have free : (registry.rename relabel).storedPublishes.firstFree = registry.storedPublishes.firstFree :=
    Slots.firstFree_map ..
  have consumed : ({ registry.rename relabel with
        nextPublishGeneration := SessionRegistry.succGeneration (registry.rename relabel).nextPublishGeneration } :
      SessionRegistry maxSessions maxSubs maxInflight) =
      { registry with
        nextPublishGeneration := SessionRegistry.succGeneration registry.nextPublishGeneration }.rename relabel := by
    simp only [SessionRegistry.rename, counted]
  simp only [SessionRegistry.storePublishRef, free]
  cases registry.storedPublishes.firstFree with
  | none => rfl
  | some slot =>
    dsimp only
    rw [consumed]
    cases (Bounded.ofList? topic : Option (Text 128)) with
    | none => rfl
    | some topic =>
      dsimp only
      cases (Bounded.ofList? payload : Option (Text 512)) with
      | none => rfl
      | some payload =>
        dsimp only
        rw [← putStored_rename]
        rfl

include counted in
theorem acquireSharedPublish_rename {shared : Option StoredPublishHandle}
    (resolves : ∀ handle, shared = some handle → ∃ stored, registry.storedPublish handle = some stored)
    (message : Message) :
    acquireSharedPublish (registry.rename relabel) (shared.map (StoredPublishHandle.rename relabel)) message =
      ((acquireSharedPublish registry shared message).1.rename relabel,
        (acquireSharedPublish registry shared message).2.1.map (StoredPublishHandle.rename relabel),
        (acquireSharedPublish registry shared message).2.2.map (StoredPublishHandle.rename relabel)) := by
  cases shared with
  | some handle =>
    obtain ⟨stored, found⟩ := resolves handle rfl
    simp only [acquireSharedPublish, Option.map_some, acquireStoredPublish_rename relabel registry found]
    cases registry.acquireStoredPublish handle <;> rfl
  | none =>
    simp only [acquireSharedPublish, Option.map_none, storePublishRef_rename counted]
    rcases registry.storePublishRef message.topic message.payload message.retain with ⟨stored, _ | handle⟩ <;> rfl

theorem offer_rename (codec : Codec) (message : Message) (qos : QoS) (maxOutboxDrops : Nat)
    (session : SessionState maxSubs maxInflight) :
    offer codec message qos maxOutboxDrops (session.rename relabel) =
      (offer codec message qos maxOutboxDrops session).rename relabel := by
  have numbered : packetIdFor (session.rename relabel) qos =
      ((packetIdFor session qos).1, (packetIdFor session qos).2.rename relabel) := by
    unfold packetIdFor
    split <;> rfl
  simp only [offer, numbered]
  cases encodePublish codec message.topic message.payload qos message.retain (packetIdFor session qos).1 with
  | error error => rfl
  | ok bytes =>
    have sameOutbox : ((packetIdFor session qos).2.rename relabel).outbox = (packetIdFor session qos).2.outbox := rfl
    dsimp only
    rw [sameOutbox]
    cases (packetIdFor session qos).2.outbox.push ⟨bytes⟩ <;> rfl

variable (relabel) in
theorem inflightAdd_rename (session : SessionState maxSubs maxInflight) (entry : InflightEntry) :
    (session.rename relabel).inflightAdd (entry.rename relabel) =
      (session.inflightAdd entry).map (SessionState.rename relabel) := by
  simp only [SessionState.inflightAdd, SessionState.rename, Bounded.push_map]
  cases session.inflight.push entry <;> rfl

include counted in
theorem track_rename {fanout : Fanout maxSessions maxSubs maxInflight} (resolves : fanout.Resolves)
    (message : Message) (now : Instant) (id : SessionId) (packetId : Nat) :
    track message now (fanout.rename relabel) id packetId = (track message now fanout id packetId).rename relabel := by
  cases present : fanout.registry.get id with
  | none =>
    have renamed : (fanout.rename relabel).registry.get id = none := by
      rw [Fanout.rename, get_rename, present]
      rfl
    simp only [track, present, renamed]
  | some session =>
    have renamed : (fanout.rename relabel).registry.get id = some (session.rename relabel) := by
      rw [Fanout.rename, get_rename, present]
      rfl
    have sameLength : (session.rename relabel).inflight.items.length = session.inflight.items.length := by
      simp [SessionState.rename]
    simp only [track, present, renamed, sameLength]
    split
    · have acquired := acquireSharedPublish_rename counted resolves message
      have spec := acquireSharedPublish_spec fanout.registry fanout.sharedPublish message
      simp only [Fanout.rename, acquired]
      generalize acquireSharedPublish fanout.registry fanout.sharedPublish message = result at spec ⊢
      rcases result with ⟨after, shared, _ | handle⟩
      · rfl
      · obtain ⟨stored, held⟩ := spec.resolves.2
        have found : after.get id = some session := by rw [spec.same.get, present]
        have renamedFound : (after.rename relabel).get id = some (session.rename relabel) := by
          rw [get_rename, found]
          rfl
        have added := inflightAdd_rename relabel session ⟨packetId, handle, .atLeastOnce, now, 0⟩
        simp only [Option.map_some, found, renamedFound, Option.bind_some]
        rw [InflightEntry.rename] at added
        rw [added]
        cases session.inflightAdd ⟨packetId, handle, .atLeastOnce, now, 0⟩ with
        | none => simp only [Option.map_none, releaseStoredPublish_rename relabel after held]
        | some state => simp only [Option.map_some, put_rename]
    · rfl

include counted in
theorem deliver_rename (codec : Codec) (message : Message) (now : Instant) (maxOutboxDrops : Nat)
    {fanout : Fanout maxSessions maxSubs maxInflight} (resolves : fanout.Resolves) (subscriber : SessionId × QoS) :
    deliver codec message now maxOutboxDrops (fanout.rename relabel) subscriber =
      ((deliver codec message now maxOutboxDrops fanout subscriber).1.rename relabel,
        (deliver codec message now maxOutboxDrops fanout subscriber).2) := by
  have written (state : SessionState maxSubs maxInflight) :
      (fanout.rename relabel).registry.put subscriber.1 (state.rename relabel) =
        (fanout.registry.put subscriber.1 state).rename relabel := put_rename ..
  cases present : fanout.registry.get subscriber.1 with
  | none =>
    have renamed : (fanout.rename relabel).registry.get subscriber.1 = none := by
      rw [Fanout.rename, get_rename, present]
      rfl
    simp only [deliver, present, renamed]
  | some session =>
    have renamed : (fanout.rename relabel).registry.get subscriber.1 = some (session.rename relabel) := by
      rw [Fanout.rename, get_rename, present]
      rfl
    simp only [deliver, present, renamed, offer_rename]
    cases offer codec message (minQos message.qos subscriber.2) maxOutboxDrops session with
    | failed state error =>
      simp only [Offer.rename, written]
      rfl
    | dropped state =>
      simp only [Offer.rename, written]
      rfl
    | queued state packetId =>
      simp only [Offer.rename, written]
      split
      · have queuedResolves : Fanout.Resolves ({ fanout with
            registry := fanout.registry.put subscriber.1 state
            signals := signalSession fanout.signals subscriber.1
            offered := fanout.offered ++ [subscriber.1] }) := resolves
        rw [← track_rename counted queuedResolves]
        rfl
      · rfl

include counted in
theorem fanOut_rename (codec : Codec) (message : Message) (now : Instant) (maxOutboxDrops : Nat)
    {fanout : Fanout maxSessions maxSubs maxInflight} (resolves : fanout.Resolves)
    (subscribers : List (SessionId × QoS)) :
    fanOut codec message now maxOutboxDrops (fanout.rename relabel) subscribers =
      ((fanOut codec message now maxOutboxDrops fanout subscribers).1.rename relabel,
        (fanOut codec message now maxOutboxDrops fanout subscribers).2) := by
  induction subscribers generalizing fanout with
  | nil => rfl
  | cons subscriber rest ih =>
    have delivered := (deliver_spec codec message now maxOutboxDrops fanout subscriber).resolves resolves
    simp only [fanOut, deliver_rename counted codec message now maxOutboxDrops resolves]
    generalize deliver codec message now maxOutboxDrops fanout subscriber = result at delivered ⊢
    rcases result with ⟨next, _ | error⟩
    · exact ih delivered
    · rfl

def Broker.rename (relabel : Nat → Nat) (broker : Broker maxSessions maxSubs maxInflight maxRetained) :
    Broker maxSessions maxSubs maxInflight maxRetained :=
  { broker with registry := broker.registry.rename relabel }

def PublishOutcome.rename (relabel : Nat → Nat) (outcome : PublishOutcome maxSessions maxSubs maxInflight maxRetained) :
    PublishOutcome maxSessions maxSubs maxInflight maxRetained :=
  { outcome with broker := outcome.broker.rename relabel }

theorem findSubscribers_rename (topic : Bytes) (senderId : SessionId) :
    findSubscribers (registry.rename relabel) topic senderId = findSubscribers registry topic senderId :=
  collectSubscribers_rename relabel registry topic _ fun _ _ => rfl

theorem findAllSubscribers_rename (topic : Bytes) :
    findAllSubscribers (registry.rename relabel) topic = findAllSubscribers registry topic :=
  collectSubscribers_rename relabel registry topic _ fun _ _ => rfl

theorem resolves_start (registry : SessionRegistry maxSessions maxSubs maxInflight)
    (signals : SessionSignals maxSessions) :
    Fanout.Resolves (⟨registry, signals, none, []⟩ : Fanout maxSessions maxSubs maxInflight) := by
  rintro handle ⟨⟩

include counted in
theorem handlePublishAt_rename (codec : Codec) (accepts : MqttIntent → Bool) (senderId : SessionId)
    (broker : Broker maxSessions maxSubs maxInflight maxRetained) (packet : Publish) (now : Instant)
    (maxViolations maxOutboxDrops : Nat) :
    handlePublishAt codec accepts senderId (broker.rename relabel) packet now maxViolations maxOutboxDrops =
      (handlePublishAt codec accepts senderId broker packet now maxViolations maxOutboxDrops).rename relabel := by
  have found : (broker.rename relabel).registry.get senderId =
      (broker.registry.get senderId).map (SessionState.rename relabel) := get_rename ..
  simp only [handlePublishAt, found]
  cases broker.registry.get senderId with
  | none => rfl
  | some sender =>
    have charged : (broker.rename relabel).registry.put senderId
        { sender.rename relabel with rate := (sender.rate.tryConsume now).2 } =
        (broker.registry.put senderId { sender with rate := (sender.rate.tryConsume now).2 }).rename relabel :=
      put_rename relabel broker.registry senderId { sender with rate := (sender.rate.tryConsume now).2 }
    have sameRate : (sender.rename relabel).rate = sender.rate := rfl
    have sameRetained : (broker.rename relabel).retained = broker.retained := rfl
    have sameSignals : (broker.rename relabel).signals = broker.signals := rfl
    dsimp only [Option.map_some]
    rw [sameRate, charged]
    generalize broker.registry.put senderId { sender with rate := (sender.rate.tryConsume now).2 } = registry
    split
    · split
      · rfl
      · split <;> rfl
    · rw [sameRetained, sameSignals]
      cases retain broker.retained packet.message with
      | error error => rfl
      | ok retained =>
        have delivered := fanOut_rename counted codec packet.message now maxOutboxDrops
          (resolves_start registry broker.signals)
          (findSubscribers registry packet.message.topic senderId).items
        simp only [Fanout.rename, Option.map_none] at delivered
        simp only [findSubscribers_rename, delivered]
        generalize fanOut codec packet.message now maxOutboxDrops _ _ = result
        rcases result with ⟨fanout, _ | error⟩ <;> rfl

include counted in
theorem processOutboundPublish_rename (codec : Codec)
    (broker : Broker maxSessions maxSubs maxInflight maxRetained) (publish : MqttPublish) (now : Instant) :
    processOutboundPublish codec (broker.rename relabel) publish now =
      ((processOutboundPublish codec broker publish now).1.rename relabel,
        (processOutboundPublish codec broker publish now).2) := by
  have sameRetained : (broker.rename relabel).retained = broker.retained := rfl
  simp only [processOutboundPublish, sameRetained]
  cases retain broker.retained publish.message with
  | error error => rfl
  | ok retained =>
    have delivered := fanOut_rename counted codec publish.message now gatomqttConfig.maxOutboxDrops
      (resolves_start broker.registry broker.signals)
      (findAllSubscribers broker.registry publish.topic.items).items
    simp only [Fanout.rename, Option.map_none] at delivered
    simp only [Broker.rename, findAllSubscribers_rename, delivered]

end

def Releasable : SessionRegistry maxSessions maxSubs maxInflight → List InflightEntry → Prop
  | _, [] => True
  | registry, entry :: rest =>
      (∃ stored, registry.storedPublish entry.publish = some stored) ∧
        Releasable (registry.releaseStoredPublish entry.publish) rest

def vacate (registry : SessionRegistry maxSessions maxSubs maxInflight) (id : SessionId) :
    SessionRegistry maxSessions maxSubs maxInflight :=
  { registry with slots := registry.slots.set id none }

structure Linked (registry : SessionRegistry maxSessions maxSubs maxInflight) : Prop where
  resolved : ∀ id session, registry.get id = some session → ∀ entry ∈ session.inflight.items,
    ∃ stored, registry.storedPublish entry.publish = some stored
  releasable : ∀ id session, registry.get id = some session →
    Releasable (vacate registry id) session.inflight.items

section

variable (relabel : Nat → Nat) {registry : SessionRegistry maxSessions maxSubs maxInflight}

theorem vacate_rename (id : SessionId) :
    vacate (registry.rename relabel) id = (vacate registry id).rename relabel := by
  have emptied := Slots.set_map (SessionState.rename relabel) registry.slots id none
  simp only [vacate, SessionRegistry.rename, ← emptied, Option.map_none]

theorem releaseAll_rename {entries : List InflightEntry} (releasable : Releasable registry entries) :
    (registry.rename relabel).releaseAll (entries.map (InflightEntry.rename relabel)) =
      (registry.releaseAll entries).rename relabel := by
  induction entries generalizing registry with
  | nil => rfl
  | cons entry rest ih =>
    obtain ⟨⟨stored, found⟩, later⟩ := releasable
    have head := releaseStoredPublish_rename relabel registry found
    simp only [SessionRegistry.releaseAll, List.map_cons, List.foldl_cons] at ih ⊢
    rw [InflightEntry.rename, head]
    exact ih later

theorem remove_rename (linked : Linked registry) (id : SessionId) :
    (registry.rename relabel).remove id =
      ((registry.remove id).1.map (SessionState.rename relabel), (registry.remove id).2.rename relabel) := by
  cases present : registry.get id with
  | none => simp [SessionRegistry.remove, get_rename, present]
  | some session =>
    have released := releaseAll_rename relabel (linked.releasable id session present)
    rw [← vacate_rename] at released
    simp only [SessionRegistry.remove, get_rename, present, Option.map_some]
    exact congrArg _ released

theorem displace_rename (linked : Linked registry) (clientId : Bytes) :
    displace (registry.rename relabel) clientId =
      ((displace registry clientId).1, (displace registry clientId).2.rename relabel) := by
  simp only [displace, findByClientId_rename]
  cases registry.findByClientId clientId with
  | none => rfl
  | some existing =>
    simp only [remove_rename relabel linked]
    cases (registry.remove existing).1 <;> rfl

variable (registry) in
theorem insert_rename (state : SessionState maxSubs maxInflight) :
    (registry.rename relabel).insert (state.rename relabel) =
      (registry.insert state).map fun inserted => (inserted.1, inserted.2.rename relabel) := by
  have free : (registry.rename relabel).slots.firstFree = registry.slots.firstFree := Slots.firstFree_map ..
  simp only [SessionRegistry.insert, free]
  cases registry.slots.firstFree with
  | none => rfl
  | some id =>
    have taken := Slots.set_map (SessionState.rename relabel) registry.slots id (some state)
    simp only [SessionRegistry.rename, Except.map, ← taken, Option.map_some]

theorem recordDisplaced_rename (displacedLwt : Option LwtMessage) (prepared : PreparedConnect) :
    recordDisplaced (registry.rename relabel) displacedLwt prepared =
      ((recordDisplaced registry displacedLwt prepared).1.rename relabel,
        (recordDisplaced registry displacedLwt prepared).2) := by
  cases displacedLwt with
  | none => rfl
  | some lwt =>
    have sameLwts : (registry.rename relabel).publishedLwts = registry.publishedLwts := rfl
    simp only [recordDisplaced, SessionRegistry.recordPublishedLwt, sameLwts]
    cases registry.publishedLwts.push lwt <;> rfl

theorem freshState_rename {packet : Connect} {state : SessionState maxSubs maxInflight}
    (fresh : freshState packet = .ok state) : state.rename relabel = state := by
  obtain ⟨clientId, lwt, _, _, rfl⟩ := freshState_ok fresh
  rfl

theorem createSession_rename (linked : Linked registry) (packet : Connect) :
    createSession (registry.rename relabel) packet =
      ((createSession registry packet).1.rename relabel, (createSession registry packet).2) := by
  simp only [createSession, displace_rename relabel linked, isFull_rename]
  split
  · exact recordDisplaced_rename relabel _ _
  · cases fresh : (freshState packet : Except ConnectError (SessionState maxSubs maxInflight)) with
    | error error => rfl
    | ok state =>
      have inserted := insert_rename relabel (displace registry packet.clientId).2 state
      rw [freshState_rename relabel fresh] at inserted
      simp only [inserted]
      cases (displace registry packet.clientId).2.insert state with
      | error error => rfl
      | ok inserted => exact recordDisplaced_rename relabel _ _

theorem resumeSession_rename (packet : Connect) (existing : SessionId) :
    resumeSession (registry.rename relabel) packet existing =
      ((resumeSession registry packet existing).1.rename relabel, (resumeSession registry packet existing).2) := by
  simp only [resumeSession, get_rename]
  cases registry.get existing with
  | none => rfl
  | some session =>
    simp only [Option.map_some]
    cases toLwt packet with
    | error error => rfl
    | ok lwt =>
      have resumed := put_rename relabel registry existing { session with
        lwt := lwt, keepaliveSecs := packet.keepAlive, quarantined := false, outboxDrops := 0 }
      exact congrArg (·, _) resumed

theorem prepareConnect_rename (linked : Linked registry) (packet : Connect) (houseToken : HouseToken) :
    prepareConnect (registry.rename relabel) packet houseToken =
      ((prepareConnect registry packet houseToken).1.rename relabel,
        (prepareConnect registry packet houseToken).2) := by
  have sameResumable : resumable (registry.rename relabel) packet = resumable registry packet := by
    simp only [resumable, findByClientId_rename]
  simp only [prepareConnect, sameResumable]
  split_ifs
  · rfl
  · rfl
  · rfl
  · cases resumable registry packet with
    | none => exact createSession_rename relabel linked packet
    | some existing => exact resumeSession_rename relabel packet existing

theorem inflightRemove_rename (session : SessionState maxSubs maxInflight) (packetId : Nat) :
    (session.rename relabel).inflightRemove packetId =
      (session.inflightRemove packetId).map fun removed => (removed.1.rename relabel, removed.2.rename relabel) := by
  have located : ((session.rename relabel).inflight.items.findIdx? fun entry => entry.packetId == packetId) =
      session.inflight.items.findIdx? fun entry => entry.packetId == packetId := List.findIdx?_map ..
  simp only [SessionState.inflightRemove, located]
  cases session.inflight.items.findIdx? fun entry => entry.packetId == packetId with
  | none => rfl
  | some index =>
    simp only [SessionState.rename, Bounded.map_items, List.getElem?_map, Bounded.eraseIdx_map]
    cases session.inflight.items[index]? <;> rfl

theorem handlePuback_rename (session : SessionState maxSubs maxInflight) (packetId : Nat) :
    handlePuback (session.rename relabel) packetId =
      (handlePuback session packetId).map fun removed => (removed.1.rename relabel, removed.2.rename relabel) := by
  simp only [handlePuback, inflightRemove_rename]
  cases session.inflightRemove packetId <;> rfl

theorem acknowledge_rename (linked : Linked registry) (id : SessionId) (packetId : Nat) :
    acknowledge (registry.rename relabel) id packetId = (acknowledge registry id packetId).rename relabel := by
  simp only [acknowledge, get_rename]
  cases present : registry.get id with
  | none => rfl
  | some session =>
    simp only [Option.map_some, handlePuback_rename]
    cases removed : handlePuback session packetId with
    | none => rfl
    | some pair =>
      rcases pair with ⟨handle, left⟩
      obtain ⟨⟨entry, rest⟩, found, same⟩ := Option.map_eq_some_iff.mp removed
      obtain ⟨rfl, rfl⟩ := Prod.mk.inj same
      obtain ⟨before, after, split, _⟩ := SessionState.inflightRemove_eq_some found
      obtain ⟨stored, resolved⟩ := linked.resolved id session present entry (by simp [split])
      simp only [Option.map_some, put_rename]
      exact releaseStoredPublish_rename relabel (registry.put id rest) resolved

theorem modifyEntry_rename (id : SessionId) (index : Nat) {f : InflightEntry → InflightEntry}
    (blind : ∀ entry, f (entry.rename relabel) = (f entry).rename relabel) :
    modifyEntry (registry.rename relabel) id index f = (modifyEntry registry id index f).rename relabel := by
  simp only [modifyEntry, get_rename]
  cases registry.get id with
  | none => rfl
  | some session =>
    have modified := Bounded.modify_map (InflightEntry.rename relabel) blind session.inflight index
    simp only [Option.map_some, ← put_rename, SessionState.rename, modified]

def RetryOutcome.rename (relabel : Nat → Nat) (outcome : RetryOutcome maxSessions maxSubs maxInflight) :
    RetryOutcome maxSessions maxSubs maxInflight :=
  { outcome with registry := outcome.registry.rename relabel }

theorem retransmit_rename (codec : Codec) (maxPacketSize : Nat) (id : SessionId) (index : Nat)
    {entry : InflightEntry} (resolved : ∃ stored, registry.storedPublish entry.publish = some stored)
    (maxRetries : Nat) (now : Instant) (accepted : Bool) :
    retransmit codec maxPacketSize (registry.rename relabel) id index (entry.rename relabel) maxRetries now accepted =
      (retransmit codec maxPacketSize registry id index entry maxRetries now accepted).rename relabel := by
  obtain ⟨stored, found⟩ := resolved
  have sameRetries : (entry.rename relabel).retries = entry.retries := rfl
  have sameId : (entry.rename relabel).packetId = entry.packetId := rfl
  have sameHandle : (entry.rename relabel).publish = entry.publish.rename relabel := rfl
  simp only [retransmit, sameRetries, sameId, sameHandle]
  generalize saturatingAddU8 entry.retries 1 = retries
  have counted : modifyEntry (registry.rename relabel) id index (fun entry => { entry with retries := retries }) =
      (modifyEntry registry id index fun entry => { entry with retries := retries }).rename relabel :=
    modifyEntry_rename relabel id index fun _ => rfl
  have marking : Retried registry (modifyEntry registry id index fun entry => { entry with retries := retries }) id :=
    modifyEntry_retried registry id index fun _ => ⟨rfl, rfl⟩
  have kept := (marking.storedPublish entry.publish).trans found
  rw [counted]
  generalize modifyEntry registry id index (fun entry => { entry with retries := retries }) = marked at kept ⊢
  split
  · rfl
  · cases Pid.tryFrom entry.packetId with
    | none => rfl
    | some pid =>
      have samePacket : retryPacket pid (stored.rename relabel) = retryPacket pid stored := rfl
      simp only [storedPublish_rename relabel marked kept, kept, samePacket]
      cases codec.encodeSlice (.publish (retryPacket pid stored)) maxPacketSize with
      | none => rfl
      | some _ =>
        dsimp only
        split
        · rw [modifyEntry_rename]
          · rfl
          · intro other
            by_cases same : other.packetId = entry.packetId <;> simp [InflightEntry.rename, same]
        · rfl

theorem Retried.resolved {before after : SessionRegistry maxSessions maxSubs maxInflight} {id : SessionId}
    (retried : Retried before after id)
    (resolved : ∀ session, before.get id = some session → ∀ entry ∈ session.inflight.items,
      ∃ stored, before.storedPublish entry.publish = some stored) :
    ∀ session, after.get id = some session → ∀ entry ∈ session.inflight.items,
      ∃ stored, after.storedPublish entry.publish = some stored := by
  intro session present entry member
  obtain ⟨old, found, held⟩ := retried.holds ⟨session, present, List.mem_map.mpr ⟨entry, member, rfl⟩⟩
  obtain ⟨oldEntry, oldMember, same⟩ := List.mem_map.mp held
  rw [retried.storedPublish, ← (Prod.mk.inj same).2]
  exact resolved old found oldEntry oldMember

theorem retryLoop_rename (codec : Codec) (maxPacketSize : Nat) (id : SessionId) (timeout : Duration)
    (maxRetries : Nat) (now : Instant)
    (resolved : ∀ session, registry.get id = some session → ∀ entry ∈ session.inflight.items,
      ∃ stored, registry.storedPublish entry.publish = some stored) (answers : List Bool) (indices : List Nat) :
    retryLoop codec maxPacketSize id timeout maxRetries now (registry.rename relabel) answers indices =
      (retryLoop codec maxPacketSize id timeout maxRetries now registry answers indices).rename relabel := by
  induction indices generalizing registry answers with
  | nil => rfl
  | cons index rest ih =>
    have located : (((registry.rename relabel).get id).bind fun session => session.inflight.items[index]?) =
        ((registry.get id).bind fun session => session.inflight.items[index]?).map (InflightEntry.rename relabel) := by
      rw [get_rename]
      cases registry.get id with
      | none => rfl
      | some session => simp [SessionState.rename]
    simp only [retryLoop, located]
    cases entryAt : (registry.get id).bind fun session => session.inflight.items[index]? with
    | none => exact ih resolved answers
    | some entry =>
      obtain ⟨session, present, member⟩ := Option.bind_eq_some_iff.mp entryAt
      have inFlight := List.mem_of_getElem? member
      have sameClock : isExpired now timeout (entry.rename relabel) = isExpired now timeout entry := rfl
      simp only [Option.map_some, sameClock]
      split
      · have sent := (retransmit_spec codec maxPacketSize registry id index entry maxRetries now
          (answers.headD true) ⟨session, present, List.mem_map.mpr ⟨entry, inFlight, rfl⟩⟩).retried
        rw [retransmit_rename relabel codec maxPacketSize id index (resolved session present entry inFlight)]
        generalize retransmit codec maxPacketSize registry id index entry maxRetries now
          (answers.headD true) = outcome at sent ⊢
        have sameResult : (outcome.rename relabel).result = outcome.result := rfl
        rw [sameResult]
        cases outcome.result with
        | error error => rfl
        | ok _ =>
          have later : retryLoop codec maxPacketSize id timeout maxRetries now (outcome.rename relabel).registry
              answers.tail rest = _ := ih (sent.resolved resolved) answers.tail
          simp only [later]
          rfl
      · exact ih resolved answers

theorem processInflightRetriesAt_rename (linked : Linked registry) (codec : Codec) (maxPacketSize : Nat)
    (id : SessionId) (retryMs maxRetries : Nat) (now : Instant) (answers : List Bool) :
    processInflightRetriesAt codec maxPacketSize id (registry.rename relabel) retryMs maxRetries now answers =
      (processInflightRetriesAt codec maxPacketSize id registry retryMs maxRetries now answers).rename relabel := by
  have sameLength : (((registry.rename relabel).get id).map fun session => session.inflight.items.length) =
      (registry.get id).map fun session => session.inflight.items.length := by
    rw [get_rename, Option.map_map]
    congr 1
    funext session
    simp [SessionState.rename]
  simp only [processInflightRetriesAt, sameLength]
  exact retryLoop_rename relabel codec maxPacketSize id _ maxRetries now (linked.resolved id) answers _

end

end PicoBroker
