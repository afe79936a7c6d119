import PicoBroker.Broker.Fanout
import PicoBroker.Broker.Operations
import PicoBroker.Broker.PublishFormat

set_option autoImplicit false

namespace PicoBroker

variable {maxSessions maxSubs maxInflight maxRetained : Nat}

def Message.publish (message : Message) (qospid : QosPid) : Publish :=
  ⟨false, qospid, message.retain, message.topic, message.payload⟩

def FitsAtQos1 (codec : Codec) (message : Message) : Prop :=
  ∃ pid bytes, codec.encodeSlice (.publish (message.publish (.atLeastOnce pid))) maxOutboundFrameSize = some bytes

section

variable {codec : Codec} {message : Message}

theorem publishLength_le (message : Message) (qospid : QosPid) (pid : Pid) :
    publishLength (message.publish qospid) ≤ publishLength (message.publish (.atLeastOnce pid)) := by
  cases qospid with
  | atMostOnce =>
    simp only [publishLength, Message.publish, QosPid.pid, Option.isSome_none, Option.isSome_some,
      Bool.false_eq_true, if_false, if_true]
    split_ifs <;> omega
  | atLeastOnce | exactlyOnce => exact Nat.le_refl _

theorem FitsAtQos1.length_le (fits : FitsAtQos1 codec message) (follows : FollowsMqtt311 codec) (qospid : QosPid) :
    publishLength (message.publish qospid) ≤ maxOutboundFrameSize := by
  obtain ⟨pid, encodes⟩ := fits
  refine (publishLength_le message qospid pid).trans ?_
  exact (follows.fits (message.publish (.atLeastOnce pid)) (by decide)).mp encodes

theorem FitsAtQos1.payload_le (fits : FitsAtQos1 codec message) (follows : FollowsMqtt311 codec) :
    message.payload.length ≤ 512 := by
  have length := fits.length_le follows .atMostOnce
  simp only [publishLength, Message.publish, maxOutboundFrameSize] at length
  omega

theorem FitsAtQos1.encodes (fits : FitsAtQos1 codec message) (follows : FollowsMqtt311 codec) {qos : QoS}
    {packetId : Nat} {qospid : QosPid}
    (converted : qospidFor qos packetId = some qospid) :
    ∃ bytes, encodePublish codec message.topic message.payload qos message.retain packetId = .ok bytes ∧
      codec.encodeSlice (.publish (message.publish qospid)) maxOutboundFrameSize = some bytes.items := by
  obtain ⟨frame, encoded⟩ := (follows.fits (message.publish qospid) (by decide)).mpr (fits.length_le follows qospid)
  obtain ⟨bytes, bounded⟩ : ∃ bytes : Text maxOutboundFrameSize, Bounded.ofList? frame = some bytes := by
    cases converted : (Bounded.ofList? frame : Option (Text maxOutboundFrameSize)) with
    | none =>
      have long := Bounded.ofList?_eq_none.mp converted
      have short := ((follows.encodes_iff (by decide)).mp encoded).2
      omega
    | some bytes => exact ⟨bytes, rfl⟩
  refine ⟨bytes, ?_, ?_⟩
  · rw [Message.publish] at encoded
    simp only [encodePublish, converted, encoded, bounded]
  · rw [Bounded.ofList?_eq_some.mp bounded]
    exact encoded

end

theorem minQos_cases {qos : QoS} (granted : QoS) (low : qos = .atMostOnce ∨ qos = .atLeastOnce) :
    minQos qos granted = .atMostOnce ∨ minQos qos granted = .atLeastOnce := by
  rcases low with rfl | rfl <;> cases granted <;> simp [minQos, qosRank]

theorem FitsAtQos1.frameFor {codec : Codec} {message : Message} (fits : FitsAtQos1 codec message)
    (follows : FollowsMqtt311 codec)
    (qos : message.qos = .atMostOnce ∨ message.qos = .atLeastOnce) (granted : QoS)
    (session : SessionState maxSubs maxInflight) :
    ∃ bytes, frameFor codec message (minQos message.qos granted) session = .ok bytes := by
  obtain ⟨qospid, converted⟩ : ∃ qospid, qospidFor (minQos message.qos granted)
      (assignedId session (minQos message.qos granted)) = some qospid := by
    rcases minQos_cases granted qos with unnumbered | numbered
    · exact ⟨.atMostOnce, by rw [unnumbered]; rfl⟩
    · rw [numbered, assignedId_of_ne (by decide)]
      have positive := SessionState.succPacketId_pos session.packetIdCounter
      have bounded := SessionState.succPacketId_lt session.packetIdCounter
      exact ⟨.atLeastOnce ⟨_, positive, bounded⟩, by simp [qospidFor, Pid.tryFrom, positive, bounded]⟩
  obtain ⟨bytes, encoded, _⟩ := fits.encodes follows converted
  exact ⟨bytes, encoded⟩

-- Where the message is stored if anyone records it.
def sharedHandle (start : SessionRegistry maxSessions maxSubs maxInflight) : Option StoredPublishHandle :=
  start.storedPublishes.firstFree.map fun slot => ⟨slot, start.nextPublishGeneration⟩

inductive Pooled (start : SessionRegistry maxSessions maxSubs maxInflight) (stored : Nat → StoredPublish) :
    Nat → SessionRegistry maxSessions maxSubs maxInflight → Option StoredPublishHandle → Prop
  | full {registry : SessionRegistry maxSessions maxSubs maxInflight} (count : Nat)
      (taken : start.storedPublishes.firstFree = none)
      (same : registry.storedPublishes = start.storedPublishes) : Pooled start stored count registry none
  | idle {registry : SessionRegistry maxSessions maxSubs maxInflight} {slot : Nat}
      (free : start.storedPublishes.firstFree = some slot)
      (same : registry.storedPublishes = start.storedPublishes)
      (generation : registry.nextPublishGeneration = start.nextPublishGeneration) :
      Pooled start stored 0 registry none
  | holding {registry : SessionRegistry maxSessions maxSubs maxInflight} {slot count : Nat}
      (free : start.storedPublishes.firstFree = some slot)
      (held : registry.storedPublishes = start.storedPublishes.set slot (some (stored (count + 1)))) :
      Pooled start stored (count + 1) registry (some ⟨slot, start.nextPublishGeneration⟩)

section

variable {start registry after : SessionRegistry maxSessions maxSubs maxInflight} {stored : Nat → StoredPublish}
  {count : Nat} {shared : Option StoredPublishHandle}

theorem Pooled.congr (pooled : Pooled start stored count registry shared)
    (same : after.storedPublishes = registry.storedPublishes)
    (generation : after.nextPublishGeneration = registry.nextPublishGeneration) :
    Pooled start stored count after shared := by
  cases pooled with
  | full count taken unchanged => exact .full count taken (same.trans unchanged)
  | idle free unchanged next => exact .idle free (same.trans unchanged) (generation.trans next)
  | holding free held => exact .holding free (same.trans held)

variable {message : Message} {topic : Text 128} {payload : Text 512}

def storedAs (start : SessionRegistry maxSessions maxSubs maxInflight) (topic : Text 128) (payload : Text 512)
    (retain : Bool) (refcount : Nat) : StoredPublish :=
  ⟨topic, payload, retain, start.nextPublishGeneration, refcount⟩

theorem Pooled.acquire (sameTopic : topic.items = message.topic) (samePayload : payload.items = message.payload)
    (pooled : Pooled start (storedAs start topic payload message.retain) count registry shared)
    (bounded : count + 1 < 65536) :
    ∃ acquired after, acquireSharedPublish registry shared message = (acquired, after, sharedHandle start) ∧
      registry.SameSessions acquired ∧
      Pooled start (storedAs start topic payload message.retain) (count + 1) acquired after := by
  have topicFits : Bounded.ofList? message.topic = some topic := Bounded.ofList?_eq_some.mpr sameTopic
  have payloadFits : Bounded.ofList? message.payload = some payload := Bounded.ofList?_eq_some.mpr samePayload
  cases pooled with
  | full count taken same =>
    refine ⟨registry, none, ?_, ⟨rfl, rfl⟩, .full _ taken same⟩
    simp [acquireSharedPublish, SessionRegistry.storePublishRef, sharedHandle, same, taken]
  | @idle _ slot free same generation =>
    have acquired : acquireSharedPublish registry none message =
        ({ registry with
            nextPublishGeneration := SessionRegistry.succGeneration registry.nextPublishGeneration }.putStored slot
              (some (storedAs start topic payload message.retain 1)),
          some ⟨slot, start.nextPublishGeneration⟩, sharedHandle start) := by
      simp [acquireSharedPublish, SessionRegistry.storePublishRef, sharedHandle, storedAs, same, free, topicFits,
        payloadFits, generation]
    refine ⟨_, _, acquired, ⟨rfl, rfl⟩, .holding free ?_⟩
    simp [SessionRegistry.putStored, same]
  | @holding _ slot count free held =>
    have inside := (Slots.firstFree_eq_some.mp free).1
    have found : registry.storedPublish ⟨slot, start.nextPublishGeneration⟩ =
        some (storedAs start topic payload message.retain (count + 1)) := by
      rw [SessionRegistry.storedPublish_eq_some, held, Slots.get_set_self _ _ inside]
      exact ⟨rfl, rfl⟩
    have room : (storedAs start topic payload message.retain (count + 1)).refcount + 1 < 65536 := bounded
    have acquired : acquireSharedPublish registry (some ⟨slot, start.nextPublishGeneration⟩) message =
        (registry.putStored slot (some (storedAs start topic payload message.retain (count + 2))),
          some ⟨slot, start.nextPublishGeneration⟩, sharedHandle start) := by
      simp only [acquireSharedPublish, SessionRegistry.acquireStoredPublish, found, room, if_true, sharedHandle, free]
      rfl
    refine ⟨_, _, acquired, ⟨rfl, rfl⟩, .holding free ?_⟩
    rw [SessionRegistry.putStored, held, Slots.set_set]

end

def recorded (session : SessionState maxSubs maxInflight) (packetId : Nat) (now : Instant)
    (handle : Option StoredPublishHandle) : SessionState maxSubs maxInflight :=
  (handle.bind fun handle => session.inflightAdd ⟨packetId, handle, .atLeastOnce, now, 0⟩).getD session

theorem recorded_of_room {session : SessionState maxSubs maxInflight}
    (room : session.inflight.items.length < maxInflight) (packetId : Nat) (now : Instant)
    (handle : StoredPublishHandle) :
    ∃ inflight, session.inflightAdd ⟨packetId, handle, .atLeastOnce, now, 0⟩ =
        some { session with inflight := inflight } ∧
      recorded session packetId now (some handle) = { session with inflight := inflight } ∧
      inflight.items = session.inflight.items ++ [⟨packetId, handle, .atLeastOnce, now, 0⟩] := by
  obtain ⟨inflight, pushed⟩ := Bounded.exists_push room ⟨packetId, handle, .atLeastOnce, now, 0⟩
  have added : session.inflightAdd ⟨packetId, handle, .atLeastOnce, now, 0⟩ =
      some { session with inflight := inflight } := by
    simp [SessionState.inflightAdd, pushed]
  refine ⟨inflight, added, ?_, (Bounded.push_eq_some.mp pushed).2⟩
  simp [recorded, added]

theorem recorded_eq_self {session : SessionState maxSubs maxInflight} {handle : Option StoredPublishHandle}
    (refused : session.inflight.items.length < maxInflight → handle = none) (packetId : Nat) (now : Instant) :
    recorded session packetId now handle = session := by
  cases handle with
  | none => rfl
  | some handle =>
    have full : session.inflight.items.length = maxInflight := by
      have fits := session.inflight.fits
      have notRoom : ¬ session.inflight.items.length < maxInflight := fun room => Option.some_ne_none _ (refused room)
      omega
    simp [recorded, SessionState.inflightAdd, Bounded.push_eq_none.mpr full]

def recipient (bytes : Text maxOutboundFrameSize) (qos : QoS) (now : Instant) (maxOutboxDrops : Nat)
    (handle : Option StoredPublishHandle) (session : SessionState maxSubs maxInflight) :
    SessionState maxSubs maxInflight :=
  match session.outbox.push ⟨bytes⟩ with
  | none => droppedSession session qos maxOutboxDrops
  | some outbox =>
      if qos = .atLeastOnce then recorded (queuedSession session qos outbox) (assignedId session qos) now handle
      else queuedSession session qos outbox

def Records (qos : QoS) (session : SessionState maxSubs maxInflight) : Prop :=
  qos = .atLeastOnce ∧ session.outbox.items.length < maxOutboxDepth ∧ session.inflight.items.length < maxInflight

instance (qos : QoS) (session : SessionState maxSubs maxInflight) : Decidable (Records qos session) :=
  inferInstanceAs (Decidable (_ ∧ _ ∧ _))

section

variable {start : SessionRegistry maxSessions maxSubs maxInflight} {message : Message} {topic : Text 128}
  {payload : Text 512} {count : Nat} {fanout : Fanout maxSessions maxSubs maxInflight} {id : SessionId}
  {session : SessionState maxSubs maxInflight}

theorem Pooled.track (sameTopic : topic.items = message.topic) (samePayload : payload.items = message.payload)
    (pooled : Pooled start (storedAs start topic payload message.retain) count fanout.registry fanout.sharedPublish)
    (bounded : count + 1 < 65536) (now : Instant) (packetId : Nat) (present : fanout.registry.get id = some session) :
    let tracked := track message now fanout id packetId
    tracked.registry.get id = some (recorded session packetId now (sharedHandle start)) ∧
      (∀ other, other ≠ id → tracked.registry.get other = fanout.registry.get other) ∧
      Pooled start (storedAs start topic payload message.retain)
        (count + if session.inflight.items.length < maxInflight then 1 else 0) tracked.registry
        tracked.sharedPublish := by
  simp only [PicoBroker.track, present]
  by_cases room : session.inflight.items.length < maxInflight
  · obtain ⟨acquired, after, result, same, kept⟩ := pooled.acquire sameTopic samePayload bounded
    have found : acquired.get id = some session := by rw [same.get, present]
    simp only [room, if_true, result]
    cases sharedHandle start with
    | none => exact ⟨found, fun other _ => same.get other, kept⟩
    | some handle =>
      obtain ⟨inflight, added, result, _⟩ := recorded_of_room room packetId now handle
      simp only [found, Option.bind_some, added, result]
      refine ⟨SessionRegistry.get_put_self found _, ?_, kept.congr rfl rfl⟩
      intro other different
      rw [SessionRegistry.get_put_ne _ different, same.get]
  · simp only [room, if_false, recorded_eq_self fun available => absurd available room]
    exact ⟨present, by simp, pooled⟩

-- The recipients among `visited` that can record the delivery, judged by the registry at the start.
def recording (start : SessionRegistry maxSessions maxSubs maxInflight) (message : Message)
    (visited : List (SessionId × QoS)) : Nat :=
  visited.countP fun subscriber =>
    (start.get subscriber.1).any fun session => Records (minQos message.qos subscriber.2) session

theorem recording_append {visited : List (SessionId × QoS)} {granted : QoS} (present : start.get id = some session) :
    recording start message (visited ++ [(id, granted)]) =
      recording start message visited + if Records (minQos message.qos granted) session then 1 else 0 := by
  simp [recording, List.countP_append, List.countP_singleton, present]

structure Progress (codec : Codec) (message : Message) (now : Instant) (maxOutboxDrops : Nat)
    (start : SessionRegistry maxSessions maxSubs maxInflight) (stored : Nat → StoredPublish)
    (visited : List (SessionId × QoS)) (fanout : Fanout maxSessions maxSubs maxInflight) : Prop where
  reached : ∀ id granted session, (id, granted) ∈ visited → start.get id = some session →
    ∃ bytes, frameFor codec message (minQos message.qos granted) session = .ok bytes ∧
      fanout.registry.get id =
        some (recipient bytes (minQos message.qos granted) now maxOutboxDrops (sharedHandle start) session)
  unreached : ∀ id, id ∉ visited.map Prod.fst → fanout.registry.get id = start.get id
  pooled : Pooled start stored (recording start message visited) fanout.registry fanout.sharedPublish

section

variable {codec : Codec} {now : Instant} {maxOutboxDrops : Nat} {stored : Nat → StoredPublish}
  {visited : List (SessionId × QoS)} {granted : QoS} {bytes : Text maxOutboundFrameSize}

theorem Progress.extend {next : Fanout maxSessions maxSubs maxInflight}
    (progress : Progress codec message now maxOutboxDrops start stored visited fanout)
    (new : id ∉ visited.map Prod.fst) (present : start.get id = some session)
    (encoded : frameFor codec message (minQos message.qos granted) session = .ok bytes)
    (here : next.registry.get id =
      some (recipient bytes (minQos message.qos granted) now maxOutboxDrops (sharedHandle start) session))
    (elsewhere : ∀ other, other ≠ id → next.registry.get other = fanout.registry.get other)
    (pooled : Pooled start stored
      (recording start message visited + if Records (minQos message.qos granted) session then 1 else 0)
      next.registry next.sharedPublish) :
    Progress codec message now maxOutboxDrops start stored (visited ++ [(id, granted)]) next where
  reached other qos state member found := by
    rcases List.mem_append.mp member with earlier | last
    · have different : other ≠ id := by
        rintro rfl
        exact new (List.mem_map_of_mem earlier)
      rw [elsewhere other different]
      exact progress.reached other qos state earlier found
    · obtain ⟨rfl, rfl⟩ := Prod.mk.inj (List.mem_singleton.mp last)
      rw [present] at found
      cases found
      exact ⟨bytes, encoded, here⟩
  unreached other unvisited := by
    simp only [List.map_append, List.map_cons, List.map_nil, List.mem_append, List.mem_singleton, not_or]
      at unvisited
    rw [elsewhere other unvisited.2, progress.unreached other unvisited.1]
  pooled := by
    rw [recording_append present]
    exact pooled

theorem Progress.deliver (sameTopic : topic.items = message.topic) (samePayload : payload.items = message.payload)
    (progress : Progress codec message now maxOutboxDrops start (storedAs start topic payload message.retain)
      visited fanout)
    (new : id ∉ visited.map Prod.fst) (present : start.get id = some session)
    (encoded : frameFor codec message (minQos message.qos granted) session = .ok bytes)
    (bounded : visited.length + 1 < 65536) :
    ∃ next, deliver codec message now maxOutboxDrops fanout (id, granted) = (next, none) ∧
      Progress codec message now maxOutboxDrops start (storedAs start topic payload message.retain)
        (visited ++ [(id, granted)]) next := by
  have found : fanout.registry.get id = some session := (progress.unreached id new).trans present
  simp only [PicoBroker.deliver, found]
  obtain ⟨error, failed, _⟩ | ⟨same, encodes, full, offered⟩ | ⟨same, outbox, encodes, pushed, offered⟩ :=
    offer_cases codec message (minQos message.qos granted) maxOutboxDrops session
  · rw [encoded] at failed
    cases failed
  · rw [encoded] at encodes
    cases encodes
    have unrecorded : ¬ Records (minQos message.qos granted) session := by
      rintro ⟨_, room, _⟩
      omega
    rw [offered]
    refine ⟨_, rfl, progress.extend new present encoded ?_ ?_ ?_⟩
    · rw [recipient, Bounded.push_eq_none.mpr full]
      exact SessionRegistry.get_put_self found _
    · exact fun other different => SessionRegistry.get_put_ne _ different
    · rw [if_neg unrecorded]
      exact progress.pooled.congr rfl rfl
  · rw [encoded] at encodes
    cases encodes
    have room := (Bounded.push_eq_some.mp pushed).1
    have queued := SessionRegistry.get_put_self found (queuedSession session (minQos message.qos granted) outbox)
    rw [offered]
    dsimp only
    split
    · next qos1 =>
      have few : recording start message visited ≤ visited.length := List.countP_le_length
      let signalled : Fanout maxSessions maxSubs maxInflight :=
        ⟨fanout.registry.put id (queuedSession session (minQos message.qos granted) outbox),
          signalSession fanout.signals id, fanout.sharedPublish, fanout.offered ++ [id]⟩
      have waiting : Pooled start (storedAs start topic payload message.retain) (recording start message visited)
          signalled.registry signalled.sharedPublish := progress.pooled.congr rfl rfl
      obtain ⟨here, elsewhere, pooled⟩ := waiting.track sameTopic samePayload (by omega) now
        (assignedId session (minQos message.qos granted)) queued
      refine ⟨_, rfl, progress.extend new present encoded ?_ ?_ ?_⟩
      · rw [recipient, pushed]
        dsimp only
        rw [if_pos qos1]
        exact here
      · exact fun other different => (elsewhere other different).trans (SessionRegistry.get_put_ne _ different)
      · have records : Records (minQos message.qos granted) session ↔
            (queuedSession session (minQos message.qos granted) outbox).inflight.items.length < maxInflight := by
          simp [Records, qos1, room, queuedSession]
        simp only [records]
        exact pooled
    · next unnumbered =>
      refine ⟨_, rfl, progress.extend new present encoded ?_ ?_ ?_⟩
      · rw [recipient, pushed]
        dsimp only
        rw [if_neg unnumbered]
        exact queued
      · exact fun other different => SessionRegistry.get_put_ne _ different
      · rw [if_neg fun records => unnumbered records.1]
        exact progress.pooled.congr rfl rfl

theorem Progress.fanOut (sameTopic : topic.items = message.topic) (samePayload : payload.items = message.payload)
    {rest : List (SessionId × QoS)}
    (progress : Progress codec message now maxOutboxDrops start (storedAs start topic payload message.retain)
      visited fanout)
    (distinct : ((visited ++ rest).map Prod.fst).Nodup) (bounded : (visited ++ rest).length < 65536)
    (encodes : ∀ subscriber ∈ rest, ∃ session bytes, start.get subscriber.1 = some session ∧
      frameFor codec message (minQos message.qos subscriber.2) session = .ok bytes) :
    ∃ final, fanOut codec message now maxOutboxDrops fanout rest = (final, none) ∧
      Progress codec message now maxOutboxDrops start (storedAs start topic payload message.retain)
        (visited ++ rest) final := by
  induction rest generalizing visited fanout with
  | nil => exact ⟨fanout, rfl, by simpa using progress⟩
  | cons subscriber rest ih =>
    obtain ⟨session, bytes, present, encoded⟩ := encodes subscriber List.mem_cons_self
    have new : subscriber.1 ∉ visited.map Prod.fst := by
      simp only [List.map_append, List.map_cons, List.nodup_append, List.mem_cons] at distinct
      exact fun member => distinct.2.2 _ member _ (.inl rfl) rfl
    have early : visited.length + 1 < 65536 := by
      simp only [List.length_append, List.length_cons] at bounded
      omega
    obtain ⟨next, delivered, further⟩ := progress.deliver sameTopic samePayload new present encoded early
    obtain ⟨final, finished, complete⟩ := ih further (by simpa using distinct) (by simpa using bounded)
      fun other member => encodes other (List.mem_cons_of_mem _ member)
    refine ⟨final, ?_, by simpa using complete⟩
    rw [PicoBroker.fanOut, delivered]
    exact finished

end

end

def PoolHasRoom (registry : SessionRegistry maxSessions maxSubs maxInflight) : Prop :=
  ∃ slot < maxInflight, registry.storedPublishes.get slot = none

def FrameOf (codec : Codec) (message : Message) (qos : QoS) (packetId : Nat) (frame : OutboundPacket) : Prop :=
  ∃ qospid, qospidFor qos packetId = some qospid ∧
    codec.encodeSlice (.publish (message.publish qospid)) maxOutboundFrameSize = some frame.bytes.items

structure Served (codec : Codec) (message : Message) (now : Instant) (handle : StoredPublishHandle) (room : Prop)
    (qos : QoS) (old new : SessionState maxSubs maxInflight) : Prop where
  frame : ∃ frame, FrameOf codec message qos (SessionState.succPacketId old.packetIdCounter) frame ∧
    new.outbox.items = old.outbox.items ++ [frame]
  packetIdCounter : new.packetIdCounter =
    if qos = .atMostOnce then old.packetIdCounter else SessionState.succPacketId old.packetIdCounter
  recorded : qos = .atLeastOnce ∧ old.inflight.items.length < maxInflight ∧ room →
    new.inflight.items = old.inflight.items ++
      [⟨SessionState.succPacketId old.packetIdCounter, handle, .atLeastOnce, now, 0⟩]
  unrecorded : ¬ (qos = .atLeastOnce ∧ old.inflight.items.length < maxInflight ∧ room) →
    new.inflight = old.inflight
  unchanged : new = { old with
    outbox := new.outbox, packetIdCounter := new.packetIdCounter, inflight := new.inflight }

structure RoutingEffect (codec : Codec) (message : Message) (now : Instant) (maxOutboxDrops : Nat)
    (senderId : SessionId) (handle : StoredPublishHandle)
    (before after : SessionRegistry maxSessions maxSubs maxInflight) : Prop where
  sender : ∀ sender, before.get senderId = some sender →
    after.get senderId = some { sender with rate := (sender.rate.tryConsume now).2 }
  empty : ∀ id, before.get id = none → after.get id = none
  unmatched : ∀ id session, id ≠ senderId → before.get id = some session →
    (∀ subscription ∈ session.subscriptions.items, topicMatches subscription.filter.items message.topic = false) →
    after.get id = some session
  served : ∀ id session granted, id ≠ senderId → before.get id = some session →
    Granted session.subscriptions.items message.topic granted → session.outbox.items.length < maxOutboxDepth →
    ∃ new, after.get id = some new ∧
      Served codec message now handle (PoolHasRoom before) (minQos message.qos granted) session new
  stored : ∀ id session granted, id ≠ senderId → before.get id = some session →
    Granted session.subscriptions.items message.topic granted → session.outbox.items.length < maxOutboxDepth →
    minQos message.qos granted = .atLeastOnce → session.inflight.items.length < maxInflight → PoolHasRoom before →
    ∃ stored, after.storedPublish handle = some stored ∧ stored.topic.items = message.topic ∧
      stored.payload.items = message.payload ∧ stored.retain = message.retain
  dropped : ∀ id session granted, id ≠ senderId → before.get id = some session →
    Granted session.subscriptions.items message.topic granted → session.outbox.items.length = maxOutboxDepth →
    after.get id = some { session with
      outboxDrops := saturatingAddU8 session.outboxDrops 1
      quarantined := session.quarantined || decide (saturatingAddU8 session.outboxDrops 1 ≥ maxOutboxDrops)
      packetIdCounter := if minQos message.qos granted = .atMostOnce then session.packetIdCounter
        else SessionState.succPacketId session.packetIdCounter }
  otherStored : ∀ slot, (PoolHasRoom before → slot ≠ handle.slot) →
    after.storedPublishes.get slot = before.storedPublishes.get slot

theorem poolHasRoom_iff {registry : SessionRegistry maxSessions maxSubs maxInflight} :
    PoolHasRoom registry ↔ ∃ slot, registry.storedPublishes.firstFree = some slot := by
  constructor
  · rintro ⟨slot, inside, free⟩
    cases found : registry.storedPublishes.firstFree with
    | none => exact absurd free (Slots.firstFree_eq_none.mp found slot inside)
    | some slot => exact ⟨slot, rfl⟩
  · rintro ⟨slot, found⟩
    obtain ⟨inside, free, _⟩ := Slots.firstFree_eq_some.mp found
    exact ⟨slot, inside, free⟩

section

variable {start registry : SessionRegistry maxSessions maxSubs maxInflight} {stored : Nat → StoredPublish}
  {count : Nat} {shared : Option StoredPublishHandle}

theorem Pooled.resolves (pooled : Pooled start stored count registry shared) (positive : 0 < count)
    (room : PoolHasRoom start) (generation : ∀ refcount, (stored refcount).generation = start.nextPublishGeneration) :
    registry.storedPublish ((sharedHandle start).getD ⟨0, 0⟩) = some (stored count) := by
  cases pooled with
  | full count taken =>
    obtain ⟨slot, free⟩ := poolHasRoom_iff.mp room
    rw [taken] at free
    cases free
  | idle => exact absurd positive (Nat.lt_irrefl 0)
  | holding free held =>
    have inside := (Slots.firstFree_eq_some.mp free).1
    simp only [sharedHandle, free, Option.map_some, Option.getD_some]
    rw [SessionRegistry.storedPublish_eq_some, held, Slots.get_set_self _ _ inside]
    exact ⟨rfl, generation _⟩

theorem Pooled.get_other (pooled : Pooled start stored count registry shared) {slot : Nat}
    (apart : PoolHasRoom start → slot ≠ ((sharedHandle start).getD ⟨0, 0⟩).slot) :
    registry.storedPublishes.get slot = start.storedPublishes.get slot := by
  cases pooled with
  | full count taken same => rw [same]
  | idle free same => rw [same]
  | holding free held =>
    have different := apart (poolHasRoom_iff.mpr ⟨_, free⟩)
    simp only [sharedHandle, free, Option.map_some, Option.getD_some] at different
    rw [held, Slots.get_set_ne _ _ different]

end

section

variable {codec : Codec} {message : Message} {now : Instant} {maxOutboxDrops : Nat} {qos : QoS}
  {session : SessionState maxSubs maxInflight} {bytes : Text maxOutboundFrameSize}

theorem frameOf_of_frameFor (encoded : frameFor codec message qos session = .ok bytes) :
    FrameOf codec message qos (SessionState.succPacketId session.packetIdCounter) ⟨bytes⟩ := by
  have sameId : qospidFor qos (assignedId session qos) =
      qospidFor qos (SessionState.succPacketId session.packetIdCounter) := by
    cases qos with
    | atMostOnce => rfl
    | atLeastOnce | exactlyOnce => rw [assignedId_of_ne (by decide)]
  unfold frameFor encodePublish at encoded
  rw [sameId] at encoded
  split at encoded
  · cases encoded
  · next qospid converted =>
    refine ⟨qospid, converted, ?_⟩
    split at encoded
    · cases encoded
    · next frame framed =>
      split at encoded
      · cases encoded
      · next same bounded =>
        cases encoded
        rw [Bounded.ofList?_eq_some.mp bounded]
        exact framed

theorem served_recipient (encoded : frameFor codec message qos session = .ok bytes)
    (start : SessionRegistry maxSessions maxSubs maxInflight) (room : session.outbox.items.length < maxOutboxDepth) :
    Served codec message now ((sharedHandle start).getD ⟨0, 0⟩) (PoolHasRoom start) qos session
      (recipient bytes qos now maxOutboxDrops (sharedHandle start) session) := by
  obtain ⟨outbox, pushed⟩ := Bounded.exists_push room ⟨bytes⟩
  have appended := (Bounded.push_eq_some.mp pushed).2
  have frame := frameOf_of_frameFor encoded
  rw [recipient, pushed]
  dsimp only
  split
  · next qos1 =>
    subst qos1
    have nextId : assignedId session .atLeastOnce = SessionState.succPacketId session.packetIdCounter :=
      assignedId_of_ne (by decide)
    have counted := numbered_packetIdCounter session .atLeastOnce
    have kept : (queuedSession session .atLeastOnce outbox).inflight = session.inflight :=
      numbered_inflight session .atLeastOnce
    by_cases records : session.inflight.items.length < maxInflight ∧ PoolHasRoom start
    · obtain ⟨slot, free⟩ := poolHasRoom_iff.mp records.2
      have available : (queuedSession session .atLeastOnce outbox).inflight.items.length < maxInflight := by
        rw [kept]
        exact records.1
      obtain ⟨inflight, _, result, added⟩ := recorded_of_room available (assignedId session .atLeastOnce) now
        ⟨slot, start.nextPublishGeneration⟩
      rw [sharedHandle, free, Option.map_some, result]
      refine ⟨⟨_, frame, appended⟩, counted, fun _ => ?_, fun unrecorded => absurd ⟨rfl, records⟩ unrecorded, ?_⟩
      · dsimp only
        rw [added, kept, nextId]
        rfl
      · rw [queuedSession, numbered_eq]
    · rw [recorded_eq_self]
      · refine ⟨⟨_, frame, appended⟩, counted, fun recorded => absurd recorded.2 records, fun _ => kept, ?_⟩
        rw [queuedSession, numbered_eq]
      · intro available
        rw [kept] at available
        cases free : start.storedPublishes.firstFree with
        | none => simp [sharedHandle, free]
        | some slot => exact absurd ⟨available, poolHasRoom_iff.mpr ⟨slot, free⟩⟩ records
  · next unnumbered =>
    refine ⟨⟨_, frame, appended⟩, numbered_packetIdCounter session qos, fun records => absurd records.1 unnumbered,
      fun _ => numbered_inflight session qos, ?_⟩
    rw [queuedSession, numbered_eq]

theorem recipient_full (full : session.outbox.items.length = maxOutboxDepth) (handle : Option StoredPublishHandle) :
    recipient bytes qos now maxOutboxDrops handle session = { session with
      outboxDrops := saturatingAddU8 session.outboxDrops 1
      quarantined := session.quarantined || decide (saturatingAddU8 session.outboxDrops 1 ≥ maxOutboxDrops)
      packetIdCounter := if qos = .atMostOnce then session.packetIdCounter
        else SessionState.succPacketId session.packetIdCounter } := by
  rw [recipient, Bounded.push_eq_none.mpr full]
  dsimp only
  rw [droppedSession, numbered_packetIdCounter, numbered_eq]

end

section

variable {codec : Codec} {message : Message} {now : Instant} {maxOutboxDrops : Nat} {senderId : SessionId}
  {broker : Broker maxSessions maxSubs maxInflight maxRetained} {sender : SessionState maxSubs maxInflight}

theorem mem_recipients {id : SessionId} {session : SessionState maxSubs maxInflight} {granted : QoS}
    (different : id ≠ senderId) (found : broker.registry.get id = some session)
    (highest : Granted session.subscriptions.items message.topic granted) :
    (id, granted) ∈ (findSubscribers (charged broker senderId sender now) message.topic senderId).items :=
  mem_collectSubscribers.mpr ⟨session, (charged_get_ne different).trans found, by simpa using different,
    matchedQos_eq_some.mpr highest⟩

theorem not_mem_recipients {id : SessionId}
    (unmatched : ∀ session granted, id ≠ senderId → broker.registry.get id = some session →
      ¬ Granted session.subscriptions.items message.topic granted) :
    id ∉ (findSubscribers (charged broker senderId sender now) message.topic senderId).items.map Prod.fst := by
  intro member
  obtain ⟨⟨other, granted⟩, listed, same⟩ := List.mem_map.mp member
  obtain rfl : other = id := same
  obtain ⟨session, found, wanted, matched⟩ := mem_collectSubscribers.mp listed
  have different : other ≠ senderId := by simpa using wanted
  rw [charged_get_ne different] at found
  exact unmatched session granted different found (matchedQos_eq_some.mp matched)

theorem progress_start (stored : Nat → StoredPublish) (start : SessionRegistry maxSessions maxSubs maxInflight)
    (signals : SessionSignals maxSessions) :
    Progress codec message now maxOutboxDrops start stored [] ⟨start, signals, none, []⟩ where
  reached := by simp
  unreached _ _ := rfl
  pooled := by
    cases free : start.storedPublishes.firstFree with
    | none => exact .full _ free rfl
    | some slot => exact .idle free rfl rfl

theorem Progress.effect {topic : Text 128} {payload : Text 512} {final : Fanout maxSessions maxSubs maxInflight}
    (sameTopic : topic.items = message.topic) (samePayload : payload.items = message.payload)
    (present : broker.registry.get senderId = some sender)
    (progress : Progress codec message now maxOutboxDrops (charged broker senderId sender now)
      (storedAs (charged broker senderId sender now) topic payload message.retain)
      (findSubscribers (charged broker senderId sender now) message.topic senderId).items final) :
    RoutingEffect codec message now maxOutboxDrops senderId
      ((sharedHandle broker.registry).getD ⟨0, 0⟩) broker.registry final.registry where
  sender state found := by
    rw [present] at found
    cases found
    rw [progress.unreached senderId (not_mem_recipients fun _ _ different => absurd rfl different)]
    exact SessionRegistry.get_put_self present _
  empty id missing := by
    have different : id ≠ senderId := by
      rintro rfl
      rw [present] at missing
      cases missing
    rw [progress.unreached id (not_mem_recipients fun _ _ _ found => by rw [missing] at found; cases found),
      charged_get_ne different, missing]
  unmatched id session different found none := by
    rw [progress.unreached id, charged_get_ne different, found]
    refine not_mem_recipients fun state granted _ stored highest => ?_
    rw [found] at stored
    cases stored
    obtain ⟨subscription, member, matching, _⟩ := highest.attained
    rw [none subscription member] at matching
    cases matching
  served id session granted different found highest room := by
    obtain ⟨bytes, encoded, reached⟩ := progress.reached id granted session (mem_recipients different found highest)
      ((charged_get_ne different).trans found)
    exact ⟨_, reached, served_recipient encoded (charged broker senderId sender now) room⟩
  stored id session granted different found highest room qos1 available poolRoom := by
    have positive : 0 < recording (charged broker senderId sender now) message
        (findSubscribers (charged broker senderId sender now) message.topic senderId).items := by
      refine List.countP_pos_iff.mpr ⟨_, mem_recipients different found highest, ?_⟩
      simpa [charged_get_ne different, found] using (show Records _ session from ⟨qos1, room, available⟩)
    exact ⟨_, progress.pooled.resolves positive poolRoom fun _ => rfl, sameTopic, samePayload, rfl⟩
  dropped id session granted different found highest full := by
    obtain ⟨bytes, _, reached⟩ := progress.reached id granted session (mem_recipients different found highest)
      ((charged_get_ne different).trans found)
    rw [reached, recipient_full full]
  otherStored slot apart := progress.pooled.get_other apart

end

theorem handlePublishAt_effect (codec : Codec) (accepts : MqttIntent → Bool) (senderId : SessionId)
    (broker : Broker maxSessions maxSubs maxInflight maxRetained) (packet : Publish) (now : Instant)
    (maxViolations maxOutboxDrops : Nat) {sender : SessionState maxSubs maxInflight}
    {retained : RetainedStore maxRetained} (slots : maxSessions < 65536) (follows : FollowsMqtt311 codec)
    (present : broker.registry.get senderId = some sender) (admitted : (sender.rate.tryConsume now).1 = true)
    (qos : packet.qospid.qos = .atMostOnce ∨ packet.qospid.qos = .atLeastOnce)
    (topicFits : packet.topicName.length ≤ 128) (fits : FitsAtQos1 codec packet.message)
    (kept : retain broker.retained packet.message = .ok retained) :
    let outcome := handlePublishAt codec accepts senderId broker packet now maxViolations maxOutboxDrops
    outcome.broker.retained = retained ∧ ∃ handle,
      RoutingEffect codec packet.message now maxOutboxDrops senderId handle broker.registry
        outcome.broker.registry := by
  intro outcome
  obtain ⟨topic, sameTopic⟩ : ∃ topic : Text 128, topic.items = packet.message.topic := ⟨⟨_, topicFits⟩, rfl⟩
  obtain ⟨payload, samePayload⟩ : ∃ payload : Text 512, payload.items = packet.message.payload :=
    ⟨⟨_, fits.payload_le follows⟩, rfl⟩
  let recipients := (findSubscribers (charged broker senderId sender now) packet.message.topic senderId).items
  have bounded : recipients.length < 65536 := Nat.lt_of_le_of_lt (Bounded.fits _) slots
  have encodes : ∀ subscriber ∈ recipients, ∃ session bytes,
      (charged broker senderId sender now).get subscriber.1 = some session ∧
        frameFor codec packet.message (minQos packet.message.qos subscriber.2) session = .ok bytes := by
    rintro ⟨id, granted⟩ member
    obtain ⟨session, found, _⟩ := mem_collectSubscribers.mp member
    obtain ⟨bytes, encoded⟩ := fits.frameFor follows qos granted session
    exact ⟨session, bytes, found, encoded⟩
  obtain ⟨final, delivered, progress⟩ := (progress_start _ (charged broker senderId sender now) broker.signals).fanOut
    sameTopic samePayload (collectSubscribers_nodup ..) bounded encodes
  have finished : outcome.broker = ⟨final.registry, retained, final.signals⟩ :=
    handlePublishAt_completed present admitted kept delivered
  rw [finished]
  exact ⟨rfl, _, progress.effect sameTopic samePayload present⟩

-- Slot 0 publishes at QoS 1; slot 1 asked for QoS 1 and slot 2 for QoS 0.
def effectBroker : Broker 3 1 1 1 :=
  let operations : List (Operation 3 1) :=
    [.connect (houseConnect [97] true none) gatomqttToken,
      .connect (houseConnect [98] true none) gatomqttToken,
      .connect (houseConnect [99] true none) gatomqttToken,
      .subscribe 1 ⟨.new, .truncate [⟨.truncate [116], .atLeastOnce⟩]⟩ .new,
      .subscribe 2 ⟨.new, .truncate [⟨.truncate [116], .atMostOnce⟩]⟩ .new]
  ⟨Operation.applyAll Mqtt311.codec operations, .new, .empty⟩

def effectPublish : Publish := ⟨false, .atLeastOnce .new, false, [116], [120]⟩

theorem handlePublishAt_effect_two_recipients :
    let outcome := handlePublishAt Mqtt311.codec (fun _ => true) 0 effectBroker effectPublish 0
      gatomqttConfig.maxViolations gatomqttConfig.maxOutboxDrops
    outcome.offered = [1, 2] ∧ ∃ handle,
      RoutingEffect Mqtt311.codec effectPublish.message 0 gatomqttConfig.maxOutboxDrops 0 handle
        effectBroker.registry outcome.broker.registry := by
  intro outcome
  have present : effectBroker.registry.get 0 = some (.new (.truncate [97]) 0) := by decide +kernel
  have fits : FitsAtQos1 Mqtt311.codec effectPublish.message :=
    ⟨.new, [50, 6, 0, 1, 116, 0, 1, 120], by decide +kernel⟩
  refine ⟨by decide +kernel, ?_⟩
  exact (handlePublishAt_effect Mqtt311.codec (fun _ => true) 0 effectBroker effectPublish 0
    gatomqttConfig.maxViolations gatomqttConfig.maxOutboxDrops (by decide) mqtt311_followsMqtt311 present
    (by decide +kernel) (.inr rfl) (by decide) fits rfl).2

end PicoBroker
