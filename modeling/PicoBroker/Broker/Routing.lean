import PicoBroker.Broker.Publish

set_option autoImplicit false

namespace PicoBroker

variable {maxSessions maxSubs maxInflight maxRetained : Nat}

def assignedId (session : SessionState maxSubs maxInflight) (qos : QoS) : Nat :=
  (packetIdFor session qos).1

def numbered (session : SessionState maxSubs maxInflight) (qos : QoS) : SessionState maxSubs maxInflight :=
  (packetIdFor session qos).2

theorem assignedId_of_ne {session : SessionState maxSubs maxInflight} {qos : QoS}
    (numberedQos : qos ≠ .atMostOnce) :
    assignedId session qos = SessionState.succPacketId session.packetIdCounter := by
  simp [assignedId, packetIdFor, numberedQos, SessionState.nextPacketId]

-- The counter never stands at an id that cannot be written.
theorem qospidFor_assignedId (session : SessionState maxSubs maxInflight) (qos : QoS) :
    ∃ qospid, qospidFor qos (assignedId session qos) = some qospid := by
  have converted : Pid.tryFrom (SessionState.succPacketId session.packetIdCounter) = some ⟨_,
      SessionState.succPacketId_pos _, SessionState.succPacketId_lt _⟩ :=
    dif_pos ⟨SessionState.succPacketId_pos _, SessionState.succPacketId_lt _⟩
  cases qos with
  | atMostOnce => exact ⟨.atMostOnce, rfl⟩
  | atLeastOnce =>
    rw [assignedId_of_ne (by decide), qospidFor, converted]
    exact ⟨_, rfl⟩
  | exactlyOnce =>
    rw [assignedId_of_ne (by decide), qospidFor, converted]
    exact ⟨_, rfl⟩

theorem numbered_eq (session : SessionState maxSubs maxInflight) (qos : QoS) :
    numbered session qos = { session with packetIdCounter := (numbered session qos).packetIdCounter } := by
  unfold numbered packetIdFor
  split <;> rfl

theorem numbered_packetIdCounter (session : SessionState maxSubs maxInflight) (qos : QoS) :
    (numbered session qos).packetIdCounter =
      if qos = .atMostOnce then session.packetIdCounter
      else SessionState.succPacketId session.packetIdCounter := by
  unfold numbered packetIdFor
  by_cases zero : qos = .atMostOnce <;> simp [zero, SessionState.nextPacketId]

@[simp] theorem numbered_clientId (session : SessionState maxSubs maxInflight) (qos : QoS) :
    (numbered session qos).clientId = session.clientId := by
  rw [numbered_eq]

@[simp] theorem numbered_subscriptions (session : SessionState maxSubs maxInflight) (qos : QoS) :
    (numbered session qos).subscriptions = session.subscriptions := by
  rw [numbered_eq]

@[simp] theorem numbered_inflight (session : SessionState maxSubs maxInflight) (qos : QoS) :
    (numbered session qos).inflight = session.inflight := by
  rw [numbered_eq]

@[simp] theorem numbered_outbox (session : SessionState maxSubs maxInflight) (qos : QoS) :
    (numbered session qos).outbox = session.outbox := by
  rw [numbered_eq]

@[simp] theorem numbered_outboxDrops (session : SessionState maxSubs maxInflight) (qos : QoS) :
    (numbered session qos).outboxDrops = session.outboxDrops := by
  rw [numbered_eq]

@[simp] theorem numbered_lwt (session : SessionState maxSubs maxInflight) (qos : QoS) :
    (numbered session qos).lwt = session.lwt := by
  rw [numbered_eq]

def frameFor (codec : Codec) (message : Message) (qos : QoS) (session : SessionState maxSubs maxInflight) :
    Except PublishError (Text maxOutboundFrameSize) :=
  encodePublish codec message.topic message.payload qos message.retain (assignedId session qos)

-- Only `encode_publish` ends the delivery loop, with the error of an oversize payload.
theorem frameFor_error {codec : Codec} {message : Message} {qos : QoS}
    {session : SessionState maxSubs maxInflight} {error : PublishError}
    (failed : frameFor codec message qos session = .error error) : error = .payloadTooLarge := by
  unfold frameFor encodePublish at failed
  split at failed
  · cases failed
    rfl
  · split at failed
    · cases failed
      rfl
    · split at failed
      · cases failed
        rfl
      · cases failed

def droppedSession (session : SessionState maxSubs maxInflight) (qos : QoS) (maxOutboxDrops : Nat) :
    SessionState maxSubs maxInflight :=
  { numbered session qos with
    outboxDrops := saturatingAddU8 session.outboxDrops 1
    quarantined := (numbered session qos).quarantined ||
      decide (saturatingAddU8 session.outboxDrops 1 ≥ maxOutboxDrops) }

def queuedSession (session : SessionState maxSubs maxInflight) (qos : QoS)
    (outbox : Bounded OutboundPacket maxOutboxDepth) : SessionState maxSubs maxInflight :=
  { numbered session qos with outbox := outbox }

theorem offer_cases (codec : Codec) (message : Message) (qos : QoS) (maxOutboxDrops : Nat)
    (session : SessionState maxSubs maxInflight) :
    (∃ error, frameFor codec message qos session = .error error ∧
      offer codec message qos maxOutboxDrops session = .failed (numbered session qos) error) ∨
    (∃ bytes, frameFor codec message qos session = .ok bytes ∧
      session.outbox.items.length = maxOutboxDepth ∧
      offer codec message qos maxOutboxDrops session =
        .dropped (droppedSession session qos maxOutboxDrops)) ∨
    (∃ bytes outbox, frameFor codec message qos session = .ok bytes ∧
      session.outbox.push ⟨bytes⟩ = some outbox ∧
      offer codec message qos maxOutboxDrops session =
        .queued (queuedSession session qos outbox) (assignedId session qos)) := by
  have counted : (packetIdFor session qos).2 = numbered session qos := rfl
  cases encoded : frameFor codec message qos session with
  | error error =>
    refine .inl ⟨error, rfl, ?_⟩
    unfold frameFor assignedId at encoded
    simp only [offer, encoded, counted]
  | ok bytes =>
    unfold frameFor assignedId at encoded
    cases pushed : session.outbox.push ⟨bytes⟩ with
    | none =>
      refine .inr (.inl ⟨bytes, rfl, Bounded.push_eq_none.mp pushed, ?_⟩)
      simp only [offer, encoded, counted, numbered_outbox, pushed, droppedSession, numbered_outboxDrops]
    | some outbox =>
      refine .inr (.inr ⟨bytes, outbox, rfl, pushed, ?_⟩)
      simp only [offer, encoded, counted, numbered_outbox, pushed, queuedSession, assignedId]

inductive Acquisition (registry : SessionRegistry maxSessions maxSubs maxInflight) (message : Message) :
    Option StoredPublishHandle → SessionRegistry maxSessions maxSubs maxInflight →
      Option StoredPublishHandle → Option StoredPublishHandle → Prop
  | refused {sharedPublish : Option StoredPublishHandle} (generation : Nat) :
      Acquisition registry message sharedPublish
        { registry with nextPublishGeneration := generation } sharedPublish none
  | stored {slot : Nat} {topic : Text 128} {payload : Text 512}
      (free : registry.storedPublishes.firstFree = some slot)
      (sameTopic : topic.items = message.topic) (samePayload : payload.items = message.payload)
      (generation : Nat) :
      Acquisition registry message none
        ({ registry with nextPublishGeneration := generation }.putStored slot
          (some ⟨topic, payload, message.retain, registry.nextPublishGeneration, 1⟩))
        (some ⟨slot, registry.nextPublishGeneration⟩) (some ⟨slot, registry.nextPublishGeneration⟩)
  | acquired {handle : StoredPublishHandle} {stored : StoredPublish}
      (found : registry.storedPublish handle = some stored) :
      Acquisition registry message (some handle)
        (registry.putStored handle.slot (some { stored with refcount := stored.refcount + 1 }))
        (some handle) (some handle)

theorem acquireSharedPublish_spec (registry : SessionRegistry maxSessions maxSubs maxInflight)
    (sharedPublish : Option StoredPublishHandle) (message : Message) :
    Acquisition registry message sharedPublish (acquireSharedPublish registry sharedPublish message).1
      (acquireSharedPublish registry sharedPublish message).2.1
      (acquireSharedPublish registry sharedPublish message).2.2 := by
  cases sharedPublish with
  | some handle =>
    simp only [acquireSharedPublish, SessionRegistry.acquireStoredPublish]
    cases found : registry.storedPublish handle with
    | none => exact .refused registry.nextPublishGeneration
    | some stored =>
      by_cases room : stored.refcount + 1 < 65536
      · simp only [room, if_true]
        exact .acquired found
      · simp only [room, if_false]
        exact .refused registry.nextPublishGeneration
  | none =>
    simp only [acquireSharedPublish, SessionRegistry.storePublishRef]
    cases free : registry.storedPublishes.firstFree with
    | none => exact .refused registry.nextPublishGeneration
    | some slot =>
      dsimp only
      cases topic : (Bounded.ofList? message.topic : Option (Text 128)) with
      | none => exact .refused _
      | some storedTopic =>
        dsimp only
        cases payload : (Bounded.ofList? message.payload : Option (Text 512)) with
        | none => exact .refused _
        | some storedPayload =>
          exact .stored free (Bounded.ofList?_eq_some.mp topic) (Bounded.ofList?_eq_some.mp payload) _

theorem Acquisition.same {registry after : SessionRegistry maxSessions maxSubs maxInflight}
    {message : Message} {before shared handle : Option StoredPublishHandle}
    (acquisition : Acquisition registry message before after shared handle) :
    registry.SameSessions after := by
  cases acquisition <;> exact ⟨rfl, rfl⟩

inductive Delivery (codec : Codec) (message : Message) (now : Instant) (maxOutboxDrops : Nat)
    (fanout : Fanout maxSessions maxSubs maxInflight) (id : SessionId) (qos : QoS) :
    Fanout maxSessions maxSubs maxInflight → Option PublishError → Prop
  | absent (missing : fanout.registry.get id = none) :
      Delivery codec message now maxOutboxDrops fanout id qos fanout none
  | failed {session : SessionState maxSubs maxInflight} {error : PublishError}
      (present : fanout.registry.get id = some session)
      (encoded : frameFor codec message qos session = .error error) :
      Delivery codec message now maxOutboxDrops fanout id qos
        { fanout with
          registry := fanout.registry.put id (numbered session qos) }
        (some error)
  | dropped {session : SessionState maxSubs maxInflight} {bytes : Text maxOutboundFrameSize}
      (present : fanout.registry.get id = some session)
      (encoded : frameFor codec message qos session = .ok bytes)
      (full : session.outbox.items.length = maxOutboxDepth) :
      Delivery codec message now maxOutboxDrops fanout id qos
        { fanout with
          registry := fanout.registry.put id (droppedSession session qos maxOutboxDrops)
          offered := fanout.offered ++ [id] } none
  | queued {session : SessionState maxSubs maxInflight} {bytes : Text maxOutboundFrameSize}
      {outbox : Bounded OutboundPacket maxOutboxDepth}
      (present : fanout.registry.get id = some session)
      (encoded : frameFor codec message qos session = .ok bytes)
      (pushed : session.outbox.push ⟨bytes⟩ = some outbox) (generation : Nat) :
      Delivery codec message now maxOutboxDrops fanout id qos
        { fanout with
          registry := { fanout.registry.put id (queuedSession session qos outbox) with
            nextPublishGeneration := generation }
          signals := signalSession fanout.signals id
          offered := fanout.offered ++ [id] } none
  | tracked {session : SessionState maxSubs maxInflight} {bytes : Text maxOutboundFrameSize}
      {outbox : Bounded OutboundPacket maxOutboxDepth} {inflight : Bounded InflightEntry maxInflight}
      {after : SessionRegistry maxSessions maxSubs maxInflight}
      {shared : Option StoredPublishHandle} {handle : StoredPublishHandle}
      (present : fanout.registry.get id = some session)
      (qos1 : qos = .atLeastOnce)
      (encoded : frameFor codec message .atLeastOnce session = .ok bytes)
      (pushed : session.outbox.push ⟨bytes⟩ = some outbox)
      (acquired : Acquisition
        (fanout.registry.put id (queuedSession session .atLeastOnce outbox))
        message fanout.sharedPublish after shared (some handle))
      (added : session.inflight.push ⟨assignedId session .atLeastOnce, handle, .atLeastOnce, now, 0⟩ =
        some inflight) :
      Delivery codec message now maxOutboxDrops fanout id qos
        ⟨after.put id { queuedSession session .atLeastOnce outbox with inflight := inflight },
          signalSession fanout.signals id, shared, fanout.offered ++ [id]⟩ none

theorem track_spec (message : Message) (now : Instant) (fanout : Fanout maxSessions maxSubs maxInflight)
    (id : SessionId) (packetId : Nat) {session : SessionState maxSubs maxInflight}
    (present : fanout.registry.get id = some session) :
    (∃ generation, track message now fanout id packetId =
      { fanout with registry := { fanout.registry with nextPublishGeneration := generation } }) ∨
    (∃ after shared handle inflight,
      Acquisition fanout.registry message fanout.sharedPublish after shared (some handle) ∧
      session.inflight.push ⟨packetId, handle, .atLeastOnce, now, 0⟩ = some inflight ∧
      track message now fanout id packetId =
        { fanout with registry := after.put id { session with inflight := inflight }
                      sharedPublish := shared }) := by
  rcases fanout with ⟨registry, signals, sharedPublish, offered⟩
  simp only [track, present]
  by_cases room : session.inflight.items.length < maxInflight
  · simp only [room, if_true]
    have spec := acquireSharedPublish_spec registry sharedPublish message
    generalize acquireSharedPublish registry sharedPublish message = result at spec ⊢
    rcases result with ⟨after, shared, _ | handle⟩
    · cases spec with
      | refused generation => exact .inl ⟨generation, rfl⟩
    · right
      have found : after.get id = some session := by rw [spec.same.get, present]
      obtain ⟨inflight, added⟩ := Bounded.exists_push room ⟨packetId, handle, .atLeastOnce, now, 0⟩
      refine ⟨after, shared, handle, inflight, spec, added, ?_⟩
      simp [found, SessionState.inflightAdd, added]
  · simp only [room, if_false]
    exact .inl ⟨registry.nextPublishGeneration, rfl⟩

theorem deliver_spec (codec : Codec) (message : Message) (now : Instant) (maxOutboxDrops : Nat)
    (fanout : Fanout maxSessions maxSubs maxInflight) (subscriber : SessionId × QoS) :
    Delivery codec message now maxOutboxDrops fanout subscriber.1 (minQos message.qos subscriber.2)
      (deliver codec message now maxOutboxDrops fanout subscriber).1
      (deliver codec message now maxOutboxDrops fanout subscriber).2 := by
  rcases subscriber with ⟨id, granted⟩
  simp only [deliver]
  generalize minQos message.qos granted = qos
  cases present : fanout.registry.get id with
  | none => exact .absent present
  | some session =>
    dsimp only
    obtain ⟨error, encoded, offered⟩ | ⟨bytes, encoded, full, offered⟩ |
      ⟨bytes, outbox, encoded, pushed, offered⟩ :=
        offer_cases codec message qos maxOutboxDrops session
    · rw [offered]
      exact .failed present encoded
    · rw [offered]
      exact .dropped present encoded full
    · rw [offered]
      dsimp only
      split
      · next qos1 =>
        subst qos1
        have queuedPresent := SessionRegistry.get_put_self present
          (queuedSession session .atLeastOnce outbox)
        obtain ⟨generation, tracked⟩ | ⟨after, shared, handle, inflight, acquired, added, tracked⟩ :=
          track_spec message now
            ⟨fanout.registry.put id (queuedSession session .atLeastOnce outbox),
              signalSession fanout.signals id, fanout.sharedPublish, fanout.offered ++ [id]⟩ id
            (assignedId session .atLeastOnce) queuedPresent
        · rw [tracked]
          exact .queued present encoded pushed generation
        · rw [tracked]
          exact .tracked present rfl encoded pushed acquired (by simpa [queuedSession] using added)
      · exact .queued present encoded pushed fanout.registry.nextPublishGeneration

theorem fanOut_induction {codec : Codec} {message : Message} {now : Instant} {maxOutboxDrops : Nat}
    {P : Fanout maxSessions maxSubs maxInflight → Prop}
    (step : ∀ before id qos after error, P before →
      Delivery codec message now maxOutboxDrops before id qos after error → P after)
    {fanout : Fanout maxSessions maxSubs maxInflight} (initial : P fanout)
    (subscribers : List (SessionId × QoS)) :
    P (fanOut codec message now maxOutboxDrops fanout subscribers).1 := by
  induction subscribers generalizing fanout with
  | nil => exact initial
  | cons subscriber rest ih =>
    have delivered := step _ _ _ _ _ initial
      (deliver_spec codec message now maxOutboxDrops fanout subscriber)
    simp only [fanOut]
    generalize deliver codec message now maxOutboxDrops fanout subscriber = result at delivered ⊢
    rcases result with ⟨next, _ | error⟩
    · exact ih delivered
    · exact delivered

def charged (broker : Broker maxSessions maxSubs maxInflight maxRetained) (senderId : SessionId)
    (sender : SessionState maxSubs maxInflight) (now : Instant) :
    SessionRegistry maxSessions maxSubs maxInflight :=
  broker.registry.put senderId { sender with rate := (sender.rate.tryConsume now).2 }

def routed (codec : Codec) (broker : Broker maxSessions maxSubs maxInflight maxRetained)
    (senderId : SessionId) (sender : SessionState maxSubs maxInflight) (message : Message) (now : Instant)
    (maxOutboxDrops : Nat) : Fanout maxSessions maxSubs maxInflight × Option PublishError :=
  fanOut codec message now maxOutboxDrops ⟨charged broker senderId sender now, broker.signals, none, []⟩
    (findSubscribers (charged broker senderId sender now) message.topic senderId).items

-- The delivery loop of `process_outbound_publish`.
def broadcastAll (codec : Codec) (broker : Broker maxSessions maxSubs maxInflight maxRetained) (message : Message)
    (now : Instant) : Fanout maxSessions maxSubs maxInflight × Option PublishError :=
  fanOut codec message now gatomqttConfig.maxOutboxDrops ⟨broker.registry, broker.signals, none, []⟩
    (findAllSubscribers broker.registry message.topic).items

theorem processOutboundPublish_eq (codec : Codec) {broker : Broker maxSessions maxSubs maxInflight maxRetained}
    {publish : MqttPublish} (now : Instant) {retained : RetainedStore maxRetained}
    (kept : retain broker.retained publish.message = .ok retained) :
    processOutboundPublish codec broker publish now =
      (⟨(broadcastAll codec broker publish.message now).1.registry, retained,
          (broadcastAll codec broker publish.message now).1.signals⟩,
        (broadcastAll codec broker publish.message now).2.elim (.ok ()) .error) := by
  simp only [processOutboundPublish, kept]
  have delivered : broadcastAll codec broker publish.message now =
      fanOut codec publish.message now gatomqttConfig.maxOutboxDrops ⟨broker.registry, broker.signals, none, []⟩
        (findAllSubscribers broker.registry publish.topic.items).items := rfl
  rw [← delivered]
  cases (broadcastAll codec broker publish.message now).2 <;> rfl

inductive Handling (codec : Codec) (accepts : MqttIntent → Bool) (senderId : SessionId)
    (broker : Broker maxSessions maxSubs maxInflight maxRetained) (packet : Publish) (now : Instant)
    (maxViolations maxOutboxDrops : Nat) : PublishOutcome maxSessions maxSubs maxInflight maxRetained → Prop
  | absent (missing : broker.registry.get senderId = none) :
      Handling codec accepts senderId broker packet now maxViolations maxOutboxDrops
        ⟨broker, [], none, .error (.senderNotFound senderId)⟩
  | limited {sender : SessionState maxSubs maxInflight}
      (present : broker.registry.get senderId = some sender)
      (refused : (sender.rate.tryConsume now).1 = false) :
      Handling codec accepts senderId broker packet now maxViolations maxOutboxDrops
        ⟨{ broker with registry := charged broker senderId sender now }, [], none,
          if (sender.rate.tryConsume now).2.violations ≥ maxViolations ∨
              packet.message.qos ≠ .atMostOnce then
            .error .rateLimitDisconnect
          else .ok ()⟩
  | unretained {sender : SessionState maxSubs maxInflight} {error : RetainedError}
      (present : broker.registry.get senderId = some sender)
      (admitted : (sender.rate.tryConsume now).1 = true)
      (refused : retain broker.retained packet.message = .error error) :
      Handling codec accepts senderId broker packet now maxViolations maxOutboxDrops
        ⟨{ broker with registry := charged broker senderId sender now }, [], none,
          .error (mapRetainedError error)⟩
  | aborted {sender : SessionState maxSubs maxInflight} {retained : RetainedStore maxRetained}
      {fanout : Fanout maxSessions maxSubs maxInflight} {error : PublishError}
      (present : broker.registry.get senderId = some sender)
      (admitted : (sender.rate.tryConsume now).1 = true)
      (kept : retain broker.retained packet.message = .ok retained)
      (failed : routed codec broker senderId sender packet.message now maxOutboxDrops =
        (fanout, some error)) :
      Handling codec accepts senderId broker packet now maxViolations maxOutboxDrops
        ⟨⟨fanout.registry, retained, fanout.signals⟩, fanout.offered, none, .error error⟩
  | completed {sender : SessionState maxSubs maxInflight} {retained : RetainedStore maxRetained}
      {fanout : Fanout maxSessions maxSubs maxInflight}
      (present : broker.registry.get senderId = some sender)
      (admitted : (sender.rate.tryConsume now).1 = true)
      (kept : retain broker.retained packet.message = .ok retained)
      (delivered : routed codec broker senderId sender packet.message now maxOutboxDrops =
        (fanout, none)) :
      Handling codec accepts senderId broker packet now maxViolations maxOutboxDrops
        ⟨⟨fanout.registry, retained, fanout.signals⟩, fanout.offered, (forwardCommand accepts packet.message).1,
          (forwardCommand accepts packet.message).2⟩

theorem handlePublishAt_spec (codec : Codec) (accepts : MqttIntent → Bool) (senderId : SessionId)
    (broker : Broker maxSessions maxSubs maxInflight maxRetained) (packet : Publish) (now : Instant)
    (maxViolations maxOutboxDrops : Nat) :
    Handling codec accepts senderId broker packet now maxViolations maxOutboxDrops
      (handlePublishAt codec accepts senderId broker packet now maxViolations maxOutboxDrops) := by
  simp only [handlePublishAt]
  cases present : broker.registry.get senderId with
  | none => exact .absent present
  | some sender =>
    dsimp only
    cases admitted : (sender.rate.tryConsume now).1 with
    | false =>
      have limited : Handling codec accepts senderId broker packet now maxViolations maxOutboxDrops _ :=
        .limited present admitted
      by_cases strikes : (sender.rate.tryConsume now).2.violations ≥ maxViolations
      · simpa [strikes, charged] using limited
      · by_cases numberedQos : packet.message.qos ≠ .atMostOnce
        · simpa [strikes, numberedQos, charged] using limited
        · simpa [strikes, numberedQos, charged] using limited
    | true =>
      cases kept : retain broker.retained packet.message with
      | error error => exact .unretained present admitted kept
      | ok retained =>
        cases delivered : routed codec broker senderId sender packet.message now maxOutboxDrops with
        | mk fanout failure =>
          have result : fanOut codec packet.message now maxOutboxDrops
              ⟨charged broker senderId sender now, broker.signals, none, []⟩
              (findSubscribers (charged broker senderId sender now) packet.message.topic senderId).items =
                (fanout, failure) := delivered
          simp only [charged] at result
          simp only [result, Bool.not_true, Bool.false_eq_true, if_false]
          cases failure with
          | some error => exact .aborted present admitted kept delivered
          | none => exact .completed present admitted kept delivered

-- The rate limit and the retained store let the message through to the delivery loop.
def Routable (retained : RetainedStore maxRetained) (sender : SessionState maxSubs maxInflight)
    (message : Message) (now : Instant) : Prop :=
  (sender.rate.tryConsume now).1 = true ∧
    (message.retain = true → retained.Storable message.topic message.payload)

theorem retain_ok_iff {store : RetainedStore maxRetained} {message : Message} :
    (∃ kept, retain store message = .ok kept) ↔
      (message.retain = true → store.Storable message.topic message.payload) := by
  unfold retain
  split
  · next flagged => simp [flagged, RetainedStore.set_ok_iff]
  · next unflagged => simp [unflagged]

section

variable {codec : Codec} {accepts : MqttIntent → Bool} {senderId : SessionId}
  {broker : Broker maxSessions maxSubs maxInflight maxRetained} {packet : Publish} {now : Instant}
  {maxViolations maxOutboxDrops : Nat} {sender : SessionState maxSubs maxInflight}

theorem handlePublishAt_routed (present : broker.registry.get senderId = some sender)
    (routable : Routable broker.retained sender packet.message now) :
    (handlePublishAt codec accepts senderId broker packet now maxViolations maxOutboxDrops).broker.registry =
      (routed codec broker senderId sender packet.message now maxOutboxDrops).1.registry := by
  have handled := handlePublishAt_spec codec accepts senderId broker packet now maxViolations maxOutboxDrops
  generalize handlePublishAt codec accepts senderId broker packet now maxViolations maxOutboxDrops = outcome
    at handled ⊢
  cases handled with
  | absent missing =>
    rw [present] at missing
    cases missing
  | limited found refused =>
    rw [present] at found
    cases found
    rw [routable.1] at refused
    cases refused
  | unretained found admitted refused =>
    obtain ⟨kept, ok⟩ := retain_ok_iff.mpr routable.2
    rw [refused] at ok
    cases ok
  | aborted found _ _ failed =>
    rw [present] at found
    cases found
    rw [failed]
  | completed found _ _ delivered =>
    rw [present] at found
    cases found
    rw [delivered]

theorem handlePublishAt_completed {retained : RetainedStore maxRetained}
    {fanout : Fanout maxSessions maxSubs maxInflight} (present : broker.registry.get senderId = some sender)
    (admitted : (sender.rate.tryConsume now).1 = true)
    (kept : retain broker.retained packet.message = .ok retained)
    (delivered : routed codec broker senderId sender packet.message now maxOutboxDrops = (fanout, none)) :
    (handlePublishAt codec accepts senderId broker packet now maxViolations maxOutboxDrops).broker =
      ⟨fanout.registry, retained, fanout.signals⟩ := by
  have handled := handlePublishAt_spec codec accepts senderId broker packet now maxViolations maxOutboxDrops
  generalize handlePublishAt codec accepts senderId broker packet now maxViolations maxOutboxDrops = outcome
    at handled ⊢
  cases handled with
  | absent missing =>
    rw [present] at missing
    cases missing
  | limited found refused =>
    rw [present] at found
    cases found
    rw [admitted] at refused
    cases refused
  | unretained _ _ refused =>
    rw [kept] at refused
    cases refused
  | aborted found _ _ failed =>
    rw [present] at found
    cases found
    rw [delivered] at failed
    cases failed
  | completed found _ stored finished =>
    rw [present] at found
    cases found
    rw [delivered] at finished
    cases finished
    rw [kept] at stored
    cases stored
    rfl

theorem handlePublishAt_unrouted (present : broker.registry.get senderId = some sender)
    (unroutable : ¬ Routable broker.retained sender packet.message now) :
    (handlePublishAt codec accepts senderId broker packet now maxViolations maxOutboxDrops).broker.registry =
      charged broker senderId sender now := by
  have handled := handlePublishAt_spec codec accepts senderId broker packet now maxViolations maxOutboxDrops
  generalize handlePublishAt codec accepts senderId broker packet now maxViolations maxOutboxDrops = outcome
    at handled ⊢
  cases handled with
  | absent missing =>
    rw [present] at missing
    cases missing
  | limited found =>
    rw [present] at found
    cases found
    rfl
  | unretained found =>
    rw [present] at found
    cases found
    rfl
  | aborted found admitted kept =>
    rw [present] at found
    cases found
    exact absurd ⟨admitted, retain_ok_iff.mp ⟨_, kept⟩⟩ unroutable
  | completed found admitted kept =>
    rw [present] at found
    cases found
    exact absurd ⟨admitted, retain_ok_iff.mp ⟨_, kept⟩⟩ unroutable

theorem handlePublishAt_absent (missing : broker.registry.get senderId = none) :
    (handlePublishAt codec accepts senderId broker packet now maxViolations maxOutboxDrops).broker = broker := by
  simp [handlePublishAt, missing]

end

end PicoBroker
