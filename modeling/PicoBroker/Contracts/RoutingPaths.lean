import PicoBroker.Broker.Fanout
import PicoBroker.Broker.Operations

set_option autoImplicit false

namespace PicoBroker

variable {maxSessions maxSubs maxInflight maxRetained : Nat}

section

variable {registry : SessionRegistry maxSessions maxSubs maxInflight} {id other : SessionId}

theorem SessionRegistry.put_comm (session state : SessionState maxSubs maxInflight) (different : other ≠ id) :
    (registry.put id session).put other state = (registry.put other state).put id session := by
  refine SessionRegistry.ext_get ?_ rfl rfl rfl
  intro slot
  simp only [SessionRegistry.get, SessionRegistry.put, Slots.get_set]
  grind

theorem releaseStoredPublish_put (handle : StoredPublishHandle) (session : SessionState maxSubs maxInflight) :
    (registry.put id session).releaseStoredPublish handle =
      (registry.releaseStoredPublish handle).put id session := by
  have found : (registry.put id session).storedPublish handle = registry.storedPublish handle := rfl
  simp only [SessionRegistry.releaseStoredPublish, found]
  cases registry.storedPublish handle with
  | none => rfl
  | some stored =>
    by_cases last : stored.refcount - 1 = 0
    · simp only [last, if_true]
      rfl
    · simp only [last, if_false]
      rfl

theorem acquireSharedPublish_put (sharedPublish : Option StoredPublishHandle) (message : Message)
    (session : SessionState maxSubs maxInflight) :
    acquireSharedPublish (registry.put id session) sharedPublish message =
      ((acquireSharedPublish registry sharedPublish message).1.put id session,
        (acquireSharedPublish registry sharedPublish message).2) := by
  cases sharedPublish with
  | some handle =>
    have found : (registry.put id session).storedPublish handle = registry.storedPublish handle := rfl
    simp only [acquireSharedPublish, SessionRegistry.acquireStoredPublish, found]
    cases registry.storedPublish handle with
    | none => rfl
    | some stored =>
      by_cases room : stored.refcount + 1 < 65536
      · simp only [room, if_true]
        rfl
      · simp only [room, if_false]
  | none =>
    simp only [acquireSharedPublish, SessionRegistry.storePublishRef, SessionRegistry.put_storedPublishes]
    cases registry.storedPublishes.firstFree with
    | none => rfl
    | some slot =>
      dsimp only
      cases (Bounded.ofList? message.topic : Option (Text 128)) with
      | none => rfl
      | some topic =>
        dsimp only
        cases (Bounded.ofList? message.payload : Option (Text 512)) <;> rfl

end

def Fanout.put (fanout : Fanout maxSessions maxSubs maxInflight) (id : SessionId)
    (session : SessionState maxSubs maxInflight) : Fanout maxSessions maxSubs maxInflight :=
  { fanout with registry := fanout.registry.put id session }

section

variable (codec : Codec) (message : Message) (now : Instant) (maxOutboxDrops : Nat)
  (fanout : Fanout maxSessions maxSubs maxInflight) {id other : SessionId}
  (session : SessionState maxSubs maxInflight)

theorem track_put (packetId : Nat) (different : other ≠ id) :
    track message now (fanout.put id session) other packetId =
      (track message now fanout other packetId).put id session := by
  have found : (fanout.put id session).registry.get other = fanout.registry.get other :=
    SessionRegistry.get_put_ne _ different
  simp only [track, found]
  cases fanout.registry.get other with
  | none => rfl
  | some receiver =>
    dsimp only
    split
    · simp only [Fanout.put, acquireSharedPublish_put]
      have spec := acquireSharedPublish_spec fanout.registry fanout.sharedPublish message
      generalize acquireSharedPublish fanout.registry fanout.sharedPublish message = result at spec ⊢
      rcases result with ⟨acquired, shared, _ | handle⟩
      · rfl
      · simp only [SessionRegistry.get_put_ne session different]
        cases (acquired.get other).bind fun receiver =>
            receiver.inflightAdd ⟨packetId, handle, .atLeastOnce, now, 0⟩ with
        | none => simp only [releaseStoredPublish_put]
        | some added => simp only [SessionRegistry.put_comm _ _ different]
    · rfl

theorem deliver_put (subscriber : SessionId × QoS) (different : subscriber.1 ≠ id) :
    deliver codec message now maxOutboxDrops (fanout.put id session) subscriber =
      ((deliver codec message now maxOutboxDrops fanout subscriber).1.put id session,
        (deliver codec message now maxOutboxDrops fanout subscriber).2) := by
  have found : (fanout.put id session).registry.get subscriber.1 = fanout.registry.get subscriber.1 :=
    SessionRegistry.get_put_ne _ different
  have moved (state : SessionState maxSubs maxInflight) :
      (fanout.put id session).registry.put subscriber.1 state =
        (fanout.registry.put subscriber.1 state).put id session :=
    SessionRegistry.put_comm _ _ different
  simp only [deliver, found]
  cases fanout.registry.get subscriber.1 with
  | none => rfl
  | some receiver =>
    dsimp only
    cases offer codec message (minQos message.qos subscriber.2) maxOutboxDrops receiver with
    | failed state error =>
      dsimp only
      rw [moved]
      rfl
    | dropped state =>
      dsimp only
      rw [moved]
      rfl
    | queued state packetId =>
      dsimp only
      rw [moved]
      split
      · rw [← track_put _ _ _ _ _ different]
        rfl
      · rfl

theorem fanOut_put {subscribers : List (SessionId × QoS)} (unvisited : id ∉ subscribers.map Prod.fst) :
    fanOut codec message now maxOutboxDrops (fanout.put id session) subscribers =
      ((fanOut codec message now maxOutboxDrops fanout subscribers).1.put id session,
        (fanOut codec message now maxOutboxDrops fanout subscribers).2) := by
  induction subscribers generalizing fanout with
  | nil => rfl
  | cons subscriber rest ih =>
    simp only [List.map_cons, List.mem_cons, not_or] at unvisited
    simp only [fanOut, deliver_put codec message now maxOutboxDrops fanout session subscriber (Ne.symm unvisited.1)]
    generalize deliver codec message now maxOutboxDrops fanout subscriber = result
    rcases result with ⟨next, _ | error⟩
    · exact ih next unvisited.2
    · rfl

end

section

variable {registry : SessionRegistry maxSessions maxSubs maxInflight} {senderId : SessionId}
  {sender : SessionState maxSubs maxInflight} {topic : Bytes}

theorem findSubscribers_eq_findAllSubscribers (present : registry.get senderId = some sender)
    (unmatched : matchedQos sender.subscriptions.items topic = none) (state : SessionState maxSubs maxInflight) :
    (findSubscribers (registry.put senderId state) topic senderId).items =
      (findAllSubscribers registry topic).items := by
  -- both lists are in slot order, so they are equal when they have the same members
  have ascending {left right : SessionId × QoS} (below : left.1 < right.1) (above : right.1 < left.1) :
      left = right := absurd above (Nat.lt_asymm below)
  refine List.Perm.eq_of_pairwise (fun _ _ _ _ => ascending) (collectSubscribers_increasing ..)
    (collectSubscribers_increasing ..) ?_
  refine (List.perm_ext_iff_of_nodup ?_ ?_).mpr ?_
  · exact (collectSubscribers_nodup ..).of_map
  · exact (collectSubscribers_nodup ..).of_map
  rintro ⟨id, granted⟩
  rw [findSubscribers, findAllSubscribers, mem_collectSubscribers, mem_collectSubscribers]
  by_cases here : id = senderId
  · simp [here, Subscribed, present, unmatched]
  · simp [here, Subscribed, SessionRegistry.get_put_ne _ here]

theorem not_mem_findAllSubscribers (present : registry.get senderId = some sender)
    (unmatched : matchedQos sender.subscriptions.items topic = none) :
    senderId ∉ (findAllSubscribers registry topic).items.map Prod.fst := by
  intro member
  obtain ⟨⟨_, granted⟩, listed, rfl⟩ := List.mem_map.mp member
  obtain ⟨session, found, _, matched⟩ := mem_collectSubscribers.mp listed
  rw [present] at found
  cases found
  rw [unmatched] at matched
  cases matched

variable {broker : Broker maxSessions maxSubs maxInflight maxRetained}

theorem routed_eq_put_broadcastAll (codec : Codec) (message : Message) (now : Instant)
    (present : broker.registry.get senderId = some sender)
    (unmatched : matchedQos sender.subscriptions.items message.topic = none) :
    routed codec broker senderId sender message now gatomqttConfig.maxOutboxDrops =
      ((broadcastAll codec broker message now).1.put senderId
          { sender with rate := (sender.rate.tryConsume now).2 },
        (broadcastAll codec broker message now).2) := by
  have unvisited := not_mem_findAllSubscribers present unmatched
  rw [routed, charged, findSubscribers_eq_findAllSubscribers present unmatched]
  exact fanOut_put codec message now gatomqttConfig.maxOutboxDrops
    ⟨broker.registry, broker.signals, none, []⟩ _ unvisited

end

structure RoutedAlike (senderId : SessionId) (handled : PublishOutcome maxSessions maxSubs maxInflight maxRetained)
    (outbound : Broker maxSessions maxSubs maxInflight maxRetained × Except PublishError Unit) : Prop where
  result : handled.result = outbound.2
  retained : handled.broker.retained = outbound.1.retained
  storedPublishes : handled.broker.registry.storedPublishes = outbound.1.registry.storedPublishes
  generation : handled.broker.registry.nextPublishGeneration = outbound.1.registry.nextPublishGeneration
  sessions : ∀ id, id ≠ senderId → handled.broker.registry.get id = outbound.1.registry.get id
  signals : handled.broker.signals = outbound.1.signals
  publishedLwts : handled.broker.registry.publishedLwts = outbound.1.registry.publishedLwts

theorem routedAlike_put {registry : SessionRegistry maxSessions maxSubs maxInflight}
    {retained : RetainedStore maxRetained} {signals : SessionSignals maxSessions} {senderId : SessionId}
    {state : SessionState maxSubs maxInflight} {offered : List SessionId} {intent : Option MqttIntent}
    {result : Except PublishError Unit} :
    RoutedAlike senderId ⟨⟨registry.put senderId state, retained, signals⟩, offered, intent, result⟩
      (⟨registry, retained, signals⟩, result) :=
  ⟨rfl, rfl, rfl, rfl, fun _ different => SessionRegistry.get_put_ne _ different, rfl, rfl⟩

theorem handlePublishAt_processOutboundPublish (codec : Codec) (accepts : MqttIntent → Bool)
    (senderId : SessionId) (broker : Broker maxSessions maxSubs maxInflight maxRetained) (packet : Publish)
    (publish : MqttPublish) (now : Instant) (maxViolations : Nat) {sender : SessionState maxSubs maxInflight}
    (same : packet.message = publish.message) (present : broker.registry.get senderId = some sender)
    (token : (sender.rate.tryConsume now).1 = true)
    (unmatched : ∀ subscription ∈ sender.subscriptions.items,
      topicMatches subscription.filter.items publish.topic.items = false)
    (uncommanded : isCommandTopic publish.topic.items = false) :
    RoutedAlike senderId
      (handlePublishAt codec accepts senderId broker packet now maxViolations gatomqttConfig.maxOutboxDrops)
      (processOutboundPublish codec broker publish now) := by
  have delivered := routed_eq_put_broadcastAll codec publish.message now present
    (matchedQos_eq_none.mpr unmatched)
  have unforwarded : forwardCommand accepts publish.message = (none, .ok ()) := by
    simp [forwardCommand, MqttPublish.message, uncommanded]
  have handled := handlePublishAt_spec codec accepts senderId broker packet now maxViolations
    gatomqttConfig.maxOutboxDrops
  generalize handlePublishAt codec accepts senderId broker packet now maxViolations
    gatomqttConfig.maxOutboxDrops = outcome at handled ⊢
  cases handled with
  | absent missing =>
    rw [present] at missing
    cases missing
  | limited found refused =>
    rw [present] at found
    cases found
    rw [token] at refused
    cases refused
  | unretained found _ refused =>
    rw [present] at found
    cases found
    rw [processOutboundPublish, ← same, refused]
    exact routedAlike_put
  | aborted found _ kept failed =>
    rw [present] at found
    cases found
    rw [same] at kept failed
    obtain ⟨rfl, failure⟩ := Prod.mk.inj (delivered.symm.trans failed)
    rw [processOutboundPublish_eq codec now kept, failure]
    exact routedAlike_put
  | completed found _ kept completed =>
    rw [present] at found
    cases found
    rw [same] at kept completed
    obtain ⟨rfl, failure⟩ := Prod.mk.inj (delivered.symm.trans completed)
    rw [processOutboundPublish_eq codec now kept, failure, same, unforwarded]
    exact routedAlike_put

-- Slot 1 subscribes at QoS 1 to the topic slot 0 publishes on.
def pathsBroker : Broker 2 1 1 1 :=
  let operations : List (Operation 2 1) :=
    [.connect (houseConnect [97] true none) gatomqttToken,
      .connect (houseConnect [98] true none) gatomqttToken,
      .subscribe 1 ⟨.new, .truncate [⟨.truncate [116], .atLeastOnce⟩]⟩ .new]
  ⟨Operation.applyAll Mqtt311.codec operations, .new, .empty⟩

theorem handlePublishAt_processOutboundPublish_retained :
    let publish : MqttPublish := ⟨.truncate [116], .truncate [120], .atLeastOnce, true⟩
    let packet : Publish := ⟨false, .atLeastOnce .new, true, [116], [120]⟩
    let handled := handlePublishAt Mqtt311.codec (fun _ => false) 0 pathsBroker packet 0 gatomqttConfig.maxViolations
      gatomqttConfig.maxOutboxDrops
    pathsBroker.registry.get 0 = some (.new (.truncate [97]) 0) ∧ handled.offered = [1] ∧
      RoutedAlike 0 handled (processOutboundPublish Mqtt311.codec pathsBroker publish 0) := by
  intro publish packet handled
  have present : pathsBroker.registry.get 0 = some (.new (.truncate [97]) 0) := by decide +kernel
  refine ⟨present, by decide +kernel, ?_⟩
  exact handlePublishAt_processOutboundPublish Mqtt311.codec (fun _ => false) 0 pathsBroker packet publish 0
    gatomqttConfig.maxViolations rfl present (by decide +kernel) (by simp [SessionState.new]) (by decide +kernel)

end PicoBroker
