import PicoBroker.Broker.Connection
import PicoBroker.Broker.Fanout
import PicoBroker.Broker.Operations

set_option autoImplicit false

namespace PicoBroker

variable {maxSessions maxSubs maxInflight maxRetained : Nat}

-- Queued at the end of the outbox, or counted as a drop of a full one.
def Offered (codec : Codec) (message : Message) (qos : QoS) (old new : SessionState maxSubs maxInflight) :
    Prop :=
  ∃ frame, frameFor codec message qos old = .ok frame ∧
    (new.outbox.items = old.outbox.items ++ [⟨frame⟩] ∨
      old.outbox.items.length = maxOutboxDepth ∧ new.outboxDrops = saturatingAddU8 old.outboxDrops 1)

structure Kept (codec : Codec) (slot : SessionId) (message : Message)
    (before : SessionRegistry maxSessions maxSubs maxInflight)
    (outcome : PublishOutcome maxSessions maxSubs maxInflight maxRetained) : Prop where
  retained : message.retain = true →
    outcome.broker.retained.Reflects message.topic message.payload message.qos
  offered : ∀ id session granted, before.get id = some session →
    Subscribed (isSender slot) message.topic id session granted →
    id ∈ outcome.offered ∧ ∃ new, outcome.broker.registry.get id = some new ∧
      Offered codec message (minQos message.qos granted) session new
  command : isCommandTopic message.topic = true → ∃ intent, outcome.intent = some intent ∧
    intent.topic.items = message.topic ∧ intent.payload.items = message.payload ∧ intent.qos = message.qos
  processed : outcome.result = .ok ()

structure Processable (codec : Codec) (slot : SessionId) (message : Message)
    (registry : SessionRegistry maxSessions maxSubs maxInflight) (retained : RetainedStore maxRetained) :
    Prop where
  retainable : message.retain = true → retained.Storable message.topic message.payload
  encodes : ∀ id session granted, registry.get id = some session →
    Subscribed (isSender slot) message.topic id session granted →
    ∃ frame, frameFor codec message (minQos message.qos granted) session = .ok frame
  command : isCommandTopic message.topic = true →
    message.topic.length ≤ 128 ∧ message.payload.length ≤ 512

def Disconnects (result : Except PublishError Unit) : Prop :=
  result = .error .rateLimitDisconnect ∨ result = .error .commandHandlerOverloaded

section

variable {codec : Codec} {message : Message} {now : Instant} {maxOutboxDrops : Nat}

theorem Received.offered {old new : SessionState maxSubs maxInflight} {qos : QoS}
    {frame : Text maxOutboundFrameSize} (received : Received codec message now maxOutboxDrops old qos new)
    (encoded : frameFor codec message qos old = .ok frame) : Offered codec message qos old new := by
  refine ⟨frame, encoded, ?_⟩
  cases received with
  | failed failed =>
    rw [encoded] at failed
    cases failed
  | dropped _ full => exact .inr ⟨full, rfl⟩
  | queued found pushed =>
    rw [encoded] at found
    cases found
    exact .inl (Bounded.push_eq_some.mp pushed).2
  | tracked _ found pushed =>
    rw [encoded] at found
    cases found
    exact .inl (Bounded.push_eq_some.mp pushed).2

end

theorem mapRetainedError_not_disconnects (error : RetainedError) :
    ¬ Disconnects (.error (mapRetainedError error)) := by
  cases error <;> simp [Disconnects, mapRetainedError]

section

variable {codec : Codec} {accepts : MqttIntent → Bool} {slot : SessionId}
  {broker : Broker maxSessions maxSubs maxInflight maxRetained} {message : Message} {now : Instant}
  {maxOutboxDrops : Nat} {sender : SessionState maxSubs maxInflight}

theorem not_processable_of_refused {error : RetainedError}
    (refused : retain broker.retained message = .error error) :
    ¬ Processable codec slot message broker.registry broker.retained := by
  intro processable
  obtain ⟨kept, ok⟩ := retain_ok_iff.mpr processable.retainable
  rw [refused] at ok
  cases ok

theorem routed_failed {error : PublishError}
    (failed : (routed codec broker slot sender message now maxOutboxDrops).2 = some error) :
    ∃ id session granted, broker.registry.get id = some session ∧
      Subscribed (isSender slot) message.topic id session granted ∧
      frameFor codec message (minQos message.qos granted) session = .error error := by
  rw [routed_eq_broadcast] at failed
  obtain ⟨id, session, granted, present, subscribed, unencoded⟩ := broadcast_failure_eq_some failed
  have same : (charged broker slot sender now).get id = broker.registry.get id :=
    charged_get_ne (by simpa [isSender] using subscribed.1)
  exact ⟨id, session, granted, same.symm.trans present, subscribed, unencoded⟩

theorem routed_offers (completed : (routed codec broker slot sender message now maxOutboxDrops).2 = none)
    {id : SessionId} {session : SessionState maxSubs maxInflight} {granted : QoS}
    (present : broker.registry.get id = some session)
    (subscribed : Subscribed (isSender slot) message.topic id session granted) :
    id ∈ (routed codec broker slot sender message now maxOutboxDrops).1.offered ∧
      ∃ new, (routed codec broker slot sender message now maxOutboxDrops).1.registry.get id = some new ∧
        Offered codec message (minQos message.qos granted) session new := by
  have encodes := routed_failure_iff.mp completed
  have reached : ¬ Blocked codec message (charged broker slot sender now) (isSender slot) id := by
    rw [blocked_charged_iff]
    rintro ⟨lower, _, other, qos, error, found, matched, failed⟩
    obtain ⟨frame, ok⟩ := encodes lower other qos found matched
    rw [ok] at failed
    cases failed
  have found : (charged broker slot sender now).get id = some session :=
    (charged_get_ne (by simpa [isSender] using subscribed.1)).trans present
  rw [routed_eq_broadcast] at completed ⊢
  obtain ⟨new, stored, received⟩ : ∃ new, (broadcast codec message now maxOutboxDrops (isSender slot)
      ⟨charged broker slot sender now, broker.signals, none, []⟩).1.registry.get id = some new ∧
      Received codec message now maxOutboxDrops session (minQos message.qos granted) new :=
    broadcast_received found subscribed reached
  obtain ⟨frame, encoded⟩ := encodes id session granted present subscribed
  exact ⟨broadcast_offered completed found subscribed, new, stored, received.offered encoded⟩

-- A command that fits is handed to the handler, whether or not the handler takes it.
theorem forwardCommand_fitting (accepts : MqttIntent → Bool) (command : isCommandTopic message.topic = true)
    (topicFits : message.topic.length ≤ 128) (payloadFits : message.payload.length ≤ 512) :
    ∃ intent : MqttIntent, (intent.topic.items = message.topic ∧ intent.payload.items = message.payload ∧
        intent.qos = message.qos) ∧
      (forwardCommand accepts message = (some intent, .ok ()) ∨
        forwardCommand accepts message = (some intent, .error .commandHandlerOverloaded)) := by
  refine ⟨⟨⟨message.topic, topicFits⟩, ⟨message.payload, payloadFits⟩, message.qos⟩, ⟨rfl, rfl, rfl⟩, ?_⟩
  simp only [forwardCommand, command, if_true, Bounded.ofList?, topicFits, payloadFits, dif_pos]
  split
  · exact .inl rfl
  · split
    · exact .inr rfl
    · exact .inl rfl

theorem forwardCommand_given (accepts : MqttIntent → Bool) (command : isCommandTopic message.topic = true)
    (topicFits : message.topic.length ≤ 128) (payloadFits : message.payload.length ≤ 512) :
    ∃ intent, (forwardCommand accepts message).1 = some intent ∧ intent.topic.items = message.topic ∧
      intent.payload.items = message.payload ∧ intent.qos = message.qos := by
  obtain ⟨intent, same, given | given⟩ := forwardCommand_fitting accepts command topicFits payloadFits
  · exact ⟨intent, congrArg Prod.fst given, same⟩
  · exact ⟨intent, congrArg Prod.fst given, same⟩

theorem forwardCommand_ok (accepts : MqttIntent → Bool)
    (fits : isCommandTopic message.topic = true → message.topic.length ≤ 128 ∧ message.payload.length ≤ 512)
    (acknowledged : ¬ Disconnects (forwardCommand accepts message).2) :
    (forwardCommand accepts message).2 = .ok () := by
  cases command : isCommandTopic message.topic with
  | false => simp [forwardCommand, command]
  | true =>
    obtain ⟨topicFits, payloadFits⟩ := fits command
    obtain ⟨intent, _, given | given⟩ := forwardCommand_fitting accepts command topicFits payloadFits
    · exact congrArg Prod.snd given
    · exact absurd (.inr (congrArg Prod.snd given)) acknowledged

theorem forwardCommand_oversize (accepts : MqttIntent → Bool)
    (command : isCommandTopic message.topic = true)
    (oversize : ¬ (message.topic.length ≤ 128 ∧ message.payload.length ≤ 512)) :
    (forwardCommand accepts message).1 = none ∧ ¬ Disconnects (forwardCommand accepts message).2 := by
  simp only [forwardCommand, command, if_true, Bounded.ofList?]
  by_cases topicFits : message.topic.length ≤ 128
  · have payloadLong : ¬ message.payload.length ≤ 512 := fun fits => oversize ⟨topicFits, fits⟩
    simp [topicFits, payloadLong, Disconnects]
  · simp [topicFits, Disconnects]

-- A publish whose fan-out stopped at a subscriber is answered all the same, and keeps nothing to it.
theorem kept_aborted_iff {retained : RetainedStore maxRetained} {fanout : Fanout maxSessions maxSubs maxInflight}
    {error : PublishError}
    (failed : routed codec broker slot sender message now maxOutboxDrops = (fanout, some error)) :
    (¬ Disconnects (.error error) → Kept codec slot message broker.registry
        ⟨⟨fanout.registry, retained, fanout.signals⟩, fanout.offered, none, .error error⟩) ↔
      Processable codec slot message broker.registry broker.retained := by
  obtain ⟨id, session, granted, stored, subscribed, unencoded⟩ := routed_failed (congrArg Prod.snd failed)
  have unfinished : ¬ ∃ frame,
      frameFor codec message (minQos message.qos granted) session = .ok frame := by
    rintro ⟨frame, ok⟩
    rw [unencoded] at ok
    cases ok
  refine iff_of_false ?_ ?_
  · intro keeps
    cases (keeps (by simp [frameFor_error unencoded, Disconnects])).processed
  · intro processable
    exact unfinished (processable.encodes id session granted stored subscribed)

-- With the fan-out complete only a command too large for its queue can still go missing.
theorem kept_completed_iff {retained : RetainedStore maxRetained} {fanout : Fanout maxSessions maxSubs maxInflight}
    (kept : retain broker.retained message = .ok retained)
    (delivered : routed codec broker slot sender message now maxOutboxDrops = (fanout, none)) :
    (¬ Disconnects (forwardCommand accepts message).2 → Kept codec slot message broker.registry
        ⟨⟨fanout.registry, retained, fanout.signals⟩, fanout.offered, (forwardCommand accepts message).1,
          (forwardCommand accepts message).2⟩) ↔
      Processable codec slot message broker.registry broker.retained := by
  have finished : (routed codec broker slot sender message now maxOutboxDrops).2 = none :=
    congrArg Prod.snd delivered
  have storable := retain_ok_iff.mp ⟨retained, kept⟩
  have reflected : message.retain = true → retained.Reflects message.topic message.payload message.qos := by
    intro flagged
    rw [retain, if_pos flagged] at kept
    exact RetainedStore.set_ok_reflects kept
  have offered (id : SessionId) (session : SessionState maxSubs maxInflight) (granted : QoS)
      (stored : broker.registry.get id = some session)
      (subscribed : Subscribed (isSender slot) message.topic id session granted) :
      id ∈ fanout.offered ∧ ∃ new, fanout.registry.get id = some new ∧
        Offered codec message (minQos message.qos granted) session new := by
    have offers := routed_offers finished stored subscribed
    rwa [delivered] at offers
  constructor
  · intro keeps
    refine ⟨storable, routed_failure_iff.mp finished, ?_⟩
    intro command
    by_contra oversize
    obtain ⟨withheld, acknowledged⟩ := forwardCommand_oversize accepts command oversize
    obtain ⟨intent, given, _⟩ := (keeps acknowledged).command command
    rw [withheld] at given
    cases given
  · intro processable acknowledged
    refine ⟨reflected, offered, ?_, forwardCommand_ok accepts processable.command acknowledged⟩
    intro command
    obtain ⟨topicFits, payloadFits⟩ := processable.command command
    exact forwardCommand_given accepts command topicFits payloadFits

theorem handlePublishAt_promise {packet : Publish} {maxViolations : Nat}
    (present : broker.registry.get slot = some sender)
    (admitted : (sender.rate.tryConsume now).1 = true) :
    let outcome := handlePublishAt codec accepts slot broker packet now maxViolations maxOutboxDrops
    (¬ Disconnects outcome.result → Kept codec slot packet.message broker.registry outcome) ↔
      Processable codec slot packet.message broker.registry broker.retained := by
  intro outcome
  have handled := handlePublishAt_spec codec accepts slot broker packet now maxViolations maxOutboxDrops
  change Handling codec accepts slot broker packet now maxViolations maxOutboxDrops outcome at handled
  generalize outcome = outcome at handled
  cases handled with
  | absent missing =>
    rw [present] at missing
    cases missing
  | limited found refused =>
    rw [present] at found
    cases found
    rw [admitted] at refused
    cases refused
  | unretained _ _ refused =>
    refine iff_of_false ?_ (not_processable_of_refused refused)
    intro keeps
    cases (keeps (mapRetainedError_not_disconnects _)).processed
  | aborted _ _ _ failed => exact kept_aborted_iff failed
  | completed _ _ kept delivered => exact kept_completed_iff kept delivered

end

theorem beginCleanup_ne_write (slot : SessionId) (reason : DisconnectReason) (packet : Packet)
    (rest : List Packet) : beginCleanup slot reason ≠ .write slot packet rest := by
  unfold beginCleanup
  split <;> simp

section

variable {codec : Codec} {slot : SessionId} {message : Message}
  {left right : SessionRegistry maxSessions maxSubs maxInflight}

theorem Kept.congr {outcome : PublishOutcome maxSessions maxSubs maxInflight maxRetained}
    (same : ∀ id, id ≠ slot → right.get id = left.get id) (kept : Kept codec slot message left outcome) :
    Kept codec slot message right outcome where
  retained := kept.retained
  offered id session granted present subscribed :=
    kept.offered id session granted
      ((same id (by simpa [isSender] using subscribed.1)).symm.trans present) subscribed
  command := kept.command
  processed := kept.processed

theorem Processable.congr {retained : RetainedStore maxRetained}
    (same : ∀ id, id ≠ slot → right.get id = left.get id)
    (processable : Processable codec slot message left retained) :
    Processable codec slot message right retained where
  retainable := processable.retainable
  encodes id session granted present subscribed :=
    processable.encodes id session granted
      ((same id (by simpa [isSender] using subscribed.1)).symm.trans present) subscribed
  command := processable.command

end

theorem afterPublish_acknowledges {slot : SessionId} {publish : Publish} {pid : Pid}
    {result : Except PublishError Unit} (qos1 : publish.qospid = .atLeastOnce pid) :
    afterPublish slot publish result = .write slot (.puback pid) [] ↔ ¬ Disconnects result := by
  unfold afterPublish Disconnects
  split
  · simp [beginCleanup_ne_write]
  · simp [beginCleanup_ne_write]
  · next limited overloaded => simpa [qos1, not_or] using ⟨limited, overloaded⟩

theorem limited_disconnects {codec : Codec} {accepts : MqttIntent → Bool} {slot : SessionId}
    {broker : Broker maxSessions maxSubs maxInflight maxRetained} {packet : Publish} {now : Instant}
    {maxViolations maxOutboxDrops : Nat} {sender : SessionState maxSubs maxInflight}
    (present : broker.registry.get slot = some sender) (refused : (sender.rate.tryConsume now).1 = false)
    (numberedQos : packet.message.qos ≠ .atMostOnce) :
    Disconnects
      (handlePublishAt codec accepts slot broker packet now maxViolations maxOutboxDrops).result := by
  left
  simp [handlePublishAt, present, refused, numberedQos]

theorem publishStep_puback_promise_iff (env : Env)
    (broker : Broker maxSessions maxSubs maxInflight maxRetained) (slot : SessionId) (dup : Bool) (pid : Pid)
    (retainFlag : Bool) (topic payload : Bytes) (activityNow now : Instant) (accepts : Bool) :
    let publish : Publish := ⟨dup, .atLeastOnce pid, retainFlag, topic, payload⟩
    let step := publishStep env broker slot publish activityNow now accepts
    (step.2 = .write slot (.puback pid) [] →
        Kept env.codec slot publish.message broker.registry step.1) ↔
      ∀ sender, broker.registry.get slot = some sender → (sender.rate.tryConsume now).1 = true →
        Processable env.codec slot publish.message broker.registry broker.retained := by
  intro publish step
  cases present : broker.registry.get slot with
  | none =>
    refine iff_of_true ?_ (by simp)
    simp [step, publishStep, present, beginCleanup_ne_write]
  | some sender =>
    let touched := { broker with
      registry := broker.registry.put slot (sender.updateActivityAt activityNow) }
    have stepEq : step = (handlePublish env.codec (fun _ => accepts) slot touched publish now,
        afterPublish slot publish
          (handlePublish env.codec (fun _ => accepts) slot touched publish now).result) := by
      simp [step, publishStep, present, touched]
    have senderPresent : touched.registry.get slot = some (sender.updateActivityAt activityNow) :=
      SessionRegistry.get_put_self present _
    have others : ∀ id, id ≠ slot → touched.registry.get id = broker.registry.get id :=
      fun id different => SessionRegistry.get_put_ne _ different
    rw [stepEq, afterPublish_acknowledges rfl]
    cases admitted : (sender.rate.tryConsume now).1 with
    | false =>
      have disconnects : Disconnects
          (handlePublish env.codec (fun _ => accepts) slot touched publish now).result :=
        limited_disconnects senderPresent admitted (by simp [publish, Publish.message, QosPid.qos])
      exact iff_of_true (fun acknowledged => absurd disconnects acknowledged) (by simp [admitted])
    | true =>
      have promise : (¬ Disconnects _ → Kept env.codec slot publish.message touched.registry
          (handlePublish env.codec (fun _ => accepts) slot touched publish now)) ↔ _ :=
        handlePublishAt_promise senderPresent admitted
      constructor
      · intro keeps _ _ _
        exact (promise.mp fun acknowledged => (keeps acknowledged).congr others).congr
          fun id different => (others id different).symm
      · intro processable acknowledged
        exact (promise.mpr ((processable sender rfl admitted).congr others) acknowledged).congr
          fun id different => (others id different).symm

-- A frame with 300 bytes of payload does not fit into 192 bytes.
def promiseBroker : Broker 2 1 1 1 :=
  let operations : List (Operation 2 1) :=
    [.connect (houseConnect [97] true none) gatomqttToken,
      .connect (houseConnect [98] true none) gatomqttToken,
      .subscribe 1 ⟨.new, .truncate [⟨.truncate [116], .atMostOnce⟩]⟩ .new]
  ⟨Operation.applyAll Mqtt311.codec operations, .new, .empty⟩

def promiseSubscriber : SessionState 1 1 :=
  { (SessionState.new (.truncate [98]) 0 : SessionState 1 1) with
    subscriptions := .truncate [⟨.truncate [116], .atMostOnce⟩] }

theorem publishStep_puback_without_delivery :
    let publish : Publish := ⟨false, .atLeastOnce .new, false, [116], List.replicate 300 120⟩
    let step := publishStep ⟨Mqtt311.codec, gatomqttConfig, 1024⟩ promiseBroker 0 publish 0 0 true
    step.2 = .write 0 (.puback .new) [] ∧
      ¬ Kept Mqtt311.codec 0 publish.message promiseBroker.registry step.1 := by
  intro publish step
  refine ⟨by decide +kernel, ?_⟩
  intro kept
  have present : promiseBroker.registry.get 1 = some promiseSubscriber := by decide +kernel
  have matched : matchedQos promiseSubscriber.subscriptions.items publish.message.topic =
      some .atMostOnce := by decide +kernel
  have offered := (kept.offered 1 promiseSubscriber .atMostOnce present ⟨rfl, matched⟩).1
  have nobody : step.1.offered = [] := by decide +kernel
  rw [nobody] at offered
  cases offered

end PicoBroker
