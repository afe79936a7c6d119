import PicoBroker.Broker.Operations
import PicoBroker.Contracts.Deliverability
import PicoBroker.Contracts.SubscriberIsolation

set_option autoImplicit false

namespace PicoBroker

variable {maxSessions maxSubs maxInflight maxRetained : Nat}

def Publish.flagged (packet : Publish) (retain : Bool) : Publish := { packet with retain := retain }

def Message.flagged (message : Message) (retain : Bool) : Message := { message with retain := retain }

def DiffersInRetain (plain retained : OutboundPacket) : Prop :=
  ∃ header rest, plain.bytes.items = header :: rest ∧ retained.bytes.items = (header ||| 1) :: rest ∧
    header &&& 1 = 0

-- The same sessions are sent the same frames but for the retain flag.
structure ServedAlike (registry : SessionRegistry maxSessions maxSubs maxInflight)
    (plain retained : PublishOutcome maxSessions maxSubs maxInflight maxRetained) : Prop where
  absent : ∀ id, registry.get id = none →
    plain.broker.registry.get id = none ∧ retained.broker.registry.get id = none
  queued : ∀ id session, registry.get id = some session →
    ∃ plainOutbox retainedOutbox plainFrames retainedFrames,
      outboxOf plain.broker.registry id = some plainOutbox ∧
      outboxOf retained.broker.registry id = some retainedOutbox ∧
      plainOutbox.items = session.outbox.items ++ plainFrames ∧
      retainedOutbox.items = session.outbox.items ++ retainedFrames ∧
      List.Forall₂ DiffersInRetain plainFrames retainedFrames
  intent : plain.intent = retained.intent

theorem servedAlike_of_kept {registry : SessionRegistry maxSessions maxSubs maxInflight}
    {plain retained : PublishOutcome maxSessions maxSubs maxInflight maxRetained}
    (absent : ∀ id, registry.get id = none →
      plain.broker.registry.get id = none ∧ retained.broker.registry.get id = none)
    (plainKept : ∀ id session, registry.get id = some session →
      outboxOf plain.broker.registry id = some session.outbox)
    (retainedKept : ∀ id session, registry.get id = some session →
      outboxOf retained.broker.registry id = some session.outbox)
    (intent : plain.intent = retained.intent) : ServedAlike registry plain retained :=
  ⟨absent, fun id session found =>
    ⟨_, _, [], [], plainKept id session found, retainedKept id session found, by simp, by simp, .nil⟩, intent⟩

section

variable {codec : Codec} {message : Message} {qos : QoS} {session : SessionState maxSubs maxInflight}

theorem publishHeader_flagged (dup : Bool) (qospid : QosPid) (topic payload : Bytes) :
    UInt8.ofNat (Mqtt311.publishHeader ⟨dup, qospid, true, topic, payload⟩) =
        UInt8.ofNat (Mqtt311.publishHeader ⟨dup, qospid, false, topic, payload⟩) ||| 1 ∧
      UInt8.ofNat (Mqtt311.publishHeader ⟨dup, qospid, false, topic, payload⟩) &&& 1 = 0 := by
  cases dup <;> cases qospid <;> simp [Mqtt311.publishHeader] <;> exact ⟨rfl, rfl⟩

def FrameFits (message : Message) (qos : QoS) : Prop :=
  message.topic.length + message.payload.length + (if qos = .atMostOnce then 0 else 2) ≤ 187

theorem frameFor_eq_ok (follows : FollowsMqtt311 codec) {qospid : QosPid}
    (converted : qospidFor qos (assignedId session qos) = some qospid) {frame : Text maxOutboundFrameSize} :
    frameFor codec message qos session = .ok frame ↔
      Mqtt311.frame (.publish ⟨false, qospid, message.retain, message.topic, message.payload⟩) = some frame.items :=
  encodePublish_eq_ok follows converted

theorem frameFor_ok_iff (follows : FollowsMqtt311 codec) (message : Message) (qos : QoS)
    (session : SessionState maxSubs maxInflight) :
    (∃ frame, frameFor codec message qos session = .ok frame) ↔ FrameFits message qos := by
  obtain ⟨_, converted⟩ := qospidFor_assignedId session qos
  exact encodePublish_ok_iff follows converted

theorem frameFor_flagged (follows : FollowsMqtt311 codec) (message : Message) {frame : Text maxOutboundFrameSize}
    (encoded : frameFor codec (message.flagged false) qos session = .ok frame) :
    ∃ retained, frameFor codec (message.flagged true) qos session = .ok retained ∧
      DiffersInRetain ⟨frame⟩ ⟨retained⟩ := by
  obtain ⟨qospid, converted⟩ := qospidFor_assignedId session qos
  have fits := (frameFor_ok_iff follows _ _ _).mp ⟨frame, encoded⟩
  obtain ⟨retained, also⟩ := (frameFor_ok_iff follows (message.flagged true) qos session).mpr fits
  refine ⟨retained, also, ?_⟩
  have plainFrame := Option.some.inj ((frameFor_eq_ok follows converted).mp encoded)
  have retainedFrame := Option.some.inj ((frameFor_eq_ok follows converted).mp also)
  obtain ⟨header, even⟩ := publishHeader_flagged false qospid message.topic message.payload
  refine ⟨_, _, plainFrame.symm, ?_, even⟩
  rw [← retainedFrame, Message.flagged, header]
  rfl

end

def ReachedBy (message : Message) (registry : SessionRegistry maxSessions maxSubs maxInflight)
    (senderId id : SessionId) : Prop :=
  ∀ lower < id, ∀ session granted, registry.get lower = some session →
    Subscribed (isSender senderId) message.topic lower session granted →
    FrameFits message (minQos message.qos granted)

structure IsServed (message : Message) (registry : SessionRegistry maxSessions maxSubs maxInflight)
    (senderId id : SessionId) (session : SessionState maxSubs maxInflight) (granted : QoS) : Prop where
  subscribed : Subscribed (isSender senderId) message.topic id session granted
  reached : ReachedBy message registry senderId id
  fits : FrameFits message (minQos message.qos granted)
  room : session.outbox.items.length < maxOutboxDepth

structure IsForwarded (message : Message) (registry : SessionRegistry maxSessions maxSubs maxInflight)
    (senderId : SessionId) : Prop where
  command : isCommandTopic message.topic = true
  topicFits : message.topic.length ≤ 128
  payloadFits : message.payload.length ≤ 512
  completed : ∀ id session granted, registry.get id = some session →
    Subscribed (isSender senderId) message.topic id session granted → FrameFits message (minQos message.qos granted)

def ServesSomeone (message : Message) (registry : SessionRegistry maxSessions maxSubs maxInflight)
    (senderId : SessionId) : Prop :=
  (∃ id session granted, registry.get id = some session ∧ IsServed message registry senderId id session granted) ∨
    IsForwarded message registry senderId

section

variable {codec : Codec} {accepts : MqttIntent → Bool} {message : Message} {packet : Publish} {now : Instant}
  {maxViolations maxOutboxDrops : Nat} {senderId id : SessionId}
  {broker : Broker maxSessions maxSubs maxInflight maxRetained} {sender session : SessionState maxSubs maxInflight}
  {registry : SessionRegistry maxSessions maxSubs maxInflight}

theorem blocked_iff (follows : FollowsMqtt311 codec) :
    Blocked codec message registry (isSender senderId) id ↔ ¬ ReachedBy message registry senderId id := by
  unfold ReachedBy
  push Not
  constructor
  · rintro ⟨lower, below, session, granted, error, present, subscribed, failed⟩
    refine ⟨lower, below, session, granted, present, subscribed, ?_⟩
    intro fits
    obtain ⟨frame, ok⟩ := (frameFor_ok_iff follows message _ session).mpr fits
    rw [failed] at ok
    cases ok
  · rintro ⟨lower, below, session, granted, present, subscribed, large⟩
    cases encoded : frameFor codec message (minQos message.qos granted) session with
    | error error => exact ⟨lower, below, session, granted, error, present, subscribed, encoded⟩
    | ok frame => exact absurd ((frameFor_ok_iff follows message _ session).mp ⟨frame, encoded⟩) large

theorem forwardCommand_isSome_iff :
    (forwardCommand accepts message).1.isSome = true ↔
      isCommandTopic message.topic = true ∧ message.topic.length ≤ 128 ∧ message.payload.length ≤ 512 := by
  unfold forwardCommand
  by_cases command : isCommandTopic message.topic = true
  · by_cases topicFits : message.topic.length ≤ 128
    · by_cases payloadFits : message.payload.length ≤ 512
      · simp only [command, Bounded.ofList?, topicFits, payloadFits, if_true, dif_pos]
        split_ifs <;> simp
      · simp [command, Bounded.ofList?, topicFits, payloadFits]
    · simp [command, Bounded.ofList?, topicFits]
  · simp [command]

theorem handlePublishAt_intent_routed (present : broker.registry.get senderId = some sender)
    (routable : Routable broker.retained sender packet.message now) :
    (handlePublishAt codec accepts senderId broker packet now maxViolations maxOutboxDrops).intent =
      if (routed codec broker senderId sender packet.message now maxOutboxDrops).2 = none then
        (forwardCommand accepts packet.message).1
      else none := by
  have handled := handlePublishAt_spec codec accepts senderId broker packet now maxViolations maxOutboxDrops
  generalize handlePublishAt codec accepts senderId broker packet now maxViolations maxOutboxDrops = outcome
    at handled ⊢
  cases handled with
  | absent missing =>
    rw [present] at missing
    cases missing
  | limited found refused =>
    cases present.symm.trans found
    rw [routable.1] at refused
    cases refused
  | unretained found admitted refused =>
    obtain ⟨kept, ok⟩ := retain_ok_iff.mpr routable.2
    rw [refused] at ok
    cases ok
  | aborted found _ _ failed =>
    cases present.symm.trans found
    simp [failed]
  | completed found _ _ delivered =>
    cases present.symm.trans found
    simp [delivered]

variable (codec accepts maxViolations maxOutboxDrops) in
theorem handlePublishAt_intent_unrouted (present : broker.registry.get senderId = some sender)
    (unroutable : ¬ Routable broker.retained sender packet.message now) :
    (handlePublishAt codec accepts senderId broker packet now maxViolations maxOutboxDrops).intent = none := by
  have handled := handlePublishAt_spec codec accepts senderId broker packet now maxViolations maxOutboxDrops
  generalize handlePublishAt codec accepts senderId broker packet now maxViolations maxOutboxDrops = outcome
    at handled ⊢
  cases handled with
  | absent | limited | unretained | aborted => rfl
  | completed found admitted kept =>
    cases present.symm.trans found
    exact absurd ⟨admitted, retain_ok_iff.mp ⟨_, kept⟩⟩ unroutable

theorem handlePublishAt_get_none (missing : broker.registry.get id = none) :
    (handlePublishAt codec accepts senderId broker packet now maxViolations maxOutboxDrops).broker.registry.get id =
      none := by
  cases found : broker.registry.get senderId with
  | none => rw [handlePublishAt_absent found, missing]
  | some sender =>
    have different : id ≠ senderId := by
      rintro rfl
      rw [found] at missing
      cases missing
    have unfound : (charged broker senderId sender now).get id = none := (charged_get_ne different).trans missing
    by_cases routable : Routable broker.retained sender packet.message now
    · rw [handlePublishAt_routed found routable, routed_eq_broadcast]
      refine (broadcast_unsubscribed ?_).trans unfound
      intro _ _ present
      rw [unfound] at present
      cases present
    · rw [handlePublishAt_unrouted found routable, unfound]

theorem IsServed.delivers (follows : FollowsMqtt311 codec) {granted : QoS}
    (served : IsServed packet.message broker.registry senderId id session granted)
    (accepts : MqttIntent → Bool) (maxViolations maxOutboxDrops : Nat)
    (present : broker.registry.get senderId = some sender)
    (routable : Routable broker.retained sender packet.message now) (found : broker.registry.get id = some session) :
    ∃ outbox frame, frameFor codec packet.message (minQos packet.message.qos granted) session = .ok frame ∧
      outboxOf (handlePublishAt codec accepts senderId broker packet now maxViolations
        maxOutboxDrops).broker.registry id = some outbox ∧
      outbox.items = session.outbox.items ++ [⟨frame⟩] := by
  obtain ⟨frame, encoded⟩ := (frameFor_ok_iff follows packet.message _ session).mpr served.fits
  obtain ⟨outbox, after, items⟩ := handlePublishAt_delivers accepts broker packet maxViolations maxOutboxDrops
    present found ⟨routable, served.subscribed, encoded, served.room⟩
    fun blocked => (blocked_iff follows).mp blocked served.reached
  exact ⟨outbox, frame, encoded, after, items⟩

theorem handlePublishAt_unserved (follows : FollowsMqtt311 codec) (packet : Publish) (accepts : MqttIntent → Bool)
    (now : Instant) (maxViolations maxOutboxDrops : Nat) (present : broker.registry.get senderId = some sender)
    (found : broker.registry.get id = some session)
    (unserved : Routable broker.retained sender packet.message now →
      ∀ granted, ¬ IsServed packet.message broker.registry senderId id session granted) :
    outboxOf (handlePublishAt codec accepts senderId broker packet now maxViolations maxOutboxDrops).broker.registry
      id = some session.outbox := by
  apply handlePublishAt_keeps present found
  intro granted frame deliverable
  rw [blocked_iff follows]
  intro reached
  have fits := (frameFor_ok_iff follows packet.message _ session).mp ⟨frame, deliverable.encoded⟩
  exact unserved deliverable.routable granted ⟨deliverable.subscribed, reached, fits, deliverable.room⟩

theorem routed_completed_iff (follows : FollowsMqtt311 codec) :
    (routed codec broker senderId sender message now maxOutboxDrops).2 = none ↔
      ∀ id session granted, broker.registry.get id = some session →
        Subscribed (isSender senderId) message.topic id session granted →
        FrameFits message (minQos message.qos granted) := by
  simp only [routed_failure_iff, frameFor_ok_iff follows]

theorem handlePublishAt_intent_isSome (follows : FollowsMqtt311 codec) (accepts : MqttIntent → Bool)
    (maxViolations maxOutboxDrops : Nat) (present : broker.registry.get senderId = some sender)
    (routable : Routable broker.retained sender packet.message now) :
    (handlePublishAt codec accepts senderId broker packet now maxViolations maxOutboxDrops).intent.isSome = true ↔
      IsForwarded packet.message broker.registry senderId := by
  rw [handlePublishAt_intent_routed present routable]
  split
  · next finished =>
    rw [forwardCommand_isSome_iff]
    exact ⟨fun sizes => ⟨sizes.1, sizes.2.1, sizes.2.2, (routed_completed_iff follows).mp finished⟩,
      fun forwarded => ⟨forwarded.command, forwarded.topicFits, forwarded.payloadFits⟩⟩
  · next failed =>
    refine iff_of_false (by simp) ?_
    intro forwarded
    exact failed ((routed_completed_iff follows).mpr forwarded.completed)

end

section

variable {codec : Codec} {packet : Publish} {now : Instant} {senderId : SessionId}
  {broker : Broker maxSessions maxSubs maxInflight maxRetained} {sender : SessionState maxSubs maxInflight}

theorem routable_unflagged (retained : RetainedStore maxRetained) (packet : Publish)
    (admitted : (sender.rate.tryConsume now).1 = true) :
    Routable retained sender (packet.flagged false).message now :=
  ⟨admitted, fun flag => by cases flag⟩

theorem servedAlike_of_absent (codec : Codec) (packet : Publish) (now : Instant) (accepts : MqttIntent → Bool)
    (maxViolations maxOutboxDrops : Nat) (missing : broker.registry.get senderId = none) :
    ServedAlike broker.registry
      (handlePublishAt codec accepts senderId broker (packet.flagged false) now maxViolations maxOutboxDrops)
      (handlePublishAt codec accepts senderId broker (packet.flagged true) now maxViolations maxOutboxDrops) := by
  refine servedAlike_of_kept (fun id unfound => ⟨handlePublishAt_get_none unfound,
    handlePublishAt_get_none unfound⟩) ?_ ?_ ?_
  · intro id session found
    simp [handlePublishAt_absent missing, outboxOf, found]
  · intro id session found
    simp [handlePublishAt_absent missing, outboxOf, found]
  · simp [handlePublishAt, missing]

theorem servedAlike_of_refused (follows : FollowsMqtt311 codec) (packet : Publish) (accepts : MqttIntent → Bool)
    (maxViolations maxOutboxDrops : Nat) (present : broker.registry.get senderId = some sender)
    (refused : (sender.rate.tryConsume now).1 ≠ true) :
    ServedAlike broker.registry
      (handlePublishAt codec accepts senderId broker (packet.flagged false) now maxViolations maxOutboxDrops)
      (handlePublishAt codec accepts senderId broker (packet.flagged true) now maxViolations maxOutboxDrops) := by
  have unrouted (retain : Bool) : ¬ Routable broker.retained sender (packet.flagged retain).message now :=
    fun routable => refused routable.1
  refine servedAlike_of_kept (fun id missing => ⟨handlePublishAt_get_none missing,
    handlePublishAt_get_none missing⟩) ?_ ?_ ?_
  · intro id session found
    exact handlePublishAt_unserved follows _ accepts now maxViolations maxOutboxDrops present found
      fun routable => absurd routable (unrouted false)
  · intro id session found
    exact handlePublishAt_unserved follows _ accepts now maxViolations maxOutboxDrops present found
      fun routable => absurd routable (unrouted true)
  · rw [handlePublishAt_intent_unrouted codec accepts maxViolations maxOutboxDrops present (unrouted false),
      handlePublishAt_intent_unrouted codec accepts maxViolations maxOutboxDrops present (unrouted true)]

theorem servedAlike_of_storable (follows : FollowsMqtt311 codec) (accepts : MqttIntent → Bool)
    (maxViolations maxOutboxDrops : Nat) (present : broker.registry.get senderId = some sender)
    (admitted : (sender.rate.tryConsume now).1 = true)
    (storable : broker.retained.Storable packet.topicName packet.payload) :
    ServedAlike broker.registry
      (handlePublishAt codec accepts senderId broker (packet.flagged false) now maxViolations maxOutboxDrops)
      (handlePublishAt codec accepts senderId broker (packet.flagged true) now maxViolations maxOutboxDrops) := by
  have plain := routable_unflagged broker.retained packet admitted
  have flagged : Routable broker.retained sender (packet.flagged true).message now := ⟨admitted, fun _ => storable⟩
  refine ⟨fun id missing => ⟨handlePublishAt_get_none missing, handlePublishAt_get_none missing⟩, ?_, ?_⟩
  · intro id session found
    by_cases served : ∃ granted, IsServed packet.message broker.registry senderId id session granted
    · obtain ⟨granted, served⟩ := served
      have plainServed : IsServed (packet.flagged false).message broker.registry senderId id session granted :=
        ⟨served.subscribed, served.reached, served.fits, served.room⟩
      have flaggedServed : IsServed (packet.flagged true).message broker.registry senderId id session granted :=
        ⟨served.subscribed, served.reached, served.fits, served.room⟩
      obtain ⟨_, frame, encoded, plainFound, plainItems⟩ :=
        plainServed.delivers follows accepts maxViolations maxOutboxDrops present plain found
      obtain ⟨_, flaggedFrame, flaggedEncoded, flaggedFound, flaggedItems⟩ :=
        flaggedServed.delivers follows accepts maxViolations maxOutboxDrops present flagged found
      obtain ⟨again, same, differs⟩ := frameFor_flagged follows packet.message encoded
      cases flaggedEncoded.symm.trans same
      exact ⟨_, _, _, _, plainFound, flaggedFound, plainItems, flaggedItems, .cons differs .nil⟩
    · have unserved (granted : QoS) : ¬ IsServed packet.message broker.registry senderId id session granted :=
        fun kept => served ⟨granted, kept⟩
      have plainKept := handlePublishAt_unserved follows (packet.flagged false) accepts now maxViolations
        maxOutboxDrops present found (fun _ granted kept =>
          unserved granted ⟨kept.subscribed, kept.reached, kept.fits, kept.room⟩)
      have flaggedKept := handlePublishAt_unserved follows (packet.flagged true) accepts now maxViolations
        maxOutboxDrops present found (fun _ granted kept =>
          unserved granted ⟨kept.subscribed, kept.reached, kept.fits, kept.room⟩)
      exact ⟨_, _, [], [], plainKept, flaggedKept, by simp, by simp, .nil⟩
  · rw [handlePublishAt_intent_routed present plain, handlePublishAt_intent_routed present flagged]
    have same : (routed codec broker senderId sender (packet.flagged false).message now maxOutboxDrops).2 = none ↔
        (routed codec broker senderId sender (packet.flagged true).message now maxOutboxDrops).2 = none := by
      rw [routed_completed_iff follows, routed_completed_iff follows]
      exact Iff.rfl
    exact if_congr same rfl rfl

theorem servedAlike_iff_of_unstorable (follows : FollowsMqtt311 codec) (accepts : MqttIntent → Bool)
    (maxViolations maxOutboxDrops : Nat) (present : broker.registry.get senderId = some sender)
    (admitted : (sender.rate.tryConsume now).1 = true)
    (unstorable : ¬ broker.retained.Storable packet.topicName packet.payload) :
    ServedAlike broker.registry
        (handlePublishAt codec accepts senderId broker (packet.flagged false) now maxViolations maxOutboxDrops)
        (handlePublishAt codec accepts senderId broker (packet.flagged true) now maxViolations maxOutboxDrops) ↔
      ¬ ServesSomeone packet.message broker.registry senderId := by
  have plain := routable_unflagged broker.retained packet admitted
  have flagged : ¬ Routable broker.retained sender (packet.flagged true).message now :=
    fun routable => unstorable (routable.2 rfl)
  have silent := handlePublishAt_intent_unrouted codec accepts maxViolations maxOutboxDrops present flagged
  have forwarded := handlePublishAt_intent_isSome follows accepts maxViolations maxOutboxDrops present plain
  have kept (id : SessionId) (session : SessionState maxSubs maxInflight)
      (found : broker.registry.get id = some session) :=
    handlePublishAt_unserved follows (packet.flagged true) accepts now maxViolations maxOutboxDrops present found
      fun routable => absurd routable flagged
  constructor
  · rintro alike (⟨id, session, granted, found, served⟩ | command)
    · have plainServed : IsServed (packet.flagged false).message broker.registry senderId id session granted :=
        ⟨served.subscribed, served.reached, served.fits, served.room⟩
      obtain ⟨outbox, frame, _, delivered, items⟩ :=
        plainServed.delivers follows accepts maxViolations maxOutboxDrops present plain found
      obtain ⟨plainOutbox, flaggedOutbox, plainFrames, flaggedFrames, plainFound, flaggedFound, plainItems,
        flaggedItems, differ⟩ := alike.queued id session found
      cases delivered.symm.trans plainFound
      cases (kept id session found).symm.trans flaggedFound
      have one : plainFrames = [⟨frame⟩] := List.append_cancel_left (plainItems.symm.trans items)
      have none : flaggedFrames = [] := List.self_eq_append_right.mp flaggedItems
      rw [one, none] at differ
      cases differ
    · have given := forwarded.mpr ⟨command.command, command.topicFits, command.payloadFits, command.completed⟩
      rw [alike.intent, silent] at given
      cases given
  · intro nobody
    refine servedAlike_of_kept (fun id missing => ⟨handlePublishAt_get_none missing,
      handlePublishAt_get_none missing⟩) ?_ kept ?_
    · intro id session found
      apply handlePublishAt_unserved follows (packet.flagged false) accepts now maxViolations maxOutboxDrops present
        found
      intro _ granted served
      exact nobody
        (.inl ⟨id, session, granted, found, served.subscribed, served.reached, served.fits, served.room⟩)
    · rw [silent, ← Option.not_isSome_iff_eq_none, forwarded]
      exact fun command => nobody
        (.inr ⟨command.command, command.topicFits, command.payloadFits, command.completed⟩)

end

theorem handlePublishAt_retain_iff {codec : Codec} (follows : FollowsMqtt311 codec) (accepts : MqttIntent → Bool)
    (senderId : SessionId) (broker : Broker maxSessions maxSubs maxInflight maxRetained) (packet : Publish)
    (now : Instant) (maxViolations maxOutboxDrops : Nat) :
    ServedAlike broker.registry
        (handlePublishAt codec accepts senderId broker (packet.flagged false) now maxViolations maxOutboxDrops)
        (handlePublishAt codec accepts senderId broker (packet.flagged true) now maxViolations maxOutboxDrops) ↔
      ∀ sender, broker.registry.get senderId = some sender → (sender.rate.tryConsume now).1 = true →
        ServesSomeone packet.message broker.registry senderId →
        broker.retained.Storable packet.topicName packet.payload := by
  cases found : broker.registry.get senderId with
  | none =>
    refine iff_of_true (servedAlike_of_absent codec packet now accepts maxViolations maxOutboxDrops found) ?_
    intro _ present
    cases present
  | some sender =>
    by_cases admitted : (sender.rate.tryConsume now).1 = true
    · by_cases storable : broker.retained.Storable packet.topicName packet.payload
      · refine iff_of_true (servedAlike_of_storable follows accepts maxViolations maxOutboxDrops found admitted
          storable) ?_
        intro _ _ _ _
        exact storable
      · rw [servedAlike_iff_of_unstorable follows accepts maxViolations maxOutboxDrops found admitted storable]
        simp [admitted, storable]
    · refine iff_of_true (servedAlike_of_refused follows packet accepts maxViolations maxOutboxDrops found admitted) ?_
      intro _ present again
      cases present
      exact absurd again admitted

-- Client `b` is subscribed to what client `a` publishes.
def listenerHistory : List (Operation 2 0) :=
  [.connect (houseConnect [97] true none) gatomqttToken, .connect (houseConnect [98] true none) gatomqttToken,
    .subscribe 1 ⟨.new, .truncate [⟨.truncate [116], .atMostOnce⟩]⟩ .new]

def listenerBroker (maxRetained : Nat) : Broker 2 1 1 maxRetained :=
  ⟨Operation.applyAll Mqtt311.codec listenerHistory, .new, .empty⟩

def announcement : Publish := ⟨false, .atMostOnce, false, [116], [1]⟩

def announced (maxRetained : Nat) (retain : Bool) : PublishOutcome 2 1 1 maxRetained :=
  handlePublishAt Mqtt311.codec (fun _ => true) 0 (listenerBroker maxRetained) (announcement.flagged retain) 0 50 16

theorem handlePublishAt_retain_iff_stored :
    ((outboxOf (announced 1 true).broker.registry 1).any fun outbox => outbox.items.length = 1) = true ∧
      ServedAlike (listenerBroker 1).registry (announced 1 false) (announced 1 true) := by
  refine ⟨by decide +kernel, ?_⟩
  apply (handlePublishAt_retain_iff mqtt311_followsMqtt311 _ _ _ _ _ _ _).mpr
  intro _ _ _ _
  exact ⟨by decide, .inr ⟨by decide, .inr (by decide)⟩⟩

-- A store for no message at all refuses every one.
theorem retained_unserved : ¬ ServedAlike (listenerBroker 0).registry (announced 0 false) (announced 0 true) := by
  intro alike
  obtain ⟨session, found⟩ : ∃ session, (listenerBroker 0).registry.get 1 = some session :=
    Option.isSome_iff_exists.mp (by decide +kernel)
  obtain ⟨plain, retained, plainFrames, retainedFrames, plainFound, retainedFound, plainItems, retainedItems,
    differ⟩ := alike.queued 1 session found
  have lengths := differ.length_eq
  have longer : (outboxOf (announced 0 false).broker.registry 1).map (fun outbox => outbox.items.length) = some 1 := by
    decide +kernel
  have shorter : (outboxOf (announced 0 true).broker.registry 1).map (fun outbox => outbox.items.length) = some 0 := by
    decide +kernel
  rw [plainFound, Option.map_some, plainItems, List.length_append, Option.some.injEq] at longer
  rw [retainedFound, Option.map_some, retainedItems, List.length_append, Option.some.injEq] at shorter
  omega

end PicoBroker
