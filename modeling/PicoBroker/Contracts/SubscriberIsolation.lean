import PicoBroker.Broker.Fanout
import PicoBroker.Broker.Operations

set_option autoImplicit false

namespace PicoBroker

variable {maxSessions maxSubs maxInflight maxRetained : Nat}

def outboxOf (registry : SessionRegistry maxSessions maxSubs maxInflight) (id : SessionId) :
    Option (Bounded OutboundPacket maxOutboxDepth) :=
  (registry.get id).map SessionState.outbox

structure Deliverable (codec : Codec) (retained : RetainedStore maxRetained) (message : Message)
    (now : Instant) (senderId : SessionId) (sender : SessionState maxSubs maxInflight) (id : SessionId)
    (session : SessionState maxSubs maxInflight) (granted : QoS) (frame : Text maxOutboundFrameSize) :
    Prop where
  routable : Routable retained sender message now
  subscribed : Subscribed (isSender senderId) message.topic id session granted
  encoded : frameFor codec message (minQos message.qos granted) session = .ok frame
  room : session.outbox.items.length < maxOutboxDepth

section

variable {codec : Codec} {message : Message} {now : Instant} {maxOutboxDrops : Nat}

theorem Received.outbox_of_room {old new : SessionState maxSubs maxInflight} {qos : QoS}
    {frame : Text maxOutboundFrameSize} (received : Received codec message now maxOutboxDrops old qos new)
    (encoded : frameFor codec message qos old = .ok frame)
    (room : old.outbox.items.length < maxOutboxDepth) :
    new.outbox.items = old.outbox.items ++ [⟨frame⟩] := by
  cases received with
  | failed failed =>
    rw [encoded] at failed
    cases failed
  | dropped _ full => omega
  | queued found pushed =>
    rw [encoded] at found
    cases found
    exact (Bounded.push_eq_some.mp pushed).2
  | tracked _ found pushed _ =>
    rw [encoded] at found
    cases found
    exact (Bounded.push_eq_some.mp pushed).2

theorem Received.outbox_unchanged {old new : SessionState maxSubs maxInflight} {qos : QoS}
    (received : Received codec message now maxOutboxDrops old qos new)
    (undeliverable : ¬ ∃ frame, frameFor codec message qos old = .ok frame ∧
      old.outbox.items.length < maxOutboxDepth) :
    new.outbox = old.outbox := by
  cases received with
  | failed => exact numbered_outbox old qos
  | dropped => exact numbered_outbox old qos
  | queued encoded pushed =>
    exact absurd ⟨_, encoded, (Bounded.push_eq_some.mp pushed).1⟩ undeliverable
  | tracked _ encoded pushed =>
    exact absurd ⟨_, encoded, (Bounded.push_eq_some.mp pushed).1⟩ undeliverable

end

theorem ne_of_appended {outbox appended : Bounded OutboundPacket maxOutboxDepth} {packet : OutboundPacket}
    (same : appended.items = outbox.items ++ [packet]) : outbox ≠ appended := by
  rintro rfl
  simp at same

section

variable {codec : Codec} {accepts : MqttIntent → Bool} {senderId id : SessionId}
  {broker : Broker maxSessions maxSubs maxInflight maxRetained} {packet : Publish} {now : Instant}
  {maxViolations maxOutboxDrops : Nat} {sender session : SessionState maxSubs maxInflight}

theorem outboxOf_charged (present : broker.registry.get senderId = some sender) (other : SessionId) :
    outboxOf (charged broker senderId sender now) other = outboxOf broker.registry other := by
  unfold outboxOf charged
  rw [SessionRegistry.get_put present]
  split
  · next same => simp [same, present]
  · rfl

variable (accepts broker packet maxViolations maxOutboxDrops) in
theorem handlePublishAt_delivers {granted : QoS} {frame : Text maxOutboundFrameSize}
    (senderPresent : broker.registry.get senderId = some sender)
    (present : broker.registry.get id = some session)
    (deliverable : Deliverable codec broker.retained packet.message now senderId sender id session granted frame)
    (reached : ¬ Blocked codec packet.message broker.registry (isSender senderId) id) :
    ∃ outbox, outboxOf (handlePublishAt codec accepts senderId broker packet now maxViolations
        maxOutboxDrops).broker.registry id = some outbox ∧
      outbox.items = session.outbox.items ++ [⟨frame⟩] := by
  have different : id ≠ senderId := by simpa [isSender] using deliverable.subscribed.1
  obtain ⟨new, found, received⟩ : ∃ new,
      (routed codec broker senderId sender packet.message now maxOutboxDrops).1.registry.get id = some new ∧
        Received codec packet.message now maxOutboxDrops session (minQos packet.message.qos granted) new := by
    rw [routed_eq_broadcast]
    exact broadcast_received ((charged_get_ne different).trans present) deliverable.subscribed
      (mt blocked_charged_iff.mp reached)
  rw [handlePublishAt_routed senderPresent deliverable.routable]
  refine ⟨new.outbox, by simp [outboxOf, found], ?_⟩
  exact received.outbox_of_room deliverable.encoded deliverable.room

theorem handlePublishAt_keeps (senderPresent : broker.registry.get senderId = some sender)
    (present : broker.registry.get id = some session)
    (undelivered : ∀ granted frame,
      Deliverable codec broker.retained packet.message now senderId sender id session granted frame →
        Blocked codec packet.message broker.registry (isSender senderId) id) :
    outboxOf (handlePublishAt codec accepts senderId broker packet now maxViolations
      maxOutboxDrops).broker.registry id = some session.outbox := by
  have before : outboxOf broker.registry id = some session.outbox := by simp [outboxOf, present]
  have chargedOutbox : outboxOf (charged broker senderId sender now) id = some session.outbox :=
    (outboxOf_charged senderPresent id).trans before
  by_cases routable : Routable broker.retained sender packet.message now
  · rw [handlePublishAt_routed senderPresent routable, routed_eq_broadcast]
    by_cases blocked : Blocked codec packet.message broker.registry (isSender senderId) id
    · rw [outboxOf, broadcast_blocked (blocked_charged_iff.mpr blocked)]
      exact chargedOutbox
    · by_cases wanted : ∃ granted, Subscribed (isSender senderId) packet.message.topic id session granted
      · obtain ⟨granted, subscribed⟩ := wanted
        have different : id ≠ senderId := by simpa [isSender] using subscribed.1
        obtain ⟨new, found, received⟩ : ∃ new,
            (broadcast codec packet.message now maxOutboxDrops (isSender senderId)
              ⟨charged broker senderId sender now, broker.signals, none, []⟩).1.registry.get id = some new ∧
            Received codec packet.message now maxOutboxDrops session (minQos packet.message.qos granted)
              new :=
          broadcast_received ((charged_get_ne different).trans present) subscribed
            (mt blocked_charged_iff.mp blocked)
        rw [outboxOf, found, Option.map_some, received.outbox_unchanged]
        rintro ⟨frame, encoded, room⟩
        exact blocked (undelivered granted frame ⟨routable, subscribed, encoded, room⟩)
      · rw [outboxOf, broadcast_unsubscribed]
        · exact chargedOutbox
        · intro other granted found subscribed
          have different : id ≠ senderId := by simpa [isSender] using subscribed.1
          have same := (charged_get_ne different).symm.trans found
          rw [present] at same
          cases same
          exact wanted ⟨granted, subscribed⟩
  · rw [handlePublishAt_unrouted senderPresent routable]
    exact chargedOutbox

-- What is deliverable is appended unless the subscriber is blocked.
variable (accepts broker packet maxViolations maxOutboxDrops) in
theorem handlePublishAt_outbox {granted : QoS} {frame : Text maxOutboundFrameSize}
    (senderPresent : broker.registry.get senderId = some sender)
    (present : broker.registry.get id = some session)
    (deliverable : Deliverable codec broker.retained packet.message now senderId sender id session granted frame) :
    ∃ outbox, outboxOf (handlePublishAt codec accepts senderId broker packet now maxViolations
        maxOutboxDrops).broker.registry id = some outbox ∧
      (Blocked codec packet.message broker.registry (isSender senderId) id ∧ outbox = session.outbox ∨
        ¬ Blocked codec packet.message broker.registry (isSender senderId) id ∧
          outbox.items = session.outbox.items ++ [⟨frame⟩]) := by
  by_cases blocked : Blocked codec packet.message broker.registry (isSender senderId) id
  · exact ⟨session.outbox, handlePublishAt_keeps senderPresent present fun _ _ _ => blocked, .inl ⟨blocked, rfl⟩⟩
  · obtain ⟨outbox, found, appended⟩ := handlePublishAt_delivers accepts broker packet maxViolations maxOutboxDrops
      senderPresent present deliverable blocked
    exact ⟨outbox, found, .inr ⟨blocked, appended⟩⟩

end

theorem handlePublishAt_outbox_independent_iff {codec : Codec} {accepts : MqttIntent → Bool}
    {senderId id : SessionId} {left right : SessionRegistry maxSessions maxSubs maxInflight}
    {retained : RetainedStore maxRetained} {leftSignals rightSignals : SessionSignals maxSessions}
    {packet : Publish} {now : Instant} {maxViolations maxOutboxDrops : Nat}
    {session : SessionState maxSubs maxInflight}
    (leftPresent : left.get id = some session) (rightPresent : right.get id = some session)
    (sameSender : left.get senderId = right.get senderId) :
    outboxOf (handlePublishAt codec accepts senderId ⟨left, retained, leftSignals⟩ packet now maxViolations
        maxOutboxDrops).broker.registry id =
      outboxOf (handlePublishAt codec accepts senderId ⟨right, retained, rightSignals⟩ packet now
        maxViolations maxOutboxDrops).broker.registry id ↔
    ((∃ sender granted frame, left.get senderId = some sender ∧
        Deliverable codec retained packet.message now senderId sender id session granted frame) →
      (Blocked codec packet.message left (isSender senderId) id ↔
        Blocked codec packet.message right (isSender senderId) id)) := by
  cases sender : left.get senderId with
  | none =>
    rw [sender] at sameSender
    rw [handlePublishAt_absent sender, handlePublishAt_absent sameSender.symm]
    simp [outboxOf, leftPresent, rightPresent]
  | some state =>
    have rightSender := sameSender.symm.trans sender
    by_cases wanted : ∃ granted frame,
        Deliverable codec retained packet.message now senderId state id session granted frame
    · obtain ⟨granted, frame, deliverable⟩ := wanted
      have required : ∃ sender granted frame, some state = some sender ∧
          Deliverable codec retained packet.message now senderId sender id session granted frame :=
        ⟨state, granted, frame, rfl, deliverable⟩
      simp only [required, true_implies]
      obtain ⟨leftOutbox, leftFound, leftEnds⟩ := handlePublishAt_outbox accepts ⟨left, retained, leftSignals⟩ packet
        maxViolations maxOutboxDrops sender leftPresent deliverable
      obtain ⟨rightOutbox, rightFound, rightEnds⟩ := handlePublishAt_outbox accepts ⟨right, retained, rightSignals⟩
        packet maxViolations maxOutboxDrops rightSender rightPresent deliverable
      rw [leftFound, rightFound, Option.some.injEq]
      rcases leftEnds with ⟨leftBlocked, rfl⟩ | ⟨leftReached, leftAppended⟩ <;>
        rcases rightEnds with ⟨rightBlocked, rfl⟩ | ⟨rightReached, rightAppended⟩
      · exact iff_of_true rfl (iff_of_true leftBlocked rightBlocked)
      · exact iff_of_false (ne_of_appended rightAppended) fun same => rightReached (same.mp leftBlocked)
      · exact iff_of_false (ne_of_appended leftAppended).symm fun same => leftReached (same.mpr rightBlocked)
      · have same : leftOutbox = rightOutbox := Bounded.ext (leftAppended.trans rightAppended.symm)
        exact iff_of_true same (iff_of_false leftReached rightReached)
    · have never : ∀ granted frame,
          ¬ Deliverable codec retained packet.message now senderId state id session granted frame :=
        fun granted frame deliverable => wanted ⟨granted, frame, deliverable⟩
      rw [handlePublishAt_keeps sender leftPresent fun _ _ deliverable => absurd deliverable (never _ _),
        handlePublishAt_keeps rightSender rightPresent fun _ _ deliverable => absurd deliverable (never _ _)]
      refine iff_of_true rfl ?_
      rintro ⟨_, granted, frame, ⟨⟩, deliverable⟩
      exact absurd deliverable (never granted frame)

-- At QoS 1 the frame does not fit into 192 bytes, at QoS 0 it does.
def isolationRegistry (firstGrant : QoS) : SessionRegistry 3 1 1 :=
  let operations : List (Operation 3 1) :=
    [.connect (houseConnect [97] true none) gatomqttToken,
      .connect (houseConnect [98] true none) gatomqttToken,
      .connect (houseConnect [99] true none) gatomqttToken,
      .subscribe 1 ⟨.new, .truncate [⟨.truncate [116], firstGrant⟩]⟩ .new,
      .subscribe 2 ⟨.new, .truncate [⟨.truncate [116], .atMostOnce⟩]⟩ .new]
  Operation.applyAll Mqtt311.codec operations

def isolationSubscriber : SessionState 1 1 :=
  { (SessionState.new (.truncate [99]) 0 : SessionState 1 1) with
    subscriptions := .truncate [⟨.truncate [116], .atMostOnce⟩] }

def isolationPublish : Publish := ⟨false, .atLeastOnce .new, false, [116], List.replicate 186 120⟩

def isolationOutbox (firstGrant : QoS) : Option (Bounded OutboundPacket maxOutboxDepth) :=
  outboxOf (handlePublishAt Mqtt311.codec (fun _ => true) 0
    ⟨isolationRegistry firstGrant, (.new : RetainedStore 1), .empty⟩ isolationPublish 0
    gatomqttConfig.maxViolations gatomqttConfig.maxOutboxDrops).broker.registry 2

theorem handlePublishAt_outbox_depends :
    (isolationRegistry .atMostOnce).get 2 = (isolationRegistry .atLeastOnce).get 2 ∧
      (isolationRegistry .atMostOnce).get 0 = (isolationRegistry .atLeastOnce).get 0 ∧
      isolationOutbox .atMostOnce ≠ isolationOutbox .atLeastOnce := by
  decide +kernel

theorem handlePublishAt_blocked_by_one :
    ¬ ((∃ sender granted frame, (isolationRegistry .atMostOnce).get 0 = some sender ∧
        Deliverable Mqtt311.codec (.new : RetainedStore 1) isolationPublish.message 0 0 sender 2
          isolationSubscriber granted frame) →
      (Blocked Mqtt311.codec isolationPublish.message (isolationRegistry .atMostOnce) (isSender 0) 2 ↔
        Blocked Mqtt311.codec isolationPublish.message (isolationRegistry .atLeastOnce) (isSender 0) 2)) := by
  intro alike
  have leftPresent : (isolationRegistry .atMostOnce).get 2 = some isolationSubscriber := by decide +kernel
  have rightPresent : (isolationRegistry .atLeastOnce).get 2 = some isolationSubscriber := by
    decide +kernel
  have different : isolationOutbox .atMostOnce ≠ isolationOutbox .atLeastOnce := by decide +kernel
  exact different ((handlePublishAt_outbox_independent_iff leftPresent rightPresent
    (by decide +kernel)).mpr alike)

end PicoBroker
