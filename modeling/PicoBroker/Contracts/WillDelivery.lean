import PicoBroker.Broker.Operations
import PicoBroker.Broker.Steps

set_option autoImplicit false

namespace PicoBroker

open Execution (Run Anything)

variable {maxSessions maxSubs maxInflight maxRetained : Nat}

-- `cleanup_connection` with nothing in between its lock-held blocks.
def cleanupConnection (codec : Codec) (broker : Broker maxSessions maxSubs maxInflight maxRetained)
    (slot : SessionId) (reason : DisconnectReason) : Broker maxSessions maxSubs maxInflight maxRetained :=
  if reason.isClean then removeStep broker slot
  else
    let (announced, phase, _) := lwtStep broker slot reason
    match phase with
    | .deliverLwt _ lwt deliveries =>
        let (registry, signals) := deliverLwts codec lwt (announced.registry, announced.signals) deliveries
        removeStep { announced with registry := registry, signals := signals } slot
    | _ => removeStep announced slot

def LwtMessage.publish (lwt : LwtMessage) : MqttPublish := ⟨lwt.topic, lwt.payload, lwt.qos, lwt.retain⟩

section

variable {env : Env} {system : System maxSessions maxSubs maxInflight maxRetained} {id : Nat} {conn : Conn}
  {slot : SessionId}

theorem lwtStep_phase (broker : Broker maxSessions maxSubs maxInflight maxRetained) (slot : SessionId)
    (reason : DisconnectReason) :
    (lwtStep broker slot reason).2.1 = .removeSession slot ∨
      ∃ lwt deliveries, (lwtStep broker slot reason).2.1 = .deliverLwt slot lwt deliveries := by
  unfold lwtStep
  split
  · exact .inl rfl
  · dsimp only
    split
    · exact .inr ⟨_, _, rfl⟩
    · exact .inl rfl

-- One more block of the loop `id`, which has taken it to `conn`.
theorem lock_run {start : System maxSessions maxSubs maxInflight maxRetained} {labels : List Label}
    {events : List Event} {conns : List Conn} {broker : Broker maxSessions maxSubs maxInflight maxRetained}
    {result : Result maxSessions maxSubs maxInflight maxRetained}
    (run : Run (System.step env) Anything start labels events ⟨broker, conns.set id conn⟩)
    (locks : ∀ label ∈ labels, label = .conn id .lock) (inside : id < conns.length)
    (stepped : connStep env broker id conn .lock = some result) :
    ∃ labels events, (∀ label ∈ labels, label = .conn id .lock) ∧
      Run (System.step env) Anything start labels events ⟨result.broker, conns.set id result.conn⟩ := by
  have taken : System.step env ⟨broker, conns.set id conn⟩ (.conn id .lock) =
      some (⟨result.broker, conns.set id result.conn⟩, result.events) := by
    simp [System.step, List.getElem?_set_self inside, stepped]
  refine ⟨labels ++ [.conn id .lock], events ++ result.events, ?_, .snoc run trivial taken⟩
  intro label member
  rcases List.mem_append.mp member with earlier | last
  · exact locks label earlier
  · exact List.mem_singleton.mp last

-- The lock-held blocks of a loop that is left for `reason`, one after the other.
theorem cleanupConnection_run {reason : DisconnectReason} (found : system.conns[id]? = some conn)
    (left : conn.phase = beginCleanup slot reason) :
    ∃ labels events, (∀ label ∈ labels, label = .conn id .lock) ∧
      Run (System.step env) Anything system labels events
        ⟨cleanupConnection env.codec system.broker slot reason,
          system.conns.set id { conn with phase := .closed }⟩ := by
  obtain ⟨inside, here⟩ := List.getElem?_eq_some_iff.mp found
  have start : Run (System.step env) Anything system [] [] ⟨system.broker, system.conns.set id conn⟩ := by
    rw [← here, List.set_getElem_self]
    exact .nil
  obtain ⟨phase, accepted⟩ := conn
  unfold cleanupConnection
  unfold beginCleanup at left
  split at left
  · next clean =>
    cases left
    rw [if_pos clean]
    exact lock_run start (by simp) inside rfl
  · next unclean =>
    cases left
    rw [if_neg unclean]
    have stepped : connStep env system.broker id ⟨.publishLwt slot reason, accepted⟩ .lock =
        some ⟨(lwtStep system.broker slot reason).1, ⟨(lwtStep system.broker slot reason).2.1, accepted⟩,
          (lwtStep system.broker slot reason).2.2.toList.map (.willPublished id slot)⟩ := rfl
    obtain ⟨_, _, locks, announced⟩ := lock_run start (by simp) inside stepped
    dsimp only at announced ⊢
    rcases lwtStep_phase system.broker slot reason with removing | ⟨lwt, deliveries, delivering⟩
    · rw [removing] at announced ⊢
      exact lock_run announced locks inside rfl
    · rw [delivering] at announced ⊢
      obtain ⟨_, _, locks, delivered⟩ := lock_run announced locks inside rfl
      exact lock_run delivered locks inside rfl

end

section

variable {codec : Codec} {lwt : LwtMessage} {slot other : SessionId}
  {state : SessionRegistry maxSessions maxSubs maxInflight × SessionSignals maxSessions}

def willed (codec : Codec) (lwt : LwtMessage) (target : SessionState maxSubs maxInflight) (granted : QoS) :
    SessionState maxSubs maxInflight :=
  match (encodePublishFromLwt codec lwt granted).bind fun bytes => target.outbox.push ⟨bytes⟩ with
  | none => target
  | some outbox => { target with outbox := outbox }

theorem deliverLwt_get_self {target : SessionState maxSubs maxInflight} {granted : QoS}
    (found : state.1.get other = some target) :
    (deliverLwt codec lwt state (other, granted)).1.get other = some (willed codec lwt target granted) := by
  simp only [deliverLwt, found, willed]
  cases encodePublishFromLwt codec lwt granted with
  | none => exact found
  | some bytes =>
    dsimp only [Option.bind_some]
    cases target.outbox.push ⟨bytes⟩ with
    | none => exact found
    | some outbox => exact SessionRegistry.get_put_self found _

theorem deliverLwt_get_ne {delivery : SessionId × QoS} (different : other ≠ delivery.1) :
    (deliverLwt codec lwt state delivery).1.get other = state.1.get other := by
  unfold deliverLwt
  split
  · rfl
  · split
    · rfl
    · split
      · rfl
      · exact SessionRegistry.get_put_ne _ different

theorem deliverLwts_get_of_notMem {deliveries : List (SessionId × QoS)} (absent : other ∉ deliveries.map Prod.fst) :
    (deliverLwts codec lwt state deliveries).1.get other = state.1.get other := by
  induction deliveries generalizing state with
  | nil => rfl
  | cons delivery rest ih =>
    simp only [List.map_cons, List.mem_cons, not_or] at absent
    exact (ih absent.2).trans (deliverLwt_get_ne absent.1)

theorem deliverLwts_get {deliveries : List (SessionId × QoS)} {granted : QoS}
    {target : SessionState maxSubs maxInflight} (distinct : (deliveries.map Prod.fst).Nodup)
    (listed : (other, granted) ∈ deliveries) (found : state.1.get other = some target) :
    (deliverLwts codec lwt state deliveries).1.get other = some (willed codec lwt target granted) := by
  induction deliveries generalizing state with
  | nil => cases listed
  | cons delivery rest ih =>
    simp only [List.map_cons, List.nodup_cons] at distinct
    rcases List.mem_cons.mp listed with rfl | later
    · exact (deliverLwts_get_of_notMem distinct.1).trans (deliverLwt_get_self found)
    · refine ih distinct.2 later ((deliverLwt_get_ne ?_).trans found)
      rintro rfl
      exact distinct.1 (List.mem_map.mpr ⟨_, later, rfl⟩)

variable {broker : Broker maxSessions maxSubs maxInflight maxRetained} {reason : DisconnectReason}
  {session : SessionState maxSubs maxInflight}

theorem removeStep_get (broker : Broker maxSessions maxSubs maxInflight maxRetained) (different : other ≠ slot) :
    (removeStep broker slot).registry.get other = broker.registry.get other := by
  rw [removeStep, SessionRegistry.get_remove, if_neg different]

-- A retained store that refuses the will ends the cleanup before any delivery.
theorem cleanupConnection_refused (present : broker.registry.get slot = some session)
    (will : session.lwt = some lwt) (unclean : reason.isClean = false) (different : other ≠ slot)
    {error : RetainedError} (refused : retain broker.retained lwt.publish.message = .error error) :
    (cleanupConnection codec broker slot reason).registry.get other = broker.registry.get other := by
  have unset : (if lwt.retain then broker.retained.set lwt.topic.items lwt.payload.items lwt.qos
      else .ok broker.retained) = .error error := refused
  simp [cleanupConnection, unclean, lwtStep, present, will, publishLwtMessageIfNeeded, unset,
    removeStep_get _ different]

-- An empty list of deliveries is not even recorded.
theorem cleanupConnection_delivered (present : broker.registry.get slot = some session)
    (will : session.lwt = some lwt) (unclean : reason.isClean = false) (different : other ≠ slot)
    {kept : RetainedStore maxRetained} (accepted : retain broker.retained lwt.publish.message = .ok kept) :
    (cleanupConnection codec broker slot reason).registry.get other =
      (deliverLwts codec lwt (broker.registry, broker.signals)
        (findLwtSubscribers broker.registry session.clientId.items lwt).items).1.get other := by
  have set : (if lwt.retain then broker.retained.set lwt.topic.items lwt.payload.items lwt.qos
      else .ok broker.retained) = .ok kept := accepted
  by_cases nobody : (findLwtSubscribers broker.registry session.clientId.items lwt).items = []
  · simp [cleanupConnection, unclean, lwtStep, present, will, publishLwtMessageIfNeeded, set, nobody,
      removeStep_get _ different, deliverLwts]
  · simp [cleanupConnection, unclean, lwtStep, present, will, publishLwtMessageIfNeeded, set, nobody,
      removeStep_get _ different]

theorem willed_of_push {target : SessionState maxSubs maxInflight} {granted : QoS} {bytes : Text maxOutboundFrameSize}
    {outbox : Bounded OutboundPacket maxOutboxDepth} (encoded : encodePublishFromLwt codec lwt granted = some bytes)
    (pushed : target.outbox.push ⟨bytes⟩ = some outbox) :
    willed codec lwt target granted = { target with outbox := outbox } := by
  simp [willed, encoded, pushed]

theorem willed_eq_self_iff {target : SessionState maxSubs maxInflight} {granted : QoS} :
    willed codec lwt target granted = target ↔
      encodePublishFromLwt codec lwt granted = none ∨ target.outbox.items.length = maxOutboxDepth := by
  cases encoded : encodePublishFromLwt codec lwt granted with
  | none => simp [willed, encoded]
  | some bytes =>
    cases pushed : target.outbox.push ⟨bytes⟩ with
    | none => simp [willed, encoded, pushed, Bounded.push_eq_none.mp pushed]
    | some outbox =>
      obtain ⟨room, grown⟩ := Bounded.push_eq_some.mp pushed
      rw [willed_of_push encoded pushed]
      constructor
      · intro same
        have shorter := congrArg (fun session => session.outbox.items.length) same
        simp [grown] at shorter
      · rintro (nothing | full)
        · cases nothing
        · omega

theorem encoded_of_willed {target : SessionState maxSubs maxInflight} {granted : QoS}
    {bytes : Text maxOutboundFrameSize} {outbox : Bounded OutboundPacket maxOutboxDepth}
    (pushed : target.outbox.push ⟨bytes⟩ = some outbox)
    (same : willed codec lwt target granted = { target with outbox := outbox }) :
    encodePublishFromLwt codec lwt granted = some bytes := by
  obtain ⟨room, grown⟩ := Bounded.push_eq_some.mp pushed
  have items : (willed codec lwt target granted).outbox.items = target.outbox.items ++ [⟨bytes⟩] := by
    rw [same, grown]
  cases encoded : encodePublishFromLwt codec lwt granted with
  | none =>
    rw [willed_eq_self_iff.mpr (.inl encoded)] at items
    simp at items
  | some other =>
    cases again : target.outbox.push ⟨other⟩ with
    | none =>
      have full := Bounded.push_eq_none.mp again
      omega
    | some outbox =>
      rw [willed_of_push encoded again, (Bounded.push_eq_some.mp again).2] at items
      simpa using items

theorem willed_packetIdCounter (target : SessionState maxSubs maxInflight) (granted : QoS) :
    (willed codec lwt target granted).packetIdCounter = target.packetIdCounter := by
  unfold willed
  split <;> rfl

end

section

variable {codec : Codec} {message : Message} {now : Instant} {maxOutboxDrops : Nat}
  {target new : SessionState maxSubs maxInflight} {qos : QoS}

theorem Received.packetIdCounter_ne (received : Received codec message now maxOutboxDrops target qos new)
    (numberedQos : qos ≠ .atMostOnce) : new.packetIdCounter ≠ target.packetIdCounter := by
  have moved : (numbered target qos).packetIdCounter ≠ target.packetIdCounter := by
    rw [numbered_packetIdCounter, if_neg numberedQos]
    exact SessionState.succPacketId_ne _
  cases received <;> exact moved

theorem numbered_atMostOnce (session : SessionState maxSubs maxInflight) : numbered session .atMostOnce = session := by
  simp [numbered, packetIdFor]

theorem droppedSession_eq_self_iff (countable : maxOutboxDrops ≤ 255) :
    droppedSession target .atMostOnce maxOutboxDrops = target ↔
      target.outboxDrops = 255 ∧ target.quarantined = true := by
  have saturated : saturatingAddU8 target.outboxDrops 1 = target.outboxDrops ↔ target.outboxDrops = 255 := by
    unfold saturatingAddU8
    omega
  have fields (drops : Nat) (quarantined : Bool) :
      { target with outboxDrops := drops, quarantined := quarantined } = target ↔
        drops = target.outboxDrops ∧ quarantined = target.quarantined := by
    cases target
    simp
  rw [droppedSession, numbered_atMostOnce, fields, saturated]
  refine and_congr_right fun drops => ?_
  rw [saturated.mpr drops, drops]
  simp [countable]

end

section

variable {codec : Codec} {lwt : LwtMessage} {target new : SessionState maxSubs maxInflight} {granted : QoS}

theorem frameFor_eq_ok_iff {bytes : Text maxOutboundFrameSize} :
    frameFor codec lwt.publish.message .atMostOnce target = .ok bytes ↔
      encodePublishFromLwt codec lwt .atMostOnce = some bytes := by
  simp only [frameFor, encodePublish, qospidFor, encodePublishFromLwt, LwtMessage.publish, MqttPublish.message]
  cases codec.encodeSlice _ maxOutboundFrameSize with
  | none => simp
  | some frame =>
    dsimp only [Option.bind_some]
    cases (Bounded.ofList? frame : Option (Text maxOutboundFrameSize)) <;> simp

-- QoS 0 on either way, and the frame is the same one or is lost without a trace.
structure Indifferent (codec : Codec) (lwt : LwtMessage) (target : SessionState maxSubs maxInflight)
    (granted : QoS) : Prop where
  qos : minQos lwt.qos granted = .atMostOnce
  frame : target.outbox.items.length < maxOutboxDepth →
    encodePublishFromLwt codec lwt granted = encodePublishFromLwt codec lwt .atMostOnce
  drop : target.outbox.items.length = maxOutboxDepth →
    encodePublishFromLwt codec lwt .atMostOnce = none ∨ target.outboxDrops = 255 ∧ target.quarantined = true

theorem willed_eq_received_iff {now : Instant} {maxOutboxDrops : Nat} (countable : maxOutboxDrops ≤ 255)
    (received : Received codec lwt.publish.message now maxOutboxDrops target (minQos lwt.qos granted) new) :
    willed codec lwt target granted = new ↔ Indifferent codec lwt target granted := by
  by_cases plain : minQos lwt.qos granted = .atMostOnce
  · rw [plain] at received
    cases received with
    | failed encoded =>
      have unencoded : encodePublishFromLwt codec lwt .atMostOnce = none := by
        cases found : encodePublishFromLwt codec lwt .atMostOnce with
        | none => rfl
        | some bytes =>
          rw [frameFor_eq_ok_iff.mpr found] at encoded
          cases encoded
      have fits := target.outbox.fits
      rw [numbered_atMostOnce, willed_eq_self_iff]
      constructor
      · intro unchanged
        refine ⟨plain, fun room => ?_, fun _ => .inl unencoded⟩
        rw [unencoded]
        exact unchanged.resolve_right (by omega)
      · intro indifferent
        by_cases room : target.outbox.items.length < maxOutboxDepth
        · exact .inl ((indifferent.frame room).trans unencoded)
        · exact .inr (by omega)
    | dropped encoded full =>
      rw [willed_eq_self_iff.mpr (.inr full), eq_comm, droppedSession_eq_self_iff countable]
      constructor
      · intro lost
        exact ⟨plain, fun room => by omega, fun _ => .inr lost⟩
      · intro indifferent
        refine (indifferent.drop full).resolve_left ?_
        simp [frameFor_eq_ok_iff.mp encoded]
    | @queued bytes outbox encoded pushed =>
      have room := (Bounded.push_eq_some.mp pushed).1
      have plainFrame := frameFor_eq_ok_iff.mp encoded
      rw [queuedSession, numbered_atMostOnce]
      constructor
      · intro same
        exact ⟨plain, fun _ => (encoded_of_willed pushed same).trans plainFrame.symm, fun full => by omega⟩
      · intro indifferent
        exact willed_of_push ((indifferent.frame room).trans plainFrame) pushed
    | tracked qos1 => cases qos1
  · constructor
    · rintro rfl
      exact absurd (willed_packetIdCounter target granted) (received.packetIdCounter_ne plain)
    · intro indifferent
      exact absurd indifferent.qos plain

end

section

variable {codec : Codec} {broker : Broker maxSessions maxSubs maxInflight maxRetained} {lwt : LwtMessage}

theorem processOutboundPublish_refused {publish : MqttPublish} {error : RetainedError}
    (refused : retain broker.retained publish.message = .error error) (now : Instant) :
    (processOutboundPublish codec broker publish now).1 = broker := by
  simp [processOutboundPublish, refused]

theorem processOutboundPublish_accepted {publish : MqttPublish} {kept : RetainedStore maxRetained}
    (accepted : retain broker.retained publish.message = .ok kept) (now : Instant) :
    (processOutboundPublish codec broker publish now).1.registry =
      (broadcast codec publish.message now gatomqttConfig.maxOutboxDrops (fun _ _ => false)
        (⟨broker.registry, broker.signals, none, []⟩ : Fanout maxSessions maxSubs maxInflight)).1.registry := by
  simp only [processOutboundPublish, accepted]
  rfl

-- The loop of `process_outbound_publish` ends before this slot; the loop of the will does not.
abbrev CutShort (codec : Codec) (registry : SessionRegistry maxSessions maxSubs maxInflight) (lwt : LwtMessage)
    (slot : SessionId) : Prop :=
  Blocked codec lwt.publish.message registry (fun _ _ => false) slot

def WillAgrees (codec : Codec) (broker : Broker maxSessions maxSubs maxInflight maxRetained) (lwt : LwtMessage)
    (slot : SessionId) : Prop :=
  (lwt.retain = true → broker.retained.Storable lwt.topic.items lwt.payload.items) →
    ∀ target granted, broker.registry.get slot = some target →
      matchedQos target.subscriptions.items lwt.topic.items = some granted →
        (CutShort codec broker.registry lwt slot →
          encodePublishFromLwt codec lwt granted = none ∨ target.outbox.items.length = maxOutboxDepth) ∧
        (¬ CutShort codec broker.registry lwt slot → Indifferent codec lwt target granted)

theorem will_retained_iff : (∃ kept, retain broker.retained lwt.publish.message = .ok kept) ↔
    (lwt.retain = true → broker.retained.Storable lwt.topic.items lwt.payload.items) :=
  retain_ok_iff

def DistinctClients (registry : SessionRegistry maxSessions maxSubs maxInflight) : Prop :=
  ∀ slot other session rival, registry.get slot = some session → registry.get other = some rival →
    session.clientId = rival.clientId → slot = other

abbrev fanned (codec : Codec) (broker : Broker maxSessions maxSubs maxInflight maxRetained) (lwt : LwtMessage)
    (now : Instant) : SessionRegistry maxSessions maxSubs maxInflight :=
  (broadcast codec lwt.publish.message now gatomqttConfig.maxOutboxDrops (fun _ _ => false)
    (⟨broker.registry, broker.signals, none, []⟩ : Fanout maxSessions maxSubs maxInflight)).1.registry

abbrev bequeathed (codec : Codec) (broker : Broker maxSessions maxSubs maxInflight maxRetained) (lwt : LwtMessage)
    (clientId : Bytes) : SessionRegistry maxSessions maxSubs maxInflight :=
  (deliverLwts codec lwt (broker.registry, broker.signals)
    (findLwtSubscribers broker.registry clientId lwt).items).1

section

variable {slot other : SessionId} {session target : SessionState maxSubs maxInflight} {granted : QoS}

theorem bequeathed_get (distinct : DistinctClients broker.registry)
    (present : broker.registry.get slot = some session) (different : other ≠ slot)
    (found : broker.registry.get other = some target)
    (matched : matchedQos target.subscriptions.items lwt.topic.items = some granted) :
    (bequeathed codec broker lwt session.clientId.items).get other = some (willed codec lwt target granted) := by
  have listed : (other, granted) ∈ (findLwtSubscribers broker.registry session.clientId.items lwt).items := by
    refine mem_collectSubscribers.mpr ⟨target, found, ?_, matched⟩
    rw [beq_eq_false_iff_ne]
    intro same
    exact different (distinct other slot target session found present (Bounded.ext same))
  exact deliverLwts_get (collectSubscribers_nodup ..) listed found

-- A subscriber of the will.
theorem loops_agree_iff_of_subscribed (distinct : DistinctClients broker.registry)
    (present : broker.registry.get slot = some session) (different : other ≠ slot)
    (found : broker.registry.get other = some target)
    (matched : matchedQos target.subscriptions.items lwt.topic.items = some granted) (now : Instant) :
    (bequeathed codec broker lwt session.clientId.items).get other = (fanned codec broker lwt now).get other ↔
      (CutShort codec broker.registry lwt other →
        encodePublishFromLwt codec lwt granted = none ∨ target.outbox.items.length = maxOutboxDepth) ∧
      (¬ CutShort codec broker.registry lwt other → Indifferent codec lwt target granted) := by
  rw [bequeathed_get distinct present different found matched]
  by_cases cut : CutShort codec broker.registry lwt other
  · have left : (fanned codec broker lwt now).get other = some target := (broadcast_blocked cut).trans found
    rw [left, Option.some.injEq, willed_eq_self_iff]
    exact ⟨fun unchanged => ⟨fun _ => unchanged, fun uncut => absurd cut uncut⟩, fun agrees => agrees.1 cut⟩
  · obtain ⟨new, reached, received⟩ : ∃ new, (fanned codec broker lwt now).get other = some new ∧
        Received codec lwt.publish.message now gatomqttConfig.maxOutboxDrops target (minQos lwt.qos granted) new :=
      broadcast_received found ⟨rfl, matched⟩ cut
    rw [reached, Option.some.injEq, willed_eq_received_iff (by decide) received]
    exact ⟨fun indifferent => ⟨fun again => absurd again cut, fun _ => indifferent⟩, fun agrees => agrees.2 cut⟩

-- Neither loop touches a slot without a matching filter.
theorem loops_agree_of_unsubscribed (unsubscribed : ∀ target granted, broker.registry.get other = some target →
      matchedQos target.subscriptions.items lwt.topic.items ≠ some granted) (clientId : Bytes) (now : Instant) :
    (bequeathed codec broker lwt clientId).get other = (fanned codec broker lwt now).get other := by
  have unlisted : other ∉ (findLwtSubscribers broker.registry clientId lwt).items.map Prod.fst := by
    intro member
    obtain ⟨⟨_, granted⟩, listed, rfl⟩ := List.mem_map.mp member
    obtain ⟨target, found, wanted⟩ := mem_collectSubscribers.mp listed
    exact unsubscribed target granted found wanted.2
  have left : (fanned codec broker lwt now).get other = broker.registry.get other :=
    broadcast_unsubscribed fun target granted found wanted => unsubscribed target granted found wanted.2
  rw [left]
  exact deliverLwts_get_of_notMem unlisted

end

theorem will_delivered_as_published_iff {slot other : SessionId} {session : SessionState maxSubs maxInflight}
    {reason : DisconnectReason} (distinct : DistinctClients broker.registry)
    (present : broker.registry.get slot = some session) (will : session.lwt = some lwt)
    (unclean : reason.isClean = false) (different : other ≠ slot) (now : Instant) :
    (cleanupConnection codec broker slot reason).registry.get other =
        (processOutboundPublish codec broker lwt.publish now).1.registry.get other ↔
      WillAgrees codec broker lwt other := by
  cases kept : retain broker.retained lwt.publish.message with
  | error error =>
    rw [cleanupConnection_refused present will unclean different kept, processOutboundPublish_refused kept]
    refine ⟨fun _ storable => ?_, fun _ => rfl⟩
    obtain ⟨_, accepted⟩ := will_retained_iff.mpr storable
    rw [kept] at accepted
    cases accepted
  | ok retained =>
    have storable := will_retained_iff.mp ⟨retained, kept⟩
    rw [cleanupConnection_delivered present will unclean different kept, processOutboundPublish_accepted kept]
    constructor
    · intro same _ target granted found matched
      exact (loops_agree_iff_of_subscribed distinct present different found matched now).mp same
    · intro agrees
      by_cases subscribed : ∃ target granted, broker.registry.get other = some target ∧
          matchedQos target.subscriptions.items lwt.topic.items = some granted
      · obtain ⟨target, granted, found, matched⟩ := subscribed
        exact (loops_agree_iff_of_subscribed distinct present different found matched now).mpr
          (agrees storable target granted found matched)
      · exact loops_agree_of_unsubscribed
          (fun target granted found matched => subscribed ⟨target, granted, found, matched⟩) _ now

end

-- Client `a` subscribes to the topic on which client `b` has a will of QoS 0.
def willBroker (granted : QoS) : Broker 2 1 1 1 :=
  let operations : List (Operation 2 1) :=
    [.connect (houseConnect [97] true none) gatomqttToken,
      .connect (houseConnect [98] true (some ⟨[116], [120], .atMostOnce, false⟩)) gatomqttToken,
      .subscribe 0 ⟨.new, .truncate [⟨.truncate [116], granted⟩]⟩ .new]
  ⟨Operation.applyAll Mqtt311.codec operations, .new, .empty⟩

def willMessage : LwtMessage := ⟨.truncate [116], .truncate [120], .atMostOnce, false⟩

def willReceiver (granted : QoS) : SessionState 1 1 :=
  { (SessionState.new (.truncate [97]) 0 : SessionState 1 1) with
    subscriptions := .truncate [⟨.truncate [116], granted⟩] }

def willSender : SessionState 1 1 :=
  { (SessionState.new (.truncate [98]) 0 : SessionState 1 1) with lwt := some willMessage }

theorem willBroker_receiver (granted : QoS) :
    (willBroker granted).registry.get 0 = some (willReceiver granted) := by
  cases granted <;> decide +kernel

theorem willBroker_sender (granted : QoS) : (willBroker granted).registry.get 1 = some willSender := by
  cases granted <;> decide +kernel

theorem willBroker_distinct (granted : QoS) : DistinctClients (willBroker granted).registry := by
  have apart : (willReceiver granted).clientId ≠ willSender.clientId := by cases granted <;> decide
  have slots {index : Nat} (inside : index < 2) : index = 0 ∨ index = 1 := by omega
  intro slot other session rival present rivalPresent same
  obtain rfl | rfl := slots (Slots.lt_of_get present) <;>
    obtain rfl | rfl := slots (Slots.lt_of_get rivalPresent)
  · rfl
  · cases (willBroker_receiver granted).symm.trans present
    cases (willBroker_sender granted).symm.trans rivalPresent
    exact absurd same apart
  · cases (willBroker_sender granted).symm.trans present
    cases (willBroker_receiver granted).symm.trans rivalPresent
    exact absurd same.symm apart
  · rfl

theorem will_delivered_as_published_at_qos0 :
    (cleanupConnection Mqtt311.codec (willBroker .atMostOnce) 1 .connectionClosed).registry.get 0 =
      (processOutboundPublish Mqtt311.codec (willBroker .atMostOnce) willMessage.publish 0).1.registry.get 0 := by
  refine (will_delivered_as_published_iff (willBroker_distinct _) (willBroker_sender _) rfl rfl (by decide) 0).mpr ?_
  intro _ target granted found matched
  cases (willBroker_receiver .atMostOnce).symm.trans found
  obtain rfl : QoS.atMostOnce = granted := by
    have matchedAgain : matchedQos (willReceiver .atMostOnce).subscriptions.items willMessage.topic.items =
      some .atMostOnce := by decide
    exact Option.some.inj (matchedAgain.symm.trans matched)
  refine ⟨?_, fun _ => ⟨rfl, fun _ => rfl, fun full => absurd full (by decide)⟩⟩
  rintro ⟨lower, below, _⟩
  exact absurd below (Nat.not_lt_zero lower)

-- Granted QoS 1, the will goes out at QoS 1 with packet id 1, and any other message of QoS 0 at QoS 0.
theorem will_delivered_otherwise :
    DistinctClients (willBroker .atLeastOnce).registry ∧
    (willBroker .atLeastOnce).registry.get 1 = some willSender ∧ willSender.lwt = some willMessage ∧
    (cleanupConnection Mqtt311.codec (willBroker .atLeastOnce) 1 .connectionClosed).registry.get 0 ≠
      (processOutboundPublish Mqtt311.codec (willBroker .atLeastOnce) willMessage.publish 0).1.registry.get 0 :=
  ⟨willBroker_distinct _, willBroker_sender _, rfl, by decide +kernel⟩

end PicoBroker
