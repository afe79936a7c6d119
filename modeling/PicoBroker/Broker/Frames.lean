import PicoBroker.Broker.Fanout
import PicoBroker.Broker.Turns

set_option autoImplicit false

namespace PicoBroker

variable {maxSessions maxSubs maxInflight maxRetained : Nat}

structure Maps (P : SessionState maxSubs maxInflight → SessionState maxSubs maxInflight → Prop)
    (before after : SessionRegistry maxSessions maxSubs maxInflight) : Prop where
  present : ∀ slot old, before.get slot = some old → ∃ new, after.get slot = some new ∧ P old new
  absent : ∀ slot, before.get slot = none → after.get slot = none

section

variable {P Q R : SessionState maxSubs maxInflight → SessionState maxSubs maxInflight → Prop}
  {before middle after : SessionRegistry maxSessions maxSubs maxInflight}

theorem Maps.of_eq (refl : ∀ session, P session session) (same : ∀ slot, after.get slot = before.get slot) :
    Maps P before after where
  present slot old found := ⟨old, (same slot).trans found, refl old⟩
  absent slot missing := (same slot).trans missing

theorem Maps.mono (maps : Maps P before after) (weaken : ∀ old new, P old new → Q old new) :
    Maps Q before after where
  present slot old found := by
    obtain ⟨new, kept, related⟩ := maps.present slot old found
    exact ⟨new, kept, weaken old new related⟩
  absent := maps.absent

theorem Maps.trans (left : Maps P before middle) (right : Maps Q middle after)
    (compose : ∀ old mid new, P old mid → Q mid new → R old new) : Maps R before after where
  present slot old found := by
    obtain ⟨mid, reached, first⟩ := left.present slot old found
    obtain ⟨new, kept, second⟩ := right.present slot mid reached
    exact ⟨new, kept, compose old mid new first second⟩
  absent slot missing := right.absent slot (left.absent slot missing)

theorem Maps.put (refl : ∀ session, P session session) {slot : SessionId}
    {old new : SessionState maxSubs maxInflight} (found : before.get slot = some old)
    (related : P old new) : Maps P before (before.put slot new) where
  present other session present := by
    rw [SessionRegistry.get_put found]
    split
    · next same =>
      subst same
      rw [found] at present
      cases present
      exact ⟨new, rfl, related⟩
    · exact ⟨session, present, refl session⟩
  absent other missing := by
    rw [SessionRegistry.get_put found, if_neg]
    · exact missing
    · rintro rfl
      rw [found] at missing
      cases missing

theorem Maps.of_present (maps : Maps P before after) {slot : SessionId}
    {new : SessionState maxSubs maxInflight} (found : after.get slot = some new) :
    ∃ old, before.get slot = some old ∧ P old new := by
  cases old : before.get slot with
  | none =>
    rw [maps.absent slot old] at found
    cases found
  | some session =>
    obtain ⟨kept, present, related⟩ := maps.present slot session old
    rw [found] at present
    cases present
    exact ⟨session, rfl, related⟩

end

theorem Delivery.maps {codec : Codec} {message : Message} {now : Instant} {maxOutboxDrops : Nat}
    {before after : Fanout maxSessions maxSubs maxInflight} {id : SessionId} {qos : QoS}
    {error : Option PublishError} (delivery : Delivery codec message now maxOutboxDrops before id qos after error) :
    Maps (fun old new => new = old ∨ Received codec message now maxOutboxDrops old qos new)
      before.registry after.registry where
  present slot old found := by
    by_cases here : slot = id
    · subst here
      obtain ⟨new, kept, received⟩ := delivery.received found
      exact ⟨new, kept, .inr received⟩
    · exact ⟨old, (delivery.get_ne here).trans found, .inl rfl⟩
  absent slot missing := by
    by_cases here : slot = id
    · subst here
      cases delivery with
      | absent => exact missing
      | failed present | dropped present | queued present | tracked present =>
        rw [missing] at present
        cases present
    · exact (delivery.get_ne here).trans missing

def Routed (codec : Codec) (old new : SessionState maxSubs maxInflight) : Prop :=
  ∃ rate lastActivity, new = { old with rate := rate, lastActivity := lastActivity } ∨
    ∃ message now maxOutboxDrops qos, Received codec message now maxOutboxDrops
      { old with rate := rate, lastActivity := lastActivity } qos new

theorem Routed.refl (codec : Codec) (session : SessionState maxSubs maxInflight) :
    Routed codec session session :=
  ⟨session.rate, session.lastActivity, .inl rfl⟩

-- A session with a matching filter is delivered to, at the lower of the two QoS.
def Reached (codec : Codec) (message : Message) (now : Instant) (maxOutboxDrops : Nat)
    (old new : SessionState maxSubs maxInflight) : Prop :=
  ∃ granted, matchedQos old.subscriptions.items message.topic = some granted ∧
    Received codec message now maxOutboxDrops old (minQos message.qos granted) new

section

variable {codec : Codec} {message : Message} {now : Instant} {maxOutboxDrops : Nat}

variable (codec message now maxOutboxDrops) in
theorem broadcast_maps (skipped : SessionId → SessionState maxSubs maxInflight → Bool)
    (fanout : Fanout maxSessions maxSubs maxInflight) :
    Maps (fun old new => new = old ∨ Reached codec message now maxOutboxDrops old new)
      fanout.registry (broadcast codec message now maxOutboxDrops skipped fanout).1.registry where
  present slot old found := by
    by_cases blocked : Blocked codec message fanout.registry skipped slot
    · exact ⟨old, by rw [broadcast_blocked blocked, found], .inl rfl⟩
    · by_cases wanted : ∃ granted, Subscribed skipped message.topic slot old granted
      · obtain ⟨granted, subscribed⟩ := wanted
        obtain ⟨new, kept, received⟩ := broadcast_received found subscribed blocked
        exact ⟨new, kept, .inr ⟨granted, subscribed.2, received⟩⟩
      · refine ⟨old, ?_, .inl rfl⟩
        rw [broadcast_unsubscribed, found]
        intro session granted present subscribed
        rw [found] at present
        cases present
        exact wanted ⟨granted, subscribed⟩
  absent slot missing := by
    rw [broadcast_unsubscribed (by simp [missing]), missing]

theorem charged_maps {broker : Broker maxSessions maxSubs maxInflight maxRetained} {senderId : SessionId}
    {sender : SessionState maxSubs maxInflight} (present : broker.registry.get senderId = some sender) :
    Maps (fun old new => ∃ rate, new = { old with rate := rate }) broker.registry
      (charged broker senderId sender now) :=
  .put (fun session => ⟨session.rate, rfl⟩) present ⟨_, rfl⟩

theorem routed_maps {broker : Broker maxSessions maxSubs maxInflight maxRetained} {senderId : SessionId}
    {sender : SessionState maxSubs maxInflight} (present : broker.registry.get senderId = some sender) :
    Maps (fun old new => ∃ rate, new = { old with rate := rate } ∨
        Reached codec message now maxOutboxDrops { old with rate := rate } new)
      broker.registry (routed codec broker senderId sender message now maxOutboxDrops).1.registry := by
  rw [routed_eq_broadcast]
  have delivered := broadcast_maps codec message now maxOutboxDrops (isSender senderId)
    ⟨charged broker senderId sender now, broker.signals, none, []⟩
  refine (charged_maps present).trans delivered ?_
  rintro old mid new ⟨rate, rfl⟩ (rfl | reached)
  · exact ⟨rate, .inl rfl⟩
  · exact ⟨rate, .inr reached⟩

theorem handlePublishAt_maps (codec : Codec) (accepts : MqttIntent → Bool) (senderId : SessionId)
    (broker : Broker maxSessions maxSubs maxInflight maxRetained) (packet : Publish) (now : Instant)
    (maxViolations maxOutboxDrops : Nat) :
    Maps (fun old new => ∃ rate, new = { old with rate := rate } ∨
        Reached codec packet.message now maxOutboxDrops { old with rate := rate } new)
      broker.registry
      (handlePublishAt codec accepts senderId broker packet now maxViolations maxOutboxDrops).broker.registry := by
  cases present : broker.registry.get senderId with
  | none =>
    rw [handlePublishAt_absent present]
    exact .of_eq (fun session => ⟨session.rate, .inl rfl⟩) fun _ => rfl
  | some sender =>
    by_cases routable : Routable broker.retained sender packet.message now
    · rw [handlePublishAt_routed present routable]
      exact routed_maps present
    · rw [handlePublishAt_unrouted present routable]
      exact (charged_maps present).mono fun old new ⟨rate, same⟩ => ⟨rate, .inl same⟩

end

theorem touched_maps {broker : Broker maxSessions maxSubs maxInflight maxRetained} {slot : SessionId}
    {session : SessionState maxSubs maxInflight} (present : broker.registry.get slot = some session)
    (now : Instant) :
    Maps (fun old new => ∃ lastActivity, new = { old with lastActivity := lastActivity })
      broker.registry (touchedBroker broker slot session now).registry :=
  .put (fun session => ⟨session.lastActivity, rfl⟩) present ⟨_, rfl⟩

theorem published_maps {env : Env} {accepts : Bool} {slot : SessionId}
    {broker : Broker maxSessions maxSubs maxInflight maxRetained} {session : SessionState maxSubs maxInflight}
    {activityNow : Instant} {publish : Publish} {now : Instant}
    {outcome : PublishOutcome maxSessions maxSubs maxInflight maxRetained}
    (present : broker.registry.get slot = some session)
    (handled : outcome = handlePublish env.codec (fun _ => accepts) slot
      (touchedBroker broker slot session activityNow) publish now) :
    Maps (Routed env.codec) broker.registry outcome.broker.registry := by
  rw [handled]
  refine (touched_maps present activityNow).trans (handlePublishAt_maps ..) ?_
  rintro old mid new ⟨lastActivity, rfl⟩ ⟨rate, rfl | ⟨granted, _, received⟩⟩
  · exact ⟨rate, lastActivity, .inl rfl⟩
  · exact ⟨rate, lastActivity, .inr ⟨_, _, _, _, received⟩⟩

theorem processOutboundPublish_reached (codec : Codec)
    (broker : Broker maxSessions maxSubs maxInflight maxRetained) (publish : MqttPublish) (now : Instant) :
    Maps (fun old new => new = old ∨
        Reached codec publish.message now gatomqttConfig.maxOutboxDrops old new)
      broker.registry (processOutboundPublish codec broker publish now).1.registry := by
  unfold processOutboundPublish
  split
  · exact .of_eq (fun _ => .inl rfl) fun _ => rfl
  · exact broadcast_maps codec publish.message now gatomqttConfig.maxOutboxDrops (fun _ _ => false)
      ⟨broker.registry, broker.signals, none, []⟩

theorem processOutboundPublish_maps (codec : Codec)
    (broker : Broker maxSessions maxSubs maxInflight maxRetained) (publish : MqttPublish) (now : Instant) :
    Maps (Routed codec) broker.registry (processOutboundPublish codec broker publish now).1.registry := by
  refine (processOutboundPublish_reached codec broker publish now).mono ?_
  rintro old new (rfl | ⟨granted, _, received⟩)
  · exact Routed.refl codec new
  · exact ⟨old.rate, old.lastActivity, .inr ⟨_, _, _, _, received⟩⟩

def Extends (old new : SessionState maxSubs maxInflight) : Prop :=
  ∃ outbox, new = { old with outbox := outbox } ∧ old.outbox.items <+: outbox.items

theorem Extends.refl (session : SessionState maxSubs maxInflight) : Extends session session :=
  ⟨session.outbox, rfl, List.prefix_rfl⟩

theorem Extends.trans {first second third : SessionState maxSubs maxInflight}
    (left : Extends first second) (right : Extends second third) : Extends first third := by
  obtain ⟨middle, rfl, begins⟩ := left
  obtain ⟨outbox, rfl, continues⟩ := right
  exact ⟨outbox, rfl, begins.trans continues⟩

theorem deliverLwt_maps (codec : Codec) (lwt : LwtMessage)
    (state : SessionRegistry maxSessions maxSubs maxInflight × SessionSignals maxSessions)
    (delivery : SessionId × QoS) : Maps Extends state.1 (deliverLwt codec lwt state delivery).1 := by
  unfold deliverLwt
  split
  · exact .of_eq Extends.refl fun _ => rfl
  · next target found =>
    split
    · exact .of_eq Extends.refl fun _ => rfl
    · split
      · exact .of_eq Extends.refl fun _ => rfl
      · next outbox pushed =>
        refine .put Extends.refl found ⟨outbox, rfl, ?_⟩
        rw [(Bounded.push_eq_some.mp pushed).2]
        exact List.prefix_append _ _

theorem deliverLwts_maps (codec : Codec) (lwt : LwtMessage)
    (state : SessionRegistry maxSessions maxSubs maxInflight × SessionSignals maxSessions)
    (deliveries : List (SessionId × QoS)) : Maps Extends state.1 (deliverLwts codec lwt state deliveries).1 := by
  induction deliveries generalizing state with
  | nil => exact .of_eq Extends.refl fun _ => rfl
  | cons delivery rest ih =>
    exact (deliverLwt_maps codec lwt state delivery).trans (ih (deliverLwt codec lwt state delivery))
      fun _ _ _ left right => left.trans right

-- At most the entry with that packet id is gone.
theorem acknowledge_maps (registry : SessionRegistry maxSessions maxSubs maxInflight) (id : SessionId)
    (packetId : Nat) :
    Maps (fun old new => ∃ inflight, new = { old with inflight := inflight } ∧
      inflight.items.Sublist old.inflight.items) registry (acknowledge registry id packetId) := by
  have refl (session : SessionState maxSubs maxInflight) : ∃ inflight,
      session = { session with inflight := inflight } ∧ inflight.items.Sublist session.inflight.items :=
    ⟨session.inflight, rfl, List.Sublist.refl _⟩
  unfold acknowledge
  split
  · exact .of_eq refl fun _ => rfl
  · next session found =>
    split
    · exact .of_eq refl fun _ => rfl
    · next handle left removed =>
      obtain ⟨⟨entry, kept⟩, located, same⟩ := Option.map_eq_some_iff.mp removed
      obtain ⟨rfl, rfl⟩ := Prod.mk.inj same
      obtain ⟨before, after, split, _, remaining, shape⟩ := SessionState.inflightRemove_eq_some located
      have put : Maps (fun old new => ∃ inflight, new = { old with inflight := inflight } ∧
          inflight.items.Sublist old.inflight.items) registry (registry.put id kept) := by
        refine .put refl found ⟨kept.inflight, shape, ?_⟩
        rw [remaining, split]
        exact List.Sublist.append_left (List.sublist_cons_self _ _) _
      have released : (registry.put id kept).SameSessions _ :=
        SessionRegistry.releaseStoredPublish_same entry.publish
      exact ⟨fun slot old present => by
          obtain ⟨new, stored, related⟩ := put.present slot old present
          exact ⟨new, (released.get slot).trans stored, related⟩,
        fun slot missing => (released.get slot).trans (put.absent slot missing)⟩

theorem acknowledged_maps {broker : Broker maxSessions maxSubs maxInflight maxRetained} {slot : SessionId}
    {session : SessionState maxSubs maxInflight} (present : broker.registry.get slot = some session)
    (now : Instant) (packetId : Nat) :
    Maps (fun old new => ∃ lastActivity inflight,
        new = { old with lastActivity := lastActivity, inflight := inflight } ∧
          inflight.items.Sublist old.inflight.items)
      broker.registry (acknowledge (touchedBroker broker slot session now).registry slot packetId) := by
  refine (touched_maps present now).trans (acknowledge_maps _ slot packetId) ?_
  rintro old middle new ⟨lastActivity, rfl⟩ ⟨inflight, rfl, fewer⟩
  exact ⟨lastActivity, inflight, rfl, fewer⟩

theorem Retried.maps {before after : SessionRegistry maxSessions maxSubs maxInflight} {id : SessionId}
    (retried : Retried before after id) :
    Maps (fun old new => ∃ inflight, new = { old with inflight := inflight } ∧ new.tags = old.tags)
      before after where
  present slot old found := by
    by_cases here : slot = id
    · subst here
      obtain ⟨inflight, kept, same⟩ := retried.present old found
      exact ⟨_, kept, inflight, rfl, same⟩
    · exact ⟨old, (retried.others slot here).trans found, old.inflight, rfl, rfl⟩
  absent slot missing := by
    by_cases here : slot = id
    · subst here
      exact retried.absent missing
    · exact (retried.others slot here).trans missing

structure Keeps (old new : SessionState maxSubs maxInflight) : Prop where
  clientId : new.clientId = old.clientId
  lwt : new.lwt = old.lwt

structure KeepsAll (old new : SessionState maxSubs maxInflight) : Prop extends Keeps old new where
  subscriptions : new.subscriptions = old.subscriptions

theorem Keeps.refl (session : SessionState maxSubs maxInflight) : Keeps session session := ⟨rfl, rfl⟩

theorem KeepsAll.refl (session : SessionState maxSubs maxInflight) : KeepsAll session session :=
  ⟨.refl session, rfl⟩

theorem Received.keepsAll {codec : Codec} {message : Message} {now : Instant} {maxOutboxDrops : Nat}
    {old new : SessionState maxSubs maxInflight} {qos : QoS}
    (received : Received codec message now maxOutboxDrops old qos new) : KeepsAll old new := by
  cases received <;> exact ⟨⟨by simp [droppedSession, queuedSession], by simp [droppedSession, queuedSession]⟩,
    by simp [droppedSession, queuedSession]⟩

theorem Routed.keepsAll {codec : Codec} {old new : SessionState maxSubs maxInflight}
    (routed : Routed codec old new) : KeepsAll old new := by
  obtain ⟨rate, lastActivity, rfl | ⟨_, _, _, _, received⟩⟩ := routed
  · exact ⟨⟨rfl, rfl⟩, rfl⟩
  · have kept := received.keepsAll
    exact ⟨⟨kept.clientId, kept.lwt⟩, kept.subscriptions⟩

def Grows (old new : SessionState maxSubs maxInflight) : Prop :=
  new.clientId = old.clientId ∧ old.outbox.items <+: new.outbox.items

theorem Received.grows {codec : Codec} {message : Message} {now : Instant} {maxOutboxDrops : Nat}
    {old new : SessionState maxSubs maxInflight} {qos : QoS}
    (received : Received codec message now maxOutboxDrops old qos new) : Grows old new := by
  refine ⟨received.keepsAll.clientId, ?_⟩
  cases received with
  | failed => simp
  | dropped => simp [droppedSession]
  | queued _ pushed => simp [queuedSession, (Bounded.push_eq_some.mp pushed).2]
  | tracked _ _ pushed _ => simp [queuedSession, (Bounded.push_eq_some.mp pushed).2]

theorem Routed.grows {codec : Codec} {old new : SessionState maxSubs maxInflight}
    (routed : Routed codec old new) : Grows old new := by
  obtain ⟨rate, lastActivity, rfl | ⟨_, _, _, _, received⟩⟩ := routed
  · exact ⟨rfl, List.prefix_rfl⟩
  · exact received.grows

theorem Extends.grows {old new : SessionState maxSubs maxInflight} (extended : Extends old new) :
    Grows old new := by
  obtain ⟨outbox, rfl, grown⟩ := extended
  exact ⟨rfl, grown⟩

theorem fanOut_publishedLwts (codec : Codec) (message : Message) (now : Instant) (maxOutboxDrops : Nat)
    (fanout : Fanout maxSessions maxSubs maxInflight) (subscribers : List (SessionId × QoS)) :
    (fanOut codec message now maxOutboxDrops fanout subscribers).1.registry.publishedLwts =
      fanout.registry.publishedLwts :=
  fanOut_induction (P := fun reached => reached.registry.publishedLwts = fanout.registry.publishedLwts)
    (fun _ _ _ _ _ same delivery => delivery.publishedLwts.trans same) rfl subscribers

theorem handlePublishAt_publishedLwts (codec : Codec) (accepts : MqttIntent → Bool) (senderId : SessionId)
    (broker : Broker maxSessions maxSubs maxInflight maxRetained) (packet : Publish) (now : Instant)
    (maxViolations maxOutboxDrops : Nat) :
    (handlePublishAt codec accepts senderId broker packet now maxViolations
      maxOutboxDrops).broker.registry.publishedLwts = broker.registry.publishedLwts := by
  cases present : broker.registry.get senderId with
  | none => rw [handlePublishAt_absent present]
  | some sender =>
    by_cases routable : Routable broker.retained sender packet.message now
    · rw [handlePublishAt_routed present routable]
      exact fanOut_publishedLwts ..
    · rw [handlePublishAt_unrouted present routable]
      rfl

theorem processOutboundPublish_publishedLwts (codec : Codec)
    (broker : Broker maxSessions maxSubs maxInflight maxRetained) (publish : MqttPublish) (now : Instant) :
    (processOutboundPublish codec broker publish now).1.registry.publishedLwts =
      broker.registry.publishedLwts := by
  unfold processOutboundPublish
  split
  · rfl
  · exact fanOut_publishedLwts ..

theorem deliverLwts_publishedLwts (codec : Codec) (lwt : LwtMessage)
    (state : SessionRegistry maxSessions maxSubs maxInflight × SessionSignals maxSessions)
    (deliveries : List (SessionId × QoS)) :
    (deliverLwts codec lwt state deliveries).1.publishedLwts = state.1.publishedLwts := by
  induction deliveries generalizing state with
  | nil => rfl
  | cons delivery rest ih =>
    refine (ih (deliverLwt codec lwt state delivery)).trans ?_
    unfold deliverLwt
    split
    · rfl
    · split
      · rfl
      · split <;> rfl

theorem acknowledge_publishedLwts (registry : SessionRegistry maxSessions maxSubs maxInflight)
    (id : SessionId) (packetId : Nat) :
    (acknowledge registry id packetId).publishedLwts = registry.publishedLwts := by
  unfold acknowledge
  split
  · rfl
  · split
    · rfl
    · exact (SessionRegistry.releaseStoredPublish_same _).publishedLwts

end PicoBroker
