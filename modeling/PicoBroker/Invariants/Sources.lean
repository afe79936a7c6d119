import PicoBroker.Broker.Steps
import PicoBroker.Invariants.References

set_option autoImplicit false

namespace PicoBroker

variable {maxSessions maxSubs maxInflight maxRetained : Nat}

def StoredPublish.content (stored : StoredPublish) : Message :=
  ⟨stored.topic.items, stored.payload.items, .atLeastOnce, stored.retain⟩

def SessionRegistry.content (registry : SessionRegistry maxSessions maxSubs maxInflight)
    (handle : StoredPublishHandle) : Option Message :=
  (registry.storedPublish handle).map StoredPublish.content

def trackedFrame (codec : Codec) (message : Message) (packetId : Nat) :
    Except PublishError (Text maxOutboundFrameSize) :=
  encodePublish codec message.topic message.payload .atLeastOnce message.retain packetId

def Sourced (codec : Codec) (sent : ClientId → OutboundPacket → Prop)
    (registry : SessionRegistry maxSessions maxSubs maxInflight) : Prop :=
  ∀ slot session tag message, registry.get slot = some session → tag ∈ session.tags →
    registry.content tag.2 = some message →
      ∃ bytes, trackedFrame codec message tag.1 = .ok bytes ∧ sent session.clientId ⟨bytes⟩

theorem Sourced.mono {codec : Codec} {sent more : ClientId → OutboundPacket → Prop}
    {registry : SessionRegistry maxSessions maxSubs maxInflight} (sourced : Sourced codec sent registry)
    (weaken : ∀ clientId packet, sent clientId packet → more clientId packet) :
    Sourced codec more registry := by
  intro slot session tag message present member found
  obtain ⟨bytes, encoded, queued⟩ := sourced slot session tag message present member found
  exact ⟨bytes, encoded, weaken _ _ queued⟩

structure Inherits (before after : SessionRegistry maxSessions maxSubs maxInflight) : Prop where
  content : ∀ handle message, after.content handle = some message → before.content handle = some message
  tags : ∀ slot new, after.get slot = some new → ∀ tag ∈ new.tags,
    ∃ origin old, before.get origin = some old ∧ old.clientId = new.clientId ∧ tag ∈ old.tags

section

variable {registry before middle after : SessionRegistry maxSessions maxSubs maxInflight}

theorem Sourced.inherit {codec : Codec} {sent : ClientId → OutboundPacket → Prop}
    (sourced : Sourced codec sent before) (inherits : Inherits before after) : Sourced codec sent after := by
  intro slot session tag message present member found
  obtain ⟨origin, old, oldPresent, same, oldMember⟩ := inherits.tags slot session present tag member
  rw [← same]
  exact sourced origin old tag message oldPresent oldMember (inherits.content tag.2 message found)

theorem Inherits.trans (left : Inherits before middle) (right : Inherits middle after) :
    Inherits before after where
  content handle message found := left.content handle message (right.content handle message found)
  tags slot new present tag member := by
    obtain ⟨through, mid, midPresent, sameMid, midMember⟩ := right.tags slot new present tag member
    obtain ⟨origin, old, oldPresent, sameOld, oldMember⟩ := left.tags through mid midPresent tag midMember
    exact ⟨origin, old, oldPresent, sameOld.trans sameMid, oldMember⟩

theorem Inherits.of_maps
    (maps : Maps (fun old new => new.clientId = old.clientId ∧ ∀ tag ∈ new.tags, tag ∈ old.tags) before after)
    (content : ∀ handle message, after.content handle = some message →
      before.content handle = some message) : Inherits before after where
  content := content
  tags slot new present tag member := by
    obtain ⟨old, oldPresent, same, kept⟩ := maps.of_present present
    exact ⟨slot, old, oldPresent, same.symm, kept tag member⟩

theorem content_congr (stored : after.storedPublishes = before.storedPublishes)
    (handle : StoredPublishHandle) : after.content handle = before.content handle := by
  simp [SessionRegistry.content, SessionRegistry.storedPublish, stored]

-- Sessions of other fields, with their entries and the pool untouched.
theorem Inherits.of_same_tags (maps : Maps (fun old new => new.clientId = old.clientId ∧ new.tags = old.tags)
    before after) (stored : after.storedPublishes = before.storedPublishes) : Inherits before after :=
  .of_maps (maps.mono fun old new ⟨same, tags⟩ => ⟨same, fun _ member => tags ▸ member⟩)
    fun handle _ found => by rwa [← content_congr stored handle]

theorem Inherits.refl (registry : SessionRegistry maxSessions maxSubs maxInflight) :
    Inherits registry registry :=
  ⟨fun _ _ found => found, fun slot new present _ member => ⟨slot, new, present, rfl, member⟩⟩

theorem Inherits.put {slot : SessionId} {old new : SessionState maxSubs maxInflight}
    (present : registry.get slot = some old) (same : new.clientId = old.clientId)
    (tags : new.tags = old.tags) : Inherits registry (registry.put slot new) :=
  .of_same_tags (.put (fun _ => ⟨rfl, rfl⟩) present ⟨same, tags⟩) rfl

theorem content_eq_some {handle : StoredPublishHandle} {message : Message} :
    registry.content handle = some message ↔ ∃ stored,
      registry.storedPublishes.get handle.slot = some stored ∧ stored.generation = handle.generation ∧
        stored.content = message := by
  simp [SessionRegistry.content, Option.map_eq_some_iff, SessionRegistry.storedPublish_eq_some, and_assoc]

theorem content_putStored {slot : Nat} {stored : StoredPublish} {cell : Option StoredPublish}
    (found : registry.storedPublishes.get slot = some stored)
    (same : ∀ kept ∈ cell, kept.generation = stored.generation ∧ kept.content = stored.content)
    {handle : StoredPublishHandle} {message : Message}
    (present : (registry.putStored slot cell).content handle = some message) :
    registry.content handle = some message := by
  obtain ⟨kept, keptAt, generation, content⟩ := content_eq_some.mp present
  by_cases here : handle.slot = slot
  · rw [here, SessionRegistry.putStored, Slots.get_set_self _ _ (Slots.lt_of_get found)] at keptAt
    obtain ⟨sameGeneration, sameContent⟩ := same kept keptAt
    exact content_eq_some.mpr ⟨stored, by rw [here, found], sameGeneration ▸ generation, sameContent ▸ content⟩
  · rw [SessionRegistry.putStored, Slots.get_set_ne _ _ here] at keptAt
    exact content_eq_some.mpr ⟨kept, keptAt, generation, content⟩

theorem content_releaseStoredPublish {released handle : StoredPublishHandle} {message : Message}
    (found : (registry.releaseStoredPublish released).content handle = some message) :
    registry.content handle = some message := by
  unfold SessionRegistry.releaseStoredPublish at found
  split at found
  · exact found
  · next stored resolved =>
    have storedAt := (SessionRegistry.storedPublish_eq_some.mp resolved).1
    split at found
    · exact content_putStored storedAt (by simp) found
    · exact content_putStored storedAt (by simp [StoredPublish.content]) found

theorem content_releaseAll (entries : List InflightEntry) {handle : StoredPublishHandle} {message : Message}
    (found : (registry.releaseAll entries).content handle = some message) :
    registry.content handle = some message := by
  induction entries generalizing registry with
  | nil => exact found
  | cons entry rest ih => exact content_releaseStoredPublish (ih found)

theorem Inherits.remove (slot : SessionId) : Inherits registry (registry.remove slot).2 where
  content handle message found := by
    unfold SessionRegistry.remove at found
    split at found
    · exact found
    · have kept := content_releaseAll _ found
      exact kept
  tags other new present tag member := by
    rw [SessionRegistry.get_remove] at present
    split at present
    · cases present
    · exact ⟨other, new, present, rfl, member⟩

theorem Inherits.acknowledge (slot : SessionId) (packetId : Nat) :
    Inherits registry (acknowledge registry slot packetId) := by
  refine .of_maps ((acknowledge_maps registry slot packetId).mono ?_) ?_
  · rintro old new ⟨inflight, rfl, fewer⟩
    exact ⟨rfl, fun tag member => (fewer.map _).subset member⟩
  · intro handle message found
    unfold PicoBroker.acknowledge at found
    split at found
    · exact found
    · split at found
      · exact found
      · have kept := content_releaseStoredPublish found
        exact kept

theorem Inherits.displace (clientId : Bytes) : Inherits registry (displace registry clientId).2 := by
  unfold PicoBroker.displace
  split
  · exact .refl registry
  · exact .remove _

theorem Claimed.tags {packet : Connect} {slot : SessionId} {session : SessionState maxSubs maxInflight}
    (claimed : Claimed registry packet slot session) {tag : Nat × StoredPublishHandle}
    (member : tag ∈ session.tags) :
    ∃ old, registry.get slot = some old ∧ old.clientId = session.clientId ∧ tag ∈ old.tags := by
  rcases claimed.state with ⟨clientId, lwt, rfl⟩ | ⟨old, lwt, present, rfl⟩
  · cases member
  · exact ⟨old, present, rfl, member⟩

theorem Admission.inherits {packet : Connect} {houseToken : HouseToken}
    {result : Except ConnectError PreparedConnect}
    (admission : Admission registry packet houseToken after result) : Inherits registry after where
  content handle message found := by
    have inherited : Inherits registry _ := .displace packet.clientId
    have displaced := inherited.content handle message
    cases admission with
    | refused | badWill | resumed | unavailable => exact found
    | invalid | unrecorded | created => exact displaced found
  tags slot new present tag member := by
    rcases admission.get_cases present with same | ⟨_, claimed⟩
    · exact ⟨slot, new, same, rfl, member⟩
    · obtain ⟨old, oldPresent, sameClient, oldMember⟩ := claimed.tags member
      exact ⟨slot, old, oldPresent, sameClient, oldMember⟩

end

def InOutbox (registry : SessionRegistry maxSessions maxSubs maxInflight) (clientId : ClientId)
    (packet : OutboundPacket) : Prop :=
  ∃ slot session, registry.get slot = some session ∧ session.clientId = clientId ∧
    packet ∈ session.outbox.items

def SentOrQueued (sent : ClientId → OutboundPacket → Prop)
    (registry : SessionRegistry maxSessions maxSubs maxInflight) (clientId : ClientId)
    (packet : OutboundPacket) : Prop :=
  sent clientId packet ∨ InOutbox registry clientId packet

structure Delivering (codec : Codec) (sent : ClientId → OutboundPacket → Prop) (message : Message)
    (fanout : Fanout maxSessions maxSubs maxInflight) : Prop where
  consistent : Consistent fanout.registry
  shared : ∀ handle found, fanout.sharedPublish = some handle →
    fanout.registry.content handle = some found → found = { message with qos := .atLeastOnce }
  sourced : Sourced codec (SentOrQueued sent fanout.registry) fanout.registry

section

variable {before after : SessionRegistry maxSessions maxSubs maxInflight}

theorem InOutbox.grow (maps : Maps Grows before after) {clientId : ClientId} {packet : OutboundPacket}
    (queued : InOutbox before clientId packet) : InOutbox after clientId packet := by
  obtain ⟨slot, old, found, owner, member⟩ := queued
  obtain ⟨new, kept, same, grown⟩ := maps.present slot old found
  exact ⟨slot, new, kept, same.trans owner, grown.mem member⟩

-- A reference taken for a message leaves what the pool says about every handle that is held.
theorem Acquisition.content {message : Message} {shared next : Option StoredPublishHandle}
    {handle held : StoredPublishHandle} {found : Message}
    (acquisition : Acquisition before message shared after next (some handle))
    (resolved : ∃ stored, before.storedPublish held = some stored)
    (present : after.content held = some found) : before.content held = some found := by
  cases acquisition with
  | @stored slot _ _ free _ _ _ =>
    obtain ⟨stored, resolved⟩ := resolved
    have elsewhere : held.slot ≠ slot := by
      rintro rfl
      have empty := (Slots.firstFree_eq_some.mp free).2.1
      rw [(SessionRegistry.storedPublish_eq_some.mp resolved).1] at empty
      cases empty
    obtain ⟨kept, keptAt, rest⟩ := content_eq_some.mp present
    rw [SessionRegistry.putStored, Slots.get_set_ne _ _ elsewhere] at keptAt
    exact content_eq_some.mpr ⟨kept, keptAt, rest⟩
  | acquired resolvedHandle =>
    exact content_putStored (SessionRegistry.storedPublish_eq_some.mp resolvedHandle).1
      (by simp [StoredPublish.content]) present

-- The handle that was acquired resolves to the message, in a loop that shares one handle.
theorem Acquisition.content_handle {message : Message} {shared next : Option StoredPublishHandle}
    {handle : StoredPublishHandle} {found : Message}
    (acquisition : Acquisition before message shared after next (some handle))
    (sharedContent : ∀ handle found, shared = some handle → before.content handle = some found →
      found = { message with qos := .atLeastOnce })
    (present : after.content handle = some found) : found = { message with qos := .atLeastOnce } := by
  have whole := acquisition
  cases acquisition with
  | @stored slot topic payload free sameTopic samePayload _ =>
    obtain ⟨kept, keptAt, _, rfl⟩ := content_eq_some.mp present
    rw [SessionRegistry.putStored, Slots.get_set_self _ _ (Slots.firstFree_eq_some.mp free).1] at keptAt
    cases keptAt
    simp [StoredPublish.content, sameTopic, samePayload]
  | acquired resolved => exact sharedContent handle found rfl (whole.content ⟨_, resolved⟩ present)

theorem Acquisition.next_eq {message : Message} {shared next : Option StoredPublishHandle}
    {handle : StoredPublishHandle}
    (acquisition : Acquisition before message shared after next (some handle)) : next = some handle := by
  cases acquisition <;> rfl

end

section

variable {codec : Codec} {message : Message} {now : Instant} {maxOutboxDrops : Nat}
  {before after : Fanout maxSessions maxSubs maxInflight} {id : SessionId} {qos : QoS}
  {error : Option PublishError}

theorem Delivery.shared_content (delivery : Delivery codec message now maxOutboxDrops before id qos after error)
    (content : ∀ handle found, before.sharedPublish = some handle →
      before.registry.content handle = some found → found = { message with qos := .atLeastOnce })
    {handle : StoredPublishHandle} {found : Message} (shared : after.sharedPublish = some handle)
    (present : after.registry.content handle = some found) : found = { message with qos := .atLeastOnce } := by
  cases delivery with
  | absent | failed | dropped | queued => exact content handle found shared present
  | tracked _ _ _ _ acquired =>
    obtain rfl := Option.some.inj (acquired.next_eq.symm.trans shared)
    exact acquired.content_handle content present

-- The cell of a handle in flight is not free, so nothing is stored there.
theorem Delivery.content (delivery : Delivery codec message now maxOutboxDrops before id qos after error)
    (consistent : Consistent before.registry) {slot : SessionId} {tag : Nat × StoredPublishHandle}
    (held : Holds before.registry slot tag) {found : Message}
    (present : after.registry.content tag.2 = some found) : before.registry.content tag.2 = some found := by
  cases delivery with
  | absent | failed | dropped | queued => exact present
  | tracked _ _ _ _ acquired =>
    obtain ⟨_, _, resolved⟩ := consistent.holds held
    exact acquired.content resolved present

-- What is newly in flight holds the handle of the loop.
theorem Delivery.shared_of_fresh (delivery : Delivery codec message now maxOutboxDrops before id qos after error)
    {slot : SessionId} {old new : SessionState maxSubs maxInflight} (found : before.registry.get slot = some old)
    (kept : after.registry.get slot = some new) {entry : InflightEntry} (member : entry ∈ new.inflight.items)
    (fresh : entry ∉ old.inflight.items) : after.sharedPublish = some entry.publish := by
  by_cases here : slot = id
  · subst here
    cases delivery with
    | absent missing => cases found.symm.trans missing
    | failed present | dropped present | queued present =>
      cases found.symm.trans present
      cases (SessionRegistry.get_put_self found _).symm.trans kept
      exact absurd (by simpa [droppedSession, queuedSession] using member) fresh
    | tracked present _ _ _ acquired added =>
      cases found.symm.trans present
      have acquiredAt := (acquired.same.get slot).trans (SessionRegistry.get_put_self found _)
      cases (SessionRegistry.get_put_self acquiredAt _).symm.trans kept
      rw [(Bounded.push_eq_some.mp added).2] at member
      rcases List.mem_append.mp member with earlier | last
      · exact absurd earlier fresh
      · rw [List.mem_singleton.mp last]
        exact acquired.next_eq
  · cases ((delivery.get_ne here).trans found).symm.trans kept
    exact absurd member fresh

end

def Tracks (codec : Codec) (message : Message) (old new : SessionState maxSubs maxInflight) : Prop :=
  ∀ entry ∈ new.inflight.items, entry ∉ old.inflight.items → ∃ bytes,
    new.outbox.items = old.outbox.items ++ [⟨bytes⟩] ∧ trackedFrame codec message entry.packetId = .ok bytes

section

variable {codec : Codec} {message : Message} {now : Instant} {maxOutboxDrops : Nat} {qos : QoS}
  {old new : SessionState maxSubs maxInflight}

theorem Tracks.of_same (same : new.inflight = old.inflight) : Tracks codec message old new := by
  intro entry member fresh
  rw [same] at member
  exact absurd member fresh

theorem Received.tracks (received : Received codec message now maxOutboxDrops old qos new) :
    Tracks codec message old new := by
  cases received with
  | failed => exact .of_same (by simp)
  | dropped => exact .of_same (by simp [droppedSession])
  | queued => exact .of_same (by simp [queuedSession])
  | @tracked bytes _ _ _ qos1 encoded pushed added =>
    intro entry member fresh
    subst qos1
    rw [(Bounded.push_eq_some.mp added).2] at member
    rcases List.mem_append.mp member with earlier | last
    · exact absurd earlier fresh
    · rw [List.mem_singleton.mp last]
      exact ⟨bytes, (Bounded.push_eq_some.mp pushed).2, encoded⟩

-- What was in flight keeps its content and its frame; what is new holds the message, and its frame is in
-- the outbox.
theorem Delivering.delivery {sent : ClientId → OutboundPacket → Prop} {id : SessionId}
    {error : Option PublishError} {fanout next : Fanout maxSessions maxSubs maxInflight}
    (delivering : Delivering codec sent message fanout)
    (delivery : Delivery codec message now maxOutboxDrops fanout id qos next error) :
    Delivering codec sent message next := by
  refine ⟨delivering.consistent.delivery delivery, fun _ _ => delivery.shared_content delivering.shared, ?_⟩
  intro slot new tag found kept member content
  obtain ⟨old, reached, changed⟩ := delivery.maps.of_present kept
  by_cases held : tag ∈ old.tags
  · have before := delivery.content delivering.consistent ⟨old, reached, held⟩ content
    obtain ⟨bytes, encoded, source⟩ := delivering.sourced slot old tag found reached held before
    have maps : Maps Grows fanout.registry next.registry := delivery.maps.mono fun old new changed => by
      rcases changed with rfl | received
      · exact ⟨rfl, List.prefix_rfl⟩
      · exact received.grows
    have owner : new.clientId = old.clientId := by
      rcases changed with rfl | received
      · rfl
      · exact received.grows.1
    rw [owner]
    exact ⟨bytes, encoded, source.imp_right (.grow maps)⟩
  · obtain ⟨entry, added, rfl⟩ := List.mem_map.mp member
    have fresh : entry ∉ old.inflight.items := fun earlier => held (List.mem_map.mpr ⟨entry, earlier, rfl⟩)
    have tracks : Tracks codec message old new := by
      rcases changed with rfl | received
      · exact .of_same rfl
      · exact received.tracks
    obtain ⟨bytes, grown, encoded⟩ := tracks entry added fresh
    have shared := delivery.shared_of_fresh reached kept added fresh
    rw [delivery.shared_content delivering.shared shared content]
    exact ⟨bytes, encoded, .inr ⟨slot, new, kept, rfl, by simp [grown]⟩⟩

end

section

variable {codec : Codec} {sent : ClientId → OutboundPacket → Prop}
  {registry : SessionRegistry maxSessions maxSubs maxInflight}

theorem Sourced.orQueued (sourced : Sourced codec sent registry) :
    Sourced codec (SentOrQueued sent registry) registry :=
  sourced.mono fun _ _ => .inl

theorem Sourced.fanOut (sourced : Sourced codec sent registry) (consistent : Consistent registry)
    (message : Message) (now : Instant) (maxOutboxDrops : Nat) (signals : SessionSignals maxSessions)
    (subscribers : List (SessionId × QoS)) :
    let reached := (fanOut codec message now maxOutboxDrops ⟨registry, signals, none, []⟩ subscribers).1.registry
    Sourced codec (SentOrQueued sent reached) reached := by
  have start : Delivering codec sent message ⟨registry, signals, none, []⟩ :=
    ⟨consistent, by simp, sourced.orQueued⟩
  have finish : Delivering codec sent message
      (PicoBroker.fanOut codec message now maxOutboxDrops ⟨registry, signals, none, []⟩ subscribers).1 :=
    fanOut_induction (P := Delivering codec sent message)
      (fun _ _ _ _ _ delivering delivery => delivering.delivery delivery) start subscribers
  exact finish.sourced

theorem Sourced.handlePublishAt {broker : Broker maxSessions maxSubs maxInflight maxRetained}
    (sourced : Sourced codec sent broker.registry) (consistent : Consistent broker.registry)
    (accepts : MqttIntent → Bool) (senderId : SessionId) (packet : Publish) (now : Instant)
    (maxViolations maxOutboxDrops : Nat) :
    let reached := (handlePublishAt codec accepts senderId broker packet now maxViolations
      maxOutboxDrops).broker.registry
    Sourced codec (SentOrQueued sent reached) reached := by
  intro reached
  cases present : broker.registry.get senderId with
  | none =>
    unfold reached
    rw [handlePublishAt_absent present]
    exact sourced.orQueued
  | some sender =>
    have paid : Sourced codec sent (charged broker senderId sender now) :=
      sourced.inherit (.put present rfl rfl)
    have paidConsistent : Consistent (charged broker senderId sender now) := consistent.put present rfl
    unfold reached
    by_cases routable : Routable broker.retained sender packet.message now
    · rw [handlePublishAt_routed present routable]
      exact paid.fanOut paidConsistent _ _ _ _ _
    · rw [handlePublishAt_unrouted present routable]
      exact paid.orQueued

theorem Sourced.processOutboundPublish {broker : Broker maxSessions maxSubs maxInflight maxRetained}
    (sourced : Sourced codec sent broker.registry) (consistent : Consistent broker.registry)
    (publish : MqttPublish) (now : Instant) :
    let reached := (processOutboundPublish codec broker publish now).1.registry
    Sourced codec (SentOrQueued sent reached) reached := by
  unfold PicoBroker.processOutboundPublish
  split
  · exact sourced.orQueued
  · exact sourced.fanOut consistent _ _ _ _ _

end

end PicoBroker
