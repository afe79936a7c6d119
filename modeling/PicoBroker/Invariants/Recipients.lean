import PicoBroker.Invariants.Ownership

set_option autoImplicit false

namespace PicoBroker

open Execution (Run Anything)

variable {maxSessions maxSubs maxInflight maxRetained : Nat} {env : Env}

def Covers (subscriptions : Bounded Subscription maxSubs) (topic : Bytes) : Prop :=
  ∃ subscription ∈ subscriptions.items, topicMatches subscription.filter.items topic = true

instance (subscriptions : Bounded Subscription maxSubs) (topic : Bytes) :
    Decidable (Covers subscriptions topic) :=
  inferInstanceAs (Decidable (∃ subscription ∈ subscriptions.items, _))

section

variable {subscriptions : Bounded Subscription maxSubs} {topic : Bytes}

theorem covers_of_matchedQos {granted : QoS} (matched : matchedQos subscriptions.items topic = some granted) :
    Covers subscriptions topic := by
  obtain ⟨subscription, member, found, _⟩ := (granted_of_matchedQos matched).attained
  exact ⟨subscription, member, found⟩

-- A SUBSCRIBE changes the QoS of a filter or adds one.
theorem upsertSubscription_covers (covers : Covers subscriptions topic) (filter : Bytes) (qos : QoS) :
    Covers (upsertSubscription subscriptions filter qos).1 topic := by
  obtain ⟨subscription, member, matched⟩ := covers
  unfold upsertSubscription
  split
  · exact ⟨subscription, member, matched⟩
  · split
    · next index _ =>
      obtain ⟨position, found⟩ := List.getElem?_of_mem member
      refine ⟨if index = position then { subscription with qos := qos } else subscription,
        List.mem_of_getElem? (i := position) ?_, ?_⟩
      · rw [Bounded.modify_items, List.getElem?_modify, found]
        split <;> rfl
      · split <;> exact matched
    · split
      · exact ⟨subscription, member, matched⟩
      · split
        · next pushed =>
          refine ⟨subscription, ?_, matched⟩
          rw [(Bounded.push_eq_some.mp pushed).2]
          exact List.mem_append_left _ member
        · exact ⟨subscription, member, matched⟩

theorem subscribeTopics_covers {loop : SubscribeLoop maxSubs} (covers : Covers loop.subscriptions topic)
    (topics : List SubscribeTopic) : Covers (topics.foldl subscribeTopic loop).subscriptions topic := by
  induction topics generalizing loop with
  | nil => exact covers
  | cons head rest ih =>
    exact ih (show Covers (subscribeTopic loop head).subscriptions topic from upsertSubscription_covers covers _ _)

theorem resubscribed_covers {packet : Packet} (covers : Covers subscriptions topic)
    (kept : ∀ unsubscribe, packet = .unsubscribe unsubscribe →
      Covers (unsubscribe.topics.items.foldl unsubscribeFilter subscriptions) topic) :
    Covers (resubscribed subscriptions packet) topic := by
  unfold resubscribed
  split
  · exact subscribeTopics_covers covers _
  · exact kept _ rfl
  · exact covers

end

def PublishFrame (codec : Codec) (topic : Bytes) (packet : OutboundPacket) : Prop :=
  ∃ publish : Publish, publish.topicName = topic ∧
    codec.encodeSlice (.publish publish) maxOutboundFrameSize = some packet.bytes.items

structure Appends (codec : Codec) (topic : Bytes) (old new : SessionState maxSubs maxInflight) : Prop where
  subscriptions : new.subscriptions = old.subscriptions
  outbox : ∃ frames, new.outbox.items = old.outbox.items ++ frames ∧
    ∀ frame ∈ frames, Covers old.subscriptions topic ∧ PublishFrame codec topic frame

section

variable {codec : Codec} {topic : Bytes}

theorem encodePublish_frame {payload : Bytes} {qos : QoS} {retain : Bool} {packetId : Nat}
    {bytes : Text maxOutboundFrameSize} (encoded : encodePublish codec topic payload qos retain packetId = .ok bytes) :
    PublishFrame codec topic ⟨bytes⟩ := by
  unfold encodePublish at encoded
  split at encoded
  · cases encoded
  · split at encoded
    · cases encoded
    · next frame shown =>
      split at encoded
      · cases encoded
      · next fitted =>
        cases encoded
        exact ⟨_, rfl, by rw [shown, Bounded.ofList?_eq_some.mp fitted]⟩

theorem encodePublishFromLwt_frame {lwt : LwtMessage} {qos : QoS} {bytes : Text maxOutboundFrameSize}
    (encoded : encodePublishFromLwt codec lwt qos = some bytes) : PublishFrame codec lwt.topic.items ⟨bytes⟩ := by
  obtain ⟨frame, shown, fitted⟩ := Option.bind_eq_some_iff.mp encoded
  exact ⟨_, rfl, by rw [shown, Bounded.ofList?_eq_some.mp fitted]⟩

theorem Appends.refl (session : SessionState maxSubs maxInflight) : Appends codec topic session session :=
  ⟨rfl, [], by simp, by simp⟩

theorem Appends.one {old new : SessionState maxSubs maxInflight} {frame : OutboundPacket}
    (covers : Covers old.subscriptions topic) (shown : PublishFrame codec topic frame)
    (subscriptions : new.subscriptions = old.subscriptions)
    (pushed : old.outbox.push frame = some new.outbox) : Appends codec topic old new := by
  refine ⟨subscriptions, [frame], (Bounded.push_eq_some.mp pushed).2, ?_⟩
  intro other member
  rw [List.mem_singleton.mp member]
  exact ⟨covers, shown⟩

theorem Appends.trans {first second third : SessionState maxSubs maxInflight}
    (left : Appends codec topic first second) (right : Appends codec topic second third) :
    Appends codec topic first third := by
  obtain ⟨earlier, begins, earlierShown⟩ := left.outbox
  obtain ⟨more, continues, moreShown⟩ := right.outbox
  refine ⟨right.subscriptions.trans left.subscriptions, earlier ++ more, ?_, ?_⟩
  · rw [continues, begins, List.append_assoc]
  · intro frame member
    rcases List.mem_append.mp member with early | late
    · exact earlierShown frame early
    · rw [← left.subscriptions]
      exact moreShown frame late

theorem Reached.appends {message : Message} {now : Instant} {maxOutboxDrops : Nat}
    {old new : SessionState maxSubs maxInflight} (reached : Reached codec message now maxOutboxDrops old new) :
    Appends codec message.topic old new := by
  obtain ⟨granted, matched, received⟩ := reached
  have covers := covers_of_matchedQos matched
  have subscriptions := received.keepsAll.subscriptions
  cases received with
  | failed => exact ⟨subscriptions, [], by simp, by simp⟩
  | dropped => exact ⟨subscriptions, [], by simp [droppedSession], by simp⟩
  | queued encoded pushed => exact .one covers (encodePublish_frame encoded) subscriptions pushed
  | tracked _ encoded pushed => exact .one covers (encodePublish_frame encoded) subscriptions pushed

theorem processOutboundPublish_appends {broker : Broker maxSessions maxSubs maxInflight maxRetained}
    (publish : MqttPublish) (now : Instant) :
    Maps (Appends codec publish.topic.items) broker.registry
      (processOutboundPublish codec broker publish now).1.registry := by
  refine (processOutboundPublish_reached codec broker publish now).mono ?_
  rintro old new (rfl | reached)
  · exact .refl new
  · exact reached.appends

theorem published_appends {accepts : Bool} {slot : SessionId}
    {broker : Broker maxSessions maxSubs maxInflight maxRetained} {session : SessionState maxSubs maxInflight}
    {activityNow now : Instant} {publish : Publish}
    {outcome : PublishOutcome maxSessions maxSubs maxInflight maxRetained}
    (present : broker.registry.get slot = some session)
    (handled : outcome = handlePublish codec (fun _ => accepts) slot
      (touchedBroker broker slot session activityNow) publish now) :
    Maps (Appends codec publish.topicName) broker.registry outcome.broker.registry := by
  have touched : Maps (Appends codec publish.topicName) broker.registry
      (touchedBroker broker slot session activityNow).registry :=
    .put Appends.refl present ⟨rfl, [], by simp [SessionState.updateActivityAt], by simp⟩
  rw [handled]
  refine touched.trans (handlePublishAt_maps ..) ?_
  rintro old mid new first ⟨rate, outcome⟩
  have paid : Appends codec publish.topicName mid { mid with rate := rate } := ⟨rfl, [], by simp, by simp⟩
  rcases outcome with rfl | reached
  · exact first.trans paid
  · exact first.trans (paid.trans reached.appends)

-- The slots of a will, when all of them still have a filter for its topic.
theorem deliverLwts_appends {lwt : LwtMessage}
    (state : SessionRegistry maxSessions maxSubs maxInflight × SessionSignals maxSessions)
    {deliveries : List (SessionId × QoS)}
    (covered : ∀ delivery ∈ deliveries, ∀ session, state.1.get delivery.1 = some session →
      Covers session.subscriptions lwt.topic.items) :
    Maps (Appends codec lwt.topic.items) state.1 (deliverLwts codec lwt state deliveries).1 := by
  induction deliveries generalizing state with
  | nil => exact .of_eq Appends.refl fun _ => rfl
  | cons delivery rest ih =>
    have pushed : Maps (Appends codec lwt.topic.items) state.1 (deliverLwt codec lwt state delivery).1 := by
      unfold deliverLwt
      split
      · exact .of_eq Appends.refl fun _ => rfl
      · next target found =>
        split
        · exact .of_eq Appends.refl fun _ => rfl
        · next bytes encoded =>
          split
          · exact .of_eq Appends.refl fun _ => rfl
          · next outbox pushed =>
            have covers := covered delivery List.mem_cons_self target found
            exact .put Appends.refl found (.one covers (encodePublishFromLwt_frame encoded) rfl pushed)
    refine pushed.trans (ih _ fun other member session present => ?_) fun _ _ _ left right => left.trans right
    obtain ⟨old, found, appends⟩ := pushed.of_present present
    rw [appends.subscriptions]
    exact covered other (List.mem_cons_of_mem _ member) old found

end

structure ToSubscriber (codec : Codec) (registry : SessionRegistry maxSessions maxSubs maxInflight)
    (slot : SessionId) (topic : Bytes) (packet : OutboundPacket) : Prop where
  frame : PublishFrame codec topic packet
  subscribed : ∃ session, registry.get slot = some session ∧ Covers session.subscriptions topic

section

variable {codec : Codec} {topic : Bytes} {before after : SessionRegistry maxSessions maxSubs maxInflight}
  {slot : SessionId} {clientId : ClientId} {packet : OutboundPacket}

theorem toSubscriber_of_queuedAt (maps : Maps (Appends codec topic) before after) {other : SessionId}
    (member : .queued slot clientId packet ∈ queuedAt before after other) :
    ToSubscriber codec after slot topic packet := by
  obtain ⟨old, new, pushed, found, kept, queued, same⟩ := mem_queuedAt member
  cases same
  obtain ⟨session, present, appends⟩ := maps.present slot old found
  rw [kept] at present
  cases present
  obtain ⟨frames, grown, shown⟩ := appends.outbox
  rw [grown, List.drop_left] at queued
  obtain ⟨covers, frame⟩ := shown packet queued
  exact ⟨frame, new, kept, by rwa [appends.subscriptions]⟩

theorem toSubscriber_of_routedEvents (maps : Maps (Appends codec topic) before after)
    (member : .queued slot clientId packet ∈ routedEvents before after) :
    ToSubscriber codec after slot topic packet := by
  obtain ⟨other, _, here⟩ := List.mem_flatMap.mp member
  rcases List.mem_append.mp here with queued | untracked
  · exact toSubscriber_of_queuedAt maps queued
  · obtain ⟨_, _, _, _, _, _, _, same⟩ := mem_untrackedAt untracked
    cases same

theorem toSubscriber_of_willEvents (maps : Maps (Appends codec topic) before after)
    {deliveries : List (SessionId × QoS)}
    (member : .queued slot clientId packet ∈ willEvents before after deliveries) :
    ToSubscriber codec after slot topic packet := by
  obtain ⟨other, _, here⟩ := List.mem_flatMap.mp member
  split at here
  · cases here
  · split at here
    · rcases List.mem_append.mp here with queued | untracked
      · exact toSubscriber_of_queuedAt maps queued
      · cases List.mem_singleton.mp untracked
    · exact toSubscriber_of_queuedAt maps here

end

def Phase.pending : Phase → List (SessionId × Bytes)
  | .deliverLwt _ lwt deliveries => deliveries.map fun delivery => (delivery.1, lwt.topic.items)
  | _ => []

def Anticipated (system : System maxSessions maxSubs maxInflight maxRetained) : Prop :=
  ∀ (id : Nat) conn, system.conns[id]? = some conn → ∀ pending ∈ conn.phase.pending,
    ∀ session, system.broker.registry.get pending.1 = some session → Covers session.subscriptions pending.2

def Label.unsubscribe? : Label → Option (Nat × Unsubscribe)
  | .conn id (.packet (.unsubscribe packet) _ _ _) => some (id, packet)
  | _ => none

-- No new session in the slot, and an UNSUBSCRIBE by its loop leaves a filter for the topic.
structure Spares (env : Env) (system : System maxSessions maxSubs maxInflight maxRetained) (slot : SessionId)
    (topic : Bytes) (label : Label) : Prop where
  connect : ∀ connect ∈ label.connect?, Admissible connect.2 env.houseToken →
    claimedSlot system.broker.registry connect.2 = some slot → resumable system.broker.registry connect.2 ≠ none
  unsubscribe : ∀ unsubscribe ∈ label.unsubscribe?, ∀ conn ∈ system.conns[unsubscribe.1]?,
    conn.phase.slot? = some slot → ∀ session ∈ system.broker.registry.get slot,
      Covers (unsubscribe.2.topics.items.foldl unsubscribeFilter session.subscriptions) topic

instance (system : System maxSessions maxSubs maxInflight maxRetained) (slot : SessionId) (topic : Bytes)
    (label : Label) : Decidable (Spares env system slot topic label) :=
  decidable_of_iff (_ ∧ _) ⟨fun ⟨connect, unsubscribe⟩ => ⟨connect, unsubscribe⟩,
    fun ⟨connect, unsubscribe⟩ => ⟨connect, unsubscribe⟩⟩

def Unshaken (env : Env) (system : System maxSessions maxSubs maxInflight maxRetained) (label : Label) : Prop :=
  ∀ conn ∈ system.conns, ∀ pending ∈ conn.phase.pending, Spares env system pending.1 pending.2 label

instance (system : System maxSessions maxSubs maxInflight maxRetained) (label : Label) :
    Decidable (Unshaken env system label) :=
  inferInstanceAs (Decidable (∀ conn ∈ system.conns, _))

section

variable {system next : System maxSessions maxSubs maxInflight maxRetained} {label : Label} {new : List Event}

-- A loop goes on without a search, and the sessions it leaves keep what they were found for.
theorem Anticipated.set (anticipated : Anticipated system) {id : Nat} {conn after : Conn}
    {broker : Broker maxSessions maxSubs maxInflight maxRetained} (found : system.conns[id]? = some conn)
    (own : ∀ pending ∈ after.phase.pending, ∀ session, broker.registry.get pending.1 = some session →
      Covers session.subscriptions pending.2)
    (kept : ∀ (other : Nat) owner, system.conns[other]? = some owner → ∀ pending ∈ owner.phase.pending,
      ∀ session, broker.registry.get pending.1 = some session → ∃ old,
        system.broker.registry.get pending.1 = some old ∧
          (Covers old.subscriptions pending.2 → Covers session.subscriptions pending.2)) :
    Anticipated ⟨broker, system.conns.set id after⟩ := by
  intro other owner present pending member session stored
  rcases conn_of_set found present with ⟨_, rfl⟩ | ⟨_, unchanged⟩
  · exact own pending member session stored
  · obtain ⟨old, oldStored, covers⟩ := kept other owner unchanged pending member session stored
    exact covers (anticipated other owner unchanged pending member old oldStored)

theorem pending_of_unsearched {phase : Phase}
    (unsearched : ∀ slot lwt deliveries, phase ≠ .deliverLwt slot lwt deliveries) : phase.pending = [] := by
  unfold Phase.pending
  split
  · exact absurd rfl (unsearched _ _ _)
  · rfl

theorem pending_of_slot? {phase : Phase} (left : phase.slot? = none) : phase.pending = [] := by
  refine pending_of_unsearched ?_
  rintro _ _ _ rfl
  cases left

-- What a loop has just found: the sessions with a filter for the topic of its will.
theorem Turn.searched {id : Nat} {conn : Conn} {input : Input}
    {result : Result maxSessions maxSubs maxInflight maxRetained}
    (turn : Turn env system.broker id conn input result)
    (unread : conn.phase = .awaitConnect → ∀ packet now, input ≠ .firstPacket (.connect packet) now)
    {pending : SessionId × Bytes} (member : pending ∈ result.conn.phase.pending)
    {session : SessionState maxSubs maxInflight} (stored : result.broker.registry.get pending.1 = some session) :
    Covers session.subscriptions pending.2 := by
  have none_pending (empty : result.conn.phase.pending = []) : Covers session.subscriptions pending.2 := by
    rw [empty] at member
    cases member
  cases turn with
  | connect waiting => exact absurd rfl (unread waiting _ _)
  | abandoned | unanswered | popped | drained | acknowledged | delivered | removed => exact none_pending rfl
  | moved _ continues => exact none_pending (pending_of_unsearched continues.unsearched)
  | flushed _ continues => exact none_pending (pending_of_unsearched continues.unsearched)
  | wrote _ continues => exact none_pending (pending_of_unsearched continues.unsearched)
  | served _ _ continues => exact none_pending (pending_of_unsearched continues.unsearched)
  | published _ _ _ continues => exact none_pending (pending_of_unsearched continues.unsearched)
  | handled _ _ continues => exact none_pending (pending_of_unsearched continues.unsearched)
  | @announced slot _ _ phase _ _ holds _ _ searched =>
    by_cases searching : ∃ lwt deliveries, phase = .deliverLwt slot lwt deliveries
    · obtain ⟨lwt, deliveries, rfl⟩ := searching
      obtain ⟨clientId, rfl⟩ := searched lwt deliveries rfl
      obtain ⟨⟨found, granted⟩, listed, rfl⟩ := List.mem_map.mp member
      obtain ⟨subscriber, present, subscribed⟩ := mem_collectSubscribers.mp listed
      obtain rfl : subscriber = session := Option.some.inj (present.symm.trans stored)
      exact covers_of_matchedQos subscribed.2
    · refine none_pending (pending_of_unsearched ?_)
      rintro other lwt deliveries rfl
      cases holds
      exact searching ⟨lwt, deliveries, rfl⟩

theorem Turn.resubscribes {id : Nat} {conn : Conn} {input : Input}
    {result : Result maxSessions maxSubs maxInflight maxRetained}
    (turn : Turn env system.broker id conn input result)
    (ordinary : Ordinary env system.broker id conn input result) {slot : SessionId}
    {session : SessionState maxSubs maxInflight} (stored : result.broker.registry.get slot = some session) :
    ∃ old, system.broker.registry.get slot = some old ∧
      (session.subscriptions = old.subscriptions ∨ ∃ packet activityNow now accepts,
        input = .packet packet activityNow now accepts ∧ conn.phase.slot? = some slot ∧
          session.subscriptions = resubscribed old.subscriptions packet) := by
  obtain ⟨old, found, _⟩ := ordinary.keeps.of_present stored
  refine ⟨old, found, ?_⟩
  by_cases quiet : conn.phase.serving? = some slot → ¬ Resubscribes input
  · obtain ⟨kept, keptAt, all⟩ := ordinary.subscriptions slot old found quiet
    rw [stored] at keptAt
    cases keptAt
    exact .inl all.subscriptions
  · obtain ⟨serving, packet, activityNow, now, accepts, rfl, changes⟩ := Classical.not_imp.mp quiet |>.imp_right
      Classical.not_not.mp
    cases turn with
    | abandoned waiting =>
      rw [slot?_of_serving? serving] at waiting
      cases waiting
    | moved =>
      rw [found] at stored
      cases stored
      exact .inl rfl
    | published | acknowledged => simp at changes
    | handled waiting present =>
      rw [waiting] at serving
      cases serving
      dsimp only at stored
      rw [SessionRegistry.get_put_self present] at stored
      cases stored
      rw [found] at present
      cases present
      exact .inr ⟨packet, activityNow, now, accepts, rfl, by rw [waiting]; rfl, rfl⟩

theorem Connected.subscriptions_of_spared {broker : Broker maxSessions maxSubs maxInflight maxRetained} {id : Nat}
    {packet : Connect} {now : Instant} {result : Result maxSessions maxSubs maxInflight maxRetained}
    (connected : Connected env broker id packet now result) {slot : SessionId}
    (spared : Admissible packet env.houseToken → claimedSlot broker.registry packet = some slot →
      resumable broker.registry packet ≠ none)
    {session : SessionState maxSubs maxInflight} (stored : result.broker.registry.get slot = some session) :
    ∃ old, broker.registry.get slot = some old ∧ session.subscriptions = old.subscriptions := by
  cases connected.seated stored with
  | untouched same => exact ⟨session, same, rfl⟩
  | resumed _ _ found same =>
    subst same
    exact ⟨_, found, rfl⟩
  | created admissible fresh claimed => exact absurd fresh (spared admissible claimed)

theorem Connected.not_pending {broker : Broker maxSessions maxSubs maxInflight maxRetained} {id : Nat}
    {packet : Connect} {now : Instant} {result : Result maxSessions maxSubs maxInflight maxRetained}
    (connected : Connected env broker id packet now result) : result.conn.phase.pending = [] := by
  cases connected with
  | accepted => rfl
  | refused _ _ left => exact pending_of_slot? left

theorem Anticipated.step (anticipated : Anticipated system) (unshaken : Unshaken env system label)
    (taken : System.step env system label = some (next, new)) : Anticipated next := by
  cases step_transition taken with
  | spawned =>
    intro id conn present pending member
    rcases conn_of_spawn present with old | rfl
    · exact anticipated id conn old pending member
    · cases member
  | @outbound publish now broker sent =>
    intro id conn present pending member session stored
    have appends : Maps (Appends env.codec publish.topic.items) system.broker.registry broker.registry := by
      rw [sent]
      exact processOutboundPublish_appends publish now
    obtain ⟨old, found, appended⟩ := appends.of_present stored
    rw [appended.subscriptions]
    exact anticipated id conn present pending member old found
  | connected found _ connected =>
    refine anticipated.set found (by simp [connected.not_pending]) ?_
    intro other owner unchanged pending member session stored
    have spares := unshaken owner (List.mem_of_getElem? unchanged) pending member
    obtain ⟨old, oldStored, same⟩ := connected.subscriptions_of_spared (spares.connect _ rfl) stored
    exact ⟨old, oldStored, fun covers => by rwa [same]⟩
  | removed found _ =>
    refine anticipated.set found (by simp [Phase.pending]) ?_
    intro other owner unchanged pending member session stored
    rw [removeStep, SessionRegistry.get_remove] at stored
    split at stored
    · cases stored
    · exact ⟨session, stored, id⟩
  | ordinary found turn ordinary =>
    refine anticipated.set found (fun pending member session stored => turn.searched ordinary.unread member stored) ?_
    intro other owner unchanged pending member session stored
    have spares := unshaken owner (List.mem_of_getElem? unchanged) pending member
    obtain ⟨old, oldStored, same | ⟨packet, _, _, _, rfl, holds, changed⟩⟩ := turn.resubscribes ordinary stored
    · exact ⟨old, oldStored, fun covers => by rwa [same]⟩
    · refine ⟨old, oldStored, fun covers => ?_⟩
      rw [changed]
      refine resubscribed_covers covers ?_
      rintro unsubscribe rfl
      exact spares.unsubscribe (_, unsubscribe) rfl _ found holds old oldStored

def Phase.will? : Phase → Option LwtMessage
  | .deliverLwt _ lwt _ => some lwt
  | _ => none

def fannedTopic (system : System maxSessions maxSubs maxInflight maxRetained) : Label → Option Bytes
  | .outbound publish _ => some publish.topic.items
  | .conn _ (.packet (.publish publish) _ _ _) => some publish.topicName
  | .conn id .lock => (system.conns[id]?.bind fun conn => conn.phase.will?).map fun lwt => lwt.topic.items
  | _ => none

theorem Anticipated.pushes (anticipated : Anticipated system)
    (taken : System.step env system label = some (next, new)) {slot : SessionId} {clientId : ClientId}
    {packet : OutboundPacket} (member : .queued slot clientId packet ∈ new) :
    ∃ topic, fannedTopic system label = some topic ∧
      ToSubscriber env.codec next.broker.registry slot topic packet := by
  cases step_transition taken with
  | spawned | removed => cases member
  | @outbound publish now broker sent =>
    refine ⟨publish.topic.items, rfl, toSubscriber_of_routedEvents ?_ member⟩
    rw [sent]
    exact processOutboundPublish_appends publish now
  | connected _ _ connected => cases connected.bookkeeping member
  | @ordinary id input conn result found turn ordinary =>
    cases turn with
    | connect waiting => exact absurd rfl (ordinary.unread waiting _ _)
    | removed waiting => exact absurd waiting (ordinary.unremoved _)
    | abandoned _ quiet | unanswered _ _ quiet | moved _ _ quiet =>
      obtain ⟨_, same⟩ := quiet _ member
      cases same
    | popped | drained | handled => cases member
    | flushed | acknowledged => cases List.mem_singleton.mp member
    | wrote =>
      rcases List.mem_cons.mp member with same | untracked
      · cases same
      · split at untracked
        · obtain ⟨_, _, same⟩ := List.mem_map.mp untracked
          cases same
        · cases untracked
    | served =>
      obtain ⟨_, _, same⟩ := List.mem_map.mp member
      cases same
    | published waiting present handled =>
      rcases List.mem_append.mp member with routed | given
      · exact ⟨_, rfl, toSubscriber_of_routedEvents (published_appends present handled) routed⟩
      · obtain ⟨_, _, same⟩ := List.mem_map.mp given
        cases same
    | announced _ _ _ shown =>
      obtain ⟨_, same⟩ := shown _ member
      cases same
    | @delivered slot lwt deliveries state waiting sent =>
      have appends : Maps (Appends env.codec lwt.topic.items) system.broker.registry state.1 := by
        rw [sent]
        refine deliverLwts_appends (system.broker.registry, system.broker.signals)
          fun delivery listed session stored => ?_
        refine anticipated id conn found (delivery.1, lwt.topic.items) ?_ session stored
        rw [waiting]
        exact List.mem_map.mpr ⟨delivery, listed, rfl⟩
      exact ⟨lwt.topic.items, by simp [fannedTopic, found, waiting, Phase.will?],
        toSubscriber_of_willEvents appends member⟩

end

theorem pushed_to_subscribers {labels : List Label} {events : List Event}
    {system next : System maxSessions maxSubs maxInflight maxRetained}
    (run : Run (System.step env) (Unshaken env) .new labels events system) {label : Label} {new : List Event}
    (taken : System.step env system label = some (next, new)) {slot : SessionId} {clientId : ClientId}
    {packet : OutboundPacket} (pushed : .queued slot clientId packet ∈ new) :
    ∃ topic, fannedTopic system label = some topic ∧
      ToSubscriber env.codec next.broker.registry slot topic packet := by
  have anticipated : Anticipated system :=
    run.invariant (P := fun _ system => Anticipated system) (fun _ _ found => by simp [System.new] at found)
      fun _ _ _ _ _ anticipated unshaken taken => anticipated.step unshaken taken
  exact anticipated.pushes taken pushed

-- Client `a` subscribes to the topic of the will of client `b`, which is cut off. The recipients of the will
-- have been found.
def cutOff : List Label :=
  [.spawn, .spawn] ++ Label.admit 0 [97] ++ Label.subscribe 0 (Bounded.truncate [116]) .atMostOnce ++
    Label.resume 0 ++ [.connect 1 (houseConnect [98] true (some ⟨[116], [120], .atMostOnce, false⟩)),
      .conn 1 (.write true)] ++ Label.resume 1 ++ [.conn 1 (.readFailed true), .conn 1 .lock]

def willFrame : OutboundPacket := ⟨.truncate [48, 4, 0, 1, 116, 120]⟩

def farewell : Unsubscribe := ⟨.new, .truncate [.truncate [116]]⟩

theorem exists_will_pushed (allowed : System 2 1 1 1 → Label → Prop)
    [∀ system label, Decidable (allowed system label)] (labels : List Label) (P : System 2 1 1 1 → Prop) [∀ next, Decidable (P next)]
    (passed : (Execution.exec (System.step gatomqttEnv) allowed .new labels).any (fun reached =>
      (System.step gatomqttEnv reached.1 (.conn 1 .lock)).any fun final =>
        decide (.queued 0 ⟨[97], by decide⟩ willFrame ∈ final.2 ∧ P final.1)) = true) :
    ∃ (system next : System 2 1 1 1) (events new : List Event) (clientId : ClientId),
      Run (System.step gatomqttEnv) allowed .new labels events system ∧
      System.step gatomqttEnv system (.conn 1 .lock) = some (next, new) ∧
      .queued 0 clientId willFrame ∈ new ∧ P next := by
  obtain ⟨⟨system, events⟩, executed, tested⟩ := (Option.any_eq_true _ _).mp passed
  obtain ⟨⟨next, new⟩, taken, shown⟩ := (Option.any_eq_true _ _).mp tested
  obtain ⟨pushed, holds⟩ := of_decide_eq_true shown
  exact ⟨system, next, events, new, _, Execution.run_of_exec executed, taken, pushed, holds⟩

theorem will_pushed_to_subscriber : ∃ (system next : System 2 1 1 1) (events new : List Event) (clientId : ClientId),
    Run (System.step gatomqttEnv) (Unshaken gatomqttEnv) .new cutOff events system ∧
    System.step gatomqttEnv system (.conn 1 .lock) = some (next, new) ∧
    .queued 0 clientId willFrame ∈ new ∧
    ∃ topic, fannedTopic system (.conn 1 .lock) = some topic ∧
      ToSubscriber Mqtt311.codec next.broker.registry 0 topic willFrame := by
  obtain ⟨system, next, events, new, clientId, run, taken, pushed, _⟩ :=
    exists_will_pushed (Unshaken gatomqttEnv) cutOff (fun _ => True) (by decide +kernel)
  exact ⟨system, next, events, new, clientId, run, taken, pushed, pushed_to_subscribers run taken pushed⟩

theorem will_pushed_to_nonsubscriber : ∃ (system next : System 2 1 1 1) (events new : List Event)
    (clientId : ClientId),
    Run (System.step gatomqttEnv) Anything .new
      (cutOff ++ [.conn 0 (.packet (.unsubscribe farewell) 0 0 true)]) events system ∧
    System.step gatomqttEnv system (.conn 1 .lock) = some (next, new) ∧
    .queued 0 clientId willFrame ∈ new ∧
    ¬ ∃ topic, fannedTopic system (.conn 1 .lock) = some topic ∧
      ToSubscriber Mqtt311.codec next.broker.registry 0 topic willFrame := by
  obtain ⟨system, next, events, new, clientId, run, taken, pushed, unsubscribed⟩ :=
    exists_will_pushed Anything (cutOff ++ [.conn 0 (.packet (.unsubscribe farewell) 0 0 true)])
      (fun next => ∀ session ∈ next.broker.registry.get 0, session.subscriptions.items = []) (by decide +kernel)
  refine ⟨system, next, events, new, clientId, run, taken, pushed, ?_⟩
  rintro ⟨topic, _, _, session, present, subscription, member, _⟩
  rw [unsubscribed session present] at member
  cases member

end PicoBroker
