import Mathlib.Data.List.ReduceOption
import PicoBroker.Broker.RetryPass
import PicoBroker.Invariants.ReferenceCounts
import PicoBroker.Invariants.Sources

set_option autoImplicit false

namespace PicoBroker

variable {maxSessions maxSubs maxInflight maxRetained : Nat}

def InflightEntry.tag (entry : InflightEntry) : Nat × StoredPublishHandle := (entry.packetId, entry.publish)

def Message.packet (message : Message) (dup : Bool) (pid : Pid) : Publish :=
  ⟨dup, .atLeastOnce pid, message.retain, message.topic, message.payload⟩

def retransmissions (codec : Codec) (maxPacketSize : Nat) (id : SessionId)
    (registry : SessionRegistry maxSessions maxSubs maxInflight) (retryMs maxRetries : Nat) (now : Instant)
    (answers : List Bool) : List (InflightEntry × List Publish) :=
  (retriesLog codec maxPacketSize id registry retryMs maxRetries now answers).reduceOption

section

variable {codec : Codec} {maxPacketSize : Nat} {id : SessionId} {timeout : Duration} {maxRetries : Nat}
  {now : Instant} {registry : SessionRegistry maxSessions maxSubs maxInflight}

theorem retryLoop_written (answers : List Bool) (indices : List Nat) :
    (retryLoop codec maxPacketSize id timeout maxRetries now registry answers indices).written =
      (retryLog codec maxPacketSize id timeout maxRetries now registry answers indices).reduceOption.flatMap
        Prod.snd := by
  induction indices generalizing registry answers with
  | nil => rfl
  | cons index rest ih =>
    simp only [retryLoop, retryLog]
    cases (registry.get id).bind fun session => session.inflight.items[index]? with
    | none => exact ih answers
    | some entry =>
      dsimp only
      by_cases expired : isExpired now timeout entry = true
      · simp only [expired, if_true, List.reduceOption_cons_of_some, List.flatMap_cons]
        cases (retransmit codec maxPacketSize registry id index entry maxRetries now (answers.headD true)).result with
        | error => simp
        | ok => simp [ih]
      · simp only [expired, if_false, Bool.false_eq_true]
        exact ih answers

theorem processInflightRetriesAt_written (retryMs : Nat) (answers : List Bool) :
    (processInflightRetriesAt codec maxPacketSize id registry retryMs maxRetries now answers).written =
      (retransmissions codec maxPacketSize id registry retryMs maxRetries now answers).flatMap Prod.snd :=
  retryLoop_written ..

theorem mem_retransmit {index : Nat} {entry : InflightEntry} {accepted : Bool} {publish : Publish}
    (written : publish ∈
      (retransmit codec maxPacketSize registry id index entry maxRetries now accepted).written) :
    ∃ pid message, Pid.tryFrom entry.packetId = some pid ∧ registry.content entry.publish = some message ∧
      publish = message.packet true pid := by
  simp only [retransmit] at written
  generalize saturatingAddU8 entry.retries 1 = retries at written
  have counted := modifyEntry_retried registry id index
    (f := fun entry => { entry with retries := retries }) (fun _ => ⟨rfl, rfl⟩)
  generalize modifyEntry registry id index (fun entry => { entry with retries := retries }) = marked
    at counted written
  split at written
  · cases written
  · cases converted : Pid.tryFrom entry.packetId with
    | none =>
      rw [converted] at written
      cases written
    | some pid =>
      cases found : marked.storedPublish entry.publish with
      | none =>
        rw [converted, found] at written
        cases written
      | some stored =>
        have content : registry.content entry.publish = some stored.content := by
          rw [SessionRegistry.content, ← counted.storedPublish, found]
          rfl
        refine ⟨pid, stored.content, rfl, content, ?_⟩
        rw [converted, found] at written
        dsimp only at written
        split at written
        · cases written
        · split at written
          · exact List.mem_singleton.mp written
          · exact List.mem_singleton.mp written

-- The pool does not change while the loop runs.
theorem mem_retryLog {answers : List Bool} {indices : List Nat} {call : InflightEntry × List Publish}
    (called : some call ∈ retryLog codec maxPacketSize id timeout maxRetries now registry answers indices)
    {publish : Publish} (written : publish ∈ call.2) :
    ∃ pid message, Pid.tryFrom call.1.packetId = some pid ∧ registry.content call.1.publish = some message ∧
      publish = message.packet true pid := by
  induction indices generalizing registry answers with
  | nil => cases called
  | cons index rest ih =>
    simp only [retryLog] at called
    split at called
    · exact ih (List.mem_of_ne_of_mem (by simp) called)
    · next entry located =>
      split at called
      · rcases List.mem_cons.mp called with same | later
        · cases same
          exact mem_retransmit written
        · obtain ⟨session, present, member⟩ := Option.bind_eq_some_iff.mp located
          have sent := retransmit_spec codec maxPacketSize registry id index entry maxRetries now
            (answers.headD true) ⟨session, present, List.mem_map.mpr ⟨entry, List.mem_of_getElem? member, rfl⟩⟩
          split at later
          · cases (List.mem_replicate.mp later).2
          · obtain ⟨pid, message, converted, content, same⟩ := ih later
            exact ⟨pid, message, converted, by rw [← content_congr sent.retried.storedPublishes, content], same⟩
      · exact ih (List.mem_of_ne_of_mem (by simp) called)

end

def Operation.message? : Operation maxSessions maxRetained → Option Message
  | .publish _ _ _ _ packet _ => some packet.message
  | .outbound _ _ message _ => some message.message
  | _ => none

structure Routes (message : Message) (before after : SessionRegistry maxSessions maxSubs maxInflight) : Prop where
  kept : ∀ slot tag found, Holds before slot tag → after.content tag.2 = some found →
    before.content tag.2 = some found
  tracked : ∀ slot old new, before.get slot = some old → after.get slot = some new →
    ∀ entry ∈ new.inflight.items, entry ∉ old.inflight.items →
      after.content entry.publish = some { message with qos := .atLeastOnce }

structure Feeding (message : Message) (start : SessionRegistry maxSessions maxSubs maxInflight)
    (fanout : Fanout maxSessions maxSubs maxInflight) : Prop where
  consistent : Consistent fanout.registry
  shared : ∀ handle found, fanout.sharedPublish = some handle → fanout.registry.content handle = some found →
    found = { message with qos := .atLeastOnce }
  fresh : ∀ slot old new, start.get slot = some old → fanout.registry.get slot = some new →
    ∀ entry ∈ new.inflight.items, entry ∉ old.inflight.items → fanout.sharedPublish = some entry.publish
  holds : ∀ slot tag, Holds start slot tag → Holds fanout.registry slot tag
  kept : ∀ slot tag found, Holds start slot tag → fanout.registry.content tag.2 = some found →
    start.content tag.2 = some found

section

variable {codec : Codec} {message : Message} {now : Instant} {maxOutboxDrops : Nat}
  {before after : Fanout maxSessions maxSubs maxInflight} {id : SessionId} {qos : QoS}
  {error : Option PublishError}

theorem Delivery.shared_mono (delivery : Delivery codec message now maxOutboxDrops before id qos after error)
    {handle : StoredPublishHandle} (shared : before.sharedPublish = some handle) :
    after.sharedPublish = some handle := by
  cases delivery with
  | absent | failed | dropped | queued => exact shared
  | tracked _ _ _ _ acquired =>
    rw [shared] at acquired
    cases acquired
    rfl

theorem Received.tags_mono {old new : SessionState maxSubs maxInflight}
    (received : Received codec message now maxOutboxDrops old qos new) {tag : Nat × StoredPublishHandle}
    (member : tag ∈ old.tags) : tag ∈ new.tags := by
  cases received with
  | failed => simpa [SessionState.tags] using member
  | dropped => simpa [droppedSession, SessionState.tags] using member
  | queued => simpa [queuedSession, SessionState.tags] using member
  | tracked _ _ _ added =>
    rw [SessionState.tags, (Bounded.push_eq_some.mp added).2, List.map_append]
    exact List.mem_append_left _ member

theorem Delivery.holds (delivery : Delivery codec message now maxOutboxDrops before id qos after error)
    {slot : SessionId} {tag : Nat × StoredPublishHandle} (held : Holds before.registry slot tag) :
    Holds after.registry slot tag := by
  obtain ⟨old, found, member⟩ := held
  obtain ⟨new, kept, rfl | received⟩ := delivery.maps.present slot old found
  · exact ⟨new, kept, member⟩
  · exact ⟨new, kept, received.tags_mono member⟩

theorem Feeding.delivery {start : SessionRegistry maxSessions maxSubs maxInflight}
    (feeding : Feeding message start before)
    (delivery : Delivery codec message now maxOutboxDrops before id qos after error) :
    Feeding message start after where
  consistent := feeding.consistent.delivery delivery
  shared _ _ := delivery.shared_content feeding.shared
  fresh slot old new found kept entry member fresh := by
    obtain ⟨middle, reached, _⟩ := delivery.maps.of_present kept
    by_cases earlier : entry ∈ middle.inflight.items
    · exact delivery.shared_mono (feeding.fresh slot old middle found reached entry earlier fresh)
    · exact delivery.shared_of_fresh reached kept member earlier
  holds slot tag held := delivery.holds (feeding.holds slot tag held)
  kept slot tag found held content :=
    feeding.kept slot tag found held (delivery.content feeding.consistent (feeding.holds slot tag held) content)

-- What is in flight resolves.
theorem Feeding.routes {start : SessionRegistry maxSessions maxSubs maxInflight}
    (feeding : Feeding message start before) : Routes message start before.registry where
  kept := feeding.kept
  tracked slot old new found kept entry member fresh := by
    have held : Holds before.registry slot entry.tag := ⟨new, kept, List.mem_map.mpr ⟨entry, member, rfl⟩⟩
    obtain ⟨_, _, stored, resolved⟩ := feeding.consistent.holds held
    have content : before.registry.content entry.publish = some stored.content := congrArg _ resolved
    have shared := feeding.fresh slot old new found kept entry member fresh
    rw [content, feeding.shared entry.publish _ shared content]

end

section

variable {codec : Codec} {message : Message} {now : Instant} {maxOutboxDrops : Nat}
  {before after : SessionRegistry maxSessions maxSubs maxInflight}

theorem Routes.refl (message : Message) (registry : SessionRegistry maxSessions maxSubs maxInflight) :
    Routes message registry registry where
  kept _ _ _ _ content := content
  tracked slot old new found kept entry member fresh := by
    cases found.symm.trans kept
    exact absurd member fresh

theorem Routes.put {id : SessionId} {old new : SessionState maxSubs maxInflight}
    (present : before.get id = some old) (same : new.inflight = old.inflight)
    (routes : Routes message (before.put id new) after) : Routes message before after := by
  have maps : Maps (fun old new => new.inflight = old.inflight) before (before.put id new) := by
    refine .put (fun _ => ?_) present ?_
    · rfl
    · exact same
  refine ⟨fun slot tag found held content => ?_, fun slot session reached found kept entry member fresh => ?_⟩
  · obtain ⟨session, stored, member⟩ := held
    obtain ⟨other, otherStored, unchanged⟩ := maps.present slot session stored
    exact routes.kept slot tag found ⟨other, otherStored, by rwa [SessionState.tags, unchanged]⟩ content
  · obtain ⟨other, otherStored, unchanged⟩ := maps.present slot session found
    exact routes.tracked slot other reached otherStored kept entry member (by rwa [unchanged])

theorem fanOut_routes (consistent : Consistent before) (signals : SessionSignals maxSessions)
    (subscribers : List (SessionId × QoS)) :
    Routes message before
      (fanOut codec message now maxOutboxDrops ⟨before, signals, none, []⟩ subscribers).1.registry := by
  have unrouted := Routes.refl message before
  have start : Feeding message before ⟨before, signals, none, []⟩ := by
    refine ⟨consistent, by simp, fun slot old new found kept entry member fresh => ?_, fun _ _ held => held,
      unrouted.kept⟩
    cases found.symm.trans kept
    exact absurd member fresh
  have finish : Feeding message before
      (fanOut codec message now maxOutboxDrops ⟨before, signals, none, []⟩ subscribers).1 :=
    fanOut_induction (P := Feeding message before)
      (fun _ _ _ _ _ feeding delivery => feeding.delivery delivery) start subscribers
  exact finish.routes

theorem handlePublishAt_routes (broker : Broker maxSessions maxSubs maxInflight maxRetained)
    (consistent : Consistent broker.registry) (accepts : MqttIntent → Bool) (senderId : SessionId)
    (packet : Publish) (now : Instant) (maxViolations maxOutboxDrops : Nat) :
    Routes packet.message broker.registry (handlePublishAt codec accepts senderId broker packet now maxViolations
      maxOutboxDrops).broker.registry := by
  cases present : broker.registry.get senderId with
  | none =>
    rw [handlePublishAt_absent present]
    exact .refl _ _
  | some sender =>
    by_cases routable : Routable broker.retained sender packet.message now
    · rw [handlePublishAt_routed present routable]
      have charged : Consistent (charged broker senderId sender now) := consistent.put present rfl
      refine .put present ?_ (fanOut_routes charged _ _)
      rfl
    · rw [handlePublishAt_unrouted present routable]
      refine .put present ?_ (.refl _ _)
      rfl

theorem processOutboundPublish_routes (broker : Broker maxSessions maxSubs maxInflight maxRetained)
    (consistent : Consistent broker.registry) (publish : MqttPublish) (now : Instant) :
    Routes publish.message broker.registry (processOutboundPublish codec broker publish now).1.registry := by
  unfold processOutboundPublish
  split
  · exact .refl _ _
  · exact fanOut_routes consistent _ _

end

section

variable {codec : Codec} {registry : SessionRegistry maxSessions maxSubs maxInflight}

theorem updateSession_storedPublishes (id : SessionId)
    (f : SessionState maxSubs maxInflight → SessionState maxSubs maxInflight) :
    (updateSession registry id f).storedPublishes = registry.storedPublishes := by
  unfold updateSession
  split <;> rfl

theorem Operation.routes (consistent : Consistent registry) {operation : Operation maxSessions maxRetained}
    {message : Message} (routes : operation.message? = some message) :
    Routes message registry (operation.apply codec registry) := by
  cases operation with
  | publish senderId retained signals accepts packet now =>
    cases routes
    exact handlePublishAt_routes ⟨registry, retained, signals⟩ consistent _ _ _ _ _ _
  | outbound retained signals message now =>
    cases routes
    exact processOutboundPublish_routes ⟨registry, retained, signals⟩ consistent _ _
  | _ => cases routes

-- Only routing stores messages; the other operations forget some at most.
theorem Operation.apply_content (consistent : Consistent registry) (operation : Operation maxSessions maxRetained)
    {slot : SessionId} {tag : Nat × StoredPublishHandle} (held : Holds registry slot tag) {found : Message}
    (content : (operation.apply codec registry).content tag.2 = some found) :
    registry.content tag.2 = some found := by
  cases operation with
  | connect packet houseToken => exact (prepareConnect_spec registry packet houseToken).inherits.content _ _ content
  | publish | outbound => exact (Operation.routes consistent rfl).kept slot tag found held content
  | puback id packetId =>
    have inherits : Inherits registry _ := .acknowledge id packetId
    exact inherits.content _ _ content
  | retries id maxPacketSize retryMs maxRetries now answers =>
    have spec := processInflightRetriesAt_spec codec maxPacketSize id registry retryMs maxRetries now answers
    rwa [Operation.apply, content_congr spec.retried.storedPublishes] at content
  | remove id =>
    have inherits : Inherits registry _ := .remove id
    exact inherits.content _ _ content
  | subscribe | unsubscribe | flush =>
    rwa [Operation.apply, content_congr (updateSession_storedPublishes _ _)] at content

theorem applyAll_concat (operations : List (Operation maxSessions maxRetained))
    (operation : Operation maxSessions maxRetained) :
    (Operation.applyAll codec (operations ++ [operation]) : SessionRegistry maxSessions maxSubs maxInflight) =
      operation.apply codec (Operation.applyAll codec operations) := by
  simp [Operation.applyAll]

-- By induction on the operations since `start`, the last one first.
theorem content_of_held {start later : List (Operation maxSessions maxRetained)} {slot : SessionId}
    {tag : Nat × StoredPublishHandle}
    (held : ∀ earlier, earlier <+: later →
      Holds (Operation.applyAll codec (start ++ earlier) : SessionRegistry maxSessions maxSubs maxInflight) slot tag)
    {found : Message}
    (content : (Operation.applyAll codec (start ++ later) : SessionRegistry maxSessions maxSubs maxInflight).content
      tag.2 = some found) :
    (Operation.applyAll codec start : SessionRegistry maxSessions maxSubs maxInflight).content tag.2 =
      some found := by
  induction later using List.reverseRecOn with
  | nil => simpa using content
  | append_singleton later operation ih =>
    rw [← List.append_assoc, applyAll_concat] at content
    have before := held later (List.prefix_append later [operation])
    refine ih (fun earlier isPrefix => held earlier (isPrefix.trans (List.prefix_append later [operation]))) ?_
    exact operation.apply_content (consistent_applyAll codec _) before content

end

section

variable {codec : Codec}

theorem Operation.tracks {registry : SessionRegistry maxSessions maxSubs maxInflight}
    {operation : Operation maxSessions maxRetained} {message : Message}
    (routes : operation.message? = some message) :
    Maps (Tracks codec message) registry (operation.apply codec registry) := by
  cases operation with
  | publish senderId retained signals accepts packet now =>
    cases routes
    refine (handlePublishAt_maps codec accepts senderId ⟨registry, retained, signals⟩ packet now _ _).mono ?_
    rintro old new ⟨rate, rfl | ⟨granted, _, received⟩⟩
    · exact .of_same rfl
    · exact received.tracks
  | outbound retained signals publish now =>
    cases routes
    refine (processOutboundPublish_reached codec ⟨registry, retained, signals⟩ publish now).mono ?_
    rintro old new (rfl | ⟨granted, _, received⟩)
    · exact .of_same rfl
    · exact received.tracks
  | _ => cases routes

theorem trackedFrame_ok {message : Message} {packetId : Nat} {bytes : Text maxOutboundFrameSize}
    (encoded : trackedFrame codec message packetId = .ok bytes) :
    ∃ pid, Pid.tryFrom packetId = some pid ∧
      codec.encodeSlice (.publish (message.packet false pid)) maxOutboundFrameSize = some bytes.items := by
  unfold trackedFrame encodePublish at encoded
  split at encoded
  · cases encoded
  · next qospid numbered =>
    obtain ⟨pid, converted, rfl⟩ := Option.map_eq_some_iff.mp numbered
    refine ⟨pid, converted, ?_⟩
    split at encoded
    · cases encoded
    · next frame sliced =>
      split at encoded
      · cases encoded
      · next fits =>
        cases encoded
        rw [Bounded.ofList?_eq_some.mp fits]
        exact sliced

theorem retransmission_repeats_original {history later : List (Operation maxSessions maxRetained)}
    {routing : Operation maxSessions maxRetained} {message : Message} (routes : routing.message? = some message)
    {slot : SessionId} {old new : SessionState maxSubs maxInflight} {entry : InflightEntry}
    (found : (Operation.applyAll codec history).get slot = some old)
    (routed : (Operation.applyAll codec (history ++ [routing])).get slot = some new)
    (created : entry ∈ new.inflight.items ∧ entry ∉ old.inflight.items)
    {registry : SessionRegistry maxSessions maxSubs maxInflight}
    (reached : registry = Operation.applyAll codec (history ++ [routing] ++ later))
    (inflight : ∀ earlier, earlier <+: later →
      Holds (Operation.applyAll codec (history ++ [routing] ++ earlier) :
        SessionRegistry maxSessions maxSubs maxInflight) slot entry.tag) :
    ∃ pid frame, new.outbox.items = old.outbox.items ++ [frame] ∧ pid.value = entry.packetId ∧
      codec.encodeSlice (.publish (message.packet false pid)) maxOutboundFrameSize = some frame.bytes.items ∧
      ∀ maxPacketSize retryMs maxRetries now answers,
        let calls := retransmissions codec maxPacketSize slot registry retryMs maxRetries now answers
        (processInflightRetriesAt codec maxPacketSize slot registry retryMs maxRetries now answers).written =
          calls.flatMap Prod.snd ∧
        ∀ call ∈ calls, call.1.tag = entry.tag → ∀ publish ∈ call.2, publish = message.packet true pid := by
  subst reached
  rw [applyAll_concat] at routed
  obtain ⟨other, reached, tracks⟩ := (Operation.tracks routes).present slot old found
  cases reached.symm.trans routed
  obtain ⟨bytes, queued, encoded⟩ := tracks entry created.1 created.2
  obtain ⟨pid, converted, frame⟩ := trackedFrame_ok encoded
  refine ⟨pid, ⟨bytes⟩, queued, Pid.tryFrom_eq_some converted, frame, fun _ _ _ _ answers =>
    ⟨processInflightRetriesAt_written _ answers, fun call called same publish written => ?_⟩⟩
  obtain ⟨retriedPid, _, retriedConverted, content, rfl⟩ := mem_retryLog (List.reduceOption_mem_iff.mp called) written
  obtain ⟨samePacketId, samePublish⟩ := Prod.mk.inj same
  rw [samePacketId, converted] at retriedConverted
  rw [samePublish] at content
  cases retriedConverted
  -- What the cell holds now is what routing stored there.
  have stored := (Operation.routes (consistent_applyAll codec history) routes).tracked slot old _ found routed
    entry created.1 created.2
  have original := content_of_held inflight content
  rw [applyAll_concat] at original
  cases stored.symm.trans original
  rfl

end

-- The message for client `a` goes into the cell that a message for client `b` has left. Until the retry
-- comes, two more for `b` go through the other cell.
def messageOn (name : UInt8) : Operation 2 1 :=
  .outbound .new .empty ⟨.truncate [name], .truncate [name], .atLeastOnce, false⟩ 0

def recycledHistory : List (Operation 2 1) :=
  [.connect (houseConnect [97] true none) gatomqttToken, .connect (houseConnect [98] true none) gatomqttToken,
    .subscribe 0 ⟨.new, .truncate [⟨.truncate [97], .atLeastOnce⟩]⟩ .new,
    .subscribe 1 ⟨.new, .truncate [⟨.truncate [98], .atLeastOnce⟩]⟩ .new, messageOn 98, .puback 1 1]

def recycledLater : List (Operation 2 1) := [messageOn 98, .puback 1 2, messageOn 98]

def recycledRegistry (operations : List (Operation 2 1)) : SessionRegistry 2 1 2 :=
  Operation.applyAll Mqtt311.codec operations

def recycledEntry : InflightEntry := ⟨1, ⟨0, 2⟩, .atLeastOnce, 0, 0⟩

def recycledCalls : List (InflightEntry × List Publish) :=
  retransmissions Mqtt311.codec 512 0 (recycledRegistry (recycledHistory ++ [messageOn 97] ++ recycledLater)) 1000 3
    (fromMillis 1000) []

theorem retransmission_repeats_recycled :
    recycledCalls.length = 1 ∧
      ∃ pid, ∀ call ∈ recycledCalls, call.2 = [⟨true, .atLeastOnce pid, false, [97], [97]⟩] := by
  have before : ((recycledRegistry recycledHistory).get 0).any
      fun session => recycledEntry ∉ session.inflight.items := by decide +kernel
  have after : ((recycledRegistry (recycledHistory ++ [messageOn 97])).get 0).any
      fun session => recycledEntry ∈ session.inflight.items := by decide +kernel
  obtain ⟨old, found, fresh⟩ := (Option.any_eq_true _ _).mp before
  obtain ⟨new, routed, tracked⟩ := (Option.any_eq_true _ _).mp after
  have inflight (earlier : List (Operation 2 1)) (isPrefix : earlier <+: recycledLater) :
      Holds (recycledRegistry (recycledHistory ++ [messageOn 97] ++ earlier)) 0 recycledEntry.tag := by
    have held : ∀ earlier ∈ recycledLater.inits,
        ((recycledRegistry (recycledHistory ++ [messageOn 97] ++ earlier)).get 0).any
          fun session => recycledEntry.tag ∈ session.tags := by decide +kernel
    obtain ⟨session, present, member⟩ :=
      (Option.any_eq_true _ _).mp (held earlier ((List.mem_inits _ _).mpr isPrefix))
    exact ⟨session, present, of_decide_eq_true member⟩
  have calls : recycledCalls.length = 1 ∧
      ∀ call ∈ recycledCalls, call.1.tag = recycledEntry.tag ∧ call.2.length = 1 := by decide +kernel
  obtain ⟨pid, _, _, _, _, repeats⟩ := retransmission_repeats_original
    (show (messageOn 97).message? = some ⟨[97], [97], .atLeastOnce, false⟩ from rfl) found routed
    ⟨of_decide_eq_true tracked, of_decide_eq_true fresh⟩ rfl inflight
  refine ⟨calls.1, pid, fun call called => ?_⟩
  obtain ⟨same, single⟩ := calls.2 call called
  obtain ⟨publish, written⟩ := List.length_eq_one_iff.mp single
  rw [written, (repeats 512 1000 3 (fromMillis 1000) []).2 call called same publish (by simp [written])]
  rfl

end PicoBroker
