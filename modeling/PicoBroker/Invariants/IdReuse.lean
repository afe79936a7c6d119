import PicoBroker.Contracts.RetainFlag
import PicoBroker.Invariants.PacketIds
import PicoBroker.Invariants.Retransmissions
import PicoBroker.Shared.Mealy
import PicoBroker.Shared.Rotation

set_option autoImplicit false

namespace PicoBroker

variable {maxSessions maxSubs maxInflight maxRetained : Nat}

theorem succPacketId_eq_next {counter : Nat} (bounded : counter < 65536) :
    SessionState.succPacketId counter = Rotation.next 65535 counter := by
  unfold SessionState.succPacketId Rotation.next
  split <;> omega

def Operation.allocates (codec : Codec) (slot : SessionId)
    (registry : SessionRegistry maxSessions maxSubs maxInflight) (operation : Operation maxSessions maxRetained) :
    Bool :=
  operation.message?.isSome && decide (((operation.apply codec registry).get slot).map (·.packetIdCounter) ≠
    (registry.get slot).map (·.packetIdCounter))

def Operation.allocations (codec : Codec) (slot : SessionId)
    (registry : SessionRegistry maxSessions maxSubs maxInflight)
    (operations : List (Operation maxSessions maxRetained)) : Nat :=
  (Mealy.replies (fun registry operation => (operation.allocates codec slot registry, operation.apply codec registry))
    registry operations).count true

def StaysInFlight (codec : Codec) (registry : SessionRegistry maxSessions maxSubs maxInflight)
    (operations : List (Operation maxSessions maxRetained)) (slot : SessionId) (packetId : Nat) : Prop :=
  ∀ earlier, earlier <+: operations → ∃ session,
    (earlier.foldl (Operation.apply codec) registry).get slot = some session ∧ packetId ∈ session.inflightIds

variable (maxSubs maxInflight) in
-- Nothing in flight has been there while its session was given 65534 ids or more.
def Recent (codec : Codec) (history : List (Operation maxSessions maxRetained)) : Prop :=
  ∀ start later, history = start ++ later → ∀ slot packetId,
    let registry : SessionRegistry maxSessions maxSubs maxInflight := Operation.applyAll codec start
    StaysInFlight codec registry later slot packetId → Operation.allocations codec slot registry later < 65534

variable (maxSubs maxInflight) in
structure FreshIds (codec : Codec) (history : List (Operation maxSessions maxRetained)) : Prop where
  fresh : ∀ earlier operation, earlier ++ [operation] <+: history → operation.message?.isSome = true →
    ∀ slot session, (Operation.applyAll codec earlier : SessionRegistry maxSessions maxSubs maxInflight).get slot =
      some session → session.nextPacketId.1 ≠ 0 ∧ session.nextPacketId.1 ∉ session.inflightIds
  distinct : ∀ earlier, earlier <+: history → ∀ slot session,
    (Operation.applyAll codec earlier : SessionRegistry maxSessions maxSubs maxInflight).get slot = some session →
      session.inflightIds.Nodup

inductive IdStep (operation : Operation maxSessions maxRetained)
    (registry : SessionRegistry maxSessions maxSubs maxInflight) (slot : SessionId)
    (session : SessionState maxSubs maxInflight) : Prop
  | created (counter : session.packetIdCounter = 0) (idle : session.inflightIds = [])
  | kept {old : SessionState maxSubs maxInflight} (found : registry.get slot = some old)
      (counter : session.packetIdCounter = old.packetIdCounter)
      (fewer : session.inflightIds.Sublist old.inflightIds)
  | numbered {old : SessionState maxSubs maxInflight} (routes : operation.message?.isSome = true)
      (found : registry.get slot = some old)
      (counter : session.packetIdCounter = SessionState.succPacketId old.packetIdCounter)
      (ids : session.inflightIds = old.inflightIds ∨
        session.inflightIds = old.inflightIds ++ [session.packetIdCounter])

section

variable {codec : Codec} {registry : SessionRegistry maxSessions maxSubs maxInflight}
  {operation : Operation maxSessions maxRetained} {slot : SessionId} {session : SessionState maxSubs maxInflight}

theorem IdStep.of_inflight {old : SessionState maxSubs maxInflight} (found : registry.get slot = some old)
    (counter : session.packetIdCounter = old.packetIdCounter)
    (fewer : session.inflight.items.Sublist old.inflight.items) : IdStep operation registry slot session :=
  .kept found counter (fewer.map _)

theorem IdStep.of_numbering {old : SessionState maxSubs maxInflight} (routes : operation.message?.isSome = true)
    (found : registry.get slot = some old) (numbering : Numbering old session) :
    IdStep operation registry slot session := by
  have same (inflight : session.inflight = old.inflight) : session.inflightIds = old.inflightIds := by
    simp [SessionState.inflightIds, inflight]
  cases numbering with
  | same counter inflight => exact .of_inflight found counter (by rw [inflight])
  | next counter inflight => exact .numbered routes found counter (.inl (same inflight))
  | tracked counter ids => exact .numbered routes found counter (.inr ids)

theorem IdStep.of_update {id : SessionId} {f : SessionState maxSubs maxInflight → SessionState maxSubs maxInflight}
    (counter : ∀ session, (f session).packetIdCounter = session.packetIdCounter)
    (inflight : ∀ session, (f session).inflight = session.inflight)
    (found : (updateSession registry id f).get slot = some session) : IdStep operation registry slot session := by
  unfold updateSession at found
  split at found
  · exact .of_inflight found rfl (List.Sublist.refl _)
  · next old present =>
    rw [SessionRegistry.get_put present] at found
    split at found
    · next here =>
      subst here
      cases found
      exact .of_inflight present (counter old) (by rw [inflight])
    · exact .of_inflight found rfl (List.Sublist.refl _)

theorem Operation.idStep (operation : Operation maxSessions maxRetained)
    (found : (operation.apply codec registry).get slot = some session) :
    IdStep operation registry slot session := by
  cases operation with
  | connect packet houseToken =>
    rcases (prepareConnect_spec registry packet houseToken).get_cases found with present | ⟨_, claimed⟩
    · exact .of_inflight present rfl (List.Sublist.refl _)
    · rcases claimed.state with ⟨clientId, lwt, rfl⟩ | ⟨old, lwt, present, rfl⟩
      · exact .created rfl rfl
      · exact .of_inflight present rfl (List.Sublist.refl _)
  | publish senderId retained signals accepts packet now =>
    obtain ⟨old, present, rate, routed⟩ :=
      (handlePublishAt_maps codec accepts senderId ⟨registry, retained, signals⟩ packet now _ _).of_present found
    have numbering : Routed codec old session :=
      ⟨rate, old.lastActivity, routed.imp_right fun ⟨_, _, received⟩ => ⟨_, _, _, _, received⟩⟩
    exact .of_numbering rfl present numbering.numbering
  | outbound retained signals message now =>
    obtain ⟨old, present, routed⟩ :=
      (processOutboundPublish_maps codec ⟨registry, retained, signals⟩ message now).of_present found
    exact .of_numbering rfl present routed.numbering
  | puback id packetId =>
    obtain ⟨old, present, inflight, rfl, fewer⟩ := (acknowledge_maps registry id packetId).of_present found
    exact .of_inflight present rfl fewer
  | retries id maxPacketSize retryMs maxRetries now answers =>
    have spec := processInflightRetriesAt_spec codec maxPacketSize id registry retryMs maxRetries now answers
    obtain ⟨old, present, inflight, rfl, tags⟩ := spec.retried.maps.of_present found
    refine .kept present rfl ?_
    rw [SessionState.inflightIds_eq_tags, tags, ← SessionState.inflightIds_eq_tags]
  | remove id =>
    change ((registry.remove id).2).get slot = some session at found
    rw [SessionRegistry.get_remove] at found
    split at found
    · cases found
    · exact .of_inflight found rfl (List.Sublist.refl _)
  | subscribe | unsubscribe | flush =>
    refine .of_update ?_ ?_ found <;> intro <;> rfl

end

section

variable {codec : Codec} {registry : SessionRegistry maxSessions maxSubs maxInflight} {slot : SessionId}
  {operations : List (Operation maxSessions maxRetained)} {operation : Operation maxSessions maxRetained}

theorem Operation.allocations_concat :
    Operation.allocations codec slot registry (operations ++ [operation]) =
      Operation.allocations codec slot registry operations +
        if operation.allocates codec slot (operations.foldl (Operation.apply codec) registry) then 1 else 0 := by
  simp [allocations, Mealy.replies_append, Mealy.final_eq_foldl, Mealy.replies, List.count_singleton]

variable (codec slot registry operations) in
theorem Operation.allocations_le : Operation.allocations codec slot registry operations ≤ operations.length :=
  List.count_le_length.trans (Mealy.length_replies registry operations).le

theorem applyAll_append (later : List (Operation maxSessions maxRetained)) :
    (Operation.applyAll codec (operations ++ later) : SessionRegistry maxSessions maxSubs maxInflight) =
      later.foldl (Operation.apply codec) (Operation.applyAll codec operations) := by
  simp [Operation.applyAll]

end

variable (maxSubs maxInflight) in
def Aged (codec : Codec) (history : List (Operation maxSessions maxRetained)) (slot : SessionId)
    (packetId age : Nat) : Prop :=
  ∃ start later, history = start ++ later ∧
    StaysInFlight codec (Operation.applyAll codec start : SessionRegistry maxSessions maxSubs maxInflight) later slot
      packetId ∧
    Operation.allocations codec slot (Operation.applyAll codec start : SessionRegistry maxSessions maxSubs maxInflight)
      later = age

structure Ledger (codec : Codec) (history : List (Operation maxSessions maxRetained)) (slot : SessionId)
    (session : SessionState maxSubs maxInflight) (ages : List Nat) : Prop where
  counter : session.packetIdCounter < 65536
  outstanding : Rotation.Outstanding 65535 session.packetIdCounter session.inflightIds ages
  aged : ∀ age ∈ ages, Aged maxSubs maxInflight codec history slot
    (Rotation.issued 65535 session.packetIdCounter age) age

section

variable {codec : Codec} {history : List (Operation maxSessions maxRetained)}
  {operation : Operation maxSessions maxRetained} {slot : SessionId}
  {old session : SessionState maxSubs maxInflight} {packetId age : Nat} {ages : List Nat}

theorem Aged.born (found : (Operation.applyAll codec history).get slot = some session)
    (member : packetId ∈ session.inflightIds) : Aged maxSubs maxInflight codec history slot packetId 0 := by
  refine ⟨history, [], by simp, fun earlier isPrefix => ?_, rfl⟩
  rw [List.prefix_nil.mp isPrefix]
  exact ⟨session, found, member⟩

theorem Aged.extend (aged : Aged maxSubs maxInflight codec history slot packetId age)
    (found : (Operation.applyAll codec (history ++ [operation])).get slot = some session)
    (member : packetId ∈ session.inflightIds) :
    Aged maxSubs maxInflight codec (history ++ [operation]) slot packetId (age +
      if operation.allocates codec slot
        (Operation.applyAll codec history : SessionRegistry maxSessions maxSubs maxInflight) then 1 else 0) := by
  obtain ⟨start, later, rfl, stays, rfl⟩ := aged
  refine ⟨start, later ++ [operation], List.append_assoc .., fun earlier isPrefix => ?_, ?_⟩
  · rcases List.prefix_concat_iff.mp isPrefix with rfl | inside
    · rw [List.append_assoc, applyAll_append] at found
      exact ⟨session, found, member⟩
    · exact stays earlier inside
  · rw [Operation.allocations_concat, applyAll_append]

theorem Ledger.kept (ledger : Ledger codec history slot old ages)
    (found : (Operation.applyAll codec history).get slot = some old)
    (reached : (Operation.applyAll codec (history ++ [operation])).get slot = some session)
    (counter : session.packetIdCounter = old.packetIdCounter)
    (fewer : session.inflightIds.Sublist old.inflightIds) :
    ∃ kept, Ledger codec (history ++ [operation]) slot session kept := by
  have idle : operation.allocates codec slot
      (Operation.applyAll codec history : SessionRegistry maxSessions maxSubs maxInflight) = false := by
    simp [Operation.allocates, ← applyAll_concat, reached, found, counter]
  obtain ⟨kept, sublist, outstanding⟩ := ledger.outstanding.thin fewer
  rw [← counter] at outstanding
  refine ⟨kept, counter ▸ ledger.counter, outstanding, fun age member => ?_⟩
  have aged := ledger.aged age (sublist.subset member)
  rw [← counter] at aged
  have inFlight : Rotation.issued 65535 session.packetIdCounter age ∈ session.inflightIds := by
    rw [outstanding.numbers]
    exact List.mem_map_of_mem member
  simpa [idle] using aged.extend reached inFlight

-- What is new has the age 0, everything else is one older.
theorem Ledger.numbered (ledger : Ledger codec history slot old ages)
    (found : (Operation.applyAll codec history).get slot = some old)
    (reached : (Operation.applyAll codec (history ++ [operation])).get slot = some session)
    (routes : operation.message?.isSome = true)
    (counter : session.packetIdCounter = Rotation.next 65535 old.packetIdCounter) {next : List Nat}
    (outstanding : Rotation.Outstanding 65535 session.packetIdCounter session.inflightIds next)
    (older : ∀ age ∈ next, age = 0 ∨ age ∈ ages.map (· + 1)) :
    Ledger codec (history ++ [operation]) slot session next where
  counter := by
    rw [counter]
    exact Nat.lt_succ_of_le (Rotation.next_le (by decide) _)
  outstanding := outstanding
  aged age member := by
    have inFlight : Rotation.issued 65535 session.packetIdCounter age ∈ session.inflightIds := by
      rw [outstanding.numbers]
      exact List.mem_map_of_mem member
    rcases older age member with rfl | aging
    · exact .born reached inFlight
    · obtain ⟨before, earlier, rfl⟩ := List.mem_map.mp aging
      have moved : operation.allocates codec slot
          (Operation.applyAll codec history : SessionRegistry maxSessions maxSubs maxInflight) = true := by
        have changed := SessionState.succPacketId_ne old.packetIdCounter
        rw [succPacketId_eq_next ledger.counter, ← counter] at changed
        simp [Operation.allocates, ← applyAll_concat, reached, found, routes, changed]
      have aged := ledger.aged before earlier
      rw [counter, Rotation.issued_next] at inFlight ⊢
      simpa [moved] using aged.extend reached inFlight

theorem Ledger.step
    (ledgers : ∀ old : SessionState maxSubs maxInflight, (Operation.applyAll codec history).get slot = some old →
      ∃ ages, Ledger codec history slot old ages)
    (reached : (Operation.applyAll codec (history ++ [operation])).get slot = some session) :
    ∃ ages, Ledger codec (history ++ [operation]) slot session ages := by
  have applied := reached
  rw [applyAll_concat] at applied
  cases operation.idStep applied with
  | created counter idle =>
    refine ⟨[], ?_, ?_, by simp⟩
    · simp [counter]
    · rw [idle]
      exact .nil _ _
  | kept found counter fewer =>
    obtain ⟨ages, ledger⟩ := ledgers _ found
    exact ledger.kept found reached counter fewer
  | numbered routes found counter ids =>
    obtain ⟨ages, ledger⟩ := ledgers _ found
    rw [succPacketId_eq_next ledger.counter] at counter
    rcases ids with same | tracked
    · have outstanding := ledger.outstanding.advance
      rw [← counter, ← same] at outstanding
      exact ⟨_, ledger.numbered found reached routes counter outstanding fun _ member => .inr member⟩
    · have outstanding := ledger.outstanding.issue (by decide)
      rw [← counter, ← tracked] at outstanding
      exact ⟨_, ledger.numbered found reached routes counter outstanding fun age member => by simpa [or_comm] using member⟩

theorem exists_ledger (found : (Operation.applyAll codec history).get slot = some session) :
    ∃ ages, Ledger codec history slot session ages := by
  induction history using List.reverseRecOn generalizing session with
  | nil =>
    rw [Operation.applyAll, List.foldl_nil, SessionRegistry.get_new] at found
    cases found
  | append_singleton history operation ih => exact Ledger.step (fun old present => ih present) found

end

section

variable {codec : Codec} {history : List (Operation maxSessions maxRetained)}

-- By induction on the operations since the entry was there. Only routing gives out ids, and before each
-- routing the entry was younger still.
theorem Aged.lt {slot : SessionId} {packetId age : Nat}
    (recent : ∀ earlier operation, earlier ++ [operation] <+: history → operation.message?.isSome = true →
      Recent maxSubs maxInflight codec earlier)
    (aged : Aged maxSubs maxInflight codec history slot packetId age) : age < 65535 := by
  obtain ⟨start, later, rfl, stays, rfl⟩ := aged
  induction later using List.reverseRecOn with
  | nil => simp [Operation.allocations, Mealy.replies]
  | append_singleton later operation ih =>
    rw [← List.append_assoc] at recent
    have staysBefore : StaysInFlight codec
        (Operation.applyAll codec start : SessionRegistry maxSessions maxSubs maxInflight) later slot packetId :=
      fun earlier isPrefix => stays earlier (isPrefix.trans (List.prefix_append ..))
    rw [Operation.allocations_concat]
    split
    · next allocates =>
      have routes : operation.message?.isSome = true := (Bool.and_eq_true_iff.mp allocates).1
      have young := recent (start ++ later) operation List.prefix_rfl routes start later rfl slot packetId staysBefore
      omega
    · exact ih (fun earlier operation inside => recent earlier operation (inside.trans (List.prefix_append ..)))
        staysBefore

theorem packetIds_fresh
    (recent : ∀ earlier operation, earlier ++ [operation] <+: history → operation.message?.isSome = true →
      Recent maxSubs maxInflight codec earlier) : FreshIds maxSubs maxInflight codec history where
  fresh earlier operation isPrefix routes slot session found := by
    obtain ⟨ages, ledger⟩ := exists_ledger found
    refine ⟨(SessionState.succPacketId_pos _).ne', ?_⟩
    change SessionState.succPacketId session.packetIdCounter ∉ session.inflightIds
    rw [succPacketId_eq_next ledger.counter]
    apply ledger.outstanding.fresh _ (by decide)
    intro age member
    obtain ⟨start, later, rfl, stays, rfl⟩ := ledger.aged age member
    exact Nat.succ_lt_succ (recent _ operation isPrefix routes start later rfl slot _ stays)
  distinct earlier isPrefix slot session found := by
    obtain ⟨ages, ledger⟩ := exists_ledger found
    apply ledger.outstanding.nodup
    intro age member
    exact (ledger.aged age member).lt fun before operation inside => recent before operation (inside.trans isPrefix)

end

-- A run is recent as long as it is too short to give out that many ids.
theorem recent_of_short {codec : Codec} {history : List (Operation maxSessions maxRetained)}
    (short : history.length < 65534) : Recent maxSubs maxInflight codec history := by
  intro start later split slot packetId registry _
  subst split
  have bounded := Operation.allocations_le codec registry slot later
  rw [List.length_append] at short
  omega

def notice : Operation 1 1 := .outbound .new .empty ⟨.truncate [97], .truncate [97], .atLeastOnce, false⟩ 0

def awayHistory (notices : Nat) : List (Operation 1 1) :=
  [.connect (houseConnect [97] false none) gatomqttToken,
    .subscribe 0 ⟨.new, .truncate [⟨.truncate [97], .atLeastOnce⟩]⟩ .new] ++ List.replicate notices notice

def away (history : List (Operation 1 1)) : SessionRegistry 1 1 2 := Operation.applyAll Mqtt311.codec history

theorem away_append (history later : List (Operation 1 1)) :
    away (history ++ later) = later.foldl (Operation.apply Mqtt311.codec) (away history) :=
  applyAll_append later

theorem packetIds_fresh_acknowledged :
    ((away (awayHistory 2 ++ [.puback 0 1, notice])).get 0).map SessionState.inflightIds = some [2, 3] ∧
      FreshIds 1 2 Mqtt311.codec (awayHistory 2 ++ [.puback 0 1, notice]) := by
  refine ⟨by decide +kernel, packetIds_fresh fun earlier operation isPrefix _ => recent_of_short ?_⟩
  have shorter : earlier.length + 1 ≤ 6 := by simpa [awayHistory] using isPrefix.length_le
  omega

section

variable {registry : SessionRegistry 1 1 2} {session : SessionState 1 2}

theorem findAllSubscribers_single {topic : Bytes} {granted : QoS} (present : registry.get 0 = some session)
    (matched : matchedQos session.subscriptions.items topic = some granted) :
    (findAllSubscribers registry topic).items = [(0, granted)] := by
  have occupied : registry.iter = [(0, session)] := by
    obtain ⟨cell, cells⟩ := List.length_eq_one_iff.mp registry.slots.sized
    rw [SessionRegistry.get, Slots.get, cells] at present
    rw [SessionRegistry.iter, Slots.occupied, cells]
    simp_all
  rw [findAllSubscribers, collectSubscribers_items, occupied]
  simp [matched]

def dropping (notices : Nat) (session : SessionState 1 2) : SessionState 1 2 :=
  { session with
    packetIdCounter := notices
    outboxDrops := min (notices - maxOutboxDepth) 255
    quarantined := decide (maxOutboxDepth + gatomqttConfig.maxOutboxDrops ≤ notices) }

theorem dropping_succ {notices : Nat} (full : maxOutboxDepth ≤ notices) (bounded : notices < 65535) :
    droppedSession (dropping notices session) .atLeastOnce gatomqttConfig.maxOutboxDrops =
      dropping (notices + 1) session := by
  have counter := SessionState.succPacketId_of_lt bounded
  have drops : min (min (notices - maxOutboxDepth) 255 + 1) 255 = min (notices + 1 - maxOutboxDepth) 255 := by omega
  have quarantined : decide (maxOutboxDepth + gatomqttConfig.maxOutboxDrops ≤ notices + 1) =
      (decide (maxOutboxDepth + gatomqttConfig.maxOutboxDrops ≤ notices) ||
        decide (min (notices + 1 - maxOutboxDepth) 255 ≥ gatomqttConfig.maxOutboxDrops)) := by
    rw [← Bool.decide_or]
    apply decide_eq_decide.mpr
    simp only [maxOutboxDepth, gatomqttConfig] at full ⊢
    omega
  simp [droppedSession, dropping, numbered, packetIdFor, SessionState.nextPacketId, saturatingAddU8, counter, drops,
    quarantined]

theorem notice_dropped (present : registry.get 0 = some session)
    (matched : matchedQos session.subscriptions.items [97] = some .atLeastOnce)
    (full : session.outbox.items.length = maxOutboxDepth) :
    notice.apply Mqtt311.codec registry =
      registry.put 0 (droppedSession session .atLeastOnce gatomqttConfig.maxOutboxDrops) := by
  let message : Message := ⟨[97], [97], .atLeastOnce, false⟩
  have offered : offer Mqtt311.codec message .atLeastOnce gatomqttConfig.maxOutboxDrops session =
      .dropped (droppedSession session .atLeastOnce gatomqttConfig.maxOutboxDrops) := by
    obtain ⟨bytes, encodes⟩ := (frameFor_ok_iff mqtt311_followsMqtt311 message .atLeastOnce session).mpr
      (by simp [message, FrameFits])
    rcases offer_cases Mqtt311.codec message .atLeastOnce gatomqttConfig.maxOutboxDrops session with
      ⟨error, failed, _⟩ | ⟨_, _, _, dropped⟩ | ⟨_, outbox, _, pushed, _⟩
    · rw [encodes] at failed
      cases failed
    · exact dropped
    · rw [Bounded.push_eq_none.mpr full] at pushed
      cases pushed
  have loop : notice.apply Mqtt311.codec registry =
      (fanOut Mqtt311.codec message 0 gatomqttConfig.maxOutboxDrops ⟨registry, .empty, none, []⟩
        (findAllSubscribers registry [97]).items).1.registry := rfl
  have lower : minQos message.qos .atLeastOnce = .atLeastOnce := rfl
  rw [loop, findAllSubscribers_single present matched]
  simp only [fanOut, deliver, present, lower, offered]

end

theorem away_dropping {notices : Nat} (full : maxOutboxDepth ≤ notices) (bounded : notices ≤ 65535) :
    away (awayHistory notices) = updateSession (away (awayHistory maxOutboxDepth)) 0 (dropping notices) := by
  induction notices, full using Nat.le_induction with
  | base => decide +kernel
  | succ notices full ih =>
    have concat : awayHistory (notices + 1) = awayHistory notices ++ [notice] := by
      rw [awayHistory, List.replicate_succ', ← List.append_assoc, awayHistory]
    have filled : ((away (awayHistory maxOutboxDepth)).get 0).any fun session =>
        matchedQos session.subscriptions.items [97] = some .atLeastOnce ∧
          session.outbox.items.length = maxOutboxDepth := by decide +kernel
    obtain ⟨session, present, holds⟩ := (Option.any_eq_true _ _).mp filled
    obtain ⟨matched, outboxFull⟩ := of_decide_eq_true holds
    have update (count : Nat) : updateSession (away (awayHistory maxOutboxDepth)) 0 (dropping count) =
        (away (awayHistory maxOutboxDepth)).put 0 (dropping count session) := by
      rw [updateSession, present]
    have reached : (away (awayHistory notices)).get 0 = some (dropping notices session) := by
      rw [ih (by omega), update, SessionRegistry.get_put_self present]
    rw [concat, away_append, List.foldl_cons, List.foldl_nil, notice_dropped reached matched outboxFull,
      dropping_succ full (by omega), ih (by omega), update, update, SessionRegistry.put_put]

def comeBack : List (Operation 1 1) := [.flush 0, .puback 0 2]

theorem packetId_reused :
    ((away (awayHistory 65535 ++ comeBack)).get 0).map (fun session => (session.inflightIds, session.nextPacketId.1)) =
        some ([1], 1) ∧
      ((away (awayHistory 65535 ++ comeBack ++ [notice])).get 0).map SessionState.inflightIds = some [1, 1] ∧
      ¬ FreshIds 1 2 Mqtt311.codec (awayHistory 65535 ++ comeBack ++ [notice]) := by
  have dropped := away_dropping (show maxOutboxDepth ≤ 65535 by decide) (Nat.le_refl _)
  have reused : ((away (awayHistory 65535 ++ comeBack ++ [notice])).get 0).map SessionState.inflightIds =
      some [1, 1] := by
    rw [List.append_assoc, away_append, dropped]
    decide +kernel
  refine ⟨?_, reused, fun fresh => ?_⟩
  · rw [away_append, dropped]
    decide +kernel
  · obtain ⟨session, present, ids⟩ := Option.map_eq_some_iff.mp reused
    have distinct := fresh.distinct _ List.prefix_rfl 0 session present
    rw [ids] at distinct
    revert distinct
    decide

end PicoBroker
