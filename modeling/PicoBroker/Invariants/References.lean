import PicoBroker.Broker.Admission
import PicoBroker.Broker.Disconnect
import PicoBroker.Broker.Retries
import PicoBroker.Broker.Routing
import PicoBroker.Broker.Subscribe
import PicoBroker.Shared.Counted

set_option autoImplicit false

namespace PicoBroker

variable {maxSessions maxSubs maxInflight maxRetained : Nat}

def StoredPublishHandle.ref (handle : StoredPublishHandle) : Counted.Ref :=
  ⟨handle.slot, handle.generation⟩

def StoredPublish.cell (stored : StoredPublish) : Counted.Cell := ⟨stored.generation, stored.refcount⟩

def pool (registry : SessionRegistry maxSessions maxSubs maxInflight) : Counted.Pool :=
  fun slot => (registry.storedPublishes.get slot).map StoredPublish.cell

def sessionRefs (session : SessionState maxSubs maxInflight) : Multiset Counted.Ref :=
  session.inflight.items.map fun entry => entry.publish.ref

def references (registry : SessionRegistry maxSessions maxSubs maxInflight) : Multiset Counted.Ref :=
  registry.slots.collect sessionRefs

structure Consistent (registry : SessionRegistry maxSessions maxSubs maxInflight) : Prop where
  exact : Counted.Exact (pool registry) (references registry)
  packetIds : ∀ id session, registry.get id = some session →
    ∀ entry ∈ session.inflight.items, 0 < entry.packetId ∧ entry.packetId < 65536

variable {registry : SessionRegistry maxSessions maxSubs maxInflight}

theorem handle_ref_injective : Function.Injective StoredPublishHandle.ref := by
  rintro ⟨slot, generation⟩ ⟨slot', generation'⟩ same
  cases same
  rfl

theorem storedPublish_iff_pool {handle : StoredPublishHandle} {cell : Counted.Cell}
    (found : pool registry handle.ref.index = some cell)
    (current : cell.generation = handle.ref.generation) :
    ∃ stored, registry.storedPublish handle = some stored ∧ stored.cell = cell := by
  obtain ⟨stored, present, rfl⟩ := Option.map_eq_some_iff.mp found
  exact ⟨stored, SessionRegistry.storedPublish_eq_some.mpr ⟨present, current⟩, rfl⟩

theorem pool_putStored {slot : Nat} (inside : slot < maxInflight) (stored : Option StoredPublish) :
    pool (registry.putStored slot stored) =
      Function.update (pool registry) slot (stored.map StoredPublish.cell) := by
  funext other
  by_cases same : other = slot
  · subst same
    simp [pool, SessionRegistry.putStored, Slots.get_set_self _ _ inside]
  · simp [pool, SessionRegistry.putStored, Slots.get_set_ne _ _ same, Function.update_of_ne same]

theorem references_put {id : SessionId} {old : SessionState maxSubs maxInflight}
    (present : registry.get id = some old) (session : SessionState maxSubs maxInflight) :
    references (registry.put id session) + sessionRefs old = references registry + sessionRefs session := by
  have exchanged := registry.slots.collect_set sessionRefs (some session) (Slots.lt_of_get present)
  have stored : registry.slots.get id = some old := present
  simpa [references, SessionRegistry.put, stored] using exchanged

theorem SessionRegistry.SameSessions.references {after : SessionRegistry maxSessions maxSubs maxInflight}
    (same : registry.SameSessions after) : references after = references registry := by
  simp [PicoBroker.references, same.slots]

theorem sessionRefs_eq_tags (session : SessionState maxSubs maxInflight) :
    sessionRefs session = (session.tags.map fun tag => tag.2.ref : List Counted.Ref) := by
  simp [sessionRefs, SessionState.tags, Function.comp_def]

theorem Consistent.put (consistent : Consistent registry) {id : SessionId}
    {old session : SessionState maxSubs maxInflight} (present : registry.get id = some old)
    (same : session.tags = old.tags) : Consistent (registry.put id session) := by
  have refs : sessionRefs session = sessionRefs old := by
    rw [sessionRefs_eq_tags, sessionRefs_eq_tags, same]
  have unchanged : references (registry.put id session) = references registry := by
    have exchanged := references_put present session
    rw [refs] at exchanged
    exact add_right_cancel exchanged
  refine ⟨?_, ?_⟩
  · rw [unchanged]
    exact consistent.exact
  · intro other found stored entry member
    rw [SessionRegistry.get_put present] at stored
    split at stored
    · cases stored
      have tagged : (entry.packetId, entry.publish) ∈ old.tags := by
        rw [← same]
        exact List.mem_map_of_mem member
      obtain ⟨oldEntry, oldMember, sameTag⟩ := List.mem_map.mp tagged
      rw [← (Prod.mk.inj sameTag).1]
      exact consistent.packetIds id old present oldEntry oldMember
    · exact consistent.packetIds other found stored entry member

theorem Consistent.congr {after : SessionRegistry maxSessions maxSubs maxInflight}
    (consistent : Consistent registry) (slots : after.slots = registry.slots)
    (stored : after.storedPublishes = registry.storedPublishes) : Consistent after := by
  refine ⟨?_, ?_⟩
  · have samePool : pool after = pool registry := by
      funext slot
      simp [pool, stored]
    rw [samePool, references, slots]
    exact consistent.exact
  · simpa [SessionRegistry.get, slots] using consistent.packetIds

theorem consistent_new : Consistent (SessionRegistry.new : SessionRegistry maxSessions maxSubs maxInflight) := by
  refine ⟨?_, by simp⟩
  have noPool : pool (SessionRegistry.new : SessionRegistry maxSessions maxSubs maxInflight) =
      fun _ => none := by
    funext slot
    simp [pool, SessionRegistry.new]
  have noRefs : references (SessionRegistry.new : SessionRegistry maxSessions maxSubs maxInflight) = 0 := by
    apply Multiset.eq_zero_of_forall_notMem
    simp [references, Slots.mem_collect, SessionRegistry.new]
  rw [noPool, noRefs]
  exact Counted.exact_empty

theorem Acquisition.exact {after : SessionRegistry maxSessions maxSubs maxInflight} {message : Message}
    {before shared : Option StoredPublishHandle} {handle : StoredPublishHandle}
    {refs : Multiset Counted.Ref} (exact : Counted.Exact (pool registry) refs)
    (acquisition : Acquisition registry message before after shared (some handle)) :
    Counted.Exact (pool after) (handle.ref ::ₘ refs) := by
  cases acquisition with
  | stored free sameTopic samePayload generation =>
    obtain ⟨inside, empty, _⟩ := Slots.firstFree_eq_some.mp free
    rw [pool_putStored inside]
    exact exact.store (by simp [pool, empty])
  | @acquired _ held found =>
    obtain ⟨present, current⟩ := SessionRegistry.storedPublish_eq_some.mp found
    rw [pool_putStored (Slots.lt_of_get present)]
    have cell : pool registry handle.ref.index = some held.cell := by
      simp [pool, StoredPublishHandle.ref, present]
    exact exact.acquire cell current

theorem references_put_push {id : SessionId} {old session : SessionState maxSubs maxInflight}
    {entry : InflightEntry} (present : registry.get id = some old)
    (added : session.inflight.items = old.inflight.items ++ [entry]) :
    references (registry.put id session) = entry.publish.ref ::ₘ references registry := by
  have exchanged := references_put present session
  have refs : sessionRefs session = sessionRefs old + {entry.publish.ref} := by
    simp [sessionRefs, added, ← Multiset.coe_add]
  rw [refs, ← add_assoc, add_right_comm] at exchanged
  rw [add_right_cancel exchanged, add_comm, Multiset.singleton_add]

theorem Consistent.delivery {codec : Codec} {message : Message} {now : Instant} {maxOutboxDrops : Nat}
    {before after : Fanout maxSessions maxSubs maxInflight} {id : SessionId} {qos : QoS}
    {error : Option PublishError} (consistent : Consistent before.registry)
    (delivery : Delivery codec message now maxOutboxDrops before id qos after error) :
    Consistent after.registry := by
  cases delivery with
  | absent => exact consistent
  | failed present => exact consistent.put present (by simp [SessionState.tags])
  | dropped present => exact consistent.put present (by simp [SessionState.tags, droppedSession])
  | queued present encoded pushed generation =>
    exact (consistent.put present (by simp [SessionState.tags, queuedSession])).congr rfl rfl
  | @tracked session bytes outbox inflight registry shared handle present qos1 encoded pushed acquired added =>
    have queuedConsistent : Consistent
        (before.registry.put id (queuedSession session .atLeastOnce outbox)) :=
      consistent.put present (by simp [SessionState.tags, queuedSession])
    have acquiredPresent : registry.get id = some (queuedSession session .atLeastOnce outbox) := by
      rw [acquired.same.get, SessionRegistry.get_put_self present]
    have appended := (Bounded.push_eq_some.mp added).2
    have exact := acquired.exact queuedConsistent.exact
    refine ⟨?_, ?_⟩
    · dsimp only
      rw [references_put_push acquiredPresent (by simpa [queuedSession] using appended),
        acquired.same.references]
      exact exact
    · intro other found stored entry member
      rw [SessionRegistry.get_put acquiredPresent] at stored
      split at stored
      · cases stored
        simp only [appended, List.mem_append, List.mem_singleton] at member
        rcases member with old | rfl
        · exact consistent.packetIds id session present entry old
        · rw [assignedId_of_ne (by decide)]
          exact ⟨SessionState.succPacketId_pos _, SessionState.succPacketId_lt _⟩
      · rw [acquired.same.get] at stored
        exact queuedConsistent.packetIds other found stored entry member

theorem Consistent.fanOut {codec : Codec} {message : Message} {now : Instant} {maxOutboxDrops : Nat}
    {fanout : Fanout maxSessions maxSubs maxInflight} (consistent : Consistent fanout.registry)
    (subscribers : List (SessionId × QoS)) :
    Consistent (fanOut codec message now maxOutboxDrops fanout subscribers).1.registry :=
  fanOut_induction (P := fun fanout => Consistent fanout.registry)
    (fun _ _ _ _ _ initial delivery => initial.delivery delivery) consistent subscribers

theorem Consistent.handlePublishAt {codec : Codec} {accepts : MqttIntent → Bool} {senderId : SessionId}
    {broker : Broker maxSessions maxSubs maxInflight maxRetained} {packet : Publish} {now : Instant}
    {maxViolations maxOutboxDrops : Nat} (consistent : Consistent broker.registry) :
    Consistent (handlePublishAt codec accepts senderId broker packet now maxViolations
      maxOutboxDrops).broker.registry := by
  have chargedConsistent {sender : SessionState maxSubs maxInflight}
      (present : broker.registry.get senderId = some sender) :
      Consistent (charged broker senderId sender now) :=
    consistent.put present (by simp [SessionState.tags])
  have delivered {sender : SessionState maxSubs maxInflight}
      (present : broker.registry.get senderId = some sender) :
      Consistent (routed codec broker senderId sender packet.message now maxOutboxDrops).1.registry :=
    Consistent.fanOut (chargedConsistent present) _
  have handled := handlePublishAt_spec codec accepts senderId broker packet now maxViolations maxOutboxDrops
  generalize PicoBroker.handlePublishAt codec accepts senderId broker packet now maxViolations
    maxOutboxDrops = outcome at handled ⊢
  cases handled with
  | absent => exact consistent
  | limited present => exact chargedConsistent present
  | unretained present => exact chargedConsistent present
  | aborted present _ _ failed => simpa [failed] using delivered present
  | completed present _ _ completed => simpa [completed] using delivered present

theorem Consistent.processOutboundPublish {codec : Codec}
    {broker : Broker maxSessions maxSubs maxInflight maxRetained} {publish : MqttPublish} {now : Instant}
    (consistent : Consistent broker.registry) :
    Consistent (processOutboundPublish codec broker publish now).1.registry := by
  unfold PicoBroker.processOutboundPublish
  split
  · exact consistent
  · exact consistent.fanOut _

theorem pool_releaseStoredPublish (handle : StoredPublishHandle) :
    pool (registry.releaseStoredPublish handle) = Counted.release (pool registry) handle.ref := by
  simp only [SessionRegistry.releaseStoredPublish, Counted.release]
  cases found : registry.storedPublish handle with
  | none =>
    dsimp only
    cases cell : pool registry handle.ref.index with
    | none => rfl
    | some cell' =>
      dsimp only
      split
      · next current =>
        obtain ⟨stored, present, _⟩ := storedPublish_iff_pool cell current
        rw [found] at present
        cases present
      · rfl
  | some stored =>
    obtain ⟨present, current⟩ := SessionRegistry.storedPublish_eq_some.mp found
    have cell : pool registry handle.ref.index = some stored.cell := by
      simp [pool, StoredPublishHandle.ref, present]
    have inside := Slots.lt_of_get present
    simp only [cell]
    rw [if_pos (show stored.cell.generation = handle.ref.generation from current)]
    by_cases last : stored.refcount - 1 = 0
    · simp only [last, if_true, pool_putStored inside, StoredPublish.cell]
      rfl
    · simp only [last, if_false, pool_putStored inside, StoredPublish.cell]
      rfl

theorem pool_releaseAll (entries : List InflightEntry) :
    pool (registry.releaseAll entries) =
      Counted.releaseAll (pool registry) (entries.map fun entry => entry.publish.ref) := by
  induction entries generalizing registry with
  | nil => rfl
  | cons entry rest ih =>
    have step : registry.releaseAll (entry :: rest) =
        (registry.releaseStoredPublish entry.publish).releaseAll rest := rfl
    rw [step, ih, pool_releaseStoredPublish]
    rfl

theorem Consistent.acknowledge (consistent : Consistent registry) (id : SessionId) (packetId : Nat) :
    Consistent (acknowledge registry id packetId) := by
  unfold PicoBroker.acknowledge
  split
  · exact consistent
  · next session present =>
    cases removed : handlePuback session packetId with
    | none => exact consistent
    | some pair =>
      rcases pair with ⟨handle, _⟩
      obtain ⟨⟨entry, left⟩, found, same⟩ := Option.map_eq_some_iff.mp removed
      obtain ⟨rfl, rfl⟩ := Prod.mk.inj same
      obtain ⟨before, after, split, _, kept, _⟩ := SessionState.inflightRemove_eq_some found
      have exchanged := references_put present left
      have refs : sessionRefs session = entry.publish.ref ::ₘ sessionRefs left := by
        simp [sessionRefs, split, kept]
      rw [refs, ← Multiset.singleton_add, ← add_assoc] at exchanged
      have held : references registry = entry.publish.ref ::ₘ references (registry.put id left) := by
        rw [← add_right_cancel exchanged, add_comm, Multiset.singleton_add]
      have same : (registry.put id left).SameSessions _ :=
        SessionRegistry.releaseStoredPublish_same entry.publish
      refine ⟨?_, ?_⟩
      · rw [pool_releaseStoredPublish, same.references]
        apply Counted.Exact.release
        rw [← held]
        exact consistent.exact
      · intro other stored present' member memberOf
        rw [same.get, SessionRegistry.get_put present] at present'
        split at present'
        · cases present'
          apply consistent.packetIds id session present member
          rw [split]
          rw [kept] at memberOf
          simp only [List.mem_append, List.mem_cons] at memberOf ⊢
          tauto
        · exact consistent.packetIds other stored present' member memberOf

theorem references_vacated {id : SessionId} {session : SessionState maxSubs maxInflight}
    (present : registry.get id = some session) :
    references registry =
      sessionRefs session + references { registry with slots := registry.slots.set id none } := by
  have exchanged := registry.slots.collect_set sessionRefs none (Slots.lt_of_get present)
  have stored : registry.slots.get id = some session := present
  simpa [references, stored, add_comm] using exchanged.symm

theorem Consistent.remove (consistent : Consistent registry) (id : SessionId) :
    Consistent (registry.remove id).2 := by
  refine ⟨?_, ?_⟩
  · unfold SessionRegistry.remove
    split
    · exact consistent.exact
    · next removed present =>
      let emptied := { registry with slots := registry.slots.set id none }
      have same : emptied.SameSessions _ := SessionRegistry.releaseAll_same removed.inflight.items
      rw [pool_releaseAll, same.references]
      apply Counted.Exact.releaseAll
      have exact := consistent.exact
      rw [references_vacated present] at exact
      exact exact
  · intro other session present
    rw [SessionRegistry.get_remove] at present
    split at present
    · cases present
    · exact consistent.packetIds other session present

theorem Consistent.insert (consistent : Consistent registry) {state : SessionState maxSubs maxInflight}
    {id : SessionId} (idle : state.inflight.items = []) (free : registry.slots.firstFree = some id) :
    Consistent { registry with slots := registry.slots.set id (some state) } := by
  obtain ⟨inside, empty, _⟩ := Slots.firstFree_eq_some.mp free
  have refs : references { registry with slots := registry.slots.set id (some state) } =
      references registry := by
    have exchanged := registry.slots.collect_set sessionRefs (some state) inside
    simpa [empty, references, sessionRefs, idle] using exchanged
  refine ⟨?_, ?_⟩
  · rw [refs]
    exact consistent.exact
  · intro other session present entry member
    simp only [SessionRegistry.get, Slots.get_set, inside, and_true] at present
    split at present
    · cases present
      simp [idle] at member
    · exact consistent.packetIds other session present entry member

theorem Consistent.displace (consistent : Consistent registry) (clientId : Bytes) :
    Consistent (displace registry clientId).2 := by
  unfold PicoBroker.displace
  split
  · exact consistent
  · exact consistent.remove _

theorem Consistent.admission {after : SessionRegistry maxSessions maxSubs maxInflight} {packet : Connect}
    {houseToken : HouseToken} {result : Except ConnectError PreparedConnect}
    (consistent : Consistent registry) (admission : Admission registry packet houseToken after result) :
    Consistent after := by
  have idle {state : SessionState maxSubs maxInflight} (valid : freshState packet = .ok state) :
      state.inflight.items = [] := by
    obtain ⟨clientId, lwt, _, _, rfl⟩ := freshState_ok valid
    rfl
  have displaced := consistent.displace packet.clientId
  cases admission with
  | refused => exact consistent
  | badWill => exact consistent
  | resumed _ _ present => exact consistent.put present rfl
  | unavailable => exact consistent
  | invalid => exact displaced
  | unrecorded _ _ free valid => exact displaced.insert (idle valid) free
  | created _ _ free valid => exact (displaced.insert (idle valid) free).congr rfl rfl

theorem Consistent.retried {after : SessionRegistry maxSessions maxSubs maxInflight} {id : SessionId}
    (consistent : Consistent registry) (retried : Retried registry after id) : Consistent after := by
  cases found : registry.get id with
  | none =>
    have same : ∀ other, after.get other = registry.get other := by
      intro other
      by_cases here : other = id
      · rw [here, retried.absent found, found]
      · exact retried.others other here
    exact consistent.congr (Slots.ext_get same) retried.storedPublishes
  | some session =>
    obtain ⟨inflight, present, sameTags⟩ := retried.present session found
    have same : ∀ other, after.get other =
        (registry.put id { session with inflight := inflight }).get other := by
      intro other
      rw [SessionRegistry.get_put found]
      split
      · next here => rw [here, present]
      · next different => exact retried.others other different
    exact (consistent.put found sameTags).congr (Slots.ext_get same) retried.storedPublishes

theorem Consistent.holds {id : SessionId} {tag : Nat × StoredPublishHandle}
    (consistent : Consistent registry) (held : Holds registry id tag) :
    0 < tag.1 ∧ tag.1 < 65536 ∧ ∃ stored, registry.storedPublish tag.2 = some stored := by
  obtain ⟨session, present, member⟩ := held
  obtain ⟨entry, inFlight, rfl⟩ := List.mem_map.mp member
  obtain ⟨positive, bounded⟩ := consistent.packetIds id session present entry inFlight
  have referenced : entry.publish.ref ∈ references registry :=
    Slots.mem_collect.mpr ⟨id, session, present,
      Multiset.mem_coe.mpr (List.mem_map.mpr ⟨entry, inFlight, rfl⟩)⟩
  obtain ⟨cell, found, current⟩ := consistent.exact.resolved _ referenced
  obtain ⟨stored, resolved, _⟩ := storedPublish_iff_pool found current
  exact ⟨positive, bounded, stored, resolved⟩

end PicoBroker
