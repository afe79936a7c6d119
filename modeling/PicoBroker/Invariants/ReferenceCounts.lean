import Mathlib.Algebra.GroupWithZero.Nat
import PicoBroker.Broker.Operations
import PicoBroker.Invariants.References

set_option autoImplicit false

namespace PicoBroker

variable {maxSessions maxSubs maxInflight maxRetained : Nat}

theorem Consistent.updateSession {registry : SessionRegistry maxSessions maxSubs maxInflight}
    (consistent : Consistent registry) (id : SessionId)
    {f : SessionState maxSubs maxInflight → SessionState maxSubs maxInflight}
    (keeps : ∀ session, (f session).inflight = session.inflight) :
    Consistent (updateSession registry id f) := by
  unfold PicoBroker.updateSession
  split
  · exact consistent
  · next session present => exact consistent.put present (by simp [SessionState.tags, keeps])

theorem Consistent.apply {codec : Codec} {registry : SessionRegistry maxSessions maxSubs maxInflight}
    (consistent : Consistent registry) (operation : Operation maxSessions maxRetained) :
    Consistent (operation.apply codec registry) := by
  cases operation with
  | connect packet houseToken => exact consistent.admission (prepareConnect_spec _ _ _)
  | publish => exact Consistent.handlePublishAt consistent
  | outbound => exact Consistent.processOutboundPublish consistent
  | puback id packetId => exact consistent.acknowledge id packetId
  | retries => exact consistent.retried (processInflightRetriesAt_spec ..).retried
  | remove id => exact consistent.remove id
  | subscribe id => exact consistent.updateSession id fun _ => rfl
  | unsubscribe id => exact consistent.updateSession id fun _ => rfl
  | flush id => exact consistent.updateSession id fun _ => rfl

theorem consistent_applyAll (codec : Codec) (operations : List (Operation maxSessions maxRetained)) :
    Consistent (Operation.applyAll codec operations : SessionRegistry maxSessions maxSubs maxInflight) := by
  have fromConsistent {registry : SessionRegistry maxSessions maxSubs maxInflight}
      (consistent : Consistent registry) :
      Consistent (operations.foldl (Operation.apply codec) registry) := by
    induction operations generalizing registry with
    | nil => exact consistent
    | cons operation rest ih => exact ih (consistent.apply operation)
  exact fromConsistent consistent_new

def holders (registry : SessionRegistry maxSessions maxSubs maxInflight) (handle : StoredPublishHandle) :
    Nat :=
  (registry.iter.map fun entry =>
    entry.2.inflight.items.countP fun entry => entry.publish = handle).sum

structure ReferencesExact (codec : Codec) (registry : SessionRegistry maxSessions maxSubs maxInflight) :
    Prop where
  counted : ∀ slot stored, registry.storedPublishes.get slot = some stored →
    1 ≤ stored.refcount ∧ stored.refcount = holders registry ⟨slot, stored.generation⟩
  resolved : ∀ id session, registry.get id = some session → ∀ entry ∈ session.inflight.items,
    entry.packetId ≠ 0 ∧ (registry.storedPublish entry.publish).isSome
  retries : ∀ id maxPacketSize retryMs maxRetries now answers packetId,
    let outcome := processInflightRetriesAt codec maxPacketSize id registry retryMs maxRetries now answers
    outcome.result ≠ .error (.missingStoredPublish packetId) ∧
      outcome.result ≠ .error (.invalidPacketId packetId)
  noLeak : (∀ id session, registry.get id = some session → session.inflight.items = []) →
    ∀ slot, registry.storedPublishes.get slot = none

variable {registry : SessionRegistry maxSessions maxSubs maxInflight}

theorem count_references (handle : StoredPublishHandle) :
    (references registry).count handle.ref = holders registry handle := by
  have perSession (session : SessionState maxSubs maxInflight) :
      (sessionRefs session).count handle.ref =
        session.inflight.items.countP fun entry => entry.publish = handle := by
    rw [sessionRefs, Multiset.coe_count, List.count, List.countP_map]
    congr 1
    funext entry
    simp [beq_eq_decide, handle_ref_injective.eq_iff]
  rw [references, Slots.collect_eq_occupied, holders, SessionRegistry.iter]
  rw [← Multiset.coe_countAddMonoidHom, map_list_sum, List.map_map]
  congr 1
  apply List.map_congr_left
  intro entry _
  exact perSession entry.2

theorem Consistent.noLeak (consistent : Consistent registry)
    (idle : ∀ id session, registry.get id = some session → session.inflight.items = []) (slot : Nat) :
    registry.storedPublishes.get slot = none := by
  have noRefs : references registry = 0 := by
    apply Multiset.eq_zero_of_forall_notMem
    intro ref member
    obtain ⟨id, session, present, belongs⟩ := Slots.mem_collect.mp member
    simp [sessionRefs, idle id session present] at belongs
  have exact := consistent.exact
  rw [noRefs] at exact
  simpa [pool] using exact.empty_of_no_refs slot

theorem Consistent.referencesExact (codec : Codec) (consistent : Consistent registry) :
    ReferencesExact codec registry where
  counted slot stored present := by
    have cell : pool registry slot = some stored.cell := by simp [pool, present]
    have counted := consistent.exact.counted slot _ cell
    rw [← count_references]
    exact ⟨consistent.exact.positive slot _ cell, counted⟩
  resolved id session present entry member := by
    obtain ⟨positive, _, stored, found⟩ := consistent.holds
      ⟨session, present, List.mem_map.mpr ⟨entry, member, rfl⟩⟩
    exact ⟨Nat.ne_of_gt positive, by simp [found]⟩
  retries id maxPacketSize retryMs maxRetries now answers packetId := by
    have spec := processInflightRetriesAt_spec codec maxPacketSize id registry retryMs maxRetries now answers
    constructor
    · intro failed
      obtain ⟨handle, held, missing⟩ := spec.missing packetId failed
      obtain ⟨_, _, stored, found⟩ := consistent.holds held
      rw [missing] at found
      cases found
    · intro failed
      obtain ⟨⟨handle, held⟩, unconverted⟩ := spec.invalid packetId failed
      obtain ⟨positive, bounded, _⟩ := consistent.holds held
      rw [Pid.tryFrom_eq_none bounded] at unconverted
      omega
  noLeak := consistent.noLeak

theorem storedPublish_references_exact (codec : Codec)
    (operations : List (Operation maxSessions maxRetained)) :
    ReferencesExact codec
      (Operation.applyAll codec operations : SessionRegistry maxSessions maxSubs maxInflight) :=
  (consistent_applyAll codec operations).referencesExact codec

end PicoBroker
