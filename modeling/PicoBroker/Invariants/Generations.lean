import PicoBroker.Broker.Renaming
import PicoBroker.Invariants.ReferenceCounts

set_option autoImplicit false

namespace PicoBroker

variable {maxSessions maxSubs maxInflight maxRetained : Nat}

def SessionRegistry.zeroed : SessionRegistry maxSessions maxSubs maxInflight := ⟨.empty, .empty, .empty, 0⟩

def Reply.rename (relabel : Nat → Nat) :
    Reply maxSessions maxSubs maxInflight maxRetained → Reply maxSessions maxSubs maxInflight maxRetained
  | .acknowledged publish => .acknowledged (publish.map (StoredPublishHandle.rename relabel))
  | .removed session => .removed (session.map (SessionState.rename relabel))
  | reply => reply

section

variable {registry : SessionRegistry maxSessions maxSubs maxInflight}

theorem releasable_of_exact {entries : List InflightEntry} {refs : Multiset Counted.Ref}
    (exact : Counted.Exact (pool registry)
      ((entries.map fun entry => entry.publish.ref : List Counted.Ref) + refs)) :
    Releasable registry entries := by
  induction entries generalizing registry with
  | nil => trivial
  | cons entry rest ih =>
    have split : Counted.Exact (pool registry) (entry.publish.ref ::ₘ
        ((rest.map fun entry => entry.publish.ref : List Counted.Ref) + refs)) := by
      simpa [← Multiset.cons_coe] using exact
    obtain ⟨cell, found, current⟩ := split.resolved _ (Multiset.mem_cons_self _ _)
    obtain ⟨stored, resolved, _⟩ := storedPublish_iff_pool found current
    refine ⟨⟨stored, resolved⟩, ih ?_⟩
    rw [pool_releaseStoredPublish]
    exact split.release

theorem Consistent.linked (consistent : Consistent registry) : Linked registry where
  resolved id session present entry member := by
    obtain ⟨_, _, resolved⟩ := consistent.holds
      ⟨session, present, List.mem_map.mpr ⟨entry, member, rfl⟩⟩
    exact resolved
  releasable id session present := by
    have exact := consistent.exact
    rw [references_vacated present] at exact
    exact releasable_of_exact exact

theorem updateSession_rename (relabel : Nat → Nat) (id : SessionId)
    {f : SessionState maxSubs maxInflight → SessionState maxSubs maxInflight}
    (blind : ∀ session, f (session.rename relabel) = (f session).rename relabel) :
    updateSession (registry.rename relabel) id f = (updateSession registry id f).rename relabel := by
  simp only [updateSession, get_rename]
  cases registry.get id with
  | none => rfl
  | some session => simp only [Option.map_some, blind, put_rename]

variable {relabel : Nat → Nat} (counted : ∀ generation,
  relabel (SessionRegistry.succGeneration generation) = SessionRegistry.succGeneration (relabel generation))

include counted in
theorem Operation.apply_rename (codec : Codec) (linked : Linked registry)
    (operation : Operation maxSessions maxRetained) :
    operation.apply codec (registry.rename relabel) = (operation.apply codec registry).rename relabel := by
  cases operation with
  | connect packet houseToken =>
    exact congrArg Prod.fst (prepareConnect_rename relabel linked packet houseToken)
  | publish senderId retained signals accepts packet now =>
    exact congrArg (·.broker.registry) (handlePublishAt_rename counted codec accepts senderId
      ⟨registry, retained, signals⟩ packet now _ _)
  | outbound retained signals message now =>
    exact congrArg (·.1.registry) (processOutboundPublish_rename counted codec ⟨registry, retained, signals⟩ message now)
  | puback id packetId => exact acknowledge_rename relabel linked id packetId
  | retries id maxPacketSize retryMs maxRetries now answers =>
    exact congrArg (·.registry) (processInflightRetriesAt_rename relabel linked codec maxPacketSize id retryMs
      maxRetries now answers)
  | remove id => exact congrArg Prod.snd (remove_rename relabel linked id)
  | subscribe id packet retained => exact updateSession_rename relabel id fun _ => rfl
  | unsubscribe id packet => exact updateSession_rename relabel id fun _ => rfl
  | flush id => exact updateSession_rename relabel id fun _ => rfl

include counted in
theorem Operation.reply_rename (codec : Codec) (linked : Linked registry)
    (operation : Operation maxSessions maxRetained) :
    operation.reply codec (registry.rename relabel) = (operation.reply codec registry).rename relabel := by
  cases operation with
  | connect packet houseToken =>
    exact congrArg (fun prepared => Reply.connected prepared.2) (prepareConnect_rename relabel linked packet houseToken)
  | publish senderId retained signals accepts packet now =>
    have handled := handlePublishAt_rename counted codec accepts senderId ⟨registry, retained, signals⟩ packet now
      gatomqttConfig.maxViolations gatomqttConfig.maxOutboxDrops
    exact congrArg (fun outcome => Reply.published outcome.broker.retained outcome.broker.signals outcome.intent
      outcome.result) handled
  | outbound retained signals message now =>
    have routed := processOutboundPublish_rename counted codec ⟨registry, retained, signals⟩ message now
    exact congrArg (fun outcome => Reply.routed outcome.1.retained outcome.1.signals outcome.2) routed
  | puback id packetId =>
    simp only [Operation.reply, Reply.rename, get_rename]
    cases registry.get id with
    | none => rfl
    | some session =>
      simp only [Option.map_some, Option.bind_some, handlePuback_rename]
      cases handlePuback session packetId <;> rfl
  | retries id maxPacketSize retryMs maxRetries now answers =>
    have retried := processInflightRetriesAt_rename relabel linked codec maxPacketSize id retryMs maxRetries now answers
    exact congrArg (fun outcome => Reply.retried outcome.written outcome.result) retried
  | remove id => exact congrArg (fun removed => Reply.removed removed.1) (remove_rename relabel linked id)
  | subscribe id packet retained =>
    simp only [Operation.reply, Reply.rename, get_rename]
    cases registry.get id <;> rfl
  | unsubscribe | flush => rfl

-- Two steps that differ in generation numbers only.
structure Renamed (relabel : Nat → Nat)
    (left right : Reply maxSessions maxSubs maxInflight maxRetained × SessionRegistry maxSessions maxSubs maxInflight) :
    Prop where
  reply : right.1 = left.1.rename relabel
  registry : right.2 = left.2.rename relabel
  resolved : ∀ id session, left.2.get id = some session → ∀ entry ∈ session.inflight.items,
    ∃ stored, left.2.storedPublish entry.publish = some stored ∧
      right.2.storedPublish (entry.publish.rename relabel) = some (stored.rename relabel)
  distinct : ∀ id session other state, left.2.get id = some session → left.2.get other = some state →
    ∀ entry ∈ session.inflight.items, ∀ held ∈ state.inflight.items,
      entry.publish.rename relabel = held.publish.rename relabel → entry.publish = held.publish

theorem Linked.distinct (linked : Linked registry) {id other : SessionId} {session state : SessionState maxSubs maxInflight}
    (present : registry.get id = some session) (found : registry.get other = some state) {entry held : InflightEntry}
    (member : entry ∈ session.inflight.items) (holds : held ∈ state.inflight.items)
    (same : entry.publish.slot = held.publish.slot) : entry.publish = held.publish := by
  obtain ⟨stored, resolved⟩ := linked.resolved id session present entry member
  obtain ⟨theirs, theirsResolved⟩ := linked.resolved other state found held holds
  obtain ⟨storedAt, current⟩ := SessionRegistry.storedPublish_eq_some.mp resolved
  obtain ⟨theirsAt, theirsCurrent⟩ := SessionRegistry.storedPublish_eq_some.mp theirsResolved
  rw [same, theirsAt] at storedAt
  cases storedAt
  cases entryHandle : entry.publish
  cases heldHandle : held.publish
  simp_all

include counted in
theorem renamed_trace (codec : Codec) (consistent : Consistent registry)
    (operations : List (Operation maxSessions maxRetained)) :
    List.Forall₂ (Renamed relabel) (Operation.trace codec registry operations)
      (Operation.trace codec (registry.rename relabel) operations) := by
  induction operations generalizing registry with
  | nil => exact .nil
  | cons operation rest ih =>
    have later : Consistent (operation.apply codec registry) := consistent.apply operation
    have applied := Operation.apply_rename counted codec consistent.linked operation
    simp only [Operation.trace, applied]
    refine .cons ⟨Operation.reply_rename counted codec consistent.linked operation, rfl, ?_, ?_⟩ (ih later)
    · intro id session present entry member
      obtain ⟨stored, resolved⟩ := later.linked.resolved id session present entry member
      exact ⟨stored, resolved, storedPublish_rename relabel _ resolved⟩
    · intro id session other state present found entry member held holds same
      exact later.linked.distinct present found member holds (congrArg (·.slot) same)

end

theorem rename_zeroed : (SessionRegistry.zeroed : SessionRegistry maxSessions maxSubs maxInflight).rename
    SessionRegistry.succGeneration = .new := by
  simp only [SessionRegistry.zeroed, SessionRegistry.rename, Slots.empty_map]
  rfl

theorem consistent_zeroed : Consistent (SessionRegistry.zeroed : SessionRegistry maxSessions maxSubs maxInflight) :=
  consistent_new.congr rfl rfl

theorem zeroed_trace_renamed (codec : Codec) (operations : List (Operation maxSessions maxRetained)) :
    List.Forall₂ (Renamed SessionRegistry.succGeneration)
      (Operation.trace codec (.zeroed : SessionRegistry maxSessions maxSubs maxInflight) operations)
      (Operation.trace codec .new operations) := by
  have renamed := renamed_trace (fun _ => rfl) codec
    (consistent_zeroed : Consistent (.zeroed : SessionRegistry maxSessions maxSubs maxInflight)) operations
  rwa [rename_zeroed] at renamed

end PicoBroker
