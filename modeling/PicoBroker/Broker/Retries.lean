import PicoBroker.Broker.Publish

set_option autoImplicit false

namespace PicoBroker

variable {maxSessions maxSubs maxInflight : Nat}

def SessionState.tags (session : SessionState maxSubs maxInflight) : List (Nat × StoredPublishHandle) :=
  session.inflight.items.map fun entry => (entry.packetId, entry.publish)

structure Retried (before after : SessionRegistry maxSessions maxSubs maxInflight) (id : SessionId) :
    Prop where
  others : ∀ other, other ≠ id → after.get other = before.get other
  absent : before.get id = none → after.get id = none
  present : ∀ session, before.get id = some session →
    ∃ inflight, after.get id = some { session with inflight := inflight } ∧
      ({ session with inflight := inflight } : SessionState maxSubs maxInflight).tags = session.tags
  publishedLwts : after.publishedLwts = before.publishedLwts
  storedPublishes : after.storedPublishes = before.storedPublishes

theorem Retried.refl (registry : SessionRegistry maxSessions maxSubs maxInflight) (id : SessionId) :
    Retried registry registry id :=
  ⟨fun _ _ => rfl, fun absent => absent, fun session present => ⟨session.inflight, present, rfl⟩, rfl, rfl⟩

theorem Retried.trans {first second third : SessionRegistry maxSessions maxSubs maxInflight}
    {id : SessionId} (left : Retried first second id) (right : Retried second third id) :
    Retried first third id where
  others other different := (right.others other different).trans (left.others other different)
  absent missing := right.absent (left.absent missing)
  present session found := by
    obtain ⟨_, middle, sameLeft⟩ := left.present session found
    obtain ⟨inflight, last, sameRight⟩ := right.present _ middle
    exact ⟨inflight, last, sameRight.trans sameLeft⟩
  publishedLwts := right.publishedLwts.trans left.publishedLwts
  storedPublishes := right.storedPublishes.trans left.storedPublishes

theorem tags_modify {session : SessionState maxSubs maxInflight} {index : Nat}
    {f : InflightEntry → InflightEntry}
    (keeps : ∀ entry, (f entry).packetId = entry.packetId ∧ (f entry).publish = entry.publish) :
    ({ session with inflight := session.inflight.modify index f } :
      SessionState maxSubs maxInflight).tags = session.tags := by
  simp only [SessionState.tags, Bounded.modify_items]
  apply List.ext_getElem?
  intro position
  rw [List.getElem?_map, List.getElem?_map, List.getElem?_modify]
  cases session.inflight.items[position]? with
  | none => rfl
  | some entry =>
    by_cases here : index = position
    · simp [here, keeps entry]
    · simp [here]

theorem modifyEntry_retried (registry : SessionRegistry maxSessions maxSubs maxInflight) (id : SessionId)
    (index : Nat) {f : InflightEntry → InflightEntry}
    (keeps : ∀ entry, (f entry).packetId = entry.packetId ∧ (f entry).publish = entry.publish) :
    Retried registry (modifyEntry registry id index f) id := by
  unfold modifyEntry
  split
  · exact .refl registry id
  · next session found =>
    refine ⟨?_, ?_, ?_, rfl, rfl⟩
    · intro other different
      exact SessionRegistry.get_put_ne _ different
    · intro missing
      rw [found] at missing
      cases missing
    · intro old present
      rw [found] at present
      cases present
      exact ⟨_, SessionRegistry.get_put_self found _, tags_modify keeps⟩

def Holds (registry : SessionRegistry maxSessions maxSubs maxInflight) (id : SessionId)
    (tag : Nat × StoredPublishHandle) : Prop :=
  ∃ session, registry.get id = some session ∧ tag ∈ session.tags

theorem Retried.holds {before after : SessionRegistry maxSessions maxSubs maxInflight} {id : SessionId}
    (retried : Retried before after id) {tag : Nat × StoredPublishHandle} (held : Holds after id tag) :
    Holds before id tag := by
  obtain ⟨session, present, member⟩ := held
  cases found : before.get id with
  | none =>
    rw [retried.absent found] at present
    cases present
  | some old =>
    obtain ⟨_, kept, same⟩ := retried.present old found
    rw [kept] at present
    cases present
    exact ⟨old, found, same ▸ member⟩

structure RetrySpec (registry : SessionRegistry maxSessions maxSubs maxInflight) (id : SessionId)
    (outcome : RetryOutcome maxSessions maxSubs maxInflight) : Prop where
  retried : Retried registry outcome.registry id
  written : ∀ publish ∈ outcome.written, ∃ pid handle stored,
    Holds registry id (pid.value, handle) ∧ registry.storedPublish handle = some stored ∧
      publish = retryPacket pid stored
  missing : ∀ packetId, outcome.result = .error (.missingStoredPublish packetId) →
    ∃ handle, Holds registry id (packetId, handle) ∧ registry.storedPublish handle = none
  invalid : ∀ packetId, outcome.result = .error (.invalidPacketId packetId) →
    (∃ handle, Holds registry id (packetId, handle)) ∧ Pid.tryFrom packetId = none

theorem Retried.storedPublish {before after : SessionRegistry maxSessions maxSubs maxInflight}
    {id : SessionId} (retried : Retried before after id) (handle : StoredPublishHandle) :
    after.storedPublish handle = before.storedPublish handle := by
  simp [SessionRegistry.storedPublish, retried.storedPublishes]

theorem retransmit_spec (codec : Codec) (maxPacketSize : Nat)
    (registry : SessionRegistry maxSessions maxSubs maxInflight) (id : SessionId) (index : Nat)
    (entry : InflightEntry) (maxRetries : Nat) (now : Instant) (accepted : Bool)
    (held : Holds registry id (entry.packetId, entry.publish)) :
    RetrySpec registry id (retransmit codec maxPacketSize registry id index entry maxRetries now accepted) := by
  simp only [retransmit]
  generalize saturatingAddU8 entry.retries 1 = retries
  have counted := modifyEntry_retried registry id index
    (f := fun entry => { entry with retries := retries }) (fun _ => ⟨rfl, rfl⟩)
  generalize modifyEntry registry id index (fun entry => { entry with retries := retries }) = marked at counted ⊢
  split
  · exact ⟨counted, by simp, by simp, by simp⟩
  · cases converted : Pid.tryFrom entry.packetId with
    | none =>
      refine ⟨counted, by simp, by simp, ?_⟩
      rintro packetId ⟨⟩
      exact ⟨⟨entry.publish, held⟩, converted⟩
    | some pid =>
      have sameId := Pid.tryFrom_eq_some converted
      cases found : marked.storedPublish entry.publish with
      | none =>
        refine ⟨counted, by simp, ?_, by simp⟩
        rintro packetId ⟨⟩
        exact ⟨entry.publish, held, by rw [← counted.storedPublish, found]⟩
      | some stored =>
        have source : ∃ pid' handle stored', Holds registry id (pid'.value, handle) ∧
            registry.storedPublish handle = some stored' ∧
            retryPacket pid stored = retryPacket pid' stored' :=
          ⟨pid, entry.publish, stored, by rwa [sameId], by rw [← counted.storedPublish, found], rfl⟩
        dsimp only
        split
        · exact ⟨counted, by simp, by simp, by simp⟩
        · split
          · refine ⟨counted.trans (modifyEntry_retried _ _ _ ?_), by simpa using source, by simp, by simp⟩
            intro other
            split <;> exact ⟨rfl, rfl⟩
          · exact ⟨counted, by simpa using source, by simp, by simp⟩

theorem RetrySpec.after {registry marked : SessionRegistry maxSessions maxSubs maxInflight}
    {id : SessionId} {outcome : RetryOutcome maxSessions maxSubs maxInflight}
    (retried : Retried registry marked id) (spec : RetrySpec marked id outcome) :
    RetrySpec registry id outcome where
  retried := retried.trans spec.retried
  written publish member := by
    obtain ⟨pid, handle, stored, held, found, same⟩ := spec.written publish member
    exact ⟨pid, handle, stored, retried.holds held, by rw [← retried.storedPublish, found], same⟩
  missing packetId failed := by
    obtain ⟨handle, held, found⟩ := spec.missing packetId failed
    exact ⟨handle, retried.holds held, by rw [← retried.storedPublish, found]⟩
  invalid packetId failed := by
    obtain ⟨⟨handle, held⟩, converted⟩ := spec.invalid packetId failed
    exact ⟨⟨handle, retried.holds held⟩, converted⟩

theorem retryLoop_spec (codec : Codec) (maxPacketSize : Nat) (id : SessionId) (timeout : Duration)
    (maxRetries : Nat) (now : Instant) (registry : SessionRegistry maxSessions maxSubs maxInflight)
    (answers : List Bool) (indices : List Nat) :
    RetrySpec registry id
      (retryLoop codec maxPacketSize id timeout maxRetries now registry answers indices) := by
  induction indices generalizing registry answers with
  | nil => exact ⟨.refl registry id, by simp [retryLoop], by simp [retryLoop], by simp [retryLoop]⟩
  | cons index rest ih =>
    simp only [retryLoop]
    split
    · exact ih registry answers
    · next entry located =>
      split
      · obtain ⟨session, present, member⟩ := Option.bind_eq_some_iff.mp located
        have held : Holds registry id (entry.packetId, entry.publish) :=
          ⟨session, present, List.mem_map.mpr ⟨entry, List.mem_of_getElem? member, rfl⟩⟩
        have sent := retransmit_spec codec maxPacketSize registry id index entry maxRetries now
          (answers.headD true) held
        generalize retransmit codec maxPacketSize registry id index entry maxRetries now
          (answers.headD true) = outcome at sent ⊢
        split
        · exact sent
        · have later := (ih outcome.registry answers.tail).after sent.retried
          refine ⟨later.retried, ?_, later.missing, later.invalid⟩
          intro publish written
          rcases List.mem_append.mp written with now | afterwards
          · exact sent.written publish now
          · exact later.written publish afterwards
      · exact ih registry answers

theorem processInflightRetriesAt_spec (codec : Codec) (maxPacketSize : Nat) (id : SessionId)
    (registry : SessionRegistry maxSessions maxSubs maxInflight) (retryMs maxRetries : Nat)
    (now : Instant) (answers : List Bool) :
    RetrySpec registry id
      (processInflightRetriesAt codec maxPacketSize id registry retryMs maxRetries now answers) :=
  retryLoop_spec ..

end PicoBroker
