import PicoBroker.Broker.Steps

set_option autoImplicit false

namespace PicoBroker

variable {maxSessions maxSubs maxInflight maxRetained : Nat}

def SessionState.Full (session : SessionState maxSubs maxInflight) : Prop :=
  session.outbox.items.length = maxOutboxDepth

instance (session : SessionState maxSubs maxInflight) : Decidable session.Full :=
  inferInstanceAs (Decidable (_ = _))

structure Steady (old new : SessionState maxSubs maxInflight) : Prop where
  rate : new.rate = old.rate
  outboxDrops : new.outboxDrops = old.outboxDrops
  quarantined : new.quarantined = old.quarantined

theorem Steady.refl (session : SessionState maxSubs maxInflight) : Steady session session := ⟨rfl, rfl, rfl⟩

theorem Steady.numbered (session : SessionState maxSubs maxInflight) (qos : QoS) :
    Steady session (numbered session qos) := by
  rw [numbered_eq]
  exact ⟨rfl, rfl, rfl⟩

theorem Steady.queued (session : SessionState maxSubs maxInflight) (qos : QoS)
    (outbox : Bounded OutboundPacket maxOutboxDepth) : Steady session (queuedSession session qos outbox) :=
  have numbered := Steady.numbered session qos
  ⟨numbered.rate, numbered.outboxDrops, numbered.quarantined⟩

structure DropCounted (maxOutboxDrops : Nat) (dropped : Prop) (old new : SessionState maxSubs maxInflight) :
    Prop where
  rate : new.rate = old.rate
  hit : dropped → new.outboxDrops = saturatingAddU8 old.outboxDrops 1 ∧
    new.quarantined = (old.quarantined || decide (saturatingAddU8 old.outboxDrops 1 ≥ maxOutboxDrops))
  spared : ¬ dropped → new.outboxDrops = old.outboxDrops ∧ new.quarantined = old.quarantined

theorem Steady.counted {maxOutboxDrops : Nat} {dropped : Prop} {old new : SessionState maxSubs maxInflight}
    (steady : Steady old new) (spared : ¬ dropped) : DropCounted maxOutboxDrops dropped old new :=
  ⟨steady.rate, fun hit => absurd hit spared, fun _ => ⟨steady.outboxDrops, steady.quarantined⟩⟩

theorem DropCounted.congr {maxOutboxDrops : Nat} {dropped other : Prop} {old new : SessionState maxSubs maxInflight}
    (counted : DropCounted maxOutboxDrops dropped old new) (same : other ↔ dropped) :
    DropCounted maxOutboxDrops other old new := by
  rwa [propext same]

section

variable {codec : Codec} {message : Message} {now : Instant} {maxOutboxDrops : Nat}

theorem Delivery.offered_ne {before after : Fanout maxSessions maxSubs maxInflight} {id other : SessionId}
    {qos : QoS} {error : Option PublishError}
    (delivery : Delivery codec message now maxOutboxDrops before id qos after error) (different : other ≠ id) :
    other ∈ after.offered ↔ other ∈ before.offered := by
  cases delivery <;> simp [different]

theorem Delivery.counted {before after : Fanout maxSessions maxSubs maxInflight} {id : SessionId}
    {qos : QoS} {error : Option PublishError} {old : SessionState maxSubs maxInflight}
    (delivery : Delivery codec message now maxOutboxDrops before id qos after error)
    (found : before.registry.get id = some old) (fresh : id ∉ before.offered) :
    ∃ new, after.registry.get id = some new ∧
      DropCounted maxOutboxDrops (id ∈ after.offered ∧ old.Full) old new := by
  have room {packet : OutboundPacket} {outbox : Bounded OutboundPacket maxOutboxDepth}
      (pushed : old.outbox.push packet = some outbox) : ¬ old.Full := fun full => by
    have bound := (Bounded.push_eq_some.mp pushed).1
    rw [SessionState.Full] at full
    omega
  cases delivery with
  | absent missing =>
    rw [found] at missing
    cases missing
  | failed present encoded =>
    rw [found] at present
    cases present
    exact ⟨_, SessionRegistry.get_put_self found _, (Steady.numbered old qos).counted fun hit => fresh hit.1⟩
  | dropped present encoded full =>
    rw [found] at present
    cases present
    refine ⟨_, SessionRegistry.get_put_self found _, (Steady.numbered old qos).rate, fun _ => ⟨rfl, ?_⟩, ?_⟩
    · rw [droppedSession, (Steady.numbered old qos).quarantined]
    · exact fun missed => absurd ⟨by simp, full⟩ missed
  | queued present encoded pushed generation =>
    rw [found] at present
    cases present
    exact ⟨_, SessionRegistry.get_put_self found _,
      (Steady.queued old qos _).counted fun dropped => room pushed (And.right dropped)⟩
  | @tracked _ _ outbox inflight _ _ _ present qos1 encoded pushed acquired added =>
    rw [found] at present
    cases present
    subst qos1
    have acquiredPresent := (acquired.same.get id).trans (SessionRegistry.get_put_self found _)
    have queued := Steady.queued old .atLeastOnce outbox
    have steady : Steady old { queuedSession old .atLeastOnce outbox with inflight := inflight } :=
      ⟨queued.rate, queued.outboxDrops, queued.quarantined⟩
    exact ⟨_, SessionRegistry.get_put_self acquiredPresent _, steady.counted fun dropped => room pushed dropped.2⟩

theorem fanOut_offered_of_notMem (fanout : Fanout maxSessions maxSubs maxInflight) {id : SessionId}
    {subscribers : List (SessionId × QoS)} (absent : id ∉ subscribers.map Prod.fst) :
    id ∈ (fanOut codec message now maxOutboxDrops fanout subscribers).1.offered ↔ id ∈ fanout.offered := by
  induction subscribers generalizing fanout with
  | nil => rfl
  | cons subscriber rest ih =>
    simp only [List.map_cons, List.mem_cons, not_or] at absent
    have kept := (deliver_spec codec message now maxOutboxDrops fanout subscriber).offered_ne absent.1
    simp only [fanOut]
    generalize deliver codec message now maxOutboxDrops fanout subscriber = result at kept ⊢
    rcases result with ⟨next, _ | error⟩
    · exact (ih next absent.2).trans kept
    · exact kept

theorem fanOut_counted (fanout : Fanout maxSessions maxSubs maxInflight)
    {subscribers : List (SessionId × QoS)} (distinct : (subscribers.map Prod.fst).Nodup) {id : SessionId}
    {old : SessionState maxSubs maxInflight} (found : fanout.registry.get id = some old)
    (fresh : id ∉ fanout.offered) :
    ∃ new, (fanOut codec message now maxOutboxDrops fanout subscribers).1.registry.get id = some new ∧
      DropCounted maxOutboxDrops
        (id ∈ (fanOut codec message now maxOutboxDrops fanout subscribers).1.offered ∧ old.Full) old new := by
  induction subscribers generalizing fanout with
  | nil => exact ⟨old, found, (Steady.refl old).counted fun hit => fresh hit.1⟩
  | cons subscriber rest ih =>
    simp only [List.map_cons, List.nodup_cons] at distinct
    have delivery := deliver_spec codec message now maxOutboxDrops fanout subscriber
    simp only [fanOut]
    generalize deliver codec message now maxOutboxDrops fanout subscriber = result at delivery ⊢
    rcases result with ⟨next, failure⟩
    by_cases here : id = subscriber.1
    · subst here
      obtain ⟨new, present, counted⟩ := delivery.counted found fresh
      cases failure with
      | none =>
        refine ⟨new, (fanOut_get_of_notMem codec message now maxOutboxDrops next distinct.1).trans present, ?_⟩
        exact counted.congr (and_congr_left' (fanOut_offered_of_notMem next distinct.1))
      | some error => exact ⟨new, present, counted⟩
    · have kept := (delivery.get_ne here).trans found
      have unoffered := mt (delivery.offered_ne here).mp fresh
      cases failure with
      | none => exact ih next distinct.2 kept unoffered
      | some error => exact ⟨old, kept, (Steady.refl old).counted fun hit => unoffered hit.1⟩

theorem broadcast_counted {skipped : SessionId → SessionState maxSubs maxInflight → Bool}
    {registry : SessionRegistry maxSessions maxSubs maxInflight} (signals : SessionSignals maxSessions)
    {id : SessionId} {old : SessionState maxSubs maxInflight} (found : registry.get id = some old) :
    ∃ new,
      (broadcast codec message now maxOutboxDrops skipped ⟨registry, signals, none, []⟩).1.registry.get id =
        some new ∧
      DropCounted maxOutboxDrops
        (id ∈ (broadcast codec message now maxOutboxDrops skipped ⟨registry, signals, none, []⟩).1.offered ∧
          old.Full) old new :=
  fanOut_counted ⟨registry, signals, none, []⟩ (collectSubscribers_nodup ..) found (by simp)

end

section

variable {codec : Codec} {accepts : MqttIntent → Bool} {senderId : SessionId}
  {broker : Broker maxSessions maxSubs maxInflight maxRetained} {packet : Publish} {now : Instant}
  {maxViolations maxOutboxDrops : Nat} {sender : SessionState maxSubs maxInflight}

theorem routed_counted {message : Message} {id : SessionId} {old : SessionState maxSubs maxInflight}
    (found : (charged broker senderId sender now).get id = some old) :
    ∃ new,
      (routed codec broker senderId sender message now maxOutboxDrops).1.registry.get id = some new ∧
      DropCounted maxOutboxDrops
        (id ∈ (routed codec broker senderId sender message now maxOutboxDrops).1.offered ∧ old.Full) old new :=
  broadcast_counted broker.signals found

theorem broadcastAll_counted {message : Message} {id : SessionId} {old : SessionState maxSubs maxInflight}
    (found : broker.registry.get id = some old) :
    ∃ new, (broadcastAll codec broker message now).1.registry.get id = some new ∧
      DropCounted gatomqttConfig.maxOutboxDrops
        (id ∈ (broadcastAll codec broker message now).1.offered ∧ old.Full) old new :=
  broadcast_counted broker.signals found

theorem handlePublishAt_counted (present : broker.registry.get senderId = some sender) {id : SessionId}
    {old : SessionState maxSubs maxInflight} (found : (charged broker senderId sender now).get id = some old) :
    ∃ new,
      (handlePublishAt codec accepts senderId broker packet now maxViolations maxOutboxDrops).broker.registry.get
        id = some new ∧
      DropCounted maxOutboxDrops
        (id ∈ (handlePublishAt codec accepts senderId broker packet now maxViolations maxOutboxDrops).offered ∧
          old.Full) old new := by
  have unrouted : DropCounted maxOutboxDrops (id ∈ [] ∧ old.Full) old old := (Steady.refl old).counted (by simp)
  have handled := handlePublishAt_spec codec accepts senderId broker packet now maxViolations maxOutboxDrops
  generalize handlePublishAt codec accepts senderId broker packet now maxViolations maxOutboxDrops = outcome
    at handled ⊢
  cases handled with
  | absent missing =>
    rw [present] at missing
    cases missing
  | limited stored _ | unretained stored _ _ =>
    rw [present] at stored
    cases stored
    exact ⟨old, found, unrouted⟩
  | aborted stored _ _ delivered | completed stored _ _ delivered =>
    rw [present] at stored
    cases stored
    obtain ⟨new, kept, counted⟩ := routed_counted found
    rw [delivered] at kept counted
    exact ⟨new, kept, counted⟩

theorem routed_failure {message : Message} {error : PublishError}
    (failed : (routed codec broker senderId sender message now maxOutboxDrops).2 = some error) :
    error = .payloadTooLarge := by
  rw [routed_eq_broadcast, broadcast, fanOut_failure _ _ _ _ _ (collectSubscribers_nodup ..)] at failed
  obtain ⟨⟨id, granted⟩, _, refused⟩ := List.exists_of_findSome?_eq_some failed
  obtain ⟨session, _, unencoded⟩ := refusal_eq_some.mp refused
  exact frameFor_error unencoded

theorem forwardCommand_admitted (accepts : MqttIntent → Bool) (message : Message) :
    (forwardCommand accepts message).2 ≠ .error .rateLimitDisconnect := by
  unfold forwardCommand
  split
  · split
    · simp
    · split
      · simp
      · dsimp only
        split
        · simp
        · split <;> simp
  · simp

theorem handlePublishAt_rateLimited (present : broker.registry.get senderId = some sender) :
    (handlePublishAt codec accepts senderId broker packet now maxViolations maxOutboxDrops).result =
        .error .rateLimitDisconnect ↔
      (sender.rate.tryConsume now).1 = false ∧
        ((sender.rate.tryConsume now).2.violations ≥ maxViolations ∨ packet.message.qos ≠ .atMostOnce) := by
  have handled := handlePublishAt_spec codec accepts senderId broker packet now maxViolations maxOutboxDrops
  generalize handlePublishAt codec accepts senderId broker packet now maxViolations maxOutboxDrops = outcome
    at handled ⊢
  cases handled with
  | absent missing =>
    rw [present] at missing
    cases missing
  | limited stored refused =>
    rw [present] at stored
    cases stored
    simp only [refused, true_and]
    split <;> simp_all
  | @unretained _ error stored admitted _ =>
    rw [present] at stored
    cases stored
    cases error <;> simp [admitted, mapRetainedError]
  | aborted stored admitted _ delivered =>
    rw [present] at stored
    cases stored
    have oversize := routed_failure (congrArg Prod.snd delivered)
    simp [admitted, oversize]
  | completed stored admitted _ _ =>
    rw [present] at stored
    cases stored
    simp [admitted, forwardCommand_admitted]

end

def SessionState.charge (session : SessionState maxSubs maxInflight) (now : Instant) :
    SessionState maxSubs maxInflight :=
  { session with rate := (session.rate.tryConsume now).2 }

def Phase.limited : Phase → Bool
  | .publishLwt _ .rateLimitExceeded => true
  | _ => false

theorem afterPublish_limited {slot : SessionId} {publish : Publish} {result : Except PublishError Unit} :
    (afterPublish slot publish result).limited = true ↔ result = .error .rateLimitDisconnect := by
  unfold afterPublish
  split
  · exact iff_of_true rfl rfl
  · exact iff_of_false (by simp [beginCleanup, DisconnectReason.isClean, Phase.limited]) (by simp)
  · next limited _ =>
    refine iff_of_false ?_ (limited ·)
    split <;> simp [Phase.limited]

section

variable {env : Env} {broker : Broker maxSessions maxSubs maxInflight maxRetained} {slot : SessionId}
  {session : SessionState maxSubs maxInflight} {publish : Publish} {activityNow now : Instant}
  {accepts : Bool}

theorem publishStep_counted (present : broker.registry.get slot = some session) {id : SessionId}
    {old : SessionState maxSubs maxInflight} (found : broker.registry.get id = some old) :
    ∃ new,
      (publishStep env broker slot publish activityNow now accepts).1.broker.registry.get id = some new ∧
      DropCounted gatomqttConfig.maxOutboxDrops
        (id ∈ (publishStep env broker slot publish activityNow now accepts).1.offered ∧ old.Full)
        (if id = slot then old.charge now else old) new := by
  have touched : (touchedBroker broker slot session activityNow).registry.get slot =
      some (session.updateActivityAt activityNow) := SessionRegistry.get_put_self present _
  simp only [publishStep, present]
  by_cases here : id = slot
  · subst here
    rw [present] at found
    cases found
    rw [if_pos rfl]
    obtain ⟨new, kept, counted⟩ := handlePublishAt_counted touched (SessionRegistry.get_put_self touched _)
    exact ⟨new, kept, counted.rate, counted.hit, counted.spared⟩
  · rw [if_neg here]
    refine handlePublishAt_counted touched ?_
    rw [charged_get_ne here]
    exact (SessionRegistry.get_put_ne _ here).trans found

theorem publishStep_limited (present : broker.registry.get slot = some session) :
    (publishStep env broker slot publish activityNow now accepts).2.limited = true ↔
      (session.rate.tryConsume now).1 = false ∧
        ((session.rate.tryConsume now).2.violations ≥ gatomqttConfig.maxViolations ∨
          publish.message.qos ≠ .atMostOnce) := by
  have touched : (touchedBroker broker slot session activityNow).registry.get slot =
      some (session.updateActivityAt activityNow) := SessionRegistry.get_put_self present _
  simp only [publishStep, present]
  rw [afterPublish_limited]
  exact (handlePublishAt_rateLimited touched).trans Iff.rfl

variable {id : Nat} {conn : Conn} {input : Input} {result : Result maxSessions maxSubs maxInflight maxRetained}

theorem connStep_flush (waiting : conn.phase = .flush slot)
    (taken : connStep env broker id conn input = some result) :
    input = .lock ∧ result.broker = (flushStep broker slot).1 ∧
      result.conn = { conn with phase := (flushStep broker slot).2 } := by
  unfold connStep at taken
  rw [waiting] at taken
  cases input with
  | lock =>
    cases taken
    exact ⟨rfl, rfl, rfl⟩
  | _ => cases taken

theorem connStep_publish
    (taken : connStep env broker id conn (.packet (.publish publish) activityNow now accepts) = some result) :
    ∃ slot timer, conn.phase = .select slot timer ∧
      result.broker = (publishStep env broker slot publish activityNow now accepts).1.broker ∧
      result.conn = { conn with phase := (publishStep env broker slot publish activityNow now accepts).2 } := by
  unfold connStep at taken
  cases waiting : conn.phase with
  | select slot timer =>
    rw [waiting] at taken
    cases taken
    exact ⟨slot, timer, rfl, rfl, rfl⟩
  | _ =>
    rw [waiting] at taken
    cases taken

def Unpublished (input : Input) : Prop :=
  ∀ publish activityNow now accepts, input ≠ .packet (.publish publish) activityNow now accepts

-- The steps that can move a counter are set apart: a CONNECT, a removal, a look at the outbox, a publish.
theorem Ordinary.steady (ordinary : Ordinary env broker id conn input result)
    (turn : Turn env broker id conn input result) (unflushed : ∀ slot, conn.phase ≠ .flush slot)
    (unpublished : Unpublished input) : Maps Steady broker.registry result.broker.registry := by
  have same : Maps Steady broker.registry broker.registry := .of_eq Steady.refl fun _ => rfl
  cases turn with
  | connect waiting => exact absurd rfl (ordinary.unread waiting _ _)
  | removed waiting => exact absurd waiting (ordinary.unremoved _)
  | popped waiting | drained waiting => exact absurd waiting (unflushed _)
  | published => exact absurd rfl (unpublished _ _ _ _)
  | abandoned | unanswered | moved | flushed | wrote | announced => exact same
  | served waiting retries continues =>
    refine retries.retried.maps.mono ?_
    rintro old new ⟨inflight, rfl, _⟩
    exact ⟨rfl, rfl, rfl⟩
  | acknowledged waiting present =>
    refine (acknowledged_maps present _ _).mono ?_
    rintro old new ⟨lastActivity, inflight, rfl, _⟩
    exact ⟨rfl, rfl, rfl⟩
  | handled waiting present => exact .put Steady.refl present ⟨rfl, rfl, rfl⟩
  | delivered waiting sent =>
    subst sent
    refine (deliverLwts_maps env.codec _ (broker.registry, broker.signals) _).mono ?_
    rintro old new ⟨outbox, rfl, _⟩
    exact ⟨rfl, rfl, rfl⟩

theorem flushStep_unlimited : (flushStep broker slot).2.limited = false := by
  unfold flushStep
  split
  · rfl
  · split <;> rfl

theorem serviceStep_unlimited {retryNow : Instant} {answers : List Bool} :
    (serviceStep env broker slot retryNow now answers).2.1.limited = false := by
  unfold serviceStep
  split
  · rfl
  · split
    · rfl
    · dsimp only
      split
      · rfl
      · split
        · rfl
        · split <;> rfl

theorem sessionStep_unlimited {packet : Packet} :
    (sessionStep broker slot packet now).2.1.limited = false := by
  unfold sessionStep
  split
  · rfl
  · dsimp only
    split
    · rfl
    · dsimp only
      split <;> rfl
    · rfl
    · rfl
    · rfl

theorem lwtStep_unlimited {reason : DisconnectReason} :
    (lwtStep broker slot reason).2.1.limited = false := by
  unfold lwtStep
  split
  · rfl
  · dsimp only
    split <;> rfl

-- Only a publish can bring a loop to the cleanup for its rate limit.
theorem connStep_unlimited (taken : connStep env broker id conn input = some result)
    (unpublished : Unpublished input) : result.conn.phase.limited = false := by
  unfold connStep at taken
  split at taken
  · cases taken
    unfold connectStep
    split <;> rfl
  · cases taken
    rfl
  · cases taken
    rfl
  · cases taken
    rfl
  · dsimp only at taken
    split at taken
    · cases taken
      rfl
    · cases taken
      split <;> rfl
  · cases taken
    exact flushStep_unlimited
  · cases taken
    split <;> rfl
  · cases taken
    exact serviceStep_unlimited
  · exact absurd rfl (unpublished _ _ _ _)
  · cases taken
    rfl
  · cases taken
    exact sessionStep_unlimited
  · cases taken
    split <;> rfl
  · cases taken
    rfl
  · split at taken
    · cases taken
      rfl
    · cases taken
  · split at taken
    · cases taken
      rfl
    · cases taken
      dsimp only
      split
      · split <;> rfl
      · rfl
  · cases taken
    exact lwtStep_unlimited
  · cases taken
    rfl
  · cases taken
    rfl
  · cases taken

end

end PicoBroker
