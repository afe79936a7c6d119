import PicoBroker.Broker.Connection
import PicoBroker.Broker.Retries

set_option autoImplicit false

namespace PicoBroker

variable {maxSessions maxSubs maxInflight maxRetained : Nat}

def Phase.slot? : Phase → Option SessionId
  | .awaitConnect => none
  | .reject _ => none
  | .connack slot _ => some slot
  | .flush slot => some slot
  | .flushing slot _ => some slot
  | .service slot => some slot
  | .select slot _ => some slot
  | .write slot _ _ => some slot
  | .publishLwt slot _ => some slot
  | .deliverLwt slot _ _ => some slot
  | .removeSession slot => some slot
  | .closed => none

def Phase.serving? : Phase → Option SessionId
  | .connack slot _ => some slot
  | .flush slot => some slot
  | .flushing slot _ => some slot
  | .service slot => some slot
  | .select slot _ => some slot
  | .write slot _ _ => some slot
  | _ => none

theorem calm_of_leaving {phase : Phase} (leaving : phase.serving? = none) (slot : SessionId)
    (packet : OutboundPacket) : phase ≠ .flushing slot packet := by
  rintro rfl
  cases leaving

theorem slot?_of_serving? {phase : Phase} {slot : SessionId} (serving : phase.serving? = some slot) :
    phase.slot? = some slot := by
  cases phase <;> simp_all [Phase.serving?, Phase.slot?]

def Phase.idle? : Phase → Option SessionId
  | .service slot => some slot
  | .select slot _ => some slot
  | _ => none

structure Continues (slot : SessionId) (phase : Phase) : Prop where
  slot : phase.slot? = some slot
  calm : ∀ other packet, phase ≠ .flushing other packet
  unsearched : ∀ other lwt deliveries, phase ≠ .deliverLwt other lwt deliveries

theorem beginCleanup_continues (slot : SessionId) (reason : DisconnectReason) :
    Continues slot (beginCleanup slot reason) := by
  unfold beginCleanup
  split <;> exact ⟨rfl, by simp, by simp⟩

theorem beginCleanup_busy (slot : SessionId) (reason : DisconnectReason) :
    (beginCleanup slot reason).idle? = none := by
  unfold beginCleanup
  split <;> rfl

theorem afterPublish_continues (slot : SessionId) (publish : Publish) (result : Except PublishError Unit) :
    Continues slot (afterPublish slot publish result) := by
  unfold afterPublish
  split
  · exact beginCleanup_continues ..
  · exact beginCleanup_continues ..
  · split <;> exact ⟨rfl, by simp, by simp⟩

theorem afterPublish_busy (slot : SessionId) (publish : Publish) (result : Except PublishError Unit) :
    (afterPublish slot publish result).idle? = none := by
  unfold afterPublish
  split
  · exact beginCleanup_busy ..
  · exact beginCleanup_busy ..
  · split <;> rfl

def resubscribed (subscriptions : Bounded Subscription maxSubs) : Packet → Bounded Subscription maxSubs
  | .subscribe packet =>
      (packet.topics.items.foldl subscribeTopic ⟨subscriptions, .empty, .empty⟩).subscriptions
  | .unsubscribe packet => packet.topics.items.foldl unsubscribeFilter subscriptions
  | _ => subscriptions

theorem resubscribed_of_ne {subscriptions : Bounded Subscription maxSubs} {packet : Packet}
    (notSubscribe : ∀ subscribe, packet ≠ .subscribe subscribe)
    (notUnsubscribe : ∀ unsubscribe, packet ≠ .unsubscribe unsubscribe) :
    resubscribed subscriptions packet = subscriptions := by
  unfold resubscribed
  split
  · exact absurd rfl (notSubscribe _)
  · exact absurd rfl (notUnsubscribe _)
  · rfl

def touchedBroker (broker : Broker maxSessions maxSubs maxInflight maxRetained) (slot : SessionId)
    (session : SessionState maxSubs maxInflight) (now : Instant) :
    Broker maxSessions maxSubs maxInflight maxRetained :=
  { broker with registry := broker.registry.put slot (session.updateActivityAt now) }

def writeEvents (id : Nat) (slot : SessionId) (packet : Packet) : List Event :=
  .wrote id packet ::
    match packet with
    | .publish publish => publish.qospid.pid.toList.map fun pid => .untracked slot pid.value
    | _ => []

inductive Turn (env : Env) (broker : Broker maxSessions maxSubs maxInflight maxRetained) (id : Nat)
    (conn : Conn) : Input → Result maxSessions maxSubs maxInflight maxRetained → Prop
  | connect {packet : Connect} {now : Instant} (waiting : conn.phase = .awaitConnect) :
      Turn env broker id conn (.firstPacket (.connect packet) now) (connectStep env broker id packet now)
  | abandoned {input : Input} {events : List Event} (waiting : conn.phase.slot? = none)
      (quiet : ∀ event ∈ events, ∃ packet, event = .wrote id packet)
      (unread : ∀ packet now, input ≠ .firstPacket (.connect packet) now) :
      Turn env broker id conn input ⟨broker, { conn with phase := .closed }, events⟩
  | unanswered {slot : SessionId} {sessionPresent accepted : Bool} {events : List Event}
      (waiting : conn.phase = .connack slot sessionPresent)
      (failed : env.codec.encodeSlice (.connack ⟨sessionPresent, .accepted⟩) env.maxPacketSize = none ∨
        accepted = false)
      (quiet : ∀ event ∈ events, ∃ packet, event = .wrote id packet) :
      Turn env broker id conn (.write accepted) ⟨broker, { conn with phase := .closed }, events⟩
  | moved {slot : SessionId} {input : Input} {phase : Phase} {signals : SessionSignals maxSessions}
      {events : List Event} (serving : conn.phase.serving? = some slot) (continues : Continues slot phase)
      (quiet : ∀ event ∈ events, ∃ packet, event = .wrote id packet)
      (calm : ∀ other packet, conn.phase ≠ .flushing other packet)
      (alone : ∀ other, other ≠ slot → signals.get other = broker.signals.get other)
      (busy : phase.idle? = none ∨ broker.registry.get slot = none) :
      Turn env broker id conn input
        ⟨{ broker with signals := signals }, { conn with phase := phase }, events⟩
  | flushed {slot : SessionId} {packet : OutboundPacket} {accepted : Bool} {phase : Phase}
      (waiting : conn.phase = .flushing slot packet) (continues : Continues slot phase)
      (busy : phase.idle? = none) :
      Turn env broker id conn (.write accepted)
        ⟨broker, { conn with phase := phase }, [.flushed id slot packet]⟩
  | wrote {slot : SessionId} {packet : Packet} {rest : List Packet} {accepted : Bool} {phase : Phase}
      (waiting : conn.phase = .write slot packet rest) (continues : Continues slot phase)
      (busy : phase.idle? = none) :
      Turn env broker id conn (.write accepted)
        ⟨broker, { conn with phase := phase }, writeEvents id slot packet⟩
  | popped {slot : SessionId} {session : SessionState maxSubs maxInflight} {packet : OutboundPacket}
      {outbox : Bounded OutboundPacket maxOutboxDepth} (waiting : conn.phase = .flush slot)
      (present : broker.registry.get slot = some session)
      (front : session.outbox.popFront = some (packet, outbox)) :
      Turn env broker id conn .lock
        ⟨{ broker with registry := broker.registry.put slot { session with outbox := outbox } },
          { conn with phase := .flushing slot packet }, []⟩
  | drained {slot : SessionId} {session : SessionState maxSubs maxInflight}
      (waiting : conn.phase = .flush slot) (present : broker.registry.get slot = some session)
      (empty : session.outbox.items = []) :
      Turn env broker id conn .lock
        ⟨{ broker with registry := broker.registry.put slot { session with outboxDrops := 0 } },
          { conn with phase := .service slot }, []⟩
  | served {slot : SessionId} {retryNow now : Instant} {answers : List Bool} {phase : Phase}
      {outcome : RetryOutcome maxSessions maxSubs maxInflight} (waiting : conn.phase = .service slot)
      (retries : RetrySpec broker.registry slot outcome) (continues : Continues slot phase) :
      Turn env broker id conn (.service retryNow now answers)
        ⟨{ broker with registry := outcome.registry }, { conn with phase := phase },
          outcome.written.map (.retried id slot)⟩
  | published {slot : SessionId} {timer : Duration} {publish : Publish} {activityNow now : Instant}
      {accepts : Bool} {session : SessionState maxSubs maxInflight} {phase : Phase}
      {outcome : PublishOutcome maxSessions maxSubs maxInflight maxRetained}
      (waiting : conn.phase = .select slot timer) (present : broker.registry.get slot = some session)
      (handled : outcome = handlePublish env.codec (fun _ => accepts) slot
        (touchedBroker broker slot session activityNow) publish now)
      (continues : Continues slot phase) (busy : phase.idle? = none) :
      Turn env broker id conn (.packet (.publish publish) activityNow now accepts)
        ⟨outcome.broker, { conn with phase := phase },
          routedEvents broker.registry outcome.broker.registry ++ outcome.intent.toList.map (.intent id)⟩
  | acknowledged {slot : SessionId} {timer : Duration} {pid : Pid} {activityNow now : Instant}
      {accepts : Bool} {session : SessionState maxSubs maxInflight}
      (waiting : conn.phase = .select slot timer) (present : broker.registry.get slot = some session) :
      Turn env broker id conn (.packet (.puback pid) activityNow now accepts)
        ⟨{ broker with
            registry := acknowledge (touchedBroker broker slot session activityNow).registry slot pid.value },
          { conn with phase := .flush slot }, [.acknowledged slot pid.value]⟩
  | handled {slot : SessionId} {timer : Duration} {packet : Packet} {activityNow now : Instant}
      {accepts : Bool} {session : SessionState maxSubs maxInflight}
      {phase : Phase}
      (waiting : conn.phase = .select slot timer) (present : broker.registry.get slot = some session)
      (continues : Continues slot phase) (busy : phase.idle? = none) :
      Turn env broker id conn (.packet packet activityNow now accepts)
        ⟨{ broker with
            registry := broker.registry.put slot { session.updateActivityAt activityNow with
              subscriptions := resubscribed session.subscriptions packet } },
          { conn with phase := phase }, []⟩
  | announced {slot : SessionId} {reason : DisconnectReason} {retained : RetainedStore maxRetained}
      {phase : Phase} {events : List Event} (waiting : conn.phase = .publishLwt slot reason)
      (continues : phase.slot? = some slot) (leaving : phase.serving? = none)
      (shown : ∀ event ∈ events, ∃ lwt, event = .willPublished id slot lwt)
      (searched : ∀ lwt deliveries, phase = .deliverLwt slot lwt deliveries → ∃ clientId,
        deliveries = (findLwtSubscribers broker.registry clientId lwt).items) :
      Turn env broker id conn .lock
        ⟨{ broker with retained := retained }, { conn with phase := phase }, events⟩
  | delivered {slot : SessionId} {lwt : LwtMessage} {deliveries : List (SessionId × QoS)}
      {state : SessionRegistry maxSessions maxSubs maxInflight × SessionSignals maxSessions}
      (waiting : conn.phase = .deliverLwt slot lwt deliveries)
      (sent : state = deliverLwts env.codec lwt (broker.registry, broker.signals) deliveries) :
      Turn env broker id conn .lock
        ⟨{ broker with registry := state.1, signals := state.2 },
          { conn with phase := .removeSession slot }, willEvents broker.registry state.1 deliveries⟩
  | removed {slot : SessionId} (waiting : conn.phase = .removeSession slot) :
      Turn env broker id conn .lock ⟨removeStep broker slot, { conn with phase := .closed }, []⟩

section

variable {env : Env} {broker : Broker maxSessions maxSubs maxInflight maxRetained} {id : Nat} {conn : Conn}

theorem routedEvents_self (registry : SessionRegistry maxSessions maxSubs maxInflight) :
    routedEvents registry registry = [] := by
  rw [routedEvents, List.flatMap_eq_nil_iff]
  intro slot _
  unfold queuedAt untrackedAt
  cases registry.get slot <;> simp

theorem flushStep_turn {slot : SessionId} (waiting : conn.phase = .flush slot) :
    Turn env broker id conn .lock
      ⟨(flushStep broker slot).1, { conn with phase := (flushStep broker slot).2 }, []⟩ := by
  unfold flushStep
  split
  · next missing =>
    exact .moved (by rw [waiting]; rfl) ⟨rfl, by simp, by simp⟩ (by simp) (by simp [waiting]) (fun _ _ => rfl)
      (.inr missing)
  · next session present =>
    split
    · next drained => exact .drained waiting present (Bounded.popFront_eq_none.mp drained)
    · next packet outbox front => exact .popped waiting present front

theorem Turn.cleanup {slot : SessionId} {input : Input} (serving : conn.phase.serving? = some slot)
    (calm : ∀ other packet, conn.phase ≠ .flushing other packet) (reason : DisconnectReason) :
    Turn env broker id conn input ⟨broker, { conn with phase := beginCleanup slot reason }, []⟩ :=
  .moved serving (beginCleanup_continues slot reason) (by simp) calm (fun _ _ => rfl)
    (.inl (beginCleanup_busy slot reason))

theorem serviceStep_turn {slot : SessionId} {retryNow now : Instant} {answers : List Bool}
    (waiting : conn.phase = .service slot) :
    let step := serviceStep env broker slot retryNow now answers
    Turn env broker id conn (.service retryNow now answers)
      ⟨step.1, { conn with phase := step.2.1 }, step.2.2.map (.retried id slot)⟩ := by
  have serving : conn.phase.serving? = some slot := by rw [waiting]; rfl
  intro step
  unfold step serviceStep
  split
  · exact .cleanup serving (by simp [waiting]) .connectionClosed
  · split
    · exact .cleanup serving (by simp [waiting]) .outboxQuarantine
    · have retries := processInflightRetriesAt_spec env.codec env.maxPacketSize slot broker.registry
        env.config.qos1RetryMs env.config.qos1MaxRetries retryNow answers
      dsimp only
      split
      · exact .served waiting retries (beginCleanup_continues slot .retryLimitExceeded)
      · split
        · exact .served waiting retries (beginCleanup_continues slot .connectionClosed)
        · split
          · exact .served waiting retries (beginCleanup_continues slot .keepaliveTimeout)
          · exact .served waiting retries ⟨rfl, by simp, by simp⟩

theorem sessionStep_turn {slot : SessionId} {timer : Duration} {packet : Packet} {activityNow now : Instant}
    {accepts : Bool} (waiting : conn.phase = .select slot timer) :
    let step := sessionStep broker slot packet activityNow
    Turn env broker id conn (.packet packet activityNow now accepts)
      ⟨step.1, { conn with phase := step.2.1 }, step.2.2⟩ := by
  have serving : conn.phase.serving? = some slot := by rw [waiting]; rfl
  intro step
  unfold step sessionStep
  split
  · exact .cleanup serving (by simp [waiting]) .connectionClosed
  · next session present =>
    dsimp only
    split
    · exact .acknowledged waiting present
    · exact .handled waiting present ⟨rfl, by simp [subscribePackets], by simp [subscribePackets]⟩ rfl
    · exact .handled waiting present ⟨rfl, by simp, by simp⟩ rfl
    · exact .handled waiting present ⟨rfl, by simp, by simp⟩ rfl
    · next notSubscribe notUnsubscribe _ =>
      have continues : Continues slot (.flush slot) := ⟨rfl, by simp, by simp⟩
      have handled : Turn env broker id conn (.packet packet activityNow now accepts) _ :=
        .handled waiting present continues rfl
      rw [resubscribed_of_ne notSubscribe notUnsubscribe] at handled
      exact handled

theorem publishStep_turn {slot : SessionId} {timer : Duration} {publish : Publish}
    {activityNow now : Instant} {accepts : Bool} (waiting : conn.phase = .select slot timer) :
    let step := publishStep env broker slot publish activityNow now accepts
    Turn env broker id conn (.packet (.publish publish) activityNow now accepts)
      ⟨step.1.broker, { conn with phase := step.2 },
        routedEvents broker.registry step.1.broker.registry ++ step.1.intent.toList.map (.intent id)⟩ := by
  have serving : conn.phase.serving? = some slot := by rw [waiting]; rfl
  intro step
  unfold step publishStep
  split
  · simp only [routedEvents_self]
    exact .cleanup serving (by simp [waiting]) .connectionClosed
  · next session present => exact .published waiting present rfl (afterPublish_continues ..) (afterPublish_busy ..)

theorem lwtStep_turn {slot : SessionId} {reason : DisconnectReason}
    (waiting : conn.phase = .publishLwt slot reason) :
    let step := lwtStep broker slot reason
    Turn env broker id conn .lock
      ⟨step.1, { conn with phase := step.2.1 }, step.2.2.toList.map (.willPublished id slot)⟩ := by
  intro step
  unfold step lwtStep
  split
  · exact .announced waiting rfl rfl (by simp) (by simp)
  · next session lwt _ =>
    dsimp only
    split
    · next deliveries announced =>
      refine .announced waiting rfl rfl (by simp) ?_
      rintro _ _ ⟨⟩
      exact ⟨session.clientId.items, publishLwtMessageIfNeeded_deliveries announced⟩
    · exact .announced waiting rfl rfl (by simp) (by simp)

theorem connStep_turn {input : Input} {result : Result maxSessions maxSubs maxInflight maxRetained}
    (taken : connStep env broker id conn input = some result) : Turn env broker id conn input result := by
  unfold connStep at taken
  split at taken
  · next packet now waiting =>
    cases taken
    exact .connect waiting
  · next other waiting =>
    cases taken
    refine .abandoned (by rw [waiting]; rfl) (by simp) ?_
    rintro packet _ ⟨⟩
    exact other packet rfl
  · next waiting =>
    cases taken
    exact .abandoned (by rw [waiting]; rfl) (by simp) (by simp)
  · next code _ waiting =>
    cases taken
    refine .abandoned (by rw [waiting]; rfl) ?_ (by simp)
    intro event member
    obtain ⟨_, _, rfl⟩ := List.mem_map.mp member
    exact ⟨_, rfl⟩
  · next slot sessionPresent accepted waiting =>
    dsimp only at taken
    split at taken
    · next unencoded =>
      cases taken
      exact .unanswered waiting (.inl unencoded) (by simp)
    · next frame encoded =>
      cases taken
      cases accepted with
      | true =>
        exact .moved (by rw [waiting]; rfl) ⟨rfl, by simp, by simp⟩ (by simp) (by simp [waiting])
          (fun _ _ => rfl) (.inl rfl)
      | false => exact .unanswered waiting (.inr rfl) (by simp)
  · next slot waiting =>
    cases taken
    exact flushStep_turn waiting
  · next slot packet accepted waiting =>
    cases taken
    cases accepted with
    | true => exact .flushed waiting ⟨rfl, by simp, by simp⟩ rfl
    | false =>
      exact .flushed waiting (beginCleanup_continues slot .transportError) (beginCleanup_busy slot .transportError)
  · next slot retryNow now answers waiting =>
    cases taken
    exact serviceStep_turn waiting
  · next slot timer publish activityNow now accepts waiting =>
    cases taken
    exact publishStep_turn waiting
  · next slot timer _ _ _ waiting =>
    cases taken
    exact .cleanup (by rw [waiting]; rfl) (by simp [waiting]) .clientDisconnect
  · next slot timer packet activityNow now accepts _ _ waiting =>
    cases taken
    exact sessionStep_turn waiting
  · next slot timer eof waiting =>
    cases taken
    exact .cleanup (by rw [waiting]; rfl) (by simp [waiting]) _
  · next slot timer waiting =>
    cases taken
    exact .moved (by rw [waiting]; rfl) ⟨rfl, by simp, by simp⟩ (by simp) (by simp [waiting]) (fun _ _ => rfl)
      (.inl rfl)
  · next slot timer waiting =>
    split at taken
    · cases taken
      refine .moved (by rw [waiting]; rfl) ⟨rfl, by simp, by simp⟩ (by simp) (by simp [waiting])
        (fun other different => ?_) (.inl rfl)
      exact Slots.get_set_ne _ _ different
    · cases taken
  · next slot packet rest accepted waiting =>
    split at taken
    · cases taken
      exact .cleanup (by rw [waiting]; rfl) (by simp [waiting]) .transportError
    · cases taken
      cases accepted with
      | true => cases rest <;> exact .wrote waiting ⟨rfl, by simp, by simp⟩ rfl
      | false =>
        exact .wrote waiting (beginCleanup_continues slot .transportError) (beginCleanup_busy slot .transportError)
  · next slot reason waiting =>
    cases taken
    exact lwtStep_turn waiting
  · next slot lwt deliveries waiting =>
    cases taken
    exact .delivered waiting rfl
  · next slot waiting =>
    cases taken
    exact .removed waiting
  · cases taken

end

end PicoBroker
