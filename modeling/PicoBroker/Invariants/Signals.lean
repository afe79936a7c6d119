import PicoBroker.Invariants.Outboxes

set_option autoImplicit false

namespace PicoBroker

open Execution (Run)

variable {maxSessions maxSubs maxInflight maxRetained : Nat} {env : Env}

def Noted (registry : SessionRegistry maxSessions maxSubs maxInflight) (signals : SessionSignals maxSessions)
    (slot : SessionId) : Prop :=
  ∀ session, registry.get slot = some session → session.outbox.items ≠ [] → signals.get slot = some ()

section

variable {before after : SessionRegistry maxSessions maxSubs maxInflight} {slot id : SessionId}
  {signals signalsAfter : SessionSignals maxSessions}

theorem Noted.congr (noted : Noted before signals slot) (sessions : after.get slot = before.get slot)
    (same : signalsAfter.get slot = signals.get slot) : Noted after signalsAfter slot := by
  intro session present waiting
  rw [sessions] at present
  rw [same]
  exact noted session present waiting

theorem Noted.of_maps (noted : Noted before signals slot) (maps : Maps SameOutbox before after) :
    Noted after signals slot := by
  intro session present waiting
  obtain ⟨old, found, same⟩ := maps.of_present present
  rw [same] at waiting
  exact noted old found waiting

theorem Noted.put {old kept : SessionState maxSubs maxInflight} (noted : Noted before signals slot)
    (found : before.get id = some old) (same : SameOutbox old kept) : Noted (before.put id kept) signals slot :=
  noted.of_maps (.put SameOutbox.refl found same)

-- A push and its signal.
theorem Noted.signal {old kept : SessionState maxSubs maxInflight} (noted : Noted before signals slot)
    (found : before.get id = some old) : Noted (before.put id kept) (signalSession signals id) slot := by
  by_cases here : slot = id
  · subst here
    intro _ _ _
    exact Slots.get_set_self _ _ (Slots.lt_of_get found)
  · exact noted.congr (SessionRegistry.get_put_ne _ here) (Slots.get_set_ne _ _ here)

theorem Noted.same (noted : Noted before signals slot) (same : before.SameSessions after) :
    Noted after signals slot :=
  noted.congr (same.get slot) rfl

end

section

variable {codec : Codec} {message : Message} {now : Instant} {maxOutboxDrops : Nat} {slot : SessionId}

theorem Delivery.noted {before after : Fanout maxSessions maxSubs maxInflight} {id : SessionId} {qos : QoS}
    {error : Option PublishError} (delivery : Delivery codec message now maxOutboxDrops before id qos after error)
    (noted : Noted before.registry before.signals slot) : Noted after.registry after.signals slot := by
  cases delivery with
  | absent => exact noted
  | failed present => exact noted.put present (by simp [SameOutbox])
  | dropped present => exact noted.put present (by simp [SameOutbox, droppedSession])
  | queued present => exact (noted.signal present).same ⟨rfl, rfl⟩
  | tracked present _ _ _ acquired =>
    have queued := (noted.signal present).same acquired.same
    have stored := (acquired.same.get id).trans (SessionRegistry.get_put_self present _)
    exact queued.put stored rfl

theorem fanOut_noted {fanout : Fanout maxSessions maxSubs maxInflight}
    (noted : Noted fanout.registry fanout.signals slot) (subscribers : List (SessionId × QoS)) :
    Noted (fanOut codec message now maxOutboxDrops fanout subscribers).1.registry
      (fanOut codec message now maxOutboxDrops fanout subscribers).1.signals slot :=
  fanOut_induction (P := fun fanout => Noted fanout.registry fanout.signals slot)
    (fun _ _ _ _ _ noted delivery => delivery.noted noted) noted subscribers

variable {broker : Broker maxSessions maxSubs maxInflight maxRetained}

theorem charged_noted {senderId : SessionId} {sender : SessionState maxSubs maxInflight}
    (noted : Noted broker.registry broker.signals slot) (present : broker.registry.get senderId = some sender) :
    Noted (charged broker senderId sender now) broker.signals slot :=
  noted.put present rfl

theorem routed_noted {senderId : SessionId} {sender : SessionState maxSubs maxInflight}
    {reached : Fanout maxSessions maxSubs maxInflight} {error : Option PublishError}
    (noted : Noted broker.registry broker.signals slot) (present : broker.registry.get senderId = some sender)
    (fanned : routed codec broker senderId sender message now maxOutboxDrops = (reached, error)) :
    Noted reached.registry reached.signals slot := by
  have delivered : Noted (routed codec broker senderId sender message now maxOutboxDrops).1.registry
      (routed codec broker senderId sender message now maxOutboxDrops).1.signals slot :=
    fanOut_noted (charged_noted noted present) _
  rw [fanned] at delivered
  exact delivered

theorem handlePublishAt_noted (codec : Codec) (accepts : MqttIntent → Bool) (senderId : SessionId)
    (packet : Publish) (now : Instant) (maxViolations maxOutboxDrops : Nat)
    (noted : Noted broker.registry broker.signals slot) :
    Noted (handlePublishAt codec accepts senderId broker packet now maxViolations maxOutboxDrops).broker.registry
      (handlePublishAt codec accepts senderId broker packet now maxViolations maxOutboxDrops).broker.signals slot := by
  have handled := handlePublishAt_spec codec accepts senderId broker packet now maxViolations maxOutboxDrops
  generalize handlePublishAt codec accepts senderId broker packet now maxViolations maxOutboxDrops = outcome
    at handled ⊢
  cases handled with
  | absent => exact noted
  | limited present | unretained present => exact charged_noted noted present
  | aborted present _ _ failed => exact routed_noted noted present failed
  | completed present _ _ delivered => exact routed_noted noted present delivered

theorem processOutboundPublish_noted (codec : Codec) (publish : MqttPublish) (now : Instant)
    (noted : Noted broker.registry broker.signals slot) :
    Noted (processOutboundPublish codec broker publish now).1.registry
      (processOutboundPublish codec broker publish now).1.signals slot := by
  unfold processOutboundPublish
  split
  · exact noted
  · exact fanOut_noted noted _

theorem deliverLwt_noted (codec : Codec) (lwt : LwtMessage)
    {state : SessionRegistry maxSessions maxSubs maxInflight × SessionSignals maxSessions}
    (delivery : SessionId × QoS) (noted : Noted state.1 state.2 slot) :
    Noted (deliverLwt codec lwt state delivery).1 (deliverLwt codec lwt state delivery).2 slot := by
  unfold deliverLwt
  split
  · exact noted
  · next found =>
    split
    · exact noted
    · split
      · exact noted
      · exact noted.signal found

theorem deliverLwts_noted (codec : Codec) (lwt : LwtMessage)
    {state : SessionRegistry maxSessions maxSubs maxInflight × SessionSignals maxSessions}
    (deliveries : List (SessionId × QoS)) (noted : Noted state.1 state.2 slot) :
    Noted (deliverLwts codec lwt state deliveries).1 (deliverLwts codec lwt state deliveries).2 slot := by
  induction deliveries generalizing state with
  | nil => exact noted
  | cons delivery rest ih => exact ih (deliverLwt_noted codec lwt delivery noted)

end

theorem serving?_of_idle? {phase : Phase} {slot : SessionId} (idle : phase.idle? = some slot) :
    phase.serving? = some slot := by
  cases phase <;> simp_all [Phase.idle?, Phase.serving?]

theorem slot?_of_idle? {phase : Phase} {slot : SessionId} (idle : phase.idle? = some slot) :
    phase.slot? = some slot :=
  slot?_of_serving? (serving?_of_idle? idle)

section

variable {broker : Broker maxSessions maxSubs maxInflight maxRetained} {id : Nat} {conn : Conn} {input : Input}
  {result : Result maxSessions maxSubs maxInflight maxRetained} {slot : SessionId}

-- A step of one loop as another one sees it.
theorem Turn.noted_elsewhere (turn : Turn env broker id conn input result)
    (ordinary : Ordinary env broker id conn input result) (elsewhere : conn.phase.slot? ≠ some slot)
    (noted : Noted broker.registry broker.signals slot) :
    Noted result.broker.registry result.broker.signals slot := by
  cases turn with
  | connect waiting => exact absurd rfl (ordinary.unread waiting _ _)
  | removed waiting => exact absurd waiting (ordinary.unremoved _)
  | abandoned | unanswered | flushed | wrote | announced => exact noted
  | moved serving _ _ _ alone =>
    refine noted.congr rfl (alone slot ?_)
    rintro rfl
    exact elsewhere (slot?_of_serving? serving)
  | popped waiting =>
    refine noted.congr (SessionRegistry.get_put_ne _ ?_) rfl
    rintro rfl
    exact elsewhere (by rw [waiting]; rfl)
  | drained _ present | handled _ present =>
    refine noted.put present ?_
    rfl
  | served _ retries =>
    refine noted.of_maps (retries.retried.maps.mono ?_)
    rintro old new ⟨inflight, rfl, _⟩
    rfl
  | @published held _ _ activityNow _ _ session _ _ _ present handled =>
    have touched : Noted (touchedBroker broker held session activityNow).registry broker.signals slot :=
      noted.put present rfl
    rw [handled]
    exact handlePublishAt_noted _ _ _ _ _ _ _ touched
  | acknowledged _ present =>
    refine noted.of_maps ((acknowledged_maps present _ _).mono ?_)
    rintro old new ⟨_, _, rfl, _⟩
    rfl
  | delivered _ sent =>
    rw [sent]
    exact deliverLwts_noted _ _ _ noted

-- A loop comes to its wait with an empty outbox, and goes on waiting without touching it.
theorem Turn.noted_own (turn : Turn env broker id conn input result)
    (ordinary : Ordinary env broker id conn input result) (idle : result.conn.phase.idle? = some slot)
    (noted : conn.phase.idle? = some slot → Noted broker.registry broker.signals slot) :
    Noted result.broker.registry result.broker.signals slot := by
  have own {held : SessionId} (holds : result.conn.phase.slot? = some held) : held = slot := by
    rw [slot?_of_idle? idle] at holds
    cases holds
    rfl
  cases turn with
  | connect waiting => exact absurd rfl (ordinary.unread waiting _ _)
  | removed waiting => exact absurd waiting (ordinary.unremoved _)
  | abandoned | unanswered | popped | acknowledged | delivered => cases idle
  | moved _ continues _ _ _ busy =>
    cases own continues.slot
    rcases busy with busy | missing
    · rw [busy] at idle
      cases idle
    · intro session present
      rw [missing] at present
      cases present
  | flushed _ _ busy | wrote _ _ busy | published _ _ _ _ busy | handled _ _ _ busy =>
    rw [busy] at idle
    cases idle
  | drained _ present empty =>
    cases own rfl
    intro session stored waiting
    rw [SessionRegistry.get_put_self present] at stored
    cases stored
    exact absurd empty waiting
  | served waiting retries continues =>
    cases own continues.slot
    refine (noted (by rw [waiting]; rfl)).of_maps (retries.retried.maps.mono ?_)
    rintro old new ⟨inflight, rfl, _⟩
    rfl
  | announced _ _ leaving =>
    rw [serving?_of_idle? idle] at leaving
    cases leaving

end

structure Alert (system : System maxSessions maxSubs maxInflight maxRetained) : Prop where
  attached : Attached system
  noted : ∀ (id : Nat) (conn : Conn) slot, system.conns[id]? = some conn → conn.phase.idle? = some slot →
    Noted system.broker.registry system.broker.signals slot

section

variable {system next : System maxSessions maxSubs maxInflight maxRetained} {id : Nat} {conn after : Conn}
  {broker : Broker maxSessions maxSubs maxInflight maxRetained} {label : Label} {new : List Event}

theorem Alert.set (alert : Alert system) (found : system.conns[id]? = some conn)
    (attached : Attached ⟨broker, system.conns.set id after⟩)
    (own : ∀ slot, after.phase.idle? = some slot → Noted broker.registry broker.signals slot)
    (others : ∀ (other : Nat) (owner : Conn) slot, other ≠ id → system.conns[other]? = some owner →
      owner.phase.slot? = some slot → Noted system.broker.registry system.broker.signals slot →
      Noted broker.registry broker.signals slot) : Alert ⟨broker, system.conns.set id after⟩ where
  attached := attached
  noted other owner slot present idle := by
    rcases conn_of_set found present with ⟨rfl, rfl⟩ | ⟨different, old⟩
    · exact own slot idle
    · exact others other owner slot different old (slot?_of_idle? idle) (alert.noted other owner slot old idle)

theorem Alert.connected {packet : Connect} {now : Instant}
    {result : Result maxSessions maxSubs maxInflight maxRetained} (alert : Alert system)
    (found : system.conns[id]? = some conn)
    (unreused : ∀ conn ∈ system.conns, conn.phase.slot? ≠ none →
      ∀ accepted ∈ conn.accepted, accepted.clientId ≠ packet.clientId)
    (connected : Connected env system.broker id packet now result) :
    Alert ⟨result.broker, system.conns.set id result.conn⟩ := by
  refine alert.set found (alert.attached.connected found unreused connected) ?_ ?_
  · intro slot idle
    cases connected with
    | accepted => cases idle
    | refused _ _ left =>
      rw [slot?_of_idle? idle] at left
      cases left
  · intro other owner slot _ present holds noted
    obtain ⟨accepted, session, acceptedAs, stored, owned⟩ := alert.attached.session other owner slot present holds
    have foreign : session.clientId.items ≠ packet.clientId := by
      rw [owned]
      exact unreused owner (List.mem_of_getElem? present) (by simp [holds]) accepted acceptedAs
    cases connected with
    | @accepted registry outcome _ _ admission _ alone =>
      have kept := admission.get_other stored foreign
      have elsewhere : slot ≠ outcome.sessionId := by
        rintro rfl
        exact alert.attached.not_remembered unreused admission.accepted.claimed ⟨other, owner, present, holds⟩
      refine noted.congr ?_ (alone slot elsewhere (by simp [kept]))
      rw [SessionRegistry.get_put_ne _ elsewhere, kept, stored]
    | refused admission _ _ alone =>
      have kept := admission.get_other stored foreign
      exact noted.congr (kept.trans stored.symm) (alone slot (by simp [kept]))

theorem Alert.removed {slot : SessionId} (alert : Alert system) (found : system.conns[id]? = some conn)
    (waiting : conn.phase = .removeSession slot) :
    Alert ⟨removeStep system.broker slot, system.conns.set id { conn with phase := .closed }⟩ := by
  refine alert.set found (alert.attached.removed found waiting) (fun slot idle => by cases idle) ?_
  intro other owner held different present holds noted
  have elsewhere : held ≠ slot := by
    rintro rfl
    exact different (alert.attached.unique other id owner conn held present found holds (by rw [waiting]; rfl))
  refine noted.congr ?_ (Slots.get_set_ne _ _ elsewhere)
  rw [removeStep, SessionRegistry.get_remove, if_neg elsewhere]

theorem Alert.step (alert : Alert system) (unreused : Unreused system label)
    (taken : System.step env system label = some (next, new)) : Alert next := by
  have attached := alert.attached.step unreused taken
  cases step_transition taken with
  | spawned =>
    refine ⟨attached, fun id conn slot present idle => ?_⟩
    rcases conn_of_spawn present with old | rfl
    · exact alert.noted id conn slot old idle
    · cases idle
  | @outbound publish now broker sent =>
    refine ⟨attached, fun id conn slot found idle => ?_⟩
    rw [sent]
    exact processOutboundPublish_noted _ _ _ (alert.noted id conn slot found idle)
  | connected found _ connected => exact alert.connected found (unreused _ rfl) connected
  | removed found waiting => exact alert.removed found waiting
  | @ordinary id input conn result found turn ordinary =>
    refine alert.set found attached (fun slot idle => ?_) fun other owner slot different present holds noted => ?_
    · exact turn.noted_own ordinary idle fun before => alert.noted id conn slot found before
    · refine turn.noted_elsewhere ordinary (fun own => different ?_) noted
      exact alert.attached.unique other id owner conn slot present found holds own

end

theorem no_lost_wakeup {labels : List Label} {events : List Event}
    {system : System maxSessions maxSubs maxInflight maxRetained} {id : Nat} {conn : Conn} {slot : SessionId}
    {timerAfter : Duration} {session : SessionState maxSubs maxInflight}
    (run : Run (System.step env) Unreused .new labels events system) (found : system.conns[id]? = some conn)
    (suspended : conn.phase = .select slot timerAfter)
    (present : system.broker.registry.get slot = some session) (queued : session.outbox.items ≠ []) :
    system.broker.signals.get slot = some () := by
  have alert : Alert system := by
    refine run.invariant (P := fun _ system => Alert system) ⟨attached_new, fun id conn slot found => ?_⟩
      fun _ _ _ _ _ alert unreused taken => alert.step unreused taken
    simp [System.new] at found
  exact alert.noted id conn slot found (by rw [suspended]; rfl) session present queued

-- A subscriber waits while a message for it is published.
theorem no_lost_wakeup_of_publish : ∃ (system : System 2 1 1 1) (events : List Event) (conn : Conn)
    (session : SessionState 1 1),
    Run (System.step gatomqttEnv) Unreused .new
      (twoClients ++ [.publish 1 ⟨false, .atMostOnce, false, [116], [49]⟩]) events system ∧
    system.conns[0]? = some conn ∧ conn.phase = .select 0 maxWait ∧
    system.broker.registry.get 0 = some session ∧ session.outbox.items ≠ [] ∧
    system.broker.signals.get 0 = some () := by
  obtain ⟨system, events, run, tested⟩ : ∃ (system : System 2 1 1 1) (events : List Event),
      Run (System.step gatomqttEnv) Unreused .new
        (twoClients ++ [.publish 1 ⟨false, .atMostOnce, false, [116], [49]⟩]) events system ∧
      ((system.conns[0]?.any fun conn : Conn => decide (conn.phase = .select 0 maxWait)) &&
        (system.broker.registry.get 0).any fun session => decide (session.outbox.items ≠ [])) = true :=
    Execution.exists_run (by decide +kernel)
  obtain ⟨suspends, waits⟩ := Bool.and_eq_true_iff.mp tested
  obtain ⟨conn, found, phase⟩ := (Option.any_eq_true _ _).mp suspends
  obtain ⟨session, present, queued⟩ := (Option.any_eq_true _ _).mp waits
  exact ⟨system, events, conn, session, run, found, of_decide_eq_true phase, present, of_decide_eq_true queued,
    no_lost_wakeup run found (of_decide_eq_true phase) present (of_decide_eq_true queued)⟩

end PicoBroker
