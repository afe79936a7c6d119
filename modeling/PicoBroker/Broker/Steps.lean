import PicoBroker.Broker.Admission
import PicoBroker.Broker.Frames

set_option autoImplicit false

namespace PicoBroker

variable {maxSessions maxSubs maxInflight maxRetained : Nat}

def Resubscribes (input : Input) : Prop :=
  ∃ packet activityNow now accepts, input = .packet packet activityNow now accepts ∧
    ((∃ subscribe, packet = .subscribe subscribe) ∨ ∃ unsubscribe, packet = .unsubscribe unsubscribe)

def Bookkeeping : Event → Prop
  | .accepted _ _ _ => True
  | .created _ => True
  | .displaced _ => True
  | _ => False

-- A step that neither accepts a CONNECT nor removes a session.
structure Ordinary (env : Env) (broker : Broker maxSessions maxSubs maxInflight maxRetained) (id : Nat)
    (conn : Conn) (input : Input) (result : Result maxSessions maxSubs maxInflight maxRetained) : Prop where
  keeps : Maps Keeps broker.registry result.broker.registry
  subscriptions : ∀ slot old, broker.registry.get slot = some old →
    (conn.phase.serving? = some slot → ¬ Resubscribes input) →
    ∃ new, result.broker.registry.get slot = some new ∧ KeepsAll old new
  publishedLwts : result.broker.registry.publishedLwts = broker.registry.publishedLwts
  accepted : result.conn.accepted = conn.accepted
  started : result.conn.phase ≠ .awaitConnect
  slot : result.conn.phase.slot? = conn.phase.slot? ∨
    result.conn.phase = .closed ∧ (conn.phase.slot? = none ∨
      ∃ slot sessionPresent answer, conn.phase = .connack slot sessionPresent ∧ input = .write answer ∧
        (env.codec.encodeSlice (.connack ⟨sessionPresent, .accepted⟩) env.maxPacketSize = none ∨
          answer = false))
  serving : ∀ slot, result.conn.phase.serving? = some slot → conn.phase.serving? = some slot
  quiet : ∀ event ∈ result.events, ¬ Bookkeeping event
  wills : ∀ event ∈ result.events, ∀ other slot lwt, event = .willPublished other slot lwt →
    conn.phase.slot? = some slot ∧ conn.phase.serving? = none
  unread : conn.phase = .awaitConnect → ∀ packet now, input ≠ .firstPacket (.connect packet) now
  unremoved : ∀ slot, conn.phase ≠ .removeSession slot

theorem serving_of_slot {before after : Phase} {slot : SessionId} (same : after.slot? = before.slot?)
    (leaving : before.serving? = none → after.serving? = none) (serving : after.serving? = some slot) :
    before.serving? = some slot := by
  cases found : before.serving? with
  | none =>
    rw [leaving found] at serving
    cases serving
  | some other =>
    have here := slot?_of_serving? serving
    rw [same, slot?_of_serving? found] at here
    exact here

theorem started_of_slot? {phase : Phase} {slot : SessionId} (continues : phase.slot? = some slot) :
    phase ≠ .awaitConnect := by
  rintro rfl
  cases continues

section

variable {env : Env} {broker : Broker maxSessions maxSubs maxInflight maxRetained} {id : Nat} {conn : Conn}
  {input : Input}

-- The usual step: the loop goes on, never from its cleanup back to its main part.
theorem Ordinary.of_keepsAll {after : Broker maxSessions maxSubs maxInflight maxRetained} {phase : Phase}
    {events : List Event} (maps : Maps KeepsAll broker.registry after.registry)
    (publishedLwts : after.registry.publishedLwts = broker.registry.publishedLwts)
    (started : phase ≠ .awaitConnect) (slot : phase.slot? = conn.phase.slot?) (holds : conn.phase.slot? ≠ none)
    (unremoved : ∀ slot, conn.phase ≠ .removeSession slot)
    (leaving : conn.phase.serving? = none → phase.serving? = none)
    (quiet : ∀ event ∈ events, ¬ Bookkeeping event)
    (wills : ∀ event ∈ events, ∀ other slot lwt, event = .willPublished other slot lwt →
      conn.phase.slot? = some slot ∧ conn.phase.serving? = none) :
    Ordinary env broker id conn input ⟨after, { conn with phase := phase }, events⟩ where
  keeps := maps.mono fun _ _ kept => kept.toKeeps
  subscriptions slot old found _ := maps.present slot old found
  publishedLwts := publishedLwts
  accepted := rfl
  started := started
  slot := .inl slot
  serving _ servingAfter := serving_of_slot slot leaving servingAfter
  quiet := quiet
  wills := wills
  unread waiting := absurd (by rw [waiting]; rfl) holds
  unremoved := unremoved

theorem Ordinary.of_serving {after : Broker maxSessions maxSubs maxInflight maxRetained} {phase : Phase}
    {events : List Event} {slot : SessionId} (maps : Maps KeepsAll broker.registry after.registry)
    (publishedLwts : after.registry.publishedLwts = broker.registry.publishedLwts)
    (serving : conn.phase.serving? = some slot) (continues : phase.slot? = some slot)
    (quiet : ∀ event ∈ events, ¬ Bookkeeping event ∧ ∀ other slot lwt, event ≠ .willPublished other slot lwt) :
    Ordinary env broker id conn input ⟨after, { conn with phase := phase }, events⟩ := by
  refine .of_keepsAll maps publishedLwts (started_of_slot? continues)
    (continues.trans (slot?_of_serving? serving).symm) (by simp [slot?_of_serving? serving]) ?_ ?_
    (fun event member => (quiet event member).1)
    (fun event member other slot lwt same => absurd same ((quiet event member).2 other slot lwt))
  · intro slot left
    rw [left] at serving
    cases serving
  · intro left
    rw [serving] at left
    cases left

theorem Ordinary.of_closed {events : List Event}
    (left : conn.phase.slot? = none ∨
      ∃ slot sessionPresent answer, conn.phase = .connack slot sessionPresent ∧ input = .write answer ∧
        (env.codec.encodeSlice (.connack ⟨sessionPresent, .accepted⟩) env.maxPacketSize = none ∨
          answer = false))
    (quiet : ∀ event ∈ events, ¬ Bookkeeping event ∧ ∀ other slot lwt, event ≠ .willPublished other slot lwt)
    (unread : ∀ packet now, input ≠ .firstPacket (.connect packet) now) :
    Ordinary env broker id conn input ⟨broker, { conn with phase := .closed }, events⟩ where
  keeps := .of_eq Keeps.refl fun _ => rfl
  subscriptions slot old found _ := ⟨old, found, .refl old⟩
  publishedLwts := rfl
  accepted := rfl
  started := by simp
  slot := .inr ⟨rfl, left⟩
  serving slot servingAfter := by cases servingAfter
  quiet event member := (quiet event member).1
  wills event member other slot lwt same := absurd same ((quiet event member).2 other slot lwt)
  unread _ := unread
  unremoved slot waiting := by
    rw [waiting] at left
    simp [Phase.slot?] at left

-- Only a SUBSCRIBE or an UNSUBSCRIBE changes the subscriptions, and only those of the loop's own slot.
theorem Ordinary.of_handled {slot : SessionId} {timer : Duration} {packet : Packet} {activityNow now : Instant}
    {accepts : Bool} {session : SessionState maxSubs maxInflight} {phase : Phase}
    (waiting : conn.phase = .select slot timer) (present : broker.registry.get slot = some session)
    (continues : Continues slot phase) :
    Ordinary env broker id conn (.packet packet activityNow now accepts)
      ⟨{ broker with
          registry := broker.registry.put slot { session.updateActivityAt activityNow with
            subscriptions := resubscribed session.subscriptions packet } },
        { conn with phase := phase }, []⟩ := by
  have serving : conn.phase.serving? = some slot := by rw [waiting]; rfl
  have stays : phase.slot? = conn.phase.slot? := continues.slot.trans (slot?_of_serving? serving).symm
  refine ⟨.put Keeps.refl present ⟨rfl, rfl⟩, ?_, rfl, rfl, started_of_slot? continues.slot, .inl stays, ?_,
    by simp, by simp, by simp, by simp [waiting]⟩
  · intro other old found unchanged
    dsimp only
    rw [SessionRegistry.get_put present]
    split
    · next here =>
      subst here
      rw [present] at found
      cases found
      have quiet := unchanged serving
      have same : resubscribed session.subscriptions packet = session.subscriptions :=
        resubscribed_of_ne
          (fun _ isSubscribe => quiet ⟨packet, activityNow, now, accepts, rfl, .inl ⟨_, isSubscribe⟩⟩)
          (fun _ isUnsubscribe => quiet ⟨packet, activityNow, now, accepts, rfl, .inr ⟨_, isUnsubscribe⟩⟩)
      exact ⟨_, rfl, ⟨rfl, rfl⟩, same⟩
    · exact ⟨old, found, .refl old⟩
  · intro other servingAfter
    refine serving_of_slot stays ?_ servingAfter
    intro left
    rw [serving] at left
    cases left

theorem mem_queuedAt {before after : SessionRegistry maxSessions maxSubs maxInflight} {slot : SessionId}
    {event : Event} (member : event ∈ queuedAt before after slot) :
    ∃ old new packet, before.get slot = some old ∧ after.get slot = some new ∧
      packet ∈ new.outbox.items.drop old.outbox.items.length ∧ event = .queued slot new.clientId packet := by
  unfold queuedAt at member
  split at member
  · next old new found kept =>
    obtain ⟨packet, queued, rfl⟩ := List.mem_map.mp member
    exact ⟨old, new, packet, found, kept, queued, rfl⟩
  · cases member

theorem mem_untrackedAt {before after : SessionRegistry maxSessions maxSubs maxInflight} {slot : SessionId}
    {event : Event} (member : event ∈ untrackedAt before after slot) :
    ∃ old new, before.get slot = some old ∧ after.get slot = some new ∧ new.outbox ≠ old.outbox ∧
      new.packetIdCounter ≠ old.packetIdCounter ∧ new.inflight = old.inflight ∧
      event = .untracked slot new.packetIdCounter := by
  unfold untrackedAt at member
  split at member
  · next old new found kept =>
    split at member
    · next changed =>
      obtain ⟨outbox, counter, inflight⟩ := changed
      exact ⟨old, new, found, kept, outbox, counter, inflight, List.mem_singleton.mp member⟩
    · cases member
  · cases member

def RoutingEvent : Event → Prop
  | .queued _ _ _ => True
  | .untracked _ _ => True
  | _ => False

theorem routedEvents_routing {before after : SessionRegistry maxSessions maxSubs maxInflight} {event : Event}
    (member : event ∈ routedEvents before after) : RoutingEvent event := by
  obtain ⟨slot, _, here⟩ := List.mem_flatMap.mp member
  rcases List.mem_append.mp here with queued | untracked
  · obtain ⟨_, _, _, _, _, _, rfl⟩ := mem_queuedAt queued
    trivial
  · obtain ⟨_, _, _, _, _, _, _, rfl⟩ := mem_untrackedAt untracked
    trivial

theorem willEvents_routing {before after : SessionRegistry maxSessions maxSubs maxInflight} {event : Event}
    {deliveries : List (SessionId × QoS)} (member : event ∈ willEvents before after deliveries) :
    RoutingEvent event := by
  obtain ⟨slot, _, here⟩ := List.mem_flatMap.mp member
  have queuedRouting (queued : event ∈ queuedAt before after slot) : RoutingEvent event := by
    obtain ⟨_, _, _, _, _, _, rfl⟩ := mem_queuedAt queued
    trivial
  split at here
  · cases here
  · split at here
    · rcases List.mem_append.mp here with queued | untracked
      · exact queuedRouting queued
      · rw [List.mem_singleton.mp untracked]
        trivial
    · exact queuedRouting here

theorem RoutingEvent.quiet {event : Event} (routing : RoutingEvent event) :
    ¬ Bookkeeping event ∧ ∀ other slot lwt, event ≠ .willPublished other slot lwt := by
  cases event <;> simp_all [RoutingEvent, Bookkeeping]

theorem writeEvents_quiet {slot : SessionId} {packet : Packet} {event : Event}
    (member : event ∈ writeEvents id slot packet) :
    ¬ Bookkeeping event ∧ ∀ other slot lwt, event ≠ .willPublished other slot lwt := by
  rcases List.mem_cons.mp member with rfl | untracked
  · simp [Bookkeeping]
  · split at untracked
    · obtain ⟨pid, _, rfl⟩ := List.mem_map.mp untracked
      simp [Bookkeeping]
    · cases untracked

theorem Turn.ordinary {result : Result maxSessions maxSubs maxInflight maxRetained}
    (turn : Turn env broker id conn input result) :
    (∃ packet now, input = .firstPacket (.connect packet) now ∧ conn.phase = .awaitConnect ∧
      result = connectStep env broker id packet now) ∨
    (∃ slot, conn.phase = .removeSession slot ∧
      result = ⟨removeStep broker slot, { conn with phase := .closed }, []⟩) ∨
    Ordinary env broker id conn input result := by
  have same : Maps KeepsAll broker.registry broker.registry := .of_eq KeepsAll.refl fun _ => rfl
  have wroteQuiet (events : List Event) (wrote : ∀ event ∈ events, ∃ packet, event = .wrote id packet) :
      ∀ event ∈ events, ¬ Bookkeeping event ∧ ∀ other slot lwt, event ≠ .willPublished other slot lwt := by
    intro event member
    obtain ⟨packet, rfl⟩ := wrote event member
    simp [Bookkeeping]
  cases turn with
  | connect waiting => exact .inl ⟨_, _, rfl, waiting, rfl⟩
  | removed waiting => exact .inr (.inl ⟨_, waiting, rfl⟩)
  | abandoned waiting quiet unread =>
    exact .inr (.inr (.of_closed (.inl waiting) (wroteQuiet _ quiet) unread))
  | unanswered waiting failed quiet =>
    exact .inr (.inr (.of_closed (.inr ⟨_, _, _, waiting, rfl, failed⟩) (wroteQuiet _ quiet) (by simp)))
  | moved serving continues quiet =>
    exact .inr (.inr (.of_serving same rfl serving continues.slot (wroteQuiet _ quiet)))
  | flushed waiting continues =>
    exact .inr (.inr (.of_serving same rfl (by rw [waiting]; rfl) continues.slot (by simp [Bookkeeping])))
  | wrote waiting continues =>
    exact .inr (.inr (.of_serving same rfl (by rw [waiting]; rfl) continues.slot
      fun _ member => writeEvents_quiet member))
  | popped waiting present front =>
    exact .inr (.inr (.of_serving (.put KeepsAll.refl present ⟨⟨rfl, rfl⟩, rfl⟩) rfl (by rw [waiting]; rfl)
      rfl (by simp)))
  | drained waiting present =>
    exact .inr (.inr (.of_serving (.put KeepsAll.refl present ⟨⟨rfl, rfl⟩, rfl⟩) rfl (by rw [waiting]; rfl)
      rfl (by simp)))
  | served waiting retries continues =>
    have maps : Maps KeepsAll broker.registry _ := retries.retried.maps.mono fun old new kept => by
      obtain ⟨inflight, rfl, _⟩ := kept
      exact ⟨⟨rfl, rfl⟩, rfl⟩
    exact .inr (.inr (.of_serving maps retries.retried.publishedLwts (by rw [waiting]; rfl) continues.slot
      (by simp [Bookkeeping])))
  | published waiting present handled continues =>
    have maps := (published_maps present handled).mono fun _ _ routed => routed.keepsAll
    have lwts := congrArg (fun outcome => outcome.broker.registry.publishedLwts) handled
    refine .inr (.inr (.of_serving maps (lwts.trans (handlePublishAt_publishedLwts ..))
      (by rw [waiting]; rfl) continues.slot ?_))
    intro event member
    rcases List.mem_append.mp member with routed | given
    · exact (routedEvents_routing routed).quiet
    · obtain ⟨_, _, rfl⟩ := List.mem_map.mp given
      simp [Bookkeeping]
  | @acknowledged _ _ pid activityNow _ _ _ waiting present =>
    have maps : Maps KeepsAll broker.registry _ :=
      (acknowledged_maps present activityNow pid.value).mono fun old new kept => by
        obtain ⟨_, _, rfl, _⟩ := kept
        exact ⟨⟨rfl, rfl⟩, rfl⟩
    exact .inr (.inr (.of_serving maps (acknowledge_publishedLwts ..) (by rw [waiting]; rfl) rfl
      (by simp [Bookkeeping])))
  | handled waiting present continues => exact .inr (.inr (.of_handled waiting present continues))
  | announced waiting continues leaving shown =>
    refine .inr (.inr (.of_keepsAll same rfl (started_of_slot? continues)
      (by rw [continues, waiting]; rfl) (by simp [waiting, Phase.slot?]) (by simp [waiting])
      (fun _ => leaving) ?_ ?_))
    · intro event member
      obtain ⟨lwt, rfl⟩ := shown event member
      simp [Bookkeeping]
    · intro event member other slot lwt shownAs
      obtain ⟨_, rfl⟩ := shown event member
      cases shownAs
      rw [waiting]
      exact ⟨rfl, rfl⟩
  | @delivered slot lwt deliveries state waiting sent =>
    have extended := deliverLwts_maps env.codec lwt (broker.registry, broker.signals) deliveries
    rw [← sent] at extended
    have maps : Maps KeepsAll broker.registry state.1 := extended.mono fun old new kept => by
      obtain ⟨outbox, rfl, _⟩ := kept
      exact ⟨⟨rfl, rfl⟩, rfl⟩
    refine .inr (.inr (.of_keepsAll maps ?_ (by simp) (by rw [waiting]; rfl) (by simp [waiting, Phase.slot?])
      (by simp [waiting]) (fun _ => rfl) ?_ ?_))
    · rw [sent]
      exact deliverLwts_publishedLwts ..
    · exact fun _ member => (willEvents_routing member).quiet.1
    · exact fun _ member _ _ _ shownAs => absurd shownAs ((willEvents_routing member).quiet.2 _ _ _)

end

inductive Connected (env : Env) (broker : Broker maxSessions maxSubs maxInflight maxRetained) (id : Nat)
    (packet : Connect) (now : Instant) : Result maxSessions maxSubs maxInflight maxRetained → Prop
  | accepted {registry : SessionRegistry maxSessions maxSubs maxInflight} {outcome : ConnectOutcome}
      {session : SessionState maxSubs maxInflight} {signals : SessionSignals maxSessions}
      (admission : Admission broker.registry packet env.houseToken registry (.ok (.accepted outcome)))
      (present : registry.get outcome.sessionId = some session)
      (alone : ∀ other, other ≠ outcome.sessionId → registry.get other ≠ none →
        signals.get other = broker.signals.get other) :
      Connected env broker id packet now
        ⟨{ broker with
            registry := registry.put outcome.sessionId { session with
              rate := .new env.config.rateCapacity env.config.ratePerSec, lastActivity := now }
            signals := signals },
          ⟨.connack outcome.sessionId outcome.sessionPresent, some packet⟩,
          .accepted id outcome.sessionId packet.clientId ::
            (if outcome.sessionPresent then [] else [.created outcome.sessionId]) ++
              outcome.displacedLwt.toList.map .displaced⟩
  | refused {registry : SessionRegistry maxSessions maxSubs maxInflight}
      {result : Except ConnectError PreparedConnect} {signals : SessionSignals maxSessions} {phase : Phase}
      (admission : Admission broker.registry packet env.houseToken registry result)
      (failed : Failed result) (left : phase.slot? = none)
      (alone : ∀ other, registry.get other ≠ none → signals.get other = broker.signals.get other) :
      Connected env broker id packet now
        ⟨{ broker with registry := registry, signals := signals }, ⟨phase, none⟩,
          createdEvents broker.registry registry⟩

theorem mem_createdEvents {before after : SessionRegistry maxSessions maxSubs maxInflight} {event : Event}
    (member : event ∈ createdEvents before after) : ∃ slot, event = .created slot := by
  obtain ⟨slot, _, here⟩ := List.mem_flatMap.mp member
  split at here
  · exact ⟨slot, List.mem_singleton.mp here⟩
  · cases here

theorem bookkeeping_of_accepted {outcome : ConnectOutcome} {id : Nat} {clientId : Bytes} {event : Event}
    (member : event ∈ .accepted id outcome.sessionId clientId ::
      (if outcome.sessionPresent then [] else [.created outcome.sessionId]) ++
        outcome.displacedLwt.toList.map .displaced) : Bookkeeping event := by
  rcases List.mem_cons.mp member with rfl | tail
  · trivial
  · rcases List.mem_append.mp tail with created | displaced
    · split at created
      · cases created
      · rw [List.mem_singleton.mp created]
        trivial
    · obtain ⟨_, _, rfl⟩ := List.mem_map.mp displaced
      trivial

theorem bookkeeping_of_created {before after : SessionRegistry maxSessions maxSubs maxInflight} {event : Event}
    (member : event ∈ createdEvents before after) : Bookkeeping event := by
  obtain ⟨_, rfl⟩ := mem_createdEvents member
  trivial

theorem Connected.bookkeeping {env : Env} {broker : Broker maxSessions maxSubs maxInflight maxRetained} {id : Nat}
    {packet : Connect} {now : Instant} {result : Result maxSessions maxSubs maxInflight maxRetained}
    (connected : Connected env broker id packet now result) {event : Event} (member : event ∈ result.events) :
    Bookkeeping event := by
  cases connected with
  | accepted => exact bookkeeping_of_accepted member
  | refused => exact bookkeeping_of_created member

theorem mem_createdEvents_of_ne {before after : SessionRegistry maxSessions maxSubs maxInflight}
    {slot : SessionId} {session : SessionState maxSubs maxInflight} (present : after.get slot = some session)
    (changed : after.get slot ≠ before.get slot) : .created slot ∈ createdEvents before after := by
  refine List.mem_flatMap.mpr ⟨slot, List.mem_range.mpr (Slots.lt_of_get present), ?_⟩
  rw [if_pos ⟨by simp [present], changed⟩]
  exact List.mem_singleton_self _

theorem changed_of_created {before after : SessionRegistry maxSessions maxSubs maxInflight} {slot : SessionId}
    (created : .created slot ∈ createdEvents before after) : after.get slot ≠ before.get slot := by
  obtain ⟨other, _, here⟩ := List.mem_flatMap.mp created
  split at here
  · next changed =>
    cases List.mem_singleton.mp here
    exact changed.2
  · cases here

theorem not_mem_createdEvents {before after : SessionRegistry maxSessions maxSubs maxInflight}
    {event : Event} (other : ∀ slot, event ≠ .created slot) : event ∉ createdEvents before after := by
  intro member
  obtain ⟨slot, same⟩ := mem_createdEvents member
  exact other slot same

theorem resetEmptySessionSignals_get {registry : SessionRegistry maxSessions maxSubs maxInflight}
    (signals : SessionSignals maxSessions) {slot : SessionId} (occupied : registry.get slot ≠ none) :
    (resetEmptySessionSignals registry signals).get slot = signals.get slot := by
  have kept (ids : List SessionId) (signals : SessionSignals maxSessions) :
      (ids.foldl (fun signals id => if (registry.get id).isNone then resetSessionSignal signals id else signals)
        signals).get slot = signals.get slot := by
    induction ids generalizing signals with
    | nil => rfl
    | cons id rest ih =>
      rw [List.foldl_cons, ih]
      split
      · next empty =>
        refine Slots.get_set_ne _ _ ?_
        rintro rfl
        exact occupied (Option.isNone_iff_eq_none.mp empty)
      · rfl
  exact kept _ signals

theorem connectStep_connected (env : Env) (broker : Broker maxSessions maxSubs maxInflight maxRetained)
    (id : Nat) (packet : Connect) (now : Instant) :
    Connected env broker id packet now (connectStep env broker id packet now) := by
  have admission := prepareConnect_spec broker.registry packet env.houseToken
  unfold connectStep
  generalize prepareConnect broker.registry packet env.houseToken = prepared at admission ⊢
  rcases prepared with ⟨registry, error | outcome | code⟩
  · exact .refused admission trivial rfl fun _ occupied => resetEmptySessionSignals_get _ occupied
  · obtain ⟨session, present, _⟩ := admission.accepted.present
    simp only [afterAccept, present]
    refine .accepted admission present fun other different occupied => ?_
    rw [resetSessionSignal, Slots.get_set_ne _ _ different, resetEmptySessionSignals_get]
    rwa [SessionRegistry.get_put_ne _ different]
  · exact .refused admission trivial rfl fun _ occupied => resetEmptySessionSignals_get _ occupied

theorem created_mem_accepted {id : Nat} {outcome : ConnectOutcome} {clientId : Bytes} {slot : SessionId} :
    .created slot ∈ .accepted id outcome.sessionId clientId ::
        (if outcome.sessionPresent then [] else [.created outcome.sessionId]) ++
          outcome.displacedLwt.toList.map Event.displaced ↔
      outcome.sessionPresent = false ∧ slot = outcome.sessionId := by
  cases outcome.sessionPresent <;> simp

inductive Seated (env : Env) (broker : Broker maxSessions maxSubs maxInflight maxRetained) (packet : Connect)
    (events : List Event) (slot : SessionId) (session : SessionState maxSubs maxInflight) : Prop
  | untouched (same : broker.registry.get slot = some session) (uncreated : .created slot ∉ events)
  | resumed {old : SessionState maxSubs maxInflight} {lwt : Option LwtMessage} {rate : TokenBucket}
      {lastActivity : Instant} (admissible : Admissible packet env.houseToken)
      (resumed : resumable broker.registry packet = some slot) (found : broker.registry.get slot = some old)
      (same : session = { old with
        lwt := lwt, keepaliveSecs := packet.keepAlive, quarantined := false, outboxDrops := 0, rate := rate,
        lastActivity := lastActivity })
      (uncreated : .created slot ∉ events)
  | created {clientId : ClientId} {lwt : Option LwtMessage} {rate : TokenBucket} {lastActivity : Instant}
      (admissible : Admissible packet env.houseToken) (fresh : resumable broker.registry packet = none)
      (claimed : claimedSlot broker.registry packet = some slot) (owner : clientId.items = packet.clientId)
      (same : session = { SessionState.new clientId packet.keepAlive with
        lwt := lwt, rate := rate, lastActivity := lastActivity })
      (created : .created slot ∈ events)

theorem Connected.seated {env : Env} {broker : Broker maxSessions maxSubs maxInflight maxRetained} {id : Nat}
    {packet : Connect} {now : Instant} {result : Result maxSessions maxSubs maxInflight maxRetained}
    (connected : Connected env broker id packet now result) {slot : SessionId}
    {session : SessionState maxSubs maxInflight} (kept : result.broker.registry.get slot = some session) :
    Seated env broker packet result.events slot session := by
  cases connected with
  | @accepted registry outcome stored _ admission present =>
    have accepted := admission.accepted
    have admissible := admission.admissible_of_accepted
    rw [SessionRegistry.get_put present] at kept
    split at kept
    · next here =>
      subst here
      cases kept
      by_cases resumed : outcome.sessionPresent = true
      · obtain ⟨old, lwt, found, after⟩ := accepted.resumed resumed
        rw [present] at after
        cases after
        refine .resumed admissible (admission.resumable_of_present resumed) found rfl ?_
        rw [created_mem_accepted, resumed]
        simp
      · have absent := Bool.eq_false_of_not_eq_true resumed
        obtain ⟨clientId, lwt, owner, after⟩ := accepted.fresh absent
        rw [present] at after
        cases after
        exact .created admissible (admission.fresh_of_absent absent) accepted.claimed owner rfl
          (created_mem_accepted.mpr ⟨absent, rfl⟩)
    · next elsewhere =>
      have before := accepted.others slot elsewhere
      rw [kept] at before
      split at before
      · cases before
      · exact .untouched before.symm fun created => elsewhere (created_mem_accepted.mp created).2
  | @refused registry _ _ _ admission failed _ =>
    by_cases same : registry.get slot = broker.registry.get slot
    · exact .untouched (same.symm.trans kept) fun created => changed_of_created created same
    · obtain ⟨admissible, fresh, claimed, clientId, lwt, owner, shape⟩ := admission.fresh_of_failed failed kept same
      exact .created admissible fresh claimed owner shape (mem_createdEvents_of_ne kept same)

theorem Seated.unclaimed {env : Env} {broker : Broker maxSessions maxSubs maxInflight maxRetained}
    {packet : Connect} {events : List Event} {slot : SessionId} {session : SessionState maxSubs maxInflight}
    (seated : Seated env broker packet events slot session)
    (unclaimed : Admissible packet env.houseToken → claimedSlot broker.registry packet ≠ some slot) :
    broker.registry.get slot = some session := by
  cases seated with
  | untouched same => exact same
  | resumed admissible resumed => exact absurd (claimedSlot_of_resumable resumed) (unclaimed admissible)
  | created admissible _ claimed => exact absurd claimed (unclaimed admissible)

inductive Transition (env : Env) (system : System maxSessions maxSubs maxInflight maxRetained) :
    Label → System maxSessions maxSubs maxInflight maxRetained → List Event → Prop
  | spawned : Transition env system .spawn
      { system with conns := system.conns ++ [⟨.awaitConnect, none⟩] } []
  | outbound {publish : MqttPublish} {now : Instant}
      {broker : Broker maxSessions maxSubs maxInflight maxRetained}
      (sent : broker = (processOutboundPublish env.codec system.broker publish now).1) :
      Transition env system (.outbound publish now) { system with broker := broker }
        (routedEvents system.broker.registry broker.registry)
  | connected {id : Nat} {packet : Connect} {now : Instant} {conn : Conn}
      {result : Result maxSessions maxSubs maxInflight maxRetained} (found : system.conns[id]? = some conn)
      (waiting : conn.phase = .awaitConnect) (connected : Connected env system.broker id packet now result) :
      Transition env system (.conn id (.firstPacket (.connect packet) now))
        ⟨result.broker, system.conns.set id result.conn⟩ result.events
  | removed {id : Nat} {input : Input} {conn : Conn} {slot : SessionId}
      (found : system.conns[id]? = some conn) (waiting : conn.phase = .removeSession slot) :
      Transition env system (.conn id input)
        ⟨removeStep system.broker slot, system.conns.set id { conn with phase := .closed }⟩ []
  | ordinary {id : Nat} {input : Input} {conn : Conn}
      {result : Result maxSessions maxSubs maxInflight maxRetained} (found : system.conns[id]? = some conn)
      (turn : Turn env system.broker id conn input result)
      (ordinary : Ordinary env system.broker id conn input result) :
      Transition env system (.conn id input) ⟨result.broker, system.conns.set id result.conn⟩ result.events

theorem step_transition {env : Env} {system next : System maxSessions maxSubs maxInflight maxRetained}
    {label : Label} {new : List Event} (taken : System.step env system label = some (next, new)) :
    Transition env system label next new := by
  cases label with
  | spawn =>
    cases taken
    exact .spawned
  | outbound publish now =>
    cases taken
    exact .outbound rfl
  | conn id input =>
    obtain ⟨conn, result, found, stepped, rfl, rfl⟩ := step_conn taken
    have turn := connStep_turn stepped
    rcases turn.ordinary with ⟨packet, now, rfl, waiting, rfl⟩ | ⟨slot, waiting, rfl⟩ | ordinary
    · exact .connected found waiting (connectStep_connected ..)
    · exact .removed found waiting
    · exact .ordinary found turn ordinary

theorem step_connect {env : Env} {system next : System maxSessions maxSubs maxInflight maxRetained} {id : Nat}
    {packet : Connect} {now : Instant} {new : List Event}
    (taken : System.step env system (.conn id (.firstPacket (.connect packet) now)) = some (next, new)) :
    ∃ conn result, system.conns[id]? = some conn ∧ conn.phase = .awaitConnect ∧
      Connected env system.broker id packet now result ∧
      next = ⟨result.broker, system.conns.set id result.conn⟩ ∧ new = result.events := by
  obtain ⟨conn, result, found, stepped, reached, shown⟩ := step_conn taken
  unfold connStep at stepped
  cases waiting : conn.phase with
  | awaitConnect =>
    rw [waiting] at stepped
    cases stepped
    exact ⟨conn, _, found, waiting, connectStep_connected .., reached, shown⟩
  | _ =>
    rw [waiting] at stepped
    cases stepped

section

variable {env : Env} {system next : System maxSessions maxSubs maxInflight maxRetained} {label : Label}
  {new : List Event} {slot : SessionId} {session : SessionState maxSubs maxInflight}

def Label.Connects (label : Label) : Prop :=
  ∃ id packet now, label = .conn id (.firstPacket (.connect packet) now)

theorem step_present (taken : System.step env system label = some (next, new)) (unread : ¬ label.Connects)
    (kept : next.broker.registry.get slot = some session) :
    ∃ old, system.broker.registry.get slot = some old := by
  cases step_transition taken with
  | spawned => exact ⟨session, kept⟩
  | outbound sent =>
    subst sent
    obtain ⟨old, found, _⟩ := (processOutboundPublish_maps ..).of_present kept
    exact ⟨old, found⟩
  | connected => exact absurd ⟨_, _, _, rfl⟩ unread
  | removed =>
    rw [removeStep, SessionRegistry.get_remove] at kept
    split at kept
    · cases kept
    · exact ⟨session, kept⟩
  | ordinary _ _ ordinary =>
    obtain ⟨old, found, _⟩ := ordinary.keeps.of_present kept
    exact ⟨old, found⟩

theorem step_quiet (taken : System.step env system label = some (next, new)) (unread : ¬ label.Connects) :
    ∀ event ∈ new, ¬ Bookkeeping event := by
  cases step_transition taken with
  | spawned => simp
  | outbound _ => exact fun event member => (routedEvents_routing member).quiet.1
  | connected => exact absurd ⟨_, _, _, rfl⟩ unread
  | removed => simp
  | ordinary _ _ ordinary => exact ordinary.quiet

end

end PicoBroker
