import PicoBroker.Invariants.Ownership
import PicoBroker.Invariants.ReferenceRuns
import PicoBroker.Invariants.Sources

set_option autoImplicit false

namespace PicoBroker

open Execution (Run Anything)

variable {maxSessions maxSubs maxInflight maxRetained : Nat} {env : Env}

def Sent (events : List Event) (clientId : ClientId) (packet : OutboundPacket) : Prop :=
  ∃ slot, .queued slot clientId packet ∈ events

theorem Sent.append {events : List Event} {clientId : ClientId} {packet : OutboundPacket}
    (sent : Sent events clientId packet) (new : List Event) : Sent (events ++ new) clientId packet := by
  obtain ⟨slot, member⟩ := sent
  exact ⟨slot, List.mem_append_left _ member⟩

theorem Sent.later {new : List Event} {clientId : ClientId} {packet : OutboundPacket}
    (sent : Sent new clientId packet) (events : List Event) : Sent (events ++ new) clientId packet := by
  obtain ⟨slot, member⟩ := sent
  exact ⟨slot, List.mem_append_right _ member⟩

section

variable {before after : SessionRegistry maxSessions maxSubs maxInflight} {clientId : ClientId}
  {packet : OutboundPacket}

theorem queuedAt_of_grows {slot : SessionId} {old new : SessionState maxSubs maxInflight}
    (found : before.get slot = some old) (kept : after.get slot = some new) (grows : Grows old new)
    (member : packet ∈ new.outbox.items) :
    packet ∈ old.outbox.items ∨ .queued slot new.clientId packet ∈ queuedAt before after slot := by
  obtain ⟨rest, grown⟩ := grows.2
  rw [← grown] at member
  refine (List.mem_append.mp member).imp_right fun appended => ?_
  simp [queuedAt, found, kept, ← grown, appended]

theorem mem_willEvents {slot : SessionId} {deliveries : List (SessionId × QoS)} {event : Event}
    (inside : slot < maxSessions) (member : event ∈ queuedAt before after slot) :
    event ∈ willEvents before after deliveries := by
  refine List.mem_flatMap.mpr ⟨slot, List.mem_range.mpr inside, ?_⟩
  split
  · next none =>
    rw [none] at member
    cases member
  · split
    · exact List.mem_append_left _ member
    · exact member

theorem mem_routedEvents {slot : SessionId} {event : Event} (inside : slot < maxSessions)
    (member : event ∈ queuedAt before after slot) : event ∈ routedEvents before after :=
  List.mem_flatMap.mpr ⟨slot, List.mem_range.mpr inside, List.mem_append_left _ member⟩

theorem outbox_of_grows {new : List Event} (maps : Maps Grows before after)
    (shows : ∀ slot event, slot < maxSessions → event ∈ queuedAt before after slot → event ∈ new)
    (queued : InOutbox after clientId packet) : InOutbox before clientId packet ∨ Sent new clientId packet := by
  obtain ⟨slot, session, kept, rfl, member⟩ := queued
  obtain ⟨old, found, grows⟩ := maps.of_present kept
  rcases queuedAt_of_grows found kept grows member with earlier | now
  · exact .inl ⟨slot, old, found, grows.1.symm, earlier⟩
  · exact .inr ⟨slot, shows slot _ (Slots.lt_of_get kept) now⟩

-- A step that appends to no outbox.
theorem InOutbox.of_maps
    (maps : Maps (fun old new => new.clientId = old.clientId ∧
      ∀ packet ∈ new.outbox.items, packet ∈ old.outbox.items) before after)
    (queued : InOutbox after clientId packet) : InOutbox before clientId packet := by
  obtain ⟨slot, session, kept, rfl, member⟩ := queued
  obtain ⟨old, found, same, fewer⟩ := maps.of_present kept
  exact ⟨slot, old, found, same.symm, fewer packet member⟩

theorem InOutbox.of_put {slot : SessionId} {old new : SessionState maxSubs maxInflight}
    (queued : InOutbox (before.put slot new) clientId packet) (present : before.get slot = some old)
    (same : new.clientId = old.clientId) (fewer : ∀ packet ∈ new.outbox.items, packet ∈ old.outbox.items) :
    InOutbox before clientId packet :=
  queued.of_maps (.put (fun _ => ⟨rfl, fun _ member => member⟩) present ⟨same, fewer⟩)

theorem InOutbox.of_remove {slot : SessionId} (queued : InOutbox (before.remove slot).2 clientId packet) :
    InOutbox before clientId packet := by
  obtain ⟨other, session, kept, rest⟩ := queued
  rw [SessionRegistry.get_remove] at kept
  split at kept
  · cases kept
  · exact ⟨other, session, kept, rest⟩

end

theorem Connected.outbox {broker : Broker maxSessions maxSubs maxInflight maxRetained} {id : Nat}
    {connect : Connect} {now : Instant} {result : Result maxSessions maxSubs maxInflight maxRetained}
    (connected : Connected env broker id connect now result) {clientId : ClientId} {packet : OutboundPacket}
    (queued : InOutbox result.broker.registry clientId packet) :
    InOutbox broker.registry clientId packet := by
  obtain ⟨slot, session, kept, owner, member⟩ := queued
  cases connected.seated kept with
  | untouched same => exact ⟨slot, session, same, owner, member⟩
  | resumed _ _ found same =>
    subst same
    exact ⟨slot, _, found, owner, member⟩
  | created _ _ _ _ same =>
    subst same
    cases member

theorem Turn.outbox {broker : Broker maxSessions maxSubs maxInflight maxRetained} {id : Nat} {conn : Conn}
    {input : Input} {result : Result maxSessions maxSubs maxInflight maxRetained}
    (turn : Turn env broker id conn input result) {clientId : ClientId} {packet : OutboundPacket}
    (queued : InOutbox result.broker.registry clientId packet) :
    InOutbox broker.registry clientId packet ∨ Sent result.events clientId packet := by
  cases turn with
  | connect _ => exact .inl ((connectStep_connected ..).outbox queued)
  | abandoned | unanswered | moved | flushed | wrote | announced => exact .inl queued
  | popped _ present front =>
    refine .inl (queued.of_put present rfl fun other member => ?_)
    rw [Bounded.popFront_eq_some.mp front]
    exact List.mem_cons_of_mem _ member
  | drained _ present => exact .inl (queued.of_put present rfl fun _ member => member)
  | handled _ present _ _ => exact .inl (queued.of_put present rfl fun _ member => member)
  | served _ retries _ =>
    refine .inl (queued.of_maps (retries.retried.maps.mono ?_))
    rintro old new ⟨inflight, rfl, _⟩
    exact ⟨rfl, fun _ member => member⟩
  | published _ present handled _ =>
    refine outbox_of_grows ((published_maps present handled).mono fun _ _ routed => routed.grows) ?_ queued
    intro slot event inside member
    exact List.mem_append_left _ (mem_routedEvents inside member)
  | acknowledged _ present =>
    refine .inl (queued.of_maps ((acknowledged_maps present _ _).mono ?_))
    rintro old new ⟨_, _, rfl, _⟩
    exact ⟨rfl, fun _ member => member⟩
  | @delivered _ lwt deliveries _ _ sent =>
    have extended := deliverLwts_maps env.codec lwt (broker.registry, broker.signals) deliveries
    rw [← sent] at extended
    exact outbox_of_grows (extended.mono fun _ _ extended => extended.grows)
      (fun _ _ inside member => mem_willEvents inside member) queued
  | removed _ => exact .inl queued.of_remove

theorem step_outbox {system next : System maxSessions maxSubs maxInflight maxRetained} {label : Label}
    {new : List Event} (taken : System.step env system label = some (next, new)) {clientId : ClientId}
    {packet : OutboundPacket} (queued : InOutbox next.broker.registry clientId packet) :
    InOutbox system.broker.registry clientId packet ∨ Sent new clientId packet := by
  cases step_transition taken with
  | spawned => exact .inl queued
  | outbound sent =>
    rw [sent] at queued ⊢
    exact outbox_of_grows ((processOutboundPublish_maps ..).mono fun _ _ routed => routed.grows)
      (fun _ _ inside member => mem_routedEvents inside member) queued
  | connected _ _ connected => exact .inl (connected.outbox queued)
  | removed _ _ => exact .inl queued.of_remove
  | ordinary _ turn _ => exact turn.outbox queued

theorem Inherits.deliverLwts {codec : Codec} {lwt : LwtMessage}
    (state : SessionRegistry maxSessions maxSubs maxInflight × SessionSignals maxSessions)
    (deliveries : List (SessionId × QoS)) : Inherits state.1 (deliverLwts codec lwt state deliveries).1 := by
  induction deliveries generalizing state with
  | nil => exact .refl _
  | cons delivery rest ih =>
    refine Inherits.trans ?_ (ih (deliverLwt codec lwt state delivery))
    unfold deliverLwt
    split
    · exact .refl _
    · next target found =>
      split
      · exact .refl _
      · split
        · exact .refl _
        · exact .put found rfl rfl

theorem Connected.inherits {broker : Broker maxSessions maxSubs maxInflight maxRetained} {id : Nat}
    {connect : Connect} {now : Instant} {result : Result maxSessions maxSubs maxInflight maxRetained}
    (connected : Connected env broker id connect now result) :
    Inherits broker.registry result.broker.registry := by
  cases connected with
  | accepted admission present => exact admission.inherits.trans (.put present rfl rfl)
  | refused admission _ _ => exact admission.inherits

theorem Sourced.turn {broker : Broker maxSessions maxSubs maxInflight maxRetained} {id : Nat} {conn : Conn}
    {input : Input} {result : Result maxSessions maxSubs maxInflight maxRetained}
    {sent : ClientId → OutboundPacket → Prop} (sourced : Sourced env.codec sent broker.registry)
    (consistent : Consistent broker.registry) (turn : Turn env broker id conn input result) :
    Sourced env.codec (SentOrQueued sent result.broker.registry) result.broker.registry := by
  have inherited (inherits : Inherits broker.registry result.broker.registry) :
      Sourced env.codec (SentOrQueued sent result.broker.registry) result.broker.registry :=
    (sourced.inherit inherits).orQueued
  cases turn with
  | connect _ => exact inherited (connectStep_connected ..).inherits
  | abandoned | unanswered | moved | flushed | wrote | announced => exact inherited (.refl _)
  | popped _ present _ => exact inherited (.put present rfl rfl)
  | drained _ present => exact inherited (.put present rfl rfl)
  | handled _ present _ _ => exact inherited (.put present rfl rfl)
  | served _ retries _ =>
    refine inherited (.of_same_tags (retries.retried.maps.mono ?_) retries.retried.storedPublishes)
    rintro old new ⟨inflight, rfl, same⟩
    exact ⟨rfl, same⟩
  | @published slot _ _ activityNow _ _ session _ _ _ present handled _ =>
    have touched : Sourced env.codec sent (touchedBroker broker slot session activityNow).registry :=
      sourced.inherit (.put present rfl rfl)
    have touchedConsistent : Consistent (touchedBroker broker slot session activityNow).registry :=
      consistent.put present rfl
    rw [handled]
    exact touched.handlePublishAt touchedConsistent _ _ _ _ _ _
  | @acknowledged slot _ _ activityNow _ _ session _ present =>
    have touched : Inherits broker.registry (touchedBroker broker slot session activityNow).registry :=
      .put present rfl rfl
    exact inherited (touched.trans (.acknowledge slot _))
  | delivered _ sent =>
    apply inherited
    rw [sent]
    exact .deliverLwts (broker.registry, broker.signals) _
  | removed _ => exact inherited (.remove _)

theorem step_sourced {system next : System maxSessions maxSubs maxInflight maxRetained} {label : Label}
    {new : List Event} {sent : ClientId → OutboundPacket → Prop}
    (sourced : Sourced env.codec sent system.broker.registry) (consistent : Consistent system.broker.registry)
    (taken : System.step env system label = some (next, new)) :
    Sourced env.codec (SentOrQueued sent next.broker.registry) next.broker.registry := by
  cases step_transition taken with
  | spawned => exact sourced.orQueued
  | outbound sent =>
    rw [sent]
    exact sourced.processOutboundPublish consistent _ _
  | connected _ _ connected => exact (sourced.inherit connected.inherits).orQueued
  | removed _ _ => exact (sourced.inherit (.remove _)).orQueued
  | ordinary _ turn _ => exact sourced.turn consistent turn

def Uncrossed (env : Env) (system : System maxSessions maxSubs maxInflight maxRetained) (label : Label) :
    Prop :=
  ∀ connect ∈ label.connect?, Admissible connect.2 env.houseToken →
    ∀ slot ∈ claimedSlot system.broker.registry connect.2, ∀ conn ∈ system.conns,
      conn.phase.serving? = some slot → ∀ packet ∈ conn.accepted, packet.clientId = connect.2.clientId

instance (system : System maxSessions maxSubs maxInflight maxRetained) (label : Label) :
    Decidable (Uncrossed env system label) :=
  inferInstanceAs (Decidable (∀ connect ∈ label.connect?, _))

def Owned (system : System maxSessions maxSubs maxInflight maxRetained) : Prop :=
  ∀ (id : Nat) conn slot packet session, system.conns[id]? = some conn →
    conn.phase.serving? = some slot → conn.accepted = some packet →
      system.broker.registry.get slot = some session → session.clientId.items = packet.clientId

def Flushing (events : List Event) (conns : List Conn) : Prop :=
  ∀ (id : Nat) conn slot out packet, conns[id]? = some conn → conn.phase = .flushing slot out →
    conn.accepted = some packet → ∃ clientId, clientId.items = packet.clientId ∧ Sent events clientId out

section

variable {system next : System maxSessions maxSubs maxInflight maxRetained} {events new : List Event}
  {label : Label}

-- A new session is in the claimed slot, under the client id of the CONNECT.
theorem Connected.owner {broker : Broker maxSessions maxSubs maxInflight maxRetained} {id : Nat}
    {connect : Connect} {now : Instant} {result : Result maxSessions maxSubs maxInflight maxRetained}
    (connected : Connected env broker id connect now result) {slot : SessionId}
    {session : SessionState maxSubs maxInflight} (kept : result.broker.registry.get slot = some session) :
    (∃ old, broker.registry.get slot = some old ∧ old.clientId = session.clientId) ∨
      Admissible connect env.houseToken ∧ claimedSlot broker.registry connect = some slot ∧
        session.clientId.items = connect.clientId := by
  cases connected.seated kept with
  | untouched same => exact .inl ⟨session, same, rfl⟩
  | resumed _ _ found same =>
    subst same
    exact .inl ⟨_, found, rfl⟩
  | created admissible _ claimed owner same =>
    subst same
    exact .inr ⟨admissible, claimed, owner⟩

theorem Owned.step (owned : Owned system) (uncrossed : Uncrossed env system label)
    (taken : System.step env system label = some (next, new)) : Owned next := by
  intro id conn slot packet session found serving accepted kept
  cases step_transition taken with
  | spawned =>
    rcases conn_of_spawn found with old | rfl
    · exact owned id conn slot packet session old serving accepted kept
    · cases serving
  | outbound sent =>
    rw [sent] at kept
    obtain ⟨old, present, routed⟩ := (processOutboundPublish_maps ..).of_present kept
    rw [routed.grows.1]
    exact owned id conn slot packet old found serving accepted present
  | @connected other connect _ waiting result stepping _ connected =>
    rcases conn_of_set stepping found with ⟨rfl, rfl⟩ | ⟨_, unchanged⟩
    · cases connected with
      | accepted admission present =>
        cases serving
        cases accepted
        obtain ⟨base, basePresent, owner⟩ := admission.accepted.present
        rw [present] at basePresent
        cases basePresent
        dsimp only at kept
        rw [SessionRegistry.get_put_self present] at kept
        cases kept
        exact owner
      | refused _ _ left =>
        rw [slot?_of_serving? serving] at left
        cases left
    · rcases connected.owner kept with ⟨old, present, same⟩ | ⟨admissible, claimed, owner⟩
      · rw [← same]
        exact owned id conn slot packet old unchanged serving accepted present
      · rw [owner]
        exact (uncrossed _ rfl admissible slot claimed conn (List.mem_of_getElem? unchanged) serving packet
          accepted).symm
  | removed stepping _ =>
    rcases conn_of_set stepping found with ⟨_, rfl⟩ | ⟨_, unchanged⟩
    · cases serving
    · dsimp only [removeStep] at kept
      rw [SessionRegistry.get_remove] at kept
      split at kept
      · cases kept
      · exact owned id conn slot packet session unchanged serving accepted kept
  | ordinary stepping _ ordinary =>
    obtain ⟨old, present, keeps⟩ := ordinary.keeps.of_present kept
    rw [keeps.clientId]
    rcases conn_of_set stepping found with ⟨rfl, rfl⟩ | ⟨_, unchanged⟩
    · exact owned id _ slot packet old stepping (ordinary.serving slot serving)
        (ordinary.accepted ▸ accepted) present
    · exact owned id conn slot packet old unchanged serving accepted present

theorem Flushing.mono {conns : List Conn} (flushing : Flushing events conns) (new : List Event) :
    Flushing (events ++ new) conns := by
  intro id conn slot out packet found waiting accepted
  obtain ⟨clientId, same, sent⟩ := flushing id conn slot out packet found waiting accepted
  exact ⟨clientId, same, sent.append new⟩

theorem Flushing.set {conns : List Conn} {id : Nat} {conn after : Conn} (flushing : Flushing events conns)
    (found : conns[id]? = some conn)
    (taken : ∀ slot out packet, after.phase = .flushing slot out → after.accepted = some packet →
      ∃ clientId, clientId.items = packet.clientId ∧ Sent events clientId out) :
    Flushing events (conns.set id after) := by
  intro other owner slot out packet present waiting accepted
  rcases conn_of_set found present with ⟨_, rfl⟩ | ⟨_, unchanged⟩
  · exact taken slot out packet waiting accepted
  · exact flushing other owner slot out packet unchanged waiting accepted

theorem Connected.not_flushing {broker : Broker maxSessions maxSubs maxInflight maxRetained} {id : Nat}
    {connect : Connect} {now : Instant} {result : Result maxSessions maxSubs maxInflight maxRetained}
    (connected : Connected env broker id connect now result) (slot : SessionId) (out : OutboundPacket) :
    result.conn.phase ≠ .flushing slot out := by
  cases connected with
  | accepted => simp
  | refused _ _ left =>
    rintro rfl
    cases left

-- The only step into `flushing` takes the frame out of the outbox of the slot.
theorem Turn.flushing {broker : Broker maxSessions maxSubs maxInflight maxRetained} {id : Nat} {conn : Conn}
    {input : Input} {result : Result maxSessions maxSubs maxInflight maxRetained}
    (turn : Turn env broker id conn input result) {slot : SessionId} {out : OutboundPacket}
    (waiting : result.conn.phase = .flushing slot out) :
    ∃ session, conn.phase.serving? = some slot ∧ broker.registry.get slot = some session ∧
      out ∈ session.outbox.items := by
  cases turn with
  | connect _ => exact absurd waiting ((connectStep_connected ..).not_flushing slot out)
  | abandoned | unanswered | drained | acknowledged | delivered | removed => cases waiting
  | moved _ continues _ => exact absurd waiting (continues.calm slot out)
  | flushed _ continues => exact absurd waiting (continues.calm slot out)
  | wrote _ continues => exact absurd waiting (continues.calm slot out)
  | served _ _ continues => exact absurd waiting (continues.calm slot out)
  | published _ _ _ continues => exact absurd waiting (continues.calm slot out)
  | handled _ _ continues _ => exact absurd waiting (continues.calm slot out)
  | announced _ _ leaving => exact absurd waiting (calm_of_leaving leaving slot out)
  | popped phase present front =>
    cases waiting
    refine ⟨_, by rw [phase]; rfl, present, ?_⟩
    rw [Bounded.popFront_eq_some.mp front]
    exact List.mem_cons_self

structure Addressing (env : Env) (events : List Event)
    (system : System maxSessions maxSubs maxInflight maxRetained) : Prop where
  joined : Joined events system.conns
  consistent : Consistent system.broker.registry
  owned : Owned system
  queued : ∀ clientId packet, InOutbox system.broker.registry clientId packet → Sent events clientId packet
  sourced : Sourced env.codec (Sent events) system.broker.registry
  flushing : Flushing events system.conns

theorem Addressing.flushing_step (addressing : Addressing env events system)
    (taken : System.step env system label = some (next, new)) : Flushing (events ++ new) next.conns := by
  have flushing := addressing.flushing.mono new
  cases step_transition taken with
  | spawned =>
    intro id conn slot out packet found waiting accepted
    rcases conn_of_spawn found with old | rfl
    · exact flushing id conn slot out packet old waiting accepted
    · cases waiting
  | outbound _ => exact flushing
  | connected found _ connected =>
    exact flushing.set found fun slot out _ waiting _ => absurd waiting (connected.not_flushing slot out)
  | removed found _ => exact flushing.set found fun _ _ _ waiting _ => by cases waiting
  | ordinary found turn ordinary =>
    refine flushing.set found fun slot out packet waiting accepted => ?_
    obtain ⟨session, serving, present, member⟩ := turn.flushing waiting
    rw [ordinary.accepted] at accepted
    refine ⟨session.clientId, addressing.owned _ _ slot packet session found serving accepted present, ?_⟩
    exact (addressing.queued session.clientId out ⟨slot, session, present, rfl, member⟩).append _

theorem Addressing.step (addressing : Addressing env events system) (uncrossed : Uncrossed env system label)
    (taken : System.step env system label = some (next, new)) : Addressing env (events ++ new) next := by
  have queued (clientId : ClientId) (packet : OutboundPacket)
      (inOutbox : InOutbox next.broker.registry clientId packet) : Sent (events ++ new) clientId packet := by
    rcases step_outbox taken inOutbox with earlier | now
    · exact (addressing.queued clientId packet earlier).append new
    · exact now.later events
  refine ⟨step_joined addressing.joined taken, step_consistent addressing.consistent taken,
    addressing.owned.step uncrossed taken, queued, ?_, addressing.flushing_step taken⟩
  refine (step_sourced addressing.sourced addressing.consistent taken).mono fun clientId packet source => ?_
  rcases source with sent | inOutbox
  · exact sent.append new
  · exact queued clientId packet inOutbox

end

theorem addressing_new : Addressing env [] (.new : System maxSessions maxSubs maxInflight maxRetained) where
  joined := joined_new
  consistent := consistent_new
  owned _ _ _ _ _ found := by simp [System.new] at found
  queued _ _ inOutbox := by
    obtain ⟨slot, session, present, _⟩ := inOutbox
    simp [System.new, Broker.new] at present
  sourced _ _ _ _ present := by simp [System.new, Broker.new] at present
  flushing _ _ _ _ _ found := by simp [System.new] at found

def Transmission : Event → Prop
  | .flushed _ _ _ => True
  | .retried _ _ _ => True
  | _ => False

theorem RoutingEvent.not_transmission {event : Event} (routing : RoutingEvent event) :
    ¬ Transmission event := by
  cases event <;> simp_all [RoutingEvent, Transmission]

theorem Bookkeeping.not_transmission {event : Event} (bookkeeping : Bookkeeping event) :
    ¬ Transmission event := by
  cases event <;> simp_all [Bookkeeping, Transmission]

theorem Turn.transmission {broker : Broker maxSessions maxSubs maxInflight maxRetained} {id : Nat}
    {conn : Conn} {input : Input} {result : Result maxSessions maxSubs maxInflight maxRetained}
    (turn : Turn env broker id conn input result) {event : Event} (member : event ∈ result.events)
    (sends : Transmission event) :
    (∃ slot packet, event = .flushed id slot packet ∧ conn.phase = .flushing slot packet) ∨
      ∃ slot outcome publish, event = .retried id slot publish ∧ conn.phase = .service slot ∧
        RetrySpec broker.registry slot outcome ∧ publish ∈ outcome.written := by
  cases turn with
  | connect _ => exact absurd sends ((connectStep_connected ..).bookkeeping member).not_transmission
  | abandoned _ quiet =>
    obtain ⟨_, rfl⟩ := quiet event member
    cases sends
  | unanswered _ _ quiet =>
    obtain ⟨_, rfl⟩ := quiet event member
    cases sends
  | moved _ _ quiet =>
    obtain ⟨_, rfl⟩ := quiet event member
    cases sends
  | popped | drained | handled | removed => cases member
  | flushed waiting _ =>
    rw [List.mem_singleton.mp member]
    exact .inl ⟨_, _, rfl, waiting⟩
  | wrote _ _ =>
    rcases List.mem_cons.mp member with rfl | untracked
    · cases sends
    · split at untracked
      · obtain ⟨_, _, rfl⟩ := List.mem_map.mp untracked
        cases sends
      · cases untracked
  | served waiting retries _ =>
    obtain ⟨publish, written, rfl⟩ := List.mem_map.mp member
    exact .inr ⟨_, _, publish, rfl, waiting, retries, written⟩
  | published _ _ _ _ =>
    rcases List.mem_append.mp member with routed | given
    · exact absurd sends (routedEvents_routing routed).not_transmission
    · obtain ⟨_, _, rfl⟩ := List.mem_map.mp given
      cases sends
  | acknowledged _ _ =>
    rw [List.mem_singleton.mp member] at sends
    cases sends
  | announced _ _ _ shown =>
    obtain ⟨_, rfl⟩ := shown event member
    cases sends
  | delivered _ _ => exact absurd sends (willEvents_routing member).not_transmission

def firstSending (codec : Codec) (publish : Publish) : Except PublishError (Text maxOutboundFrameSize) :=
  encodePublish codec publish.topicName publish.payload publish.qospid.qos publish.retain
    (publish.qospid.pid.elim 0 Pid.value)

def Addressed (codec : Codec) (earlier : List Event) : Event → Prop
  | .flushed id _ packet => ∃ slot clientId, .accepted id slot clientId.items ∈ earlier ∧
      Sent earlier clientId packet
  | .retried id _ publish => ∃ slot clientId bytes, .accepted id slot clientId.items ∈ earlier ∧
      firstSending codec publish = .ok bytes ∧ Sent earlier clientId ⟨bytes⟩
  | _ => True

theorem Addressed.mono {codec : Codec} {earlier : List Event} {event : Event}
    (addressed : Addressed codec earlier event) (more : List Event) :
    Addressed codec (earlier ++ more) event := by
  cases event with
  | flushed =>
    obtain ⟨slot, clientId, accepted, sent⟩ := addressed
    exact ⟨slot, clientId, List.mem_append_left _ accepted, sent.append more⟩
  | retried =>
    obtain ⟨slot, clientId, bytes, accepted, encoded, sent⟩ := addressed
    exact ⟨slot, clientId, bytes, List.mem_append_left _ accepted, encoded, sent.append more⟩
  | _ => trivial

section

variable {system next : System maxSessions maxSubs maxInflight maxRetained} {events new : List Event}
  {label : Label}

theorem Addressing.flushed (addressing : Addressing env events system) {id : Nat} {conn : Conn}
    {slot : SessionId} {out : OutboundPacket} (found : system.conns[id]? = some conn)
    (waiting : conn.phase = .flushing slot out) : Addressed env.codec events (.flushed id slot out) := by
  obtain ⟨packet, accepted, shown⟩ := addressing.joined.shown id conn slot found (by rw [waiting]; rfl)
  obtain ⟨clientId, same, sent⟩ := addressing.flushing id conn slot out packet found waiting accepted
  exact ⟨slot, clientId, same ▸ shown, sent⟩

theorem Addressing.retried (addressing : Addressing env events system) {id : Nat} {conn : Conn}
    {slot : SessionId} {outcome : RetryOutcome maxSessions maxSubs maxInflight}
    (found : system.conns[id]? = some conn) (waiting : conn.phase = .service slot)
    (retries : RetrySpec system.broker.registry slot outcome) {publish : Publish}
    (written : publish ∈ outcome.written) : Addressed env.codec events (.retried id slot publish) := by
  have serving : conn.phase.serving? = some slot := by rw [waiting]; rfl
  obtain ⟨packet, accepted, shown⟩ := addressing.joined.shown id conn slot found (slot?_of_serving? serving)
  obtain ⟨pid, handle, stored, ⟨session, present, member⟩, resolved, rfl⟩ := retries.written publish written
  have same := addressing.owned id conn slot packet session found serving accepted present
  have content : system.broker.registry.content handle = some stored.content := by
    simp [SessionRegistry.content, resolved]
  obtain ⟨bytes, encoded, sent⟩ := addressing.sourced slot session _ _ present member content
  exact ⟨slot, session.clientId, bytes, same ▸ shown, encoded, sent⟩

theorem Addressing.addressed (addressing : Addressing env events system)
    (taken : System.step env system label = some (next, new)) {event : Event} (member : event ∈ new) :
    Addressed env.codec events event := by
  by_cases sends : Transmission event
  · cases step_transition taken with
    | spawned => cases member
    | outbound _ => exact absurd sends (routedEvents_routing member).not_transmission
    | connected _ _ connected => exact absurd sends (connected.bookkeeping member).not_transmission
    | removed => cases member
    | ordinary found turn _ =>
      rcases turn.transmission member sends with
        ⟨slot, packet, rfl, waiting⟩ | ⟨slot, outcome, publish, rfl, waiting, retries, written⟩
      · exact addressing.flushed found waiting
      · exact addressing.retried found waiting retries written
  · cases event <;> first | trivial | exact absurd trivial sends

end

theorem frames_addressed {labels : List Label} {events : List Event}
    {system : System maxSessions maxSubs maxInflight maxRetained}
    (run : Run (System.step env) (Uncrossed env) .new labels events system) {earlier later : List Event}
    {event : Event} (split : events = earlier ++ event :: later) : Addressed env.codec earlier event :=
  run.each (P := Addressing env) addressing_new
    (fun _ _ _ _ _ addressing uncrossed taken => addressing.step uncrossed taken)
    (fun _ _ _ _ _ addressing _ taken _ member => addressing.addressed taken member)
    (fun _ more _ addressed => addressed.mono more) split

def news : MqttPublish := ⟨.truncate [116], .truncate [120], .atMostOnce, false⟩

def newsFrame : OutboundPacket := ⟨.truncate [48, 4, 0, 1, 116, 120]⟩

-- Client `a` subscribes and is sent the news.
def subscription : List Label :=
  .spawn :: Label.admit 0 [97] ++ Label.subscribe 0 (.truncate [116]) .atMostOnce ++
    [.outbound news 0, .conn 0 .lock, .conn 0 (.write true)]

theorem frames_addressed_to_subscriber :
    ∃ (system : System 1 1 1 1) (earlier : List Event),
      Run (System.step gatomqttEnv) (Uncrossed gatomqttEnv) .new subscription
        (earlier ++ [.flushed 0 0 newsFrame]) system ∧
      Addressed Mqtt311.codec earlier (.flushed 0 0 newsFrame) := by
  obtain ⟨system, events, run, tested⟩ : ∃ (system : System 1 1 1 1) (events : List Event),
      Run (System.step gatomqttEnv) (Uncrossed gatomqttEnv) .new subscription events system ∧
      decide (events.getLast? = some (.flushed 0 0 newsFrame)) = true :=
    Execution.exists_run (by decide +kernel)
  obtain ⟨earlier, rfl⟩ := List.getLast?_eq_some_iff.mp (of_decide_eq_true tested)
  exact ⟨system, earlier, run, frames_addressed run rfl⟩

-- The session of connection 0 is taken over by connection 1, which leaves. Client `c` gets the slot and
-- subscribes; its frame goes out on connection 0.
def crossing : List Label :=
  [.spawn, .spawn, .spawn, .connect 0 (houseConnect [97] true none)] ++ Label.admit 1 [97] ++
    [.conn 1 (.packet .disconnect 0 0 true), .conn 1 .lock] ++ Label.admit 2 [99] ++
    Label.subscribe 2 (.truncate [116]) .atMostOnce ++
    [.outbound news 0, .conn 0 (.write true), .conn 0 .lock, .conn 0 (.write true)]

theorem frame_misaddressed :
    ∃ (system : System 1 1 1 1) (earlier : List Event),
      Run (System.step gatomqttEnv) Anything .new crossing (earlier ++ [.flushed 0 0 newsFrame]) system ∧
      ¬ Addressed Mqtt311.codec earlier (.flushed 0 0 newsFrame) := by
  let suback : Packet := .suback ⟨.new, ⟨[.success .atMostOnce], by decide⟩⟩
  let earlier : List Event :=
    [.accepted 0 0 [97], .created 0, .accepted 1 0 [97], .created 0, .wrote 1 (.connack ⟨false, .accepted⟩),
      .accepted 2 0 [99], .created 0, .wrote 2 (.connack ⟨false, .accepted⟩), .wrote 2 suback,
      .queued 0 ⟨[99], by decide⟩ newsFrame, .wrote 0 (.connack ⟨false, .accepted⟩)]
  obtain ⟨system, events, run, tested⟩ : ∃ (system : System 1 1 1 1) (events : List Event),
      Run (System.step gatomqttEnv) Anything .new crossing events system ∧
      decide (events = earlier ++ [.flushed 0 0 newsFrame]) = true :=
    Execution.exists_run (by decide +kernel)
  rw [of_decide_eq_true tested] at run
  refine ⟨system, earlier, run, ?_⟩
  rintro ⟨slot, clientId, accepted, origin, queued⟩
  have own : slot = 0 ∧ clientId.items = [97] := by simpa [earlier] using accepted
  have theirs : origin = 0 ∧ clientId = ⟨[99], by decide⟩ := by simpa [earlier] using queued
  rw [theirs.2] at own
  simp at own

end PicoBroker
