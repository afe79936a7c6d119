import PicoBroker.Invariants.Attached

set_option autoImplicit false

namespace PicoBroker

open Execution (Run)

variable {maxSessions maxSubs maxInflight maxRetained : Nat} {env : Env}

def noteSince (slot : SessionId) (shown : List Event) (event : Event) : List Event :=
  if event = .created slot then [] else shown ++ [event]

-- A failed CONNECT that replaces a session by an equal one shows nothing.
def sinceCreated (slot : SessionId) (events : List Event) : List Event := events.foldl (noteSince slot) []

def Event.pushedTo? (slot : SessionId) : Event → Option OutboundPacket
  | .queued receiver _ packet => if receiver = slot then some packet else none
  | _ => none

def Event.passedFrom? (slot : SessionId) : Event → Option OutboundPacket
  | .flushed _ sender packet => if sender = slot then some packet else none
  | _ => none

def pushed (slot : SessionId) (events : List Event) : List OutboundPacket :=
  (sinceCreated slot events).filterMap (Event.pushedTo? slot)

def passed (slot : SessionId) (events : List Event) : List OutboundPacket :=
  (sinceCreated slot events).filterMap (Event.passedFrom? slot)

def Phase.writing? (slot : SessionId) : Phase → Option OutboundPacket
  | .flushing held packet => if held = slot then some packet else none
  | _ => none

def underway (slot : SessionId) (conns : List Conn) : List OutboundPacket :=
  conns.filterMap fun conn => conn.phase.writing? slot

section

variable {slot : SessionId} {events new : List Event}

theorem foldl_noteSince (shown : List Event) (quiet : .created slot ∉ new) :
    new.foldl (noteSince slot) shown = shown ++ new := by
  induction new generalizing shown with
  | nil => simp
  | cons event rest ih =>
    simp only [List.mem_cons, not_or] at quiet
    rw [List.foldl_cons, noteSince, if_neg (Ne.symm quiet.1), ih _ quiet.2]
    simp

theorem sinceCreated_append (quiet : .created slot ∉ new) :
    sinceCreated slot (events ++ new) = sinceCreated slot events ++ new := by
  rw [sinceCreated, List.foldl_append]
  exact foldl_noteSince _ quiet

theorem mem_foldl_noteSince {shown : List Event} {event : Event} (member : event ∈ new.foldl (noteSince slot) shown) :
    event ∈ shown ∨ event ∈ new := by
  induction new generalizing shown with
  | nil => exact .inl member
  | cons first rest ih =>
    rcases ih member with noted | later
    · unfold noteSince at noted
      split at noted
      · cases noted
      · rcases List.mem_append.mp noted with old | here
        · exact .inl old
        · exact .inr (by rw [List.mem_singleton.mp here]; exact List.mem_cons_self)
    · exact .inr (List.mem_cons_of_mem _ later)

theorem mem_sinceCreated {event : Event} (created : .created slot ∈ new)
    (member : event ∈ sinceCreated slot (events ++ new)) : event ∈ new := by
  obtain ⟨front, back, rfl⟩ := List.append_of_mem created
  rw [sinceCreated, ← List.append_assoc, List.foldl_append, List.foldl_cons, noteSince, if_pos rfl] at member
  rcases mem_foldl_noteSince member with none | later
  · cases none
  · exact List.mem_append_right _ (List.mem_cons_of_mem _ later)

theorem writing?_of_calm {phase : Phase} (calm : ∀ other packet, phase ≠ .flushing other packet) :
    phase.writing? slot = none := by
  unfold Phase.writing?
  split
  · exact absurd rfl (calm _ _)
  · rfl

theorem slot?_of_writing? {phase : Phase} {packet : OutboundPacket}
    (writing : phase.writing? slot = some packet) : phase.slot? = some slot := by
  unfold Phase.writing? at writing
  split at writing
  · split at writing
    · next same => rw [← same]; rfl
    · cases writing
  · cases writing

theorem writing?_of_slot? {phase : Phase} (elsewhere : phase.slot? ≠ some slot) :
    phase.writing? slot = none := by
  cases writing : phase.writing? slot with
  | none => rfl
  | some packet => exact absurd (slot?_of_writing? writing) elsewhere

end

section

variable {slot : SessionId} {conns : List Conn} {id : Nat} {conn after : Conn}

theorem underway_split (found : conns[id]? = some conn) (after : Conn) :
    ∃ front back, conns = front ++ conn :: back ∧ conns.set id after = front ++ after :: back ∧
      ∀ owner ∈ front ++ back, ∃ other, other ≠ id ∧ conns[other]? = some owner := by
  obtain ⟨inside, rfl⟩ := List.getElem?_eq_some_iff.mp found
  refine ⟨conns.take id, conns.drop (id + 1), by simp, List.set_eq_take_append_cons_drop .. ▸ by simp [inside], ?_⟩
  intro owner member
  rcases List.mem_append.mp member with earlier | later
  · obtain ⟨other, below, rfl⟩ := List.mem_take_iff_getElem.mp earlier
    exact ⟨other, by omega, by simp⟩
  · obtain ⟨other, below, rfl⟩ := List.mem_drop_iff_getElem.mp later
    exact ⟨_, by omega, List.getElem?_eq_getElem _⟩

theorem underway_set (unique : Unique conns) (found : conns[id]? = some conn)
    (holds : conn.phase.slot? = some slot) (after : Conn) :
    underway slot conns = (conn.phase.writing? slot).toList ∧
      underway slot (conns.set id after) = (after.phase.writing? slot).toList := by
  obtain ⟨front, back, before, afterwards, others⟩ := underway_split found after
  have silent (owner : Conn) (member : owner ∈ front ++ back) : owner.phase.writing? slot = none := by
    obtain ⟨other, different, present⟩ := others owner member
    exact writing?_of_slot? fun theirs => different (unique other id owner conn slot present found theirs holds)
  have left : underway slot front = [] :=
    List.filterMap_eq_nil_iff.mpr fun owner member => silent owner (List.mem_append_left _ member)
  have right : underway slot back = [] :=
    List.filterMap_eq_nil_iff.mpr fun owner member => silent owner (List.mem_append_right _ member)
  have only (owner : Conn) : underway slot (front ++ owner :: back) = (owner.phase.writing? slot).toList := by
    rw [underway] at left right
    rw [underway, List.filterMap_append, List.filterMap_cons, left, right]
    cases owner.phase.writing? slot <;> rfl
  rw [afterwards]
  nth_rewrite 1 [before]
  exact ⟨only conn, only after⟩

theorem underway_set_same (found : conns[id]? = some conn)
    (same : after.phase.writing? slot = conn.phase.writing? slot) :
    underway slot (conns.set id after) = underway slot conns := by
  obtain ⟨front, back, before, afterwards, _⟩ := underway_split found after
  rw [afterwards, before, underway, underway, List.filterMap_append, List.filterMap_append, List.filterMap_cons,
    List.filterMap_cons, same]

theorem underway_of_unremembered (unremembered : ¬ Remembered conns slot) : underway slot conns = [] := by
  refine List.filterMap_eq_nil_iff.mpr fun conn member => writing?_of_slot? fun holds => unremembered ?_
  obtain ⟨id, found⟩ := List.mem_iff_getElem?.mp member
  exact ⟨id, conn, found, holds⟩

end

section

variable {before after : SessionRegistry maxSessions maxSubs maxInflight} {slot : SessionId}
  {old new : SessionState maxSubs maxInflight}

-- Only one part of a concatenation is not empty.
theorem flatMap_range_single {α : Type} {size position : Nat} (inside : position < size) {f : Nat → List α}
    (others : ∀ other, other ≠ position → f other = []) : (List.range size).flatMap f = f position := by
  induction size with
  | zero => omega
  | succ size ih =>
    rw [List.range_succ, List.flatMap_append, List.flatMap_singleton]
    by_cases here : position = size
    · subst here
      have empty : (List.range position).flatMap f = [] :=
        List.flatMap_eq_nil_iff.mpr fun other member => others other (by simpa using (List.mem_range.mp member).ne)
      rw [empty, List.nil_append]
    · rw [ih (by omega), others size (Ne.symm here), List.append_nil]

theorem queuedAt_pushedTo (found : before.get slot = some old) (kept : after.get slot = some new) :
    (queuedAt before after slot).filterMap (Event.pushedTo? slot) =
      new.outbox.items.drop old.outbox.items.length := by
  rw [queuedAt, found, kept, List.filterMap_map]
  refine (List.filterMap_congr fun packet _ => ?_).trans List.filterMap_some
  simp [Event.pushedTo?]

variable (before after) in
theorem queuedAt_pushedTo_ne {other : SessionId} (different : other ≠ slot) :
    (queuedAt before after other).filterMap (Event.pushedTo? slot) = [] := by
  refine List.filterMap_eq_nil_iff.mpr fun event member => ?_
  obtain ⟨_, _, _, _, _, _, rfl⟩ := mem_queuedAt member
  simp [Event.pushedTo?, different]

theorem untrackedAt_pushedTo (other : SessionId) :
    (untrackedAt before after other).filterMap (Event.pushedTo? slot) = [] := by
  refine List.filterMap_eq_nil_iff.mpr fun event member => ?_
  obtain ⟨_, _, _, _, _, _, _, rfl⟩ := mem_untrackedAt member
  rfl

theorem routedEvents_pushedTo (found : before.get slot = some old) (kept : after.get slot = some new) :
    (routedEvents before after).filterMap (Event.pushedTo? slot) =
      new.outbox.items.drop old.outbox.items.length := by
  rw [routedEvents, List.filterMap_flatMap, flatMap_range_single (Slots.lt_of_get found)]
  · rw [List.filterMap_append, untrackedAt_pushedTo, List.append_nil, queuedAt_pushedTo found kept]
  · intro other different
    rw [List.filterMap_append, untrackedAt_pushedTo, queuedAt_pushedTo_ne before after different]
    rfl

theorem willEvents_pushedTo {deliveries : List (SessionId × QoS)} (found : before.get slot = some old)
    (kept : after.get slot = some new) :
    (willEvents before after deliveries).filterMap (Event.pushedTo? slot) =
      new.outbox.items.drop old.outbox.items.length := by
  have unnumbered (queued : List Event) (numbered : Prop) [Decidable numbered] (other : SessionId) :
      (if numbered then queued ++ [.untracked other Pid.new.value] else queued).filterMap (Event.pushedTo? slot) =
        queued.filterMap (Event.pushedTo? slot) := by
    split
    · rw [List.filterMap_append]
      exact List.append_nil _
    · rfl
  rw [willEvents, List.filterMap_flatMap, flatMap_range_single (Slots.lt_of_get found)]
  · rw [← queuedAt_pushedTo found kept]
    split
    · next none => rw [none]
    · exact unnumbered ..
  · intro other different
    refine Eq.trans ?_ (queuedAt_pushedTo_ne before after different)
    split
    · next none => rw [none]
    · exact unnumbered ..

end

structure Carried (left right : Phase) (new : List Event) (slot : SessionId)
    (old session : SessionState maxSubs maxInflight) : Prop where
  account : new.filterMap (Event.passedFrom? slot) ++ (right.writing? slot).toList ++ session.outbox.items =
    (left.writing? slot).toList ++ old.outbox.items ++ new.filterMap (Event.pushedTo? slot)
  unpassed : left.writing? slot = none → new.filterMap (Event.passedFrom? slot) = []

section

variable {broker : Broker maxSessions maxSubs maxInflight maxRetained} {id : Nat} {conn : Conn} {input : Input}
  {result : Result maxSessions maxSubs maxInflight maxRetained} {slot : SessionId} {new : List Event}
  {old session : SessionState maxSubs maxInflight}

-- The loop neither takes a frame nor passes one on; the outbox may grow.
theorem Carried.grown {left right : Phase} (leftCalm : ∀ other packet, left ≠ .flushing other packet)
    (rightCalm : ∀ other packet, right ≠ .flushing other packet)
    (unpassed : new.filterMap (Event.passedFrom? slot) = [])
    (grown : session.outbox.items = old.outbox.items ++ new.filterMap (Event.pushedTo? slot)) :
    Carried left right new slot old session := by
  refine ⟨?_, fun _ => unpassed⟩
  rw [writing?_of_calm leftCalm, writing?_of_calm rightCalm, unpassed, grown]
  rfl

def MovesNoFrame : Event → Prop
  | .queued _ _ _ => False
  | .flushed _ _ _ => False
  | _ => True

theorem Bookkeeping.movesNoFrame {event : Event} (bookkeeping : Bookkeeping event) : MovesNoFrame event := by
  cases event <;> simp_all [Bookkeeping, MovesNoFrame]

theorem pushedTo_of_movesNoFrame (quiet : ∀ event ∈ new, MovesNoFrame event) :
    new.filterMap (Event.pushedTo? slot) = [] := by
  refine List.filterMap_eq_nil_iff.mpr fun event member => ?_
  have := quiet event member
  cases event <;> first | rfl | exact this.elim

theorem passedFrom_of_movesNoFrame (quiet : ∀ event ∈ new, MovesNoFrame event) :
    new.filterMap (Event.passedFrom? slot) = [] := by
  refine List.filterMap_eq_nil_iff.mpr fun event member => ?_
  have := quiet event member
  cases event <;> first | rfl | exact this.elim

theorem Carried.still {left right : Phase} (leftCalm : ∀ other packet, left ≠ .flushing other packet)
    (rightCalm : ∀ other packet, right ≠ .flushing other packet)
    (quiet : ∀ event ∈ new, MovesNoFrame event) (same : session.outbox = old.outbox) :
    Carried left right new slot old session := by
  refine .grown leftCalm rightCalm (passedFrom_of_movesNoFrame quiet) ?_
  rw [pushedTo_of_movesNoFrame quiet, same, List.append_nil]

theorem passedFrom_of_routing (routing : ∀ event ∈ new, RoutingEvent event) :
    new.filterMap (Event.passedFrom? slot) = [] := by
  refine List.filterMap_eq_nil_iff.mpr fun event member => ?_
  have := routing event member
  cases event <;> first | rfl | exact this.elim

-- Routing shows what it appended, whatever else the step shows.
theorem Carried.routed {left right : Phase} {routing quiet : List Event} (events : new = routing ++ quiet)
    (leftCalm : ∀ other packet, left ≠ .flushing other packet)
    (rightCalm : ∀ other packet, right ≠ .flushing other packet) (grows : Grows old session)
    (routes : ∀ event ∈ routing, RoutingEvent event) (quietly : ∀ event ∈ quiet, MovesNoFrame event)
    (shown : routing.filterMap (Event.pushedTo? slot) = session.outbox.items.drop old.outbox.items.length) :
    Carried left right new slot old session := by
  subst events
  refine .grown leftCalm rightCalm ?_ ?_
  · rw [List.filterMap_append, passedFrom_of_routing routes, passedFrom_of_movesNoFrame quietly]
    rfl
  · rw [List.filterMap_append, shown, pushedTo_of_movesNoFrame quietly, List.append_nil]
    exact (List.prefix_iff_eq_append.mp grows.2).symm

theorem Carried.popped {packet : OutboundPacket} {held : SessionId} {outbox : Bounded OutboundPacket maxOutboxDepth}
    (front : old.outbox.popFront = some (packet, outbox)) :
    Carried (.flush held) (.flushing held packet) [] held old { old with outbox := outbox } := by
  refine ⟨?_, fun _ => rfl⟩
  rw [Bounded.popFront_eq_some.mp front]
  simp [Phase.writing?]

theorem Carried.flushed {packet : OutboundPacket} {held : SessionId} {phase : Phase}
    (calm : ∀ other packet, phase ≠ .flushing other packet) :
    Carried (.flushing held packet) phase [.flushed id held packet] slot old old := by
  have outgoing : [Event.flushed id held packet].filterMap (Event.passedFrom? slot) =
      ((Phase.flushing held packet).writing? slot).toList := by
    by_cases here : held = slot <;> simp [Event.passedFrom?, Phase.writing?, here]
  refine ⟨?_, fun elsewhere => by rw [outgoing, elsewhere]; rfl⟩
  rw [outgoing, writing?_of_calm calm]
  simp [Event.pushedTo?]

def SameOutbox (old session : SessionState maxSubs maxInflight) : Prop := session.outbox = old.outbox

theorem SameOutbox.refl (session : SessionState maxSubs maxInflight) : SameOutbox session session := rfl

theorem carried_of_maps {before after : SessionRegistry maxSessions maxSubs maxInflight} {left right : Phase}
    (leftCalm : ∀ other packet, left ≠ .flushing other packet)
    (rightCalm : ∀ other packet, right ≠ .flushing other packet) (quiet : ∀ event ∈ new, MovesNoFrame event)
    (maps : Maps SameOutbox before after) (present : after.get slot = some session) :
    ∃ old, before.get slot = some old ∧ Carried left right new slot old session := by
  obtain ⟨old, stored, unchanged⟩ := maps.of_present present
  exact ⟨old, stored, .still leftCalm rightCalm quiet unchanged⟩

theorem movesNoFrame_of_wrote (quiet : ∀ event ∈ new, ∃ packet, event = .wrote id packet) :
    ∀ event ∈ new, MovesNoFrame event := by
  intro event member
  obtain ⟨_, rfl⟩ := quiet event member
  trivial

theorem writeEvents_movesNoFrame {packet : Packet} : ∀ event ∈ writeEvents id slot packet, MovesNoFrame event := by
  intro event member
  rcases List.mem_cons.mp member with rfl | untracked
  · trivial
  · split at untracked
    · obtain ⟨_, _, rfl⟩ := List.mem_map.mp untracked
      trivial
    · cases untracked

theorem Turn.carried (turn : Turn env broker id conn input result)
    (ordinary : Ordinary env broker id conn input result)
    (present : result.broker.registry.get slot = some session) :
    ∃ old, broker.registry.get slot = some old ∧
      Carried conn.phase result.conn.phase result.events slot old session := by
  have same : Maps SameOutbox broker.registry broker.registry := .of_eq SameOutbox.refl fun _ => rfl
  have put {held : SessionId} {old kept : SessionState maxSubs maxInflight}
      (found : broker.registry.get held = some old) (unchanged : SameOutbox old kept) :
      Maps SameOutbox broker.registry (broker.registry.put held kept) := .put SameOutbox.refl found unchanged
  cases turn with
  | connect waiting => exact absurd rfl (ordinary.unread waiting _ _)
  | removed waiting => exact absurd waiting (ordinary.unremoved _)
  | abandoned waiting quiet =>
    refine carried_of_maps ?_ (by simp) (movesNoFrame_of_wrote quiet) same present
    intro other packet flushing
    rw [flushing] at waiting
    cases waiting
  | unanswered waiting _ quiet =>
    exact carried_of_maps (by simp [waiting]) (by simp) (movesNoFrame_of_wrote quiet) same present
  | moved _ continues quiet calm =>
    exact carried_of_maps calm continues.calm (movesNoFrame_of_wrote quiet) same present
  | flushed waiting continues =>
    rw [waiting]
    exact ⟨session, present, .flushed continues.calm⟩
  | wrote waiting continues =>
    exact carried_of_maps (by simp [waiting]) continues.calm writeEvents_movesNoFrame same present
  | @popped held stored packet outbox waiting found front =>
    dsimp only at present ⊢
    rw [SessionRegistry.get_put found] at present
    rw [waiting]
    split at present
    · next here =>
      subst here
      cases present
      exact ⟨stored, found, .popped front⟩
    · next elsewhere =>
      refine ⟨session, present, ?_, fun _ => rfl⟩
      simp [Phase.writing?, Ne.symm elsewhere]
  | drained waiting found =>
    refine carried_of_maps (by simp [waiting]) (by simp) (by simp) (put found ?_) present
    rfl
  | served waiting retries continues =>
    refine carried_of_maps (by simp [waiting]) continues.calm (by simp [MovesNoFrame])
      (retries.retried.maps.mono ?_) present
    rintro old new ⟨inflight, rfl, _⟩
    rfl
  | published waiting found handled continues =>
    obtain ⟨old, stored, routed⟩ := (published_maps found handled).of_present present
    exact ⟨old, stored, .routed rfl (by simp [waiting]) continues.calm routed.grows
      (fun _ member => routedEvents_routing member) (by simp [MovesNoFrame]) (routedEvents_pushedTo stored present)⟩
  | acknowledged waiting found =>
    refine carried_of_maps (by simp [waiting]) (by simp) (by simp [MovesNoFrame])
      ((acknowledged_maps found _ _).mono ?_) present
    rintro old new ⟨_, _, rfl, _⟩
    rfl
  | handled waiting found continues =>
    refine carried_of_maps (by simp [waiting]) continues.calm (by simp) (put found ?_) present
    rfl
  | announced waiting _ leaving shown =>
    refine carried_of_maps (by simp [waiting]) (calm_of_leaving leaving) ?_ same present
    intro event member
    obtain ⟨_, rfl⟩ := shown event member
    trivial
  | @delivered _ lwt deliveries state waiting sent =>
    have extended := deliverLwts_maps env.codec lwt (broker.registry, broker.signals) deliveries
    rw [← sent] at extended
    obtain ⟨old, stored, grown⟩ := extended.of_present present
    exact ⟨old, stored, .routed (List.append_nil _).symm (by simp [waiting]) (by simp) grown.grows
      (fun _ member => willEvents_routing member) (by simp) (willEvents_pushedTo stored present)⟩

end

structure Balanced (events : List Event) (system : System maxSessions maxSubs maxInflight maxRetained) : Prop where
  attached : Attached system
  balance : ∀ slot session, system.broker.registry.get slot = some session →
    passed slot events ++ underway slot system.conns ++ session.outbox.items = pushed slot events

section

variable {system next : System maxSessions maxSubs maxInflight maxRetained} {events new : List Event}
  {broker : Broker maxSessions maxSubs maxInflight maxRetained} {id : Nat} {conn after : Conn} {label : Label}

theorem Balanced.carry (balanced : Balanced events system) (found : system.conns[id]? = some conn)
    (attached : Attached ⟨broker, system.conns.set id after⟩)
    (stays : ∀ slot, after.phase.slot? = some slot → conn.phase.slot? = some slot)
    (uncreated : ∀ slot, .created slot ∉ new)
    (carried : ∀ slot session, broker.registry.get slot = some session → ∃ old,
      system.broker.registry.get slot = some old ∧ Carried conn.phase after.phase new slot old session) :
    Balanced (events ++ new) ⟨broker, system.conns.set id after⟩ := by
  refine ⟨attached, fun slot session present => ?_⟩
  obtain ⟨old, stored, account, unpassed⟩ := carried slot session present
  have before := balanced.balance slot old stored
  rw [passed, pushed, sinceCreated_append (uncreated slot), List.filterMap_append, List.filterMap_append,
    ← passed, ← pushed, ← before]
  by_cases holds : conn.phase.slot? = some slot
  · obtain ⟨underwayBefore, underwayAfter⟩ := underway_set balanced.attached.unique found holds after
    simp only [underwayBefore, underwayAfter, List.append_assoc] at account ⊢
    rw [account]
  · have left := writing?_of_slot? holds
    have right := writing?_of_slot? fun theirs => holds (stays slot theirs)
    rw [underway_set_same found (right.trans left.symm), unpassed left]
    rw [left, right, unpassed left] at account
    simp only [Option.toList_none, List.nil_append, List.append_nil] at account ⊢
    rw [account]
    simp

theorem Balanced.ordinary {input : Input} {result : Result maxSessions maxSubs maxInflight maxRetained}
    (balanced : Balanced events system) (found : system.conns[id]? = some conn)
    (turn : Turn env system.broker id conn input result)
    (ordinary : Ordinary env system.broker id conn input result) :
    Balanced (events ++ result.events) ⟨result.broker, system.conns.set id result.conn⟩ := by
  refine balanced.carry found (balanced.attached.ordinary found ordinary) ?_
    (fun slot member => ordinary.quiet _ member trivial) fun slot session present => turn.carried ordinary present
  intro slot holds
  rcases ordinary.slot with same | ⟨closed, _⟩
  · rw [← same, holds]
  · rw [closed] at holds
    cases holds

theorem Balanced.still (balanced : Balanced events system) (attached : Attached next)
    (conns : ∀ slot, underway slot next.conns = underway slot system.conns)
    (quiet : ∀ event ∈ new, MovesNoFrame event)
    (sessions : ∀ slot session, next.broker.registry.get slot = some session →
      (.created slot ∉ new ∧ ∃ old, system.broker.registry.get slot = some old ∧ SameOutbox old session) ∨
        .created slot ∈ new ∧ session.outbox.items = [] ∧ ¬ Remembered system.conns slot) :
    Balanced (events ++ new) next := by
  refine ⟨attached, fun slot session present => ?_⟩
  rw [conns]
  rcases sessions slot session present with ⟨uncreated, old, stored, same⟩ | ⟨created, empty, unremembered⟩
  · rw [passed, pushed, sinceCreated_append uncreated, List.filterMap_append, List.filterMap_append,
      passedFrom_of_movesNoFrame quiet, pushedTo_of_movesNoFrame quiet, List.append_nil, List.append_nil, same]
    exact balanced.balance slot old stored
  · have since : ∀ event ∈ sinceCreated slot (events ++ new), MovesNoFrame event := fun event member =>
      quiet event (mem_sinceCreated created member)
    rw [passed, pushed, passedFrom_of_movesNoFrame since, pushedTo_of_movesNoFrame since, empty,
      underway_of_unremembered unremembered]
    rfl

theorem Balanced.connected {packet : Connect} {now : Instant}
    {result : Result maxSessions maxSubs maxInflight maxRetained} (balanced : Balanced events system)
    (found : system.conns[id]? = some conn) (waiting : conn.phase = .awaitConnect)
    (unreused : ∀ conn ∈ system.conns, conn.phase.slot? ≠ none →
      ∀ accepted ∈ conn.accepted, accepted.clientId ≠ packet.clientId)
    (connected : Connected env system.broker id packet now result) :
    Balanced (events ++ result.events) ⟨result.broker, system.conns.set id result.conn⟩ := by
  have attached := balanced.attached.connected found unreused connected
  have conns (slot : SessionId) (calm : result.conn.phase.writing? slot = none) :
      underway slot (system.conns.set id result.conn) = underway slot system.conns :=
    underway_set_same found (by rw [calm, waiting]; rfl)
  have movesNoFrame {event : Event} (member : event ∈ result.events) : MovesNoFrame event :=
    (connected.bookkeeping member).movesNoFrame
  have calm (slot : SessionId) : result.conn.phase.writing? slot = none := by
    cases connected with
    | accepted => rfl
    | refused _ _ left => exact writing?_of_slot? (by simp [left])
  refine balanced.still attached (fun slot => conns slot (calm slot)) (fun _ => movesNoFrame) ?_
  intro slot session kept
  cases connected.seated kept with
  | untouched same uncreated => exact .inl ⟨uncreated, session, same, rfl⟩
  | resumed _ _ found same uncreated =>
    subst same
    exact .inl ⟨uncreated, _, found, rfl⟩
  | created _ _ claimed _ same created =>
    subst same
    exact .inr ⟨created, rfl, balanced.attached.not_remembered unreused claimed⟩

theorem Balanced.removed {slot : SessionId} (balanced : Balanced events system)
    (found : system.conns[id]? = some conn) (waiting : conn.phase = .removeSession slot) :
    Balanced (events ++ []) ⟨removeStep system.broker slot, system.conns.set id { conn with phase := .closed }⟩ := by
  refine balanced.still (balanced.attached.removed found waiting)
    (fun slot => underway_set_same found (by rw [waiting]; rfl)) (by simp) ?_
  intro other session present
  rw [removeStep, SessionRegistry.get_remove] at present
  split at present
  · cases present
  · exact .inl ⟨by simp, session, present, rfl⟩

theorem Balanced.step (balanced : Balanced events system) (unreused : Unreused system label)
    (taken : System.step env system label = some (next, new)) : Balanced (events ++ new) next := by
  have attached := balanced.attached.step unreused taken
  cases step_transition taken with
  | spawned =>
    refine balanced.still attached (fun slot => ?_) (by simp) fun slot session present =>
      .inl ⟨by simp, session, present, rfl⟩
    rw [underway, List.filterMap_append]
    exact List.append_nil _
  | @outbound publish now broker sent =>
    refine ⟨attached, fun slot session present => ?_⟩
    have maps := processOutboundPublish_maps env.codec system.broker publish now
    rw [← sent] at maps
    obtain ⟨old, stored, routed⟩ := maps.of_present present
    have uncreated : .created slot ∉ routedEvents system.broker.registry broker.registry :=
      fun created => (routedEvents_routing created).quiet.1 trivial
    have grown := List.prefix_iff_eq_append.mp routed.grows.2
    rw [passed, pushed, sinceCreated_append uncreated, List.filterMap_append, List.filterMap_append,
      passedFrom_of_routing fun _ member => routedEvents_routing member, routedEvents_pushedTo stored present,
      List.append_nil, ← grown, ← List.append_assoc, List.drop_left]
    exact congrArg (· ++ _) (balanced.balance slot old stored)
  | connected found waiting connected => exact balanced.connected found waiting (unreused _ rfl) connected
  | removed found waiting => exact balanced.removed found waiting
  | ordinary found turn ordinary => exact balanced.ordinary found turn ordinary

end

theorem outbox_fifo {labels : List Label} {events : List Event}
    {system : System maxSessions maxSubs maxInflight maxRetained} {slot : SessionId}
    {session : SessionState maxSubs maxInflight}
    (run : Run (System.step env) Unreused .new labels events system)
    (present : system.broker.registry.get slot = some session) :
    passed slot events ++ underway slot system.conns ++ session.outbox.items = pushed slot events := by
  have balanced : Balanced events system := by
    refine run.invariant (P := Balanced) ⟨attached_new, fun slot session present => ?_⟩
      fun _ _ _ _ _ balanced unreused taken => balanced.step unreused taken
    cases present.symm.trans (SessionRegistry.get_new slot)
  exact balanced.balance slot session present

-- A subscriber to "t" and a publisher, both waiting for what comes next.
def twoClients : List Label :=
  [.spawn, .spawn] ++ Label.admit 0 [97] ++ Label.subscribe 0 (Bounded.truncate [116]) .atMostOnce ++
    Label.resume 0 ++ Label.admit 1 [98]

-- Three messages: one is passed on, one underway, one still waits.
def threeMessages : List Label :=
  twoClients ++ [.publish 1 ⟨false, .atMostOnce, false, [116], [49]⟩] ++ Label.resume 1 ++
    [.publish 1 ⟨false, .atMostOnce, false, [116], [50]⟩] ++ Label.resume 1 ++
    [.publish 1 ⟨false, .atMostOnce, false, [116], [51]⟩, .conn 0 .signal, .conn 0 .lock, .conn 0 (.write true),
      .conn 0 .lock]

theorem outbox_fifo_three : ∃ (system : System 2 1 1 1) (events : List Event) (session : SessionState 1 1),
    Run (System.step gatomqttEnv) Unreused .new threeMessages events system ∧
      system.broker.registry.get 0 = some session ∧ (passed 0 events).length = 1 ∧
      (underway 0 system.conns).length = 1 ∧ session.outbox.items.length = 1 ∧
      passed 0 events ++ underway 0 system.conns ++ session.outbox.items = pushed 0 events := by
  obtain ⟨system, events, run, tested⟩ : ∃ (system : System 2 1 1 1) (events : List Event),
      Run (System.step gatomqttEnv) Unreused .new threeMessages events system ∧
      (system.broker.registry.get 0).any (fun session => decide ((passed 0 events).length = 1 ∧
        (underway 0 system.conns).length = 1 ∧ session.outbox.items.length = 1)) = true :=
    Execution.exists_run (by decide +kernel)
  obtain ⟨session, present, counts⟩ := (Option.any_eq_true _ _).mp tested
  obtain ⟨one, two, three⟩ := of_decide_eq_true counts
  exact ⟨system, events, session, run, present, one, two, three, outbox_fifo run present⟩

end PicoBroker
