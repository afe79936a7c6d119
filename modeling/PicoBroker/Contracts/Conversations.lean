import PicoBroker.Broker.Steps
import PicoBroker.Contracts.Framing
import PicoBroker.Invariants.Addressing

set_option autoImplicit false

namespace PicoBroker

open Execution (Run Anything)

variable {maxSessions maxSubs maxInflight maxRetained : Nat} {env : Env}

inductive Ack where
  | puback (pid : Pid)
  | suback (pid : Pid)
  | unsuback (pid : Pid)
  | pingresp
deriving DecidableEq

-- What a packet acknowledges.
def Packet.ack? : Packet → Option Ack
  | .puback pid => some (.puback pid)
  | .suback answer => some (.suback answer.pid)
  | .unsuback pid => some (.unsuback pid)
  | .pingresp => some .pingresp
  | _ => none

-- The acknowledgement a packet asks for.
def Packet.due? : Packet → Option Ack
  | .publish message =>
      match message.qospid with
      | .atLeastOnce pid => some (.puback pid)
      | _ => none
  | .subscribe request => some (.suback request.pid)
  | .unsubscribe request => some (.unsuback request.pid)
  | .pingreq => some .pingresp
  | _ => none

def acks (packets : List Packet) : List Ack := packets.filterMap Packet.ack?

def due (packets : List Packet) : List Ack := packets.filterMap Packet.due?

def Event.written? (id : Nat) : Event → Option Packet
  | .wrote conn packet => if conn = id then some packet else none
  | _ => none

def writtenBy (id : Nat) (events : List Event) : List Packet := events.filterMap (Event.written? id)

def written (id : Nat) (events : List WireEvent) : List Packet := writtenBy id (events.filterMap WireEvent.broker?)

theorem written_append (id : Nat) (events new : List WireEvent) :
    written id (events ++ new) = written id events ++ written id new := by
  simp [written, writtenBy, List.filterMap_append]

theorem written_broker (id : Nat) (events : List Event) : written id (events.map .broker) = writtenBy id events := by
  rw [written, filterMap_broker]

theorem written_eq_nil {id : Nat} {events : List WireEvent} (other : ∀ event ∈ events, event.broker? = none) :
    written id events = [] := by
  rw [written, List.filterMap_eq_nil_iff.mpr other]
  rfl

-- The packets after the first one are acknowledged in order, and all but the last of them already are.
inductive Conversation : List Packet → List Packet → Prop
  | silent {read : List Packet} (started : read.length ≤ 1) : Conversation read []
  | answered {first : Packet} {rest others : List Packet} {connack : Connack} (once : ∀ other, .connack other ∉ others)
      (inOrder : acks others <+: due rest) (complete : due rest.dropLast <+: acks others) :
      Conversation (first :: rest) (.connack connack :: others)

section

variable {read written pending later : List Packet} {packet : Packet}

inductive Talking (pending : List Packet) : List Packet → List Packet → Prop
  | mk {first : Packet} {rest others : List Packet} {connack : Connack}
      (once : ∀ other, .connack other ∉ others ++ pending) (owed : acks others ++ acks pending = due rest)
      (complete : due rest.dropLast <+: acks others) :
      Talking pending (first :: rest) (.connack connack :: others)

theorem Talking.leave (talking : Talking pending read written) : Conversation read written := by
  obtain ⟨once, owed, complete⟩ := talking
  refine .answered (fun other member => once other (List.mem_append_left _ member)) ?_ complete
  rw [← owed]
  exact List.prefix_append ..

theorem due_append (before after : List Packet) : due (before ++ after) = due before ++ due after :=
  List.filterMap_append

theorem acks_append (before after : List Packet) : acks (before ++ after) = acks before ++ acks after :=
  List.filterMap_append

theorem Talking.hear (talking : Talking [] read written) (answers : acks pending = due [packet])
    (plain : ∀ other, .connack other ∉ pending) : Talking pending (read ++ [packet]) written := by
  obtain ⟨once, owed, complete⟩ := talking
  have settled := (List.append_nil _).symm.trans owed
  rw [List.cons_append]
  refine .mk (fun other member => ?_) ?_ ?_
  · rcases List.mem_append.mp member with before | now
    · exact once other (List.mem_append_left _ before)
    · exact plain other now
  · rw [due_append, answers, ← settled]
  · rw [List.dropLast_concat, ← settled]

theorem Talking.hear_leave (talking : Talking [] read written) (packet : Packet) :
    Conversation (read ++ [packet]) written := by
  obtain ⟨once, owed, complete⟩ := talking
  have settled := (List.append_nil _).symm.trans owed
  rw [List.cons_append]
  refine .answered (fun other member => once other (List.mem_append_left _ member)) ?_ ?_
  · rw [due_append, ← settled]
    exact List.prefix_append ..
  · rw [List.dropLast_concat, ← settled]

theorem Talking.write (talking : Talking (packet :: later) read written) :
    Talking later read (written ++ [packet]) := by
  obtain ⟨once, owed, complete⟩ := talking
  have moved (others : List Packet) :
      acks (others ++ [packet]) ++ acks later = acks others ++ acks (packet :: later) := by
    rw [← acks_append, ← acks_append, List.append_assoc]
    rfl
  rw [List.cons_append]
  refine .mk (fun other member => once other ?_) ?_ ?_
  · simpa using member
  · rw [moved, owed]
  · rw [acks_append]
    exact complete.trans (List.prefix_append ..)

def Converses (read written : List Packet) : Phase → Prop
  | .awaitConnect => read = [] ∧ written = []
  | .reject _ | .connack _ _ => read.length = 1 ∧ written = []
  | .flush _ | .flushing _ _ | .service _ | .select _ _ => Talking [] read written
  | .write _ packet rest => Talking (packet :: rest) read written
  | .publishLwt _ _ | .deliverLwt _ _ _ | .removeSession _ | .closed => Conversation read written

theorem Converses.conversation {phase : Phase} (converses : Converses read written phase) :
    Conversation read written := by
  cases phase with
  | awaitConnect =>
    obtain ⟨rfl, rfl⟩ := converses
    exact .silent (Nat.zero_le _)
  | reject | connack =>
    obtain ⟨one, rfl⟩ := converses
    exact .silent (Nat.le_of_eq one)
  | flush | flushing | service | select | write => exact converses.leave
  | publishLwt | deliverLwt | removeSession | closed => exact converses

theorem converses_beginCleanup (conversation : Conversation read written) (slot : SessionId)
    (reason : DisconnectReason) : Converses read written (beginCleanup slot reason) := by
  unfold beginCleanup
  split <;> exact conversation

end

section

variable {broker : Broker maxSessions maxSubs maxInflight maxRetained} {id : Nat} {conn : Conn} {input : Input}
  {result : Result maxSessions maxSubs maxInflight maxRetained} {read written : List Packet} {slot : SessionId}

theorem writtenBy_eq_nil {events : List Event}
    (quiet : ∀ event ∈ events, ∀ conn packet, event ≠ .wrote conn packet) : writtenBy id events = [] := by
  refine List.filterMap_eq_nil_iff.mpr fun event member => ?_
  cases event with
  | wrote conn packet => exact absurd rfl (quiet _ member conn packet)
  | _ => rfl

theorem RoutingEvent.ne_wrote {event : Event} (routing : RoutingEvent event) (conn : Nat) (packet : Packet) :
    event ≠ .wrote conn packet := by
  rintro rfl
  cases routing

theorem Bookkeeping.ne_wrote {event : Event} (bookkeeping : Bookkeeping event) (conn : Nat) (packet : Packet) :
    event ≠ .wrote conn packet := by
  rintro rfl
  cases bookkeeping

theorem writtenBy_published (before after : SessionRegistry maxSessions maxSubs maxInflight) (conn : Nat)
    (intent : Option MqttIntent) :
    writtenBy id (routedEvents before after ++ intent.toList.map (.intent conn)) = [] := by
  refine writtenBy_eq_nil fun event member => ?_
  rcases List.mem_append.mp member with routed | given
  · exact (routedEvents_routing routed).ne_wrote
  · obtain ⟨_, _, rfl⟩ := List.mem_map.mp given
    simp

theorem writtenBy_connectStep (connect : Connect) (now : Instant) (conn : Nat) :
    writtenBy id (connectStep env broker conn connect now).events = [] :=
  writtenBy_eq_nil fun _ member => ((connectStep_connected ..).bookkeeping member).ne_wrote

-- A loop writes on its own transport only.
theorem connStep_writes (stepped : connStep env broker id conn input = some result) {other : Nat}
    (apart : other ≠ id) : writtenBy other result.events = [] := by
  have own {events : List Event} (wrote : ∀ event ∈ events, ∃ packet, event = .wrote id packet) :
      writtenBy other events = [] := by
    refine List.filterMap_eq_nil_iff.mpr fun event member => ?_
    obtain ⟨packet, rfl⟩ := wrote event member
    exact if_neg (Ne.symm apart)
  cases connStep_turn stepped with
  | connect => exact writtenBy_connectStep ..
  | abandoned _ quiet | unanswered _ _ quiet | moved _ _ quiet => exact own quiet
  | wrote =>
    refine List.filterMap_eq_nil_iff.mpr fun event member => ?_
    rcases List.mem_cons.mp member with rfl | untracked
    · exact if_neg (Ne.symm apart)
    · split at untracked
      · obtain ⟨_, _, rfl⟩ := List.mem_map.mp untracked
        rfl
      · cases untracked
  | published => exact writtenBy_published ..
  | announced _ _ _ shown =>
    refine writtenBy_eq_nil fun event member => ?_
    obtain ⟨_, rfl⟩ := shown event member
    simp
  | delivered => exact writtenBy_eq_nil fun event member => (willEvents_routing member).ne_wrote
  | served => exact writtenBy_eq_nil (by simp)
  | flushed | acknowledged => exact writtenBy_eq_nil (by simp)
  | popped | drained | handled | removed => rfl

def Input.read? : Input → Option Packet
  | .firstPacket read _ | .packet read _ _ _ => some read
  | _ => none

theorem handled_conn (id : Nat) (input : Input) : handled id (Label.conn id input).handled = input.read?.toList := by
  cases input <;> simp [handled, Label.handled, Label.packet?, WireEvent.packet?, Input.read?]

theorem connectStep_converses (connect : Connect) (now : Instant) (id : Nat) :
    Converses [.connect connect] (writtenBy id (connectStep env broker id connect now).events)
      (connectStep env broker id connect now).conn.phase := by
  rw [writtenBy_connectStep]
  unfold connectStep
  split
  · exact ⟨rfl, rfl⟩
  · exact ⟨rfl, rfl⟩
  · exact .silent (Nat.le_refl _)

theorem publishStep_converses {publish : Publish} {activityNow now : Instant} {accepts : Bool}
    (talking : Talking [] read written) :
    Converses (read ++ [.publish publish]) written (publishStep env broker slot publish activityNow now accepts).2 := by
  unfold publishStep
  split
  · exact converses_beginCleanup (talking.hear_leave _) slot .connectionClosed
  · dsimp only
    unfold afterPublish
    split
    · exact converses_beginCleanup (talking.hear_leave _) slot .rateLimitExceeded
    · exact converses_beginCleanup (talking.hear_leave _) slot .commandHandlerOverloaded
    · split
      · next pid asked => exact talking.hear (by simp [acks, due, Packet.ack?, Packet.due?, asked]) (by simp)
      · next other =>
        refine talking.hear ?_ (by simp)
        cases qospid : publish.qospid with
        | atLeastOnce pid => exact absurd qospid (other pid)
        | atMostOnce | exactlyOnce => simp [acks, due, Packet.due?, qospid]

theorem sessionStep_converses {packet : Packet} {now : Instant} (talking : Talking [] read written)
    (other : ∀ publish, packet ≠ .publish publish) :
    Converses (read ++ [packet]) written (sessionStep broker slot packet now).2.1 := by
  unfold sessionStep
  split
  · exact converses_beginCleanup (talking.hear_leave _) slot .connectionClosed
  · dsimp only
    split
    · exact talking.hear rfl (by simp)
    · refine talking.hear ?_ (by simp)
      simp [acks, due, Packet.ack?, Packet.due?, prepareSubscribe, List.filterMap_map, Function.comp_def]
    · exact talking.hear rfl (by simp)
    · exact talking.hear rfl (by simp)
    · next _ _ _ _ =>
      refine talking.hear ?_ (by simp)
      cases packet with
      | publish publish => exact absurd rfl (other publish)
      | _ => simp_all [acks, due, Packet.due?]

theorem writtenBy_sessionStep (packet : Packet) (now : Instant) :
    writtenBy id (sessionStep broker slot packet now).2.2 = [] := by
  unfold sessionStep
  split
  · rfl
  · dsimp only
    split <;> rfl

theorem serviceStep_converses {retryNow now : Instant} {answers : List Bool} (talking : Talking [] read written) :
    Converses read written (serviceStep env broker slot retryNow now answers).2.1 := by
  unfold serviceStep
  split
  · exact converses_beginCleanup talking.leave slot .connectionClosed
  · split
    · exact converses_beginCleanup talking.leave slot .outboxQuarantine
    · dsimp only
      split
      · exact converses_beginCleanup talking.leave slot .retryLimitExceeded
      · split
        · exact converses_beginCleanup talking.leave slot .connectionClosed
        · split
          · exact converses_beginCleanup talking.leave slot .keepaliveTimeout
          · exact talking

theorem flushStep_converses (talking : Talking [] read written) :
    Converses read written (flushStep broker slot).2 := by
  unfold flushStep
  split
  · exact talking
  · split <;> exact talking

theorem lwtStep_converses {reason : DisconnectReason} (conversation : Conversation read written) :
    Converses read written (lwtStep broker slot reason).2.1 := by
  unfold lwtStep
  split
  · exact conversation
  · dsimp only
    split <;> exact conversation

@[simp] theorem writtenBy_nil (id : Nat) : writtenBy id [] = [] := rfl

@[simp] theorem writtenBy_wrote (id : Nat) (packet : Packet) (events : List Event) :
    writtenBy id (.wrote id packet :: events) = packet :: writtenBy id events :=
  List.filterMap_cons_some (if_pos rfl)

theorem writtenBy_writeEvents (id : Nat) (slot : SessionId) (packet : Packet) :
    writtenBy id (writeEvents id slot packet) = [packet] := by
  cases packet with
  | publish publish =>
    have untracked : writtenBy id (publish.qospid.pid.toList.map fun pid => .untracked slot pid.value) = [] :=
      writtenBy_eq_nil (by simp)
    rw [writeEvents, writtenBy_wrote, untracked]
  | _ => exact writtenBy_wrote ..

theorem Converses.quiet {events : List Event} {phase : Phase} (converses : Converses read written phase)
    (unread : input.read? = none) (silent : writtenBy id events = []) :
    Converses (read ++ input.read?.toList) (written ++ writtenBy id events) phase := by
  rw [unread, silent, Option.toList_none, List.append_nil, List.append_nil]
  exact converses

theorem Converses.heard {events : List Event} {phase : Phase} {packet : Packet}
    (converses : Converses (read ++ [packet]) written phase) (taken : input.read? = some packet)
    (silent : writtenBy id events = []) :
    Converses (read ++ input.read?.toList) (written ++ writtenBy id events) phase := by
  rw [taken, silent, Option.toList_some, List.append_nil]
  exact converses

theorem Converses.wrote {events : List Event} {phase : Phase} {packet : Packet}
    (converses : Converses read (written ++ [packet]) phase) (unread : input.read? = none)
    (shown : writtenBy id events = [packet]) :
    Converses (read ++ input.read?.toList) (written ++ writtenBy id events) phase := by
  rw [unread, shown, Option.toList_none, List.append_nil]
  exact converses

theorem greeted (one : read.length = 1) (connack : Connack) : Talking [] read [.connack connack] := by
  obtain ⟨first, rfl⟩ := List.length_eq_one_iff.mp one
  exact .mk (by simp) rfl List.nil_prefix

theorem Converses.flush {events : List Event} (talking : Talking [] read written) (unread : input.read? = none)
    (silent : writtenBy id events = []) :
    Converses (read ++ input.read?.toList) (written ++ writtenBy id events) (.flush slot) :=
  (show Converses read written (.flush slot) from talking).quiet unread silent

theorem selectStep_converses {timerAfter : Duration} (talking : Talking [] read written)
    (waiting : conn.phase = .select slot timerAfter) (stepped : connStep env broker id conn input = some result) :
    Converses (read ++ input.read?.toList) (written ++ writtenBy id result.events) result.conn.phase := by
  obtain ⟨phase, accepted⟩ := conn
  cases waiting
  cases input with
  | packet packet activityNow now accepts =>
    have other (unlike : ∀ publish, packet ≠ .publish publish) :
        Converses (read ++ [packet]) written (sessionStep broker slot packet activityNow).2.1 :=
      sessionStep_converses talking unlike
    have silent : writtenBy id (sessionStep broker slot packet activityNow).2.2 = [] := writtenBy_sessionStep ..
    cases packet with
    | publish publish =>
      cases stepped
      exact (publishStep_converses talking).heard rfl (writtenBy_published ..)
    | disconnect =>
      cases stepped
      exact (converses_beginCleanup (talking.hear_leave .disconnect) slot .clientDisconnect).heard rfl rfl
    | _ =>
      cases stepped
      exact (other (by simp)).heard rfl silent
  | readFailed eof =>
    cases stepped
    exact (converses_beginCleanup talking.leave slot _).quiet rfl rfl
  | timer =>
    cases stepped
    exact Converses.flush talking rfl rfl
  | signal =>
    simp only [connStep] at stepped
    split at stepped
    · cases stepped
      exact Converses.flush talking rfl rfl
    · cases stepped
  | _ => cases stepped

theorem Converses.connStep (converses : Converses read written conn.phase)
    (stepped : connStep env broker id conn input = some result) :
    Converses (read ++ input.read?.toList) (written ++ writtenBy id result.events) result.conn.phase := by
  obtain ⟨phase, accepted⟩ := conn
  cases phase with
  | awaitConnect =>
    obtain ⟨rfl, rfl⟩ := converses
    cases input with
    | firstPacket packet now =>
      cases packet with
      | connect connect =>
        cases stepped
        exact connectStep_converses connect now id
      | _ =>
        cases stepped
        exact .silent (Nat.le_refl _)
    | firstFailed =>
      cases stepped
      exact .silent (Nat.zero_le _)
    | _ => cases stepped
  | reject code =>
    obtain ⟨one, rfl⟩ := converses
    cases input with
    | write answer =>
      cases stepped
      cases env.codec.encodeSlice (.connack ⟨false, code⟩) env.maxPacketSize with
      | none => exact Converses.quiet (.silent (Nat.le_of_eq one)) rfl rfl
      | some frame => exact Converses.wrote (greeted one _).leave rfl (writtenBy_wrote ..)
    | _ => cases stepped
  | connack slot sessionPresent =>
    obtain ⟨one, rfl⟩ := converses
    cases input with
    | write answer =>
      simp only [PicoBroker.connStep] at stepped
      split at stepped
      · cases stepped
        exact Converses.quiet (.silent (Nat.le_of_eq one)) rfl rfl
      · cases stepped
        cases answer with
        | true => exact Converses.wrote (greeted one _) rfl (writtenBy_wrote ..)
        | false => exact Converses.wrote (greeted one _).leave rfl (writtenBy_wrote ..)
    | _ => cases stepped
  | flush slot =>
    cases input with
    | lock =>
      cases stepped
      exact (flushStep_converses converses).quiet rfl rfl
    | _ => cases stepped
  | flushing slot packet =>
    cases input with
    | write answer =>
      cases stepped
      cases answer with
      | true => exact Converses.flush converses rfl rfl
      | false => exact (converses_beginCleanup converses.leave slot .transportError).quiet rfl rfl
    | _ => cases stepped
  | service slot =>
    cases input with
    | service retryNow now answers =>
      cases stepped
      exact (serviceStep_converses converses).quiet rfl (writtenBy_eq_nil (by simp))
    | _ => cases stepped
  | select slot timerAfter => exact selectStep_converses converses rfl stepped
  | write slot packet rest =>
    cases input with
    | write answer =>
      simp only [PicoBroker.connStep] at stepped
      split at stepped
      · cases stepped
        exact (converses_beginCleanup converses.leave slot .transportError).quiet rfl rfl
      · cases stepped
        have shown := writtenBy_writeEvents id slot packet
        cases answer with
        | true => cases rest <;> exact Converses.wrote converses.write rfl shown
        | false => exact (converses_beginCleanup converses.write.leave slot .transportError).wrote rfl shown
    | _ => cases stepped
  | publishLwt slot reason =>
    cases input with
    | lock =>
      cases stepped
      exact (lwtStep_converses converses).quiet rfl (writtenBy_eq_nil (by simp))
    | _ => cases stepped
  | deliverLwt slot lwt deliveries =>
    cases input with
    | lock =>
      cases stepped
      exact Converses.quiet converses rfl (writtenBy_eq_nil fun event member => (willEvents_routing member).ne_wrote)
    | _ => cases stepped
  | removeSession slot =>
    cases input with
    | lock =>
      cases stepped
      exact Converses.quiet converses rfl rfl
    | _ => cases stepped
  | closed => cases input <;> cases stepped

end

section

variable {id : Nat} {events new : List WireEvent} {wired next : Wired maxSessions maxSubs maxInflight maxRetained}
  {system after : System maxSessions maxSubs maxInflight maxRetained} {read written : List Packet}

def Held (id : Nat) (read written : List Packet) (system : System maxSessions maxSubs maxInflight maxRetained) : Prop :=
  match system.conns[id]? with
  | none => read = [] ∧ written = []
  | some conn => Converses read written conn.phase

theorem Held.conversation (held : Held id read written system) : Conversation read written := by
  unfold Held at held
  split at held
  · obtain ⟨rfl, rfl⟩ := held
    exact .silent (Nat.zero_le _)
  · exact held.conversation

theorem Held.same (held : Held id read written system) (conns : after.conns[id]? = system.conns[id]?) :
    Held id read written after := by
  unfold Held at held ⊢
  rw [conns]
  exact held

theorem Held.spawn (held : Held id read written system) :
    Held id read written { system with conns := system.conns ++ [⟨.awaitConnect, none⟩] } := by
  rcases Nat.lt_trichotomy id system.conns.length with earlier | rfl | later
  · exact held.same (List.getElem?_append_left earlier)
  · unfold Held at held ⊢
    rw [List.getElem?_eq_none (Nat.le_refl _)] at held
    rw [List.getElem?_concat_length]
    exact held
  · refine held.same ?_
    rw [List.getElem?_eq_none (Nat.le_of_lt later), List.getElem?_eq_none]
    rw [List.length_append]
    exact later

theorem Held.step {label : Label} {shown : List Event} (held : Held id read written system)
    (taken : System.step env system label = some (after, shown)) :
    Held id (read ++ handled id label.handled) (written ++ writtenBy id shown) after := by
  cases label with
  | spawn =>
    cases taken
    have nothing : handled id Label.spawn.handled = [] := rfl
    rw [nothing, writtenBy_nil, List.append_nil, List.append_nil]
    exact held.spawn
  | outbound publish now =>
    cases taken
    have nothing : handled id (Label.outbound publish now).handled = [] := rfl
    rw [nothing, writtenBy_eq_nil fun event member => (routedEvents_routing member).ne_wrote, List.append_nil,
      List.append_nil]
    exact held.same rfl
  | conn moving input =>
    obtain ⟨conn, result, found, stepped, rfl, rfl⟩ := step_conn taken
    by_cases own : moving = id
    · subst own
      unfold Held at held ⊢
      rw [found] at held
      rw [conns_set_self found, handled_conn]
      exact held.connStep stepped
    · have elsewhere : handled id (Label.conn moving input).handled = [] := by
        cases input <;> simp [handled, Label.handled, Label.packet?, WireEvent.packet?, own]
      rw [elsewhere, connStep_writes stepped (Ne.symm own), List.append_nil, List.append_nil]
      exact held.same (List.getElem?_set_ne own)

theorem Held.wiredStep {label : WireLabel}
    (held : Held id (handled id events) (PicoBroker.written id events) wired.system)
    (taken : Wired.step env wired label = some (next, new)) :
    Held id (handled id (events ++ new)) (PicoBroker.written id (events ++ new)) next.system := by
  rw [handled_append, written_append]
  rcases Wired.step_label taken with ⟨same, arrivals⟩ | ⟨below, shown, stepped, _, rfl⟩
  · have unread : handled id new = [] := by
      refine List.filterMap_eq_nil_iff.mpr fun event member => ?_
      obtain ⟨_, _, rfl⟩ := arrivals event member
      rfl
    have silent : PicoBroker.written id new = [] := written_eq_nil fun event member => by
      obtain ⟨_, _, rfl⟩ := arrivals event member
      rfl
    rw [unread, silent, List.append_nil, List.append_nil, same]
    exact held
  · have quiet : PicoBroker.written id below.handled = [] := written_eq_nil fun event member => by
      rw [Label.handled, Option.toList_map] at member
      obtain ⟨_, _, rfl⟩ := List.mem_map.mp member
      rfl
    rw [handled_append, handled_broker, List.append_nil, written_append, quiet, List.nil_append, written_broker]
    exact held.step stepped

theorem run_held {labels : List WireLabel} (run : Run (Wired.step env) Anything (.new env) labels events wired) :
    Held id (handled id events) (PicoBroker.written id events) wired.system := by
  refine run.invariant (P := fun events wired =>
    Held id (handled id events) (PicoBroker.written id events) wired.system) ?_ ?_
  · exact And.intro rfl rfl
  intro events wired label next new held _ taken
  exact held.wiredStep taken

def Event.sends (id : Nat) : Event → Prop
  | .flushed conn _ _ | .retried conn _ _ => conn = id
  | _ => False

theorem Event.sends.transmission {event : Event} (sends : event.sends id) : Transmission event := by
  cases event <;> trivial

def Greeted (read written : List Packet) : Prop :=
  ∃ first rest connack others, read = first :: rest ∧ written = Packet.connack connack :: others

theorem Greeted.append (greeted : Greeted read written) (moreRead moreWritten : List Packet) :
    Greeted (read ++ moreRead) (written ++ moreWritten) := by
  obtain ⟨first, rest, connack, others, rfl, rfl⟩ := greeted
  exact ⟨first, rest ++ moreRead, connack, others ++ moreWritten, rfl, rfl⟩

theorem Talking.greeted (talking : Talking [] read written) : Greeted read written := by
  obtain ⟨_, _, _⟩ := talking
  exact ⟨_, _, _, _, rfl, rfl⟩

theorem Held.greeted {label : Label} {shown : List Event} (held : Held id read written system)
    (taken : System.step env system label = some (after, shown)) {event : Event} (member : event ∈ shown)
    (sends : event.sends id) : Greeted read written := by
  cases label with
  | spawn =>
    cases taken
    cases member
  | outbound publish now =>
    cases taken
    exact absurd sends.transmission (routedEvents_routing member).not_transmission
  | conn moving input =>
    obtain ⟨conn, result, found, stepped, rfl, rfl⟩ := step_conn taken
    -- Only a loop that is flushing its outbox or serving its session sends, and it has greeted its client.
    rcases (connStep_turn stepped).transmission member sends.transmission with
      ⟨slot, packet, rfl, waiting⟩ | ⟨slot, _, publish, rfl, waiting, _⟩
    all_goals
      obtain rfl : moving = id := sends
      unfold Held at held
      rw [found] at held
      have talking : Converses read written conn.phase := held
      rw [waiting] at talking
      exact Talking.greeted talking

structure RepliesInOrder (id : Nat) (events : List WireEvent) : Prop where
  conversation : Conversation (handled id events) (PicoBroker.written id events)
  greeted : ∀ earlier event later, events = earlier ++ .broker event :: later → event.sends id →
    Greeted (handled id earlier) (PicoBroker.written id earlier)

theorem packets_answered {labels : List WireLabel} (run : Run (Wired.step env) Anything (.new env) labels events wired)
    (id : Nat) : RepliesInOrder id events := by
  refine ⟨(run_held run).conversation, fun earlier event later split => ?_⟩
  refine run.each (P := fun events wired => Held id (handled id events) (PicoBroker.written id events) wired.system)
    (Q := fun before shown => ∀ event, shown = .broker event → event.sends id →
      Greeted (handled id before) (PicoBroker.written id before)) ?_ ?_ ?_ ?_ split event rfl
  · exact And.intro rfl rfl
  · intro events wired label next new held _ taken
    exact held.wiredStep taken
  · intro events wired label next new held _ taken shown member event same sends
    subst same
    rcases Wired.step_label taken with ⟨_, arrivals⟩ | ⟨below, routed, stepped, _, rfl⟩
    · obtain ⟨_, _, impossible⟩ := arrivals _ member
      cases impossible
    · rcases List.mem_append.mp member with read | shown
      · rw [Label.handled, Option.toList_map] at read
        obtain ⟨_, _, impossible⟩ := List.mem_map.mp read
        cases impossible
      · obtain ⟨_, here, same⟩ := List.mem_map.mp shown
        cases same
        exact held.greeted stepped here sends
  · intro before more shown greeted event same sends
    rw [handled_append, written_append]
    exact (greeted event same sends).append _ _

end

-- The client of `publishAfterTimer` publishes at QoS 0, so only its CONNECT and its SUBSCRIBE are answered.
theorem packets_answered_after_timer :
    ∃ (wired : Wired 1 1 1 1) (events : List WireEvent),
      Run (Wired.step gatomqttEnv) Anything (.new gatomqttEnv) publishAfterTimer events wired ∧
      handled 0 events = clientFrames.map Prod.snd ∧
      (written 0 events).length = 2 ∧ RepliesInOrder 0 events := by
  obtain ⟨wired, events, run, tested⟩ : ∃ (wired : Wired 1 1 1 1) (events : List WireEvent),
      Run (Wired.step gatomqttEnv) Anything (.new gatomqttEnv) publishAfterTimer events wired ∧
      decide (handled 0 events = clientFrames.map Prod.snd ∧ (written 0 events).length = 2) = true :=
    Execution.exists_run (by decide +kernel)
  obtain ⟨packets, answers⟩ := of_decide_eq_true tested
  exact ⟨wired, events, run, packets, answers, packets_answered run 0⟩

end PicoBroker
