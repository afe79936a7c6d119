import PicoBroker.Broker.Wires

set_option autoImplicit false

namespace PicoBroker

open Execution (Run Anything)
open Resumption (Reads)

variable {maxSessions maxSubs maxInflight maxRetained : Nat} {env : Env}

def WireEvent.bytes (id : Nat) : WireEvent → Bytes
  | .arrived conn chunk => if conn = id then chunk else []
  | _ => []

def WireEvent.packet? (id : Nat) : WireEvent → Option Packet
  | .handled conn packet => if conn = id then some packet else none
  | _ => none

def arrived (id : Nat) (events : List WireEvent) : Bytes := events.flatMap (WireEvent.bytes id)

def handled (id : Nat) (events : List WireEvent) : List Packet := events.filterMap (WireEvent.packet? id)

def frameBytes (frames : List (Bytes × Packet)) : Bytes := (frames.map Prod.fst).flatten

def Env.IsFrame (env : Env) (frame : Bytes × Packet) : Prop :=
  PicoBroker.IsFrame env.codec env.maxPacketSize frame.1 frame.2

def WholeFrame (env : Env) (bytes : Bytes) : Prop := ∃ frame, env.IsFrame frame ∧ frame.1 <+: bytes

def WireLabel.wakes (id : Nat) : WireLabel → Bool
  | .poll conn (some _) _ _ _ => conn = id
  | _ => false

-- Where the timer or the signal may end a turn, no part of a frame is there.
def Unbroken (env : Env) (id : Nat) (wired : Wired maxSessions maxSubs maxInflight maxRetained)
    (label : WireLabel) : Prop :=
  label.wakes id = true → (wired.wires id).bytes = [] ∨ WholeFrame env (wired.wires id).bytes

section

variable (id : Nat)

@[simp] theorem arrived_append (events new : List WireEvent) :
    arrived id (events ++ new) = arrived id events ++ arrived id new := List.flatMap_append

@[simp] theorem handled_append (events new : List WireEvent) :
    handled id (events ++ new) = handled id events ++ handled id new := List.filterMap_append

@[simp] theorem arrived_broker (events : List Event) : arrived id (events.map .broker) = [] := by
  simp [arrived, WireEvent.bytes]

@[simp] theorem handled_broker (events : List Event) : handled id (events.map .broker) = [] := by
  simp [handled, WireEvent.packet?, List.filterMap_map, Function.comp_def]

theorem frameBytes_append (before after : List (Bytes × Packet)) :
    frameBytes (before ++ after) = frameBytes before ++ frameBytes after := by
  simp [frameBytes]

end

def Phase.leaves : Phase → Bool
  | .publishLwt _ _ | .deliverLwt _ _ _ | .removeSession _ | .closed => true
  | _ => false

def Leaves (id : Nat) (system : System maxSessions maxSubs maxInflight maxRetained) : Prop :=
  ∃ conn, system.conns[id]? = some conn ∧ conn.phase.leaves = true

theorem beginCleanup_leaves (slot : SessionId) (reason : DisconnectReason) :
    (beginCleanup slot reason).leaves = true := by
  unfold beginCleanup
  split <;> rfl

theorem lwtStep_leaves (broker : Broker maxSessions maxSubs maxInflight maxRetained) (slot : SessionId)
    (reason : DisconnectReason) : (lwtStep broker slot reason).2.1.leaves = true := by
  unfold lwtStep
  split
  · rfl
  · simp only
    split <;> rfl

theorem connStep_leaves {broker : Broker maxSessions maxSubs maxInflight maxRetained} {id : Nat} {conn : Conn}
    {input : Input} {result : Result maxSessions maxSubs maxInflight maxRetained}
    (leaves : conn.phase.leaves = true) (stepped : connStep env broker id conn input = some result) :
    result.conn.phase.leaves = true := by
  obtain ⟨phase, accepted⟩ := conn
  cases phase with
  | publishLwt slot reason =>
    cases input <;> cases stepped
    exact lwtStep_leaves ..
  | deliverLwt | removeSession =>
    cases input <;> cases stepped
    rfl
  | closed => cases input <;> cases stepped
  | _ => cases leaves

theorem Leaves.step {id : Nat} {system next : System maxSessions maxSubs maxInflight maxRetained}
    {label : Label} {events : List Event} (leaves : Leaves id system)
    (taken : System.step env system label = some (next, events)) : Leaves id next := by
  obtain ⟨conn, found, leaves⟩ := leaves
  cases label with
  | spawn =>
    cases taken
    exact ⟨conn, List.getElem?_append_left (List.getElem?_eq_some_iff.mp found).1 ▸ found, leaves⟩
  | outbound publish now =>
    cases taken
    exact ⟨conn, found, leaves⟩
  | conn other input =>
    obtain ⟨stepping, result, present, stepped, rfl, _⟩ := step_conn taken
    by_cases same : other = id
    · subst same
      cases found.symm.trans present
      exact ⟨result.conn, conns_set_self found result.conn, connStep_leaves leaves stepped⟩
    · exact ⟨conn, (List.getElem?_set_ne same).trans found, leaves⟩

theorem leaves_of_error {id : Nat} {system next : System maxSessions maxSubs maxInflight maxRetained}
    {conn : Conn} {activityNow now : Instant} {accepts eof : Bool} {input : Input} {events : List Event}
    (found : system.conns[id]? = some conn)
    (reported : conn.phase.input activityNow now accepts (.error eof) = some input)
    (taken : System.step env system (.conn id input) = some (next, events)) : Leaves id next := by
  obtain ⟨stepping, result, present, stepped, rfl, _⟩ := step_conn taken
  cases found.symm.trans present
  refine ⟨result.conn, conns_set_self found result.conn, ?_⟩
  obtain ⟨phase, accepted⟩ := conn
  cases phase with
  | awaitConnect =>
    cases reported
    cases stepped
    rfl
  | select slot timerAfter =>
    cases reported
    cases stepped
    exact beginCleanup_leaves ..
  | _ => cases reported

theorem not_leaves_of_selects {id : Nat} {system : System maxSessions maxSubs maxInflight maxRetained}
    {conn : Conn} (found : system.conns[id]? = some conn) (selects : conn.phase.selects = true) :
    ¬ Leaves id system := by
  rintro ⟨same, present, leaves⟩
  cases found.symm.trans present
  obtain ⟨phase, accepted⟩ := conn
  cases phase with
  | awaitConnect | select => cases leaves
  | _ => cases selects

def Resumes (env : Env) : List (Bytes × Packet) → Wire → Prop
  | [], wire => wire.future = env.readPacket
  | frame :: _, wire =>
      ∃ missing, frame.1 = wire.frameBuf ++ missing ∧ Reads ReadError.onEnd wire.future missing (.ok frame.2)

theorem resumes_restart {frames : List (Bytes × Packet)} (wellFormed : ∀ frame ∈ frames, env.IsFrame frame)
    (wire : Wire) : Resumes env frames (wire.restart env) := by
  cases frames with
  | nil => rfl
  | cons frame rest => exact ⟨frame.1, rfl, readPacket_reads (wellFormed frame List.mem_cons_self)⟩

theorem Resumes.congr {frames : List (Bytes × Packet)} {wire after : Wire} (resumes : Resumes env frames wire)
    (buffer : after.frameBuf = wire.frameBuf) (future : after.future = wire.future) :
    Resumes env frames after := by
  cases frames with
  | nil => exact future.trans resumes
  | cons frame rest =>
    obtain ⟨missing, split, reads⟩ := resumes
    exact ⟨missing, by rw [buffer, split], by rw [future]; exact reads⟩

inductive Polled (env : Env) (frames : List (Bytes × Packet)) (wire : Wire) : Wire → Prop
  | whole {frame : Bytes × Packet} {rest : List (Bytes × Packet)} {left : List Bytes}
      (first : frames = frame :: rest) (split : wire.bytes = frame.1 ++ left.flatten) (chunks : [] ∉ left) :
      Polled env frames wire ⟨left, wire.ending, frame.1, .done frame.2⟩
  | waiting {room : Nat} {next : Answer Unit UInt8 → PacketReader Unit Packet}
      (resumes : Resumes env frames ⟨[], wire.ending, wire.bytes, .read room next⟩)
      (cut : ¬ WholeFrame env wire.bytes) :
      Polled env frames wire ⟨[], wire.ending, wire.bytes, .read room next⟩
  | failed {error : ReadError Unit} (cut : ¬ WholeFrame env wire.bytes) :
      Polled env frames wire ⟨[], wire.ending, wire.bytes, .fail error⟩

section

variable {frames : List (Bytes × Packet)} {wire after : Wire}

theorem Polled.of_read {room : Nat} {next : Answer Unit UInt8 → PacketReader Unit Packet}
    (polled : Polled env frames wire after) (waits : after.future = .read room next) :
    after.bytes = wire.bytes ∧ [] ∉ after.incoming ∧ Resumes env frames after ∧ ¬ WholeFrame env wire.bytes := by
  cases polled with
  | whole | failed => cases waits
  | waiting resumes cut => exact ⟨List.append_nil _, List.not_mem_nil, resumes, cut⟩

theorem Polled.of_done {packet : Packet} (polled : Polled env frames wire after)
    (ready : after.future = .done packet) :
    ∃ frame rest, frames = frame :: rest ∧ packet = frame.2 ∧ wire.bytes = frame.1 ++ after.incoming.flatten ∧
      [] ∉ after.incoming := by
  cases polled with
  | @whole frame rest left first split chunks =>
    cases ready
    exact ⟨frame, rest, first, rfl, split, chunks⟩
  | waiting | failed => cases ready

theorem Polled.of_fail {error : ReadError Unit} (polled : Polled env frames wire after)
    (wrong : after.future = .fail error) : after.bytes = wire.bytes ∧ [] ∉ after.incoming := by
  cases polled with
  | whole | waiting => cases wrong
  | failed => exact ⟨List.append_nil _, List.not_mem_nil⟩

end

theorem eq_nil_of_flatten_eq_nil {chunks : List Bytes} (nonempty : [] ∉ chunks) (empty : chunks.flatten = []) :
    chunks = [] := by
  cases chunks with
  | nil => rfl
  | cons chunk rest =>
    rw [List.flatten_cons, List.append_eq_nil_iff] at empty
    exact absurd (empty.1 ▸ List.mem_cons_self) nonempty

theorem not_wholeFrame_nil : ¬ WholeFrame env [] := by
  rintro ⟨frame, framed, front⟩
  exact framed.nonempty (List.prefix_nil.mp front)

theorem not_wholeFrame_of_cut {frame : Bytes × Packet} {bytes missing : Bytes} (framed : env.IsFrame frame)
    (cut : frame.1 = bytes ++ missing) (some : missing ≠ []) : ¬ WholeFrame env bytes := by
  rintro ⟨whole, other, front⟩
  have same := other.eq_of_prefix framed (front.trans (cut ▸ List.prefix_append ..))
  have lengths := front.length_le
  rw [same, cut, List.length_append] at lengths
  exact some (List.eq_nil_of_length_eq_zero (by omega))

theorem poll_polled {frames : List (Bytes × Packet)} {wire : Wire}
    (wellFormed : ∀ frame ∈ frames, env.IsFrame frame) (resumes : Resumes env frames wire)
    (chunks : [] ∉ wire.incoming) (sent : wire.bytes <+: frameBytes frames) :
    Polled env frames wire wire.poll := by
  obtain ⟨incoming, ending, frameBuf, future⟩ := wire
  cases frames with
  | nil =>
    obtain rfl : future = env.readPacket := resumes
    obtain ⟨rfl, empty⟩ := List.append_eq_nil_iff.mp (List.prefix_nil.mp sent)
    obtain rfl := eq_nil_of_flatten_eq_nil chunks empty
    rcases readPacket_poll_nil env.codec env.maxPacketSize ending with ⟨error, polled⟩ | ⟨room, next, fresh, polled⟩
    · rw [Wire.poll, Env.readPacket, polled]
      exact .failed not_wholeFrame_nil
    · rw [Wire.poll, Env.readPacket, polled]
      exact .waiting fresh.symm not_wholeFrame_nil
  | cons frame rest =>
    obtain ⟨missing, split, reads⟩ := resumes
    have agree : missing <+: incoming.flatten ∨ incoming.flatten <+: missing := by
      rw [frameBytes, List.map_cons, List.flatten_cons, split, List.append_assoc, Wire.bytes,
        List.prefix_append_right_inj] at sent
      exact (List.prefix_or_prefix_of_prefix sent (List.prefix_append ..)).symm
    have outcome := reads.poll ending chunks agree
    rw [Wire.poll]
    generalize future.poll ending incoming = polled at outcome
    cases outcome with
    | finished whole nonempty =>
      rw [← split]
      exact .whole rfl (by rw [Wire.bytes, whole, split, List.append_assoc]) nonempty
    | @waiting room next later cut reads still =>
      have longer : frame.1 = (frameBuf ++ incoming.flatten) ++ later := by rw [split, cut, List.append_assoc]
      exact .waiting ⟨later, longer, reads⟩
        (not_wholeFrame_of_cut (wellFormed frame List.mem_cons_self) longer reads.ne_nil)
    | @ended reason later cut short done =>
      have longer : frame.1 = (frameBuf ++ incoming.flatten) ++ later := by rw [split, cut, List.append_assoc]
      exact .failed (not_wholeFrame_of_cut (wellFormed frame List.mem_cons_self) longer short)

def WireLabel.conn? : WireLabel → Option Nat
  | .arrive id _ | .finish id _ | .poll id _ _ _ _ => some id
  | .broker _ => none

-- `before` is handled, and the wire is somewhere in the first frame of `after`.
structure Tracked (env : Env) (id : Nat) (before after : List (Bytes × Packet)) (events : List WireEvent)
    (system : System maxSessions maxSubs maxInflight maxRetained) (wire : Wire) : Prop where
  handled : handled id events = before.map Prod.snd
  accounted : arrived id events = frameBytes before ++ wire.bytes
  chunks : [] ∉ wire.incoming
  resumes : Leaves id system ∨ Resumes env after wire

section

variable {id : Nat} {before after : List (Bytes × Packet)} {events new : List WireEvent}
  {system later : System maxSessions maxSubs maxInflight maxRetained} {wire : Wire}

theorem Tracked.rewire {wire' : Wire} (tracked : Tracked env id before after events system wire)
    (bytes : wire'.bytes = wire.bytes) (chunks : [] ∉ wire'.incoming)
    (resumes : Leaves id later ∨ Resumes env after wire') (silent : arrived id new = [])
    (idle : PicoBroker.handled id new = []) : Tracked env id before after (events ++ new) later wire' where
  handled := by rw [handled_append, idle, List.append_nil, tracked.handled]
  accounted := by rw [arrived_append, silent, List.append_nil, tracked.accounted, bytes]
  chunks := chunks
  resumes := resumes

theorem Tracked.arrive {chunk : Bytes} (tracked : Tracked env id before after events system wire)
    (nonempty : chunk ≠ []) :
    Tracked env id before after (events ++ [.arrived id chunk]) system
      { wire with incoming := wire.incoming ++ [chunk] } where
  handled := by
    rw [handled_append, tracked.handled]
    exact List.append_nil _
  accounted := by
    rw [arrived_append, tracked.accounted]
    simp [Wire.bytes, arrived, WireEvent.bytes]
  chunks := by simp [tracked.chunks, nonempty.symm]
  resumes := tracked.resumes.imp_right fun resumes => resumes.congr rfl rfl

theorem Tracked.polled (tracked : Tracked env id before after events system wire)
    (wellFormed : ∀ frame ∈ after, env.IsFrame frame)
    (sent : arrived id events <+: frameBytes (before ++ after)) {conn : Conn}
    (found : system.conns[id]? = some conn) (selects : conn.phase.selects = true) :
    Polled env after wire wire.poll := by
  have resumes := tracked.resumes.resolve_left (not_leaves_of_selects found selects)
  rw [tracked.accounted, frameBytes_append, List.prefix_append_right_inj] at sent
  exact poll_polled wellFormed resumes tracked.chunks sent

theorem Tracked.handle {frame : Bytes × Packet} {rest : List (Bytes × Packet)} {wire' : Wire}
    {shown : List Event} (tracked : Tracked env id before (frame :: rest) events system wire)
    (wellFormed : ∀ frame ∈ rest, env.IsFrame frame)
    (split : wire.bytes = frame.1 ++ wire'.incoming.flatten) (chunks : [] ∉ wire'.incoming) :
    Tracked env id (before ++ [frame]) rest (events ++ .handled id frame.2 :: shown.map .broker) later
      (wire'.restart env) where
  handled := by
    have last : PicoBroker.handled id (.handled id frame.2 :: shown.map .broker) = [frame.2] := by
      simp [PicoBroker.handled, WireEvent.packet?, List.filterMap_map, Function.comp_def]
    rw [handled_append, tracked.handled, last, List.map_append]
    rfl
  accounted := by
    have none : arrived id (.handled id frame.2 :: shown.map .broker) = [] := arrived_broker id shown
    rw [arrived_append, tracked.accounted, none, split, frameBytes_append]
    simp [frameBytes, Wire.restart, Wire.bytes]
  chunks := chunks
  resumes := .inr (resumes_restart wellFormed wire')

end

section

variable {id : Nat} {events new : List WireEvent}
  {wired next : Wired maxSessions maxSubs maxInflight maxRetained} {label : WireLabel}

@[simp] theorem Wired.setWire_wires (wire : Wire) : (wired.setWire id wire).wires id = wire :=
  Function.update_self ..

-- What the steps of other connections and of the broker leave as it is.
theorem untouched (move : Wired.Move env wired label next new) (elsewhere : label.conn? ≠ some id) :
    next.wires id = wired.wires id ∧ arrived id new = [] ∧ handled id new = [] := by
  cases move with
  | arrived | finished | waited | failed | woken | handled =>
    have different : _ ≠ id := fun same => elsewhere (congrArg some same)
    refine ⟨Function.update_of_ne (Ne.symm different) .., ?_, ?_⟩
    all_goals simp [arrived, handled, WireEvent.bytes, WireEvent.packet?, different]
  | broker => exact ⟨rfl, arrived_broker .., handled_broker ..⟩

theorem Leaves.move (leaves : Leaves id wired.system) (move : Wired.Move env wired label next new) :
    Leaves id next.system := by
  cases move with
  | arrived | finished | waited => exact leaves
  | handled _ _ _ taken => exact leaves.step taken
  | failed _ _ _ _ taken => exact leaves.step taken
  | woken _ _ _ taken => exact leaves.step taken
  | broker taken => exact leaves.step taken

theorem Tracked.step {before after : List (Bytes × Packet)}
    (tracked : Tracked env id before after events wired.system (wired.wires id))
    (wellFormed : ∀ frame ∈ before ++ after, env.IsFrame frame)
    (sent : arrived id events <+: frameBytes (before ++ after))
    (unbroken : Unbroken env id wired label) (taken : Wired.step env wired label = some (next, new)) :
    ∃ before' after', before ++ after = before' ++ after' ∧
      Tracked env id before' after' (events ++ new) next.system (next.wires id) := by
  have move := Wired.step_move taken
  have ahead : ∀ frame ∈ after, env.IsFrame frame := fun frame member =>
    wellFormed frame (List.mem_append_right _ member)
  by_cases here : label.conn? = some id
  · cases move with
    | arrived nonempty =>
      cases here
      refine ⟨before, after, rfl, ?_⟩
      rw [Wired.setWire_wires]
      exact tracked.arrive nonempty
    | finished =>
      cases here
      refine ⟨before, after, rfl, ?_⟩
      rw [Wired.setWire_wires]
      exact tracked.rewire rfl tracked.chunks (tracked.resumes.imp_right fun resumes => resumes.congr rfl rfl)
        rfl rfl
    | waited found selects waits =>
      cases here
      refine ⟨before, after, rfl, ?_⟩
      rw [Wired.setWire_wires]
      obtain ⟨bytes, chunks, resumes, _⟩ := (tracked.polled ahead sent found selects).of_read waits
      exact tracked.rewire bytes chunks (.inr resumes) rfl rfl
    | handled found selects ready stepped =>
      cases here
      simp only [Function.update_self]
      obtain ⟨frame, rest, rfl, rfl, split, chunks⟩ := (tracked.polled ahead sent found selects).of_done ready
      refine ⟨before ++ [frame], rest, by simp, tracked.handle ?_ split chunks⟩
      exact fun frame member => ahead frame (List.mem_cons_of_mem _ member)
    | failed found selects wrong reported stepped =>
      cases here
      refine ⟨before, after, rfl, ?_⟩
      simp only [Function.update_self]
      obtain ⟨bytes, chunks⟩ := (tracked.polled ahead sent found selects).of_fail wrong
      exact tracked.rewire bytes chunks (.inl (leaves_of_error found reported stepped))
        (arrived_broker ..) (handled_broker ..)
    | woken found selects waits stepped =>
      cases here
      refine ⟨before, after, rfl, ?_⟩
      simp only [Function.update_self]
      obtain ⟨bytes, chunks, _, cut⟩ := (tracked.polled ahead sent found selects).of_read waits
      have empty : (wired.wires id).bytes = [] := (unbroken (decide_eq_true rfl)).resolve_right cut
      -- Nothing was in `frame_buf`, so nothing is lost with it.
      have nothing : (wired.wires id).poll.incoming.flatten = [] := by
        rw [empty] at bytes
        exact (List.append_eq_nil_iff.mp bytes).2
      exact tracked.rewire (nothing.trans empty.symm) chunks (.inr (resumes_restart ahead _))
        (arrived_broker ..) (handled_broker ..)
    | broker => cases here
  · obtain ⟨wire, silent, idle⟩ := untouched move here
    refine ⟨before, after, rfl, ?_⟩
    rw [wire]
    exact tracked.rewire rfl tracked.chunks (tracked.resumes.imp_left fun leaves => leaves.move move) silent idle

theorem tracked_new (frames : List (Bytes × Packet)) (wellFormed : ∀ frame ∈ frames, env.IsFrame frame) :
    Tracked env id [] frames [] (System.new : System maxSessions maxSubs maxInflight maxRetained)
      (.new env) where
  handled := rfl
  accounted := rfl
  chunks := List.not_mem_nil
  resumes := .inr (resumes_restart wellFormed (.new env))

theorem run_tracked {frames : List (Bytes × Packet)} {labels : List WireLabel}
    (wellFormed : ∀ frame ∈ frames, env.IsFrame frame)
    (run : Run (Wired.step env) (Unbroken env id) (.new env) labels events wired)
    (sent : arrived id events <+: frameBytes frames) :
    ∃ before after, frames = before ++ after ∧
      Tracked env id before after events wired.system (wired.wires id) := by
  refine run.invariant (P := fun events wired => arrived id events <+: frameBytes frames →
    ∃ before after, frames = before ++ after ∧
      Tracked env id before after events wired.system (wired.wires id)) ?_ ?_ sent
  · exact fun _ => ⟨[], frames, rfl, tracked_new frames wellFormed⟩
  · intro events wired label next new tracked unbroken taken sent
    have sooner : arrived id events <+: frameBytes frames := by
      rw [arrived_append] at sent
      exact (List.prefix_append ..).trans sent
    obtain ⟨before, after, rfl, reached⟩ := tracked sooner
    exact reached.step wellFormed sooner unbroken taken

theorem connStep_packet (env : Env) (broker : Broker maxSessions maxSubs maxInflight maxRetained) (id : Nat)
    {conn : Conn} (selects : conn.phase.selects = true) (packet : Packet) (activityNow now : Instant) (accepts : Bool) :
    ∃ input result, conn.phase.input activityNow now accepts (.packet packet) = some input ∧
      connStep env broker id conn input = some result := by
  obtain ⟨phase, accepted⟩ := conn
  cases phase with
  | awaitConnect => cases packet <;> exact ⟨_, _, rfl, rfl⟩
  | select slot timerAfter => cases packet <;> exact ⟨_, _, rfl, rfl⟩
  | _ => cases selects

-- A loop that waits takes a packet whose frame is there, whatever else would wake it up.
theorem Tracked.takes_next {frame : Bytes × Packet} {before rest : List (Bytes × Packet)} {conn : Conn}
    (tracked : Tracked env id before (frame :: rest) events wired.system (wired.wires id))
    (wellFormed : ∀ other ∈ before ++ frame :: rest, env.IsFrame other)
    (sent : arrived id events <+: frameBytes (before ++ frame :: rest))
    (there : frame.1 <+: (wired.wires id).bytes) (found : wired.system.conns[id]? = some conn)
    (selects : conn.phase.selects = true) (wake : Option Wake) (activityNow now : Instant) (accepts : Bool) :
    ∃ next new, Wired.step env wired (.poll id wake activityNow now accepts) = some (next, new) ∧
      PicoBroker.handled id new = [frame.2] := by
  have ahead : ∀ other ∈ frame :: rest, env.IsFrame other := fun other member =>
    wellFormed other (List.mem_append_right _ member)
  have whole : WholeFrame env (wired.wires id).bytes := ⟨frame, ahead frame List.mem_cons_self, there⟩
  have ready : (wired.wires id).poll.future = .done frame.2 := by
    have polled := tracked.polled ahead sent found selects
    generalize (wired.wires id).poll = wire at polled ⊢
    cases polled with
    | whole first => cases first; rfl
    | waiting _ cut => exact absurd whole cut
    | failed cut => exact absurd whole cut
  obtain ⟨input, result, given, stepped⟩ := connStep_packet env wired.system.broker id selects frame.2
    activityNow now accepts
  have taken : Wired.step env wired (.poll id wake activityNow now accepts) =
      some (⟨⟨result.broker, wired.system.conns.set id result.conn⟩,
        Function.update wired.wires id ((wired.wires id).poll.restart env)⟩,
        .handled id frame.2 :: result.events.map .broker) := by
    simp only [Wired.step, found, selects, if_true, Wired.pollStep, ready, Wired.resume, given, System.step,
      Wired.setWire, stepped, Option.map_some]
  refine ⟨_, _, taken, ?_⟩
  simp [PicoBroker.handled, WireEvent.packet?, List.filterMap_map, Function.comp_def]

structure AsSent (env : Env) (id : Nat) (frames : List (Bytes × Packet)) (events : List WireEvent)
    (wired : Wired maxSessions maxSubs maxInflight maxRetained) : Prop where
  inOrder : handled id events = (frames.take (handled id events).length).map Prod.snd
  accounted : arrived id events =
    frameBytes (frames.take (handled id events).length) ++ (wired.wires id).bytes
  progress : ∀ frame conn, frames[(handled id events).length]? = some frame →
    frame.1 <+: (wired.wires id).bytes → wired.system.conns[id]? = some conn → conn.phase.selects = true →
    ∀ wake activityNow now accepts, ∃ next new,
      Wired.step env wired (.poll id wake activityNow now accepts) = some (next, new) ∧
        handled id new = [frame.2]

theorem packets_as_sent {frames : List (Bytes × Packet)} {labels : List WireLabel}
    (wellFormed : ∀ frame ∈ frames, env.IsFrame frame)
    (run : Run (Wired.step env) (Unbroken env id) (.new env) labels events wired)
    (sent : arrived id events <+: frameBytes frames) : AsSent env id frames events wired := by
  obtain ⟨before, after, rfl, tracked⟩ := run_tracked wellFormed run sent
  have count : (handled id events).length = before.length := by rw [tracked.handled, List.length_map]
  have first : (before ++ after).take (handled id events).length = before := by
    rw [count, List.take_left]
  refine ⟨by rw [first, tracked.handled], by rw [first, tracked.accounted], ?_⟩
  intro frame conn upcoming there found selects
  rw [count, List.getElem?_append_right (Nat.le_refl _), Nat.sub_self] at upcoming
  cases after with
  | nil => simp at upcoming
  | cons head rest =>
    obtain rfl : head = frame := by simpa using upcoming
    exact tracked.takes_next wellFormed sent there found selects

end

def connectFrame : Bytes :=
  [16, 28, 0, 4, 77, 81, 84, 84, 4, 194, 0, 0, 0, 1, 97, 0, 5, 104, 111, 117, 115, 101, 0, 6, 115, 101, 99,
    114, 101, 116]

def subscribeFrame : Bytes := [130, 6, 0, 1, 0, 1, 116, 0]

def publishFrame : Bytes := [48, 5, 0, 1, 117, 224, 0]

def clientFrames : List (Bytes × Packet) :=
  [(connectFrame, .connect (houseConnect [97] true none)),
    (subscribeFrame, .subscribe ⟨.new, .truncate [⟨.truncate [116], .atMostOnce⟩]⟩),
    (publishFrame, .publish ⟨false, .atMostOnce, false, [117], [224, 0]⟩)]

theorem clientFrames_wellFormed : ∀ frame ∈ clientFrames, gatomqttEnv.IsFrame frame := by
  have decoded : ∀ frame ∈ clientFrames, frame.1.length ≤ 1024 ∧
      Mqtt311.codec.decodeSlice frame.1 = .ok (some frame.2) := by decide +kernel
  have layout : ∀ frame ∈ clientFrames, frame.1 = frame.1.headI :: [UInt8.ofNat (frame.1.drop 2).length] ++
      frame.1.drop 2 ∧ (frame.1.drop 2).length < 128 := by decide +kernel
  intro frame member
  obtain ⟨split, short⟩ := layout frame member
  refine ⟨⟨_, _, _, split, by simp, ?_⟩, (decoded frame member).1, (decoded frame member).2⟩
  have value : (UInt8.ofNat (frame.1.drop 2).length).toNat = (frame.1.drop 2).length := by
    rw [UInt8.toNat_ofNat', Nat.mod_eq_of_lt (by omega)]
  have field := LengthField.last (by rw [value]; exact short)
  rwa [value] at field

-- From the CONNECT on, up to the first `select` after the SUBSCRIBE.
def clientStarts : List WireLabel :=
  [.broker .spawn, .arrive 0 connectFrame, .poll 0 none 0 0 true, .broker (.conn 0 (.write true)),
    .broker (.conn 0 .lock), .broker (.conn 0 (.service 0 0 [])), .arrive 0 subscribeFrame,
    .poll 0 none 0 0 true, .broker (.conn 0 (.write true)), .broker (.conn 0 .lock),
    .broker (.conn 0 (.service 0 0 []))]

-- A timer expires before the PUBLISH, which then comes in two chunks.
def publishAfterTimer : List WireLabel :=
  clientStarts ++ [.poll 0 (some .timer) 0 0 true, .broker (.conn 0 .lock),
    .broker (.conn 0 (.service 0 0 [])), .arrive 0 (publishFrame.take 5), .poll 0 none 0 0 true,
    .arrive 0 (publishFrame.drop 5), .poll 0 none 0 0 true]

theorem packets_as_sent_after_timer :
    ∃ (wired : Wired 1 1 1 1) (events : List WireEvent),
      Run (Wired.step gatomqttEnv) (Unbroken gatomqttEnv 0) (.new gatomqttEnv) publishAfterTimer events wired ∧
      (∀ frame ∈ clientFrames, gatomqttEnv.IsFrame frame) ∧ arrived 0 events <+: frameBytes clientFrames ∧
      handled 0 events = clientFrames.map Prod.snd ∧ AsSent gatomqttEnv 0 clientFrames events wired := by
  obtain ⟨wired, events, settled, tested⟩ : ∃ (wired : Wired 1 1 1 1) (events : List WireEvent),
      Run (Wired.step gatomqttEnv) (fun wired label => label.wakes 0 = true → (wired.wires 0).bytes = [])
        (.new gatomqttEnv) publishAfterTimer events wired ∧
      decide (arrived 0 events = frameBytes clientFrames ∧ handled 0 events = clientFrames.map Prod.snd) = true :=
    Execution.exists_run (by decide +kernel)
  have run : Run (Wired.step gatomqttEnv) (Unbroken gatomqttEnv 0) (.new gatomqttEnv) publishAfterTimer events
      wired := settled.mono fun _ _ empty wakes => .inl (empty wakes)
  obtain ⟨all, packets⟩ := of_decide_eq_true tested
  have sent : arrived 0 events <+: frameBytes clientFrames := all ▸ List.prefix_rfl
  exact ⟨wired, events, run, clientFrames_wellFormed, sent, packets,
    packets_as_sent clientFrames_wellFormed run sent⟩

-- While the first chunk of the PUBLISH is in `frame_buf`, a message on `t` wakes the loop up.
def publishBrokenBySignal : List WireLabel :=
  clientStarts ++ [.arrive 0 (publishFrame.take 5),
    .broker (.outbound ⟨.truncate [116], .truncate [120], .atMostOnce, false⟩ 0),
    .poll 0 (some .signal) 0 0 true, .broker (.conn 0 .lock), .broker (.conn 0 (.write true)),
    .broker (.conn 0 .lock), .broker (.conn 0 (.service 0 0 [])), .arrive 0 (publishFrame.drop 5),
    .poll 0 none 0 0 true]

theorem payload_handled_as_disconnect :
    ∃ (wired : Wired 1 1 1 1) (events : List WireEvent),
      Run (Wired.step gatomqttEnv) Anything (.new gatomqttEnv) publishBrokenBySignal events wired ∧
      (∀ frame ∈ clientFrames, gatomqttEnv.IsFrame frame) ∧ arrived 0 events = frameBytes clientFrames ∧
      handled 0 events = (clientFrames.take 2).map Prod.snd ++ [.disconnect] ∧
      ¬ AsSent gatomqttEnv 0 clientFrames events wired := by
  obtain ⟨wired, events, run, tested⟩ : ∃ (wired : Wired 1 1 1 1) (events : List WireEvent),
      Run (Wired.step gatomqttEnv) Anything (.new gatomqttEnv) publishBrokenBySignal events wired ∧
      decide (arrived 0 events = frameBytes clientFrames ∧
        handled 0 events = (clientFrames.take 2).map Prod.snd ++ [.disconnect]) = true :=
    Execution.exists_run (by decide +kernel)
  obtain ⟨all, packets⟩ := of_decide_eq_true tested
  refine ⟨wired, events, run, clientFrames_wellFormed, all, packets, fun asSent => ?_⟩
  have inOrder := asSent.inOrder
  rw [packets] at inOrder
  revert inOrder
  decide

end PicoBroker
