import Mathlib.Logic.Function.Basic
import PicoBroker.Broker.Connection
import PicoBroker.Broker.Reading

set_option autoImplicit false

namespace PicoBroker

variable {maxSessions maxSubs maxInflight maxRetained : Nat}

-- `frameBuf` is the part of `frame_buf` that the future has filled.
structure Wire where
  incoming : List Bytes
  ending : Option (Ending Unit)
  frameBuf : Bytes
  future : PacketReader Unit Packet

def Env.readPacket (env : Env) : PacketReader Unit Packet :=
  PicoBroker.readPacket env.codec env.maxPacketSize

namespace Wire

def new (env : Env) : Wire := ⟨[], none, [], env.readPacket⟩

def arrive (wire : Wire) (chunk : Bytes) : Option Wire :=
  if chunk = [] ∨ wire.ending.isSome then none
  else some { wire with incoming := wire.incoming ++ [chunk] }

def finish (wire : Wire) (ending : Ending Unit) : Option Wire :=
  if wire.ending.isSome then none else some { wire with ending := some ending }

def poll (wire : Wire) : Wire :=
  let polled := wire.future.poll wire.ending wire.incoming
  { wire with
    incoming := polled.left
    frameBuf := wire.frameBuf ++ polled.taken
    future := polled.reader }

def restart (env : Env) (wire : Wire) : Wire := { wire with frameBuf := [], future := env.readPacket }

def bytes (wire : Wire) : Bytes := wire.frameBuf ++ wire.incoming.flatten

end Wire

inductive Wake where
  | timer
  | signal
deriving DecidableEq

inductive Selected where
  | packet (packet : Packet)
  | error (eof : Bool)
  | woken (wake : Wake)

def Phase.selects : Phase → Bool
  | .awaitConnect | .select _ _ => true
  | _ => false

def Phase.input (activityNow now : Instant) (accepts : Bool) : Phase → Selected → Option Input
  | .awaitConnect, .packet packet => some (.firstPacket packet now)
  | .awaitConnect, .error _ => some .firstFailed
  | .awaitConnect, .woken .timer => some .firstFailed
  | .select _ _, .packet packet => some (.packet packet activityNow now accepts)
  | .select _ _, .error eof => some (.readFailed eof)
  | .select _ _, .woken .timer => some .timer
  | .select _ _, .woken .signal => some .signal
  | _, _ => none

def Label.selects : Label → Bool
  | .conn _ (.firstPacket _ _) | .conn _ .firstFailed => true
  | .conn _ (.packet _ _ _ _) | .conn _ (.readFailed _) => true
  | .conn _ .timer | .conn _ .signal => true
  | _ => false

inductive WireLabel where
  | arrive (id : Nat) (chunk : Bytes)
  | finish (id : Nat) (ending : Ending Unit)
  | poll (id : Nat) (wake : Option Wake) (activityNow now : Instant) (accepts : Bool)
  | broker (label : Label)

inductive WireEvent where
  | arrived (id : Nat) (chunk : Bytes)
  | handled (id : Nat) (packet : Packet)
  | broker (event : Event)
deriving DecidableEq

structure Wired (maxSessions maxSubs maxInflight maxRetained : Nat) where
  system : System maxSessions maxSubs maxInflight maxRetained
  wires : Nat → Wire

namespace Wired

def new (env : Env) : Wired maxSessions maxSubs maxInflight maxRetained := ⟨.new, fun _ => .new env⟩

def setWire (wired : Wired maxSessions maxSubs maxInflight maxRetained) (id : Nat) (wire : Wire) :
    Wired maxSessions maxSubs maxInflight maxRetained :=
  { wired with wires := Function.update wired.wires id wire }

def resume (env : Env) (wired : Wired maxSessions maxSubs maxInflight maxRetained) (id : Nat)
    (input : Option Input) :
    Option (Wired maxSessions maxSubs maxInflight maxRetained × List WireEvent) :=
  match input with
  | none => none
  | some input =>
      (System.step env wired.system (.conn id input)).map fun (system, events) =>
        ({ wired with system := system }, events.map .broker)

def pollStep (env : Env) (wired : Wired maxSessions maxSubs maxInflight maxRetained) (id : Nat)
    (wake : Option Wake) (input : Selected → Option Input) :
    Option (Wired maxSessions maxSubs maxInflight maxRetained × List WireEvent) :=
  let wire := (wired.wires id).poll
  match wire.future with
  | .done packet =>
      ((wired.setWire id (wire.restart env)).resume env id (input (.packet packet))).map
        fun (next, events) => (next, .handled id packet :: events)
  | .fail .outOfBounds => none
  | .fail error => (wired.setWire id wire).resume env id (input (.error (error = .eof)))
  | .read _ _ =>
      match wake with
      | none => some (wired.setWire id wire, [])
      | some wake => (wired.setWire id (wire.restart env)).resume env id (input (.woken wake))

def step (env : Env) :
    Execution.Step (Wired maxSessions maxSubs maxInflight maxRetained) WireLabel WireEvent
  | wired, .arrive id chunk =>
      ((wired.wires id).arrive chunk).map fun wire => (wired.setWire id wire, [.arrived id chunk])
  | wired, .finish id ending =>
      ((wired.wires id).finish ending).map fun wire => (wired.setWire id wire, [])
  | wired, .poll id wake activityNow now accepts =>
      match wired.system.conns[id]? with
      | none => none
      | some conn =>
          if conn.phase.selects then wired.pollStep env id wake (conn.phase.input activityNow now accepts)
          else none
  | wired, .broker label =>
      if label.selects then none
      else (System.step env wired.system label).map fun (system, events) =>
        ({ wired with system := system }, events.map .broker)

variable {env : Env} {wired next : Wired maxSessions maxSubs maxInflight maxRetained}

inductive Move (env : Env) (wired : Wired maxSessions maxSubs maxInflight maxRetained) :
    WireLabel → Wired maxSessions maxSubs maxInflight maxRetained → List WireEvent → Prop
  | arrived {id : Nat} {chunk : Bytes} (nonempty : chunk ≠ []) :
      Move env wired (.arrive id chunk)
        (wired.setWire id { wired.wires id with incoming := (wired.wires id).incoming ++ [chunk] })
        [.arrived id chunk]
  | finished {id : Nat} {ending : Ending Unit} :
      Move env wired (.finish id ending)
        (wired.setWire id { wired.wires id with ending := some ending }) []
  | waited {id room : Nat} {next : Answer Unit UInt8 → PacketReader Unit Packet}
      {activityNow now : Instant} {accepts : Bool} {conn : Conn}
      (found : wired.system.conns[id]? = some conn) (selects : conn.phase.selects = true)
      (waits : (wired.wires id).poll.future = .read room next) :
      Move env wired (.poll id none activityNow now accepts) (wired.setWire id (wired.wires id).poll) []
  | handled {id : Nat} {wake : Option Wake} {activityNow now : Instant} {accepts : Bool} {conn : Conn}
      {packet : Packet} {input : Input} {system : System maxSessions maxSubs maxInflight maxRetained}
      {events : List Event} (found : wired.system.conns[id]? = some conn)
      (selects : conn.phase.selects = true) (ready : (wired.wires id).poll.future = .done packet)
      (taken : System.step env wired.system (.conn id input) = some (system, events)) :
      Move env wired (.poll id wake activityNow now accepts)
        ⟨system, Function.update wired.wires id ((wired.wires id).poll.restart env)⟩
        (.handled id packet :: events.map .broker)
  | failed {id : Nat} {wake : Option Wake} {activityNow now : Instant} {accepts eof : Bool} {conn : Conn}
      {error : ReadError Unit} {input : Input}
      {system : System maxSessions maxSubs maxInflight maxRetained} {events : List Event}
      (found : wired.system.conns[id]? = some conn) (selects : conn.phase.selects = true)
      (wrong : (wired.wires id).poll.future = .fail error)
      (reported : conn.phase.input activityNow now accepts (.error eof) = some input)
      (taken : System.step env wired.system (.conn id input) = some (system, events)) :
      Move env wired (.poll id wake activityNow now accepts)
        ⟨system, Function.update wired.wires id (wired.wires id).poll⟩ (events.map .broker)
  | woken {id room : Nat} {next : Answer Unit UInt8 → PacketReader Unit Packet} {wake : Wake}
      {activityNow now : Instant} {accepts : Bool} {conn : Conn} {input : Input}
      {system : System maxSessions maxSubs maxInflight maxRetained} {events : List Event}
      (found : wired.system.conns[id]? = some conn) (selects : conn.phase.selects = true)
      (waits : (wired.wires id).poll.future = .read room next)
      (taken : System.step env wired.system (.conn id input) = some (system, events)) :
      Move env wired (.poll id (some wake) activityNow now accepts)
        ⟨system, Function.update wired.wires id ((wired.wires id).poll.restart env)⟩ (events.map .broker)
  | broker {label : Label} {system : System maxSessions maxSubs maxInflight maxRetained}
      {events : List Event} (taken : System.step env wired.system label = some (system, events)) :
      Move env wired (.broker label) ⟨system, wired.wires⟩ (events.map .broker)

theorem resume_eq_some {id : Nat} {input : Option Input} {new : List WireEvent}
    (resumed : wired.resume env id input = some (next, new)) :
    ∃ given system events, input = some given ∧
      System.step env wired.system (.conn id given) = some (system, events) ∧
      next = ⟨system, wired.wires⟩ ∧ new = events.map .broker := by
  cases input with
  | none => cases resumed
  | some given =>
    obtain ⟨⟨system, events⟩, taken, same⟩ := Option.map_eq_some_iff.mp resumed
    cases same
    exact ⟨given, system, events, rfl, taken, rfl, rfl⟩

theorem pollStep_move {id : Nat} {wake : Option Wake} {activityNow now : Instant} {accepts : Bool}
    {conn : Conn} {new : List WireEvent} (found : wired.system.conns[id]? = some conn)
    (selects : conn.phase.selects = true)
    (polled : wired.pollStep env id wake (conn.phase.input activityNow now accepts) = some (next, new)) :
    Move env wired (.poll id wake activityNow now accepts) next new := by
  cases future : (wired.wires id).poll.future with
  | done packet =>
    simp only [pollStep, future] at polled
    obtain ⟨⟨after, events⟩, resumed, same⟩ := Option.map_eq_some_iff.mp polled
    cases same
    obtain ⟨given, system, shown, _, taken, rfl, rfl⟩ := resume_eq_some resumed
    exact .handled found selects future taken
  | fail error =>
    simp only [pollStep, future] at polled
    split at polled
    · next packet same => cases same
    · cases polled
    · obtain ⟨given, system, shown, reported, taken, rfl, rfl⟩ := resume_eq_some polled
      exact .failed found selects future reported taken
    · next room following same => cases same
  | read room following =>
    simp only [pollStep, future] at polled
    cases wake with
    | none =>
      cases polled
      exact .waited found selects future
    | some wake =>
      obtain ⟨given, system, shown, _, taken, rfl, rfl⟩ := resume_eq_some polled
      exact .woken found selects future taken

theorem step_move {label : WireLabel} {new : List WireEvent}
    (taken : step env wired label = some (next, new)) : Move env wired label next new := by
  cases label with
  | arrive id chunk =>
    obtain ⟨wire, arrived, same⟩ := Option.map_eq_some_iff.mp taken
    cases same
    unfold Wire.arrive at arrived
    split at arrived
    · cases arrived
    · next accepted =>
      cases arrived
      exact .arrived fun empty => accepted (.inl empty)
  | finish id ending =>
    obtain ⟨wire, finished, same⟩ := Option.map_eq_some_iff.mp taken
    cases same
    unfold Wire.finish at finished
    split at finished
    · cases finished
    · cases finished
      exact .finished
  | poll id wake activityNow now accepts =>
    simp only [step] at taken
    split at taken
    · cases taken
    · next conn found =>
      split at taken
      · next selects => exact pollStep_move found selects taken
      · cases taken
  | broker label =>
    simp only [step] at taken
    split at taken
    · cases taken
    · obtain ⟨⟨system, events⟩, stepped, same⟩ := Option.map_eq_some_iff.mp taken
      cases same
      exact .broker stepped

end Wired

def Label.actor? : Label → Option Nat
  | .conn id _ => some id
  | _ => none

def WireLabel.actor? : WireLabel → Option Nat
  | .poll id _ _ _ _ => some id
  | .broker label => label.actor?
  | _ => none

def Label.packet? : Label → Option (Nat × Packet)
  | .conn id (.firstPacket packet _) => some (id, packet)
  | .conn id (.packet packet _ _ _) => some (id, packet)
  | _ => none

def Selected.handled (id : Nat) : Selected → List WireEvent
  | .packet read => [.handled id read]
  | .error _ | .woken _ => []

def Label.handled (label : Label) : List WireEvent :=
  (label.packet?.map fun read => .handled read.1 read.2).toList

section

variable {env : Env} {wired next : Wired maxSessions maxSubs maxInflight maxRetained} {new : List WireEvent}

theorem handled_eq_nil {label : Label} (selects : label.selects = false) : label.handled = [] := by
  unfold Label.selects at selects
  split at selects <;> simp_all [Label.handled, Label.packet?]

theorem input_handled {id : Nat} {phase : Phase} {activityNow now : Instant} {accepts : Bool}
    {selected : Selected} {input : Input}
    (given : phase.input activityNow now accepts selected = some input) :
    (Label.conn id input).handled = selected.handled id := by
  unfold Phase.input at given
  split at given <;> cases given <;> rfl

theorem Wired.pollStep_label {id : Nat} {wake : Option Wake} {phase : Phase} {activityNow now : Instant}
    {accepts : Bool}
    (polled : wired.pollStep env id wake (phase.input activityNow now accepts) = some (next, new)) :
    (next.system = wired.system ∧ new = []) ∨
      ∃ input events, System.step env wired.system (.conn id input) = some (next.system, events) ∧
        new = (Label.conn id input).handled ++ events.map .broker := by
  cases future : (wired.wires id).poll.future with
  | done packet =>
    simp only [pollStep, future] at polled
    obtain ⟨⟨after, events⟩, resumed, same⟩ := Option.map_eq_some_iff.mp polled
    cases same
    obtain ⟨input, system, shown, given, taken, rfl, rfl⟩ := resume_eq_some resumed
    exact .inr ⟨input, shown, taken, by rw [input_handled given]; rfl⟩
  | fail error =>
    simp only [pollStep, future] at polled
    split at polled
    · next packet same => cases same
    · cases polled
    · obtain ⟨input, system, shown, given, taken, rfl, rfl⟩ := resume_eq_some polled
      exact .inr ⟨input, shown, taken, by rw [input_handled given]; rfl⟩
    · next room following same => cases same
  | read room following =>
    simp only [pollStep, future] at polled
    cases wake with
    | none =>
      cases polled
      exact .inl ⟨rfl, rfl⟩
    | some wake =>
      obtain ⟨input, system, shown, given, taken, rfl, rfl⟩ := resume_eq_some polled
      exact .inr ⟨input, shown, taken, by rw [input_handled given]; rfl⟩

-- A step on the wires is a step of the loops with the packet it shows, or it leaves the loops alone.
theorem Wired.step_label {label : WireLabel} (taken : Wired.step env wired label = some (next, new)) :
    (next.system = wired.system ∧ ∀ event ∈ new, ∃ id chunk, event = .arrived id chunk) ∨
      ∃ below events, System.step env wired.system below = some (next.system, events) ∧
        below.actor? = label.actor? ∧ new = below.handled ++ events.map .broker := by
  cases label with
  | arrive id chunk =>
    obtain ⟨wire, _, same⟩ := Option.map_eq_some_iff.mp taken
    cases same
    exact .inl ⟨rfl, by simp⟩
  | finish id ending =>
    obtain ⟨wire, _, same⟩ := Option.map_eq_some_iff.mp taken
    cases same
    exact .inl ⟨rfl, by simp⟩
  | poll id wake activityNow now accepts =>
    simp only [step] at taken
    split at taken
    · cases taken
    · split at taken
      · rcases pollStep_label taken with ⟨same, rfl⟩ | ⟨input, events, stepped, shown⟩
        · exact .inl ⟨same, by simp⟩
        · exact .inr ⟨.conn id input, events, stepped, rfl, shown⟩
      · cases taken
  | broker label =>
    simp only [step] at taken
    split at taken
    · cases taken
    · next selects =>
      obtain ⟨⟨system, events⟩, stepped, same⟩ := Option.map_eq_some_iff.mp taken
      cases same
      exact .inr ⟨label, events, stepped, rfl, by simp [handled_eq_nil (by simpa using selects)]⟩

end

def WireEvent.broker? : WireEvent → Option Event
  | .broker event => some event
  | _ => none

theorem filterMap_broker (events : List Event) :
    (events.map WireEvent.broker).filterMap WireEvent.broker? = events := by
  rw [List.filterMap_map]
  exact List.filterMap_some

-- Above the bytes, the loops do what the system of packets does.
theorem Wired.run_system {env : Env} {allowed : Wired maxSessions maxSubs maxInflight maxRetained → WireLabel → Prop}
    {labels : List WireLabel} {events : List WireEvent}
    {wired : Wired maxSessions maxSubs maxInflight maxRetained}
    (run : Execution.Run (Wired.step env) allowed (.new env) labels events wired) :
    ∃ labels, Execution.Run (System.step env) Execution.Anything .new labels
      (events.filterMap WireEvent.broker?) wired.system := by
  refine run.simulates Wired.system WireEvent.broker? fun state label next new taken => ?_
  cases Wired.step_move taken with
  | arrived | finished | waited => exact .inl ⟨rfl, rfl⟩
  | handled _ _ _ stepped =>
    refine .inr ⟨_, stepped.trans ?_⟩
    rw [List.filterMap_cons_none rfl, filterMap_broker]
  | failed _ _ _ _ stepped => exact .inr ⟨_, by rw [filterMap_broker]; exact stepped⟩
  | woken _ _ _ stepped => exact .inr ⟨_, by rw [filterMap_broker]; exact stepped⟩
  | broker stepped => exact .inr ⟨_, by rw [filterMap_broker]; exact stepped⟩

end PicoBroker
