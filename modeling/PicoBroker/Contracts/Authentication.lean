import Mathlib.Data.Nat.Bitwise
import PicoBroker.Contracts.Framing
import PicoBroker.Invariants.Ownership

set_option autoImplicit false

namespace PicoBroker

open Execution (Run Anything)

variable {maxSessions maxSubs maxInflight maxRetained : Nat} {env : Env}

theorem foldl_or_eq_zero (f : Nat → Nat) (indices : List Nat) (start : Nat) :
    indices.foldl (fun diff index => diff ||| f index) start = 0 ↔ start = 0 ∧ ∀ index ∈ indices, f index = 0 := by
  induction indices generalizing start with
  | nil => simp
  | cons index rest ih => simp [ih, Nat.or_eq_zero_iff, and_assoc]

theorem xor_toNat_eq_zero (lhs rhs : UInt8) : (lhs ^^^ rhs).toNat = 0 ↔ lhs = rhs := by
  rw [UInt8.toNat_xor, Nat.xor_eq_zero_iff, UInt8.toNat_inj]

theorem ctEq_iff (lhs rhs : Bytes) : ctEq lhs rhs = true ↔ lhs = rhs := by
  simp only [ctEq, beq_iff_eq, foldl_or_eq_zero, Nat.xor_eq_zero_iff, xor_toNat_eq_zero, List.mem_range]
  constructor
  · rintro ⟨length, same⟩
    apply List.ext_getElem length
    intro index inLeft inRight
    simpa [inLeft, inRight] using same index (by omega)
  · rintro rfl
    simp

-- The first packet is a CONNECT with the credentials of the house.
def Authenticated (env : Env) (packets : List Packet) : Prop :=
  ∃ packet, packets.head? = some (.connect packet) ∧ packet.protocol = .mqtt311 ∧ packet.clientId ≠ [] ∧
    packet.username = some env.config.houseTokenUsername ∧
    packet.password = some env.config.houseTokenPassword

theorem Authenticated.append {packets : List Packet} (authenticated : Authenticated env packets)
    (more : List Packet) : Authenticated env (packets ++ more) := by
  obtain ⟨packet, first, credentials⟩ := authenticated
  exact ⟨packet, by rw [List.head?_append, first]; rfl, credentials⟩

theorem authenticated_of_admissible {packet : Connect} (admissible : Admissible packet env.houseToken) :
    Authenticated env [.connect packet] := by
  obtain ⟨protocol, named, credentials⟩ := admissible
  unfold matchesHouseToken at credentials
  split at credentials
  · next username password user pass =>
    rw [Bool.and_eq_true, ctEq_iff, ctEq_iff] at credentials
    obtain ⟨rfl, rfl⟩ := credentials
    exact ⟨packet, rfl, protocol, named, user, pass⟩
  · cases credentials

-- A step that changes a session or a retained message, or hands over a command of this connection.
def Effective (id : Nat) (before after : Broker maxSessions maxSubs maxInflight maxRetained)
    (events : List Event) : Prop :=
  after.registry ≠ before.registry ∨ after.retained ≠ before.retained ∨ ∃ intent, .intent id intent ∈ events

section

variable {broker : Broker maxSessions maxSubs maxInflight maxRetained} {id : Nat} {conn : Conn} {input : Input}
  {result : Result maxSessions maxSubs maxInflight maxRetained}

theorem connectStep_started (packet : Connect) (now : Instant) :
    (connectStep env broker id packet now).conn.phase ≠ .awaitConnect := by
  unfold connectStep
  split <;> simp

theorem connectStep_inadmissible {packet : Connect} (inadmissible : ¬ Admissible packet env.houseToken)
    (now : Instant) :
    ¬ Effective id broker (connectStep env broker id packet now).broker (connectStep env broker id packet now).events ∧
      (connectStep env broker id packet now).conn.phase.slot? = none := by
  have admission := prepareConnect_spec broker.registry packet env.houseToken
  unfold connectStep
  generalize prepareConnect broker.registry packet env.houseToken = prepared at admission ⊢
  rcases prepared with ⟨registry, result⟩
  cases admission with
  | refused code =>
    refine ⟨?_, rfl⟩
    rintro (changed | changed | ⟨intent, shown⟩)
    · exact changed rfl
    · exact changed rfl
    · exact not_mem_createdEvents (by simp) shown
  | badWill admissible | resumed admissible | unavailable admissible | invalid admissible
  | unrecorded admissible | created admissible => exact absurd admissible inadmissible

theorem Turn.started (turn : Turn env broker id conn input result) : result.conn.phase ≠ .awaitConnect := by
  rcases turn.ordinary with ⟨packet, now, _, _, rfl⟩ | ⟨slot, _, rfl⟩ | ordinary
  · exact connectStep_started packet now
  · simp
  · exact ordinary.started

theorem Turn.outside (turn : Turn env broker id conn input result) (outside : conn.phase.slot? = none) :
    (¬ Effective id broker result.broker result.events ∧ result.conn.phase.slot? = none) ∨
      ∃ packet now, conn.phase = .awaitConnect ∧ input = .firstPacket (.connect packet) now ∧
        Admissible packet env.houseToken := by
  cases turn with
  | @connect packet now waiting =>
    by_cases admissible : Admissible packet env.houseToken
    · exact .inr ⟨packet, now, waiting, rfl, admissible⟩
    · exact .inl (connectStep_inadmissible admissible now)
  | abandoned waiting quiet =>
    refine .inl ⟨?_, rfl⟩
    rintro (changed | changed | ⟨intent, shown⟩)
    · exact changed rfl
    · exact changed rfl
    · obtain ⟨_, wrote⟩ := quiet _ shown
      cases wrote
  | moved serving => rw [slot?_of_serving? serving] at outside; cases outside
  | unanswered waiting | flushed waiting | wrote waiting | popped waiting | drained waiting | served waiting
  | published waiting | acknowledged waiting | handled waiting | announced waiting | delivered waiting
  | removed waiting => rw [waiting] at outside; cases outside

end

structure Gate (env : Env) (id : Nat) (packets : List Packet) (conns : List Conn) : Prop where
  unread : (∀ conn, conns[id]? = some conn → conn.phase = .awaitConnect) → packets = []
  admitted : ∀ conn, conns[id]? = some conn → conn.phase.slot? ≠ none → Authenticated env packets

section

variable {id : Nat} {packets : List Packet} {system next : System maxSessions maxSubs maxInflight maxRetained}
  {label : Label} {events : List Event}

theorem handled_of_label (input : Input) :
    handled id (Label.conn id input).handled = ((Label.conn id input).packet?.map Prod.snd).toList := by
  cases input <;> simp [Label.handled, Label.packet?, handled, WireEvent.packet?]

theorem handled_of_other {other : Nat} (different : other ≠ id) (input : Input) :
    handled id (Label.conn other input).handled = [] := by
  cases input <;> simp [Label.handled, Label.packet?, handled, WireEvent.packet?, different]

theorem Gate.spawn {conns : List Conn} (gate : Gate env id packets conns) :
    Gate env id packets (conns ++ [⟨.awaitConnect, none⟩]) where
  unread waiting := by
    apply gate.unread
    intro conn found
    exact waiting conn (by rw [List.getElem?_append_left (List.getElem?_eq_some_iff.mp found).1, found])
  admitted conn found holding := by
    rcases conn_of_spawn found with old | rfl
    · exact gate.admitted conn old holding
    · exact absurd rfl holding

theorem Gate.own {conns : List Conn} {conn : Conn} {broker : Broker maxSessions maxSubs maxInflight maxRetained}
    {input : Input} {result : Result maxSessions maxSubs maxInflight maxRetained}
    (gate : Gate env id packets conns) (found : conns[id]? = some conn)
    (turn : Turn env broker id conn input result) :
    Gate env id (packets ++ handled id (Label.conn id input).handled) (conns.set id result.conn) ∧
      (Effective id broker result.broker result.events →
        Authenticated env (packets ++ handled id (Label.conn id input).handled)) := by
  have stored := conns_set_self found result.conn
  have unread (waiting : ∀ conn, (conns.set id result.conn)[id]? = some conn → conn.phase = .awaitConnect) :
      packets ++ handled id (Label.conn id input).handled = [] :=
    absurd (waiting _ stored) turn.started
  -- Once the packets are authenticated there is nothing left to show.
  have done (authenticated : Authenticated env (packets ++ handled id (Label.conn id input).handled)) :
      Gate env id (packets ++ handled id (Label.conn id input).handled) (conns.set id result.conn) ∧
        (Effective id broker result.broker result.events →
          Authenticated env (packets ++ handled id (Label.conn id input).handled)) :=
    ⟨⟨unread, fun _ _ _ => authenticated⟩, fun _ => authenticated⟩
  by_cases outside : conn.phase.slot? = none
  · rcases turn.outside outside with ⟨idle, left⟩ | ⟨packet, now, waiting, rfl, admissible⟩
    · refine ⟨⟨unread, ?_⟩, fun effective => absurd effective idle⟩
      intro after present holding
      cases stored.symm.trans present
      exact absurd left holding
    · apply done
      have fresh : packets = [] := gate.unread fun other present => by
        cases found.symm.trans present
        exact waiting
      rw [fresh, handled_of_label]
      exact authenticated_of_admissible admissible
  · exact done ((gate.admitted conn found outside).append _)

theorem Gate.step (gate : Gate env id packets system.conns)
    (taken : System.step env system label = some (next, events)) :
    Gate env id (packets ++ handled id label.handled) next.conns ∧
      (label.actor? = some id → Effective id system.broker next.broker events →
        Authenticated env (packets ++ handled id label.handled)) := by
  cases label with
  | spawn =>
    cases taken
    refine ⟨?_, by simp [Label.actor?]⟩
    simpa [Label.handled, Label.packet?, handled] using gate.spawn
  | outbound publish now =>
    cases taken
    refine ⟨?_, by simp [Label.actor?]⟩
    simpa [Label.handled, Label.packet?, handled] using gate
  | conn other input =>
    simp only [System.step] at taken
    split at taken
    · cases taken
    · next conn found =>
      obtain ⟨result, stepped, same⟩ := Option.map_eq_some_iff.mp taken
      cases same
      by_cases here : other = id
      · subst here
        obtain ⟨after, effect⟩ := gate.own found (connStep_turn stepped)
        exact ⟨after, fun _ => effect⟩
      · refine ⟨?_, fun actor => absurd (Option.some.inj actor) here⟩
        rw [handled_of_other here, List.append_nil]
        refine ⟨fun waiting => gate.unread ?_, fun conn present => gate.admitted conn ?_⟩
        · simpa [List.getElem?_set_ne here] using waiting
        · simpa [List.getElem?_set_ne here] using present

end

section

variable {id : Nat} {wired next : Wired maxSessions maxSubs maxInflight maxRetained} {label : WireLabel}
  {events new : List WireEvent}

theorem Gate.move (gate : Gate env id (handled id events) wired.system.conns)
    (taken : Wired.step env wired label = some (next, new)) :
    Gate env id (handled id (events ++ new)) next.system.conns ∧
      (label.actor? = some id →
        Effective id wired.system.broker next.system.broker (new.filterMap WireEvent.broker?) →
        Authenticated env (handled id (events ++ new))) := by
  rw [handled_append]
  rcases Wired.step_label taken with ⟨same, silent⟩ | ⟨below, shown, stepped, actor, rfl⟩
  · have none : handled id new = [] := by
      rw [handled, List.filterMap_eq_nil_iff]
      intro event member
      obtain ⟨_, _, rfl⟩ := silent event member
      rfl
    have quiet : new.filterMap WireEvent.broker? = [] := by
      rw [List.filterMap_eq_nil_iff]
      intro event member
      obtain ⟨_, _, rfl⟩ := silent event member
      rfl
    rw [none, List.append_nil, same, quiet]
    refine ⟨gate, fun _ => ?_⟩
    rintro (changed | changed | ⟨intent, member⟩)
    · exact absurd rfl changed
    · exact absurd rfl changed
    · cases member
  · have read : handled id (below.handled ++ shown.map .broker) = handled id below.handled := by simp
    have silent : below.handled.filterMap WireEvent.broker? = [] := by
      cases found : below.packet? <;> simp [Label.handled, found, WireEvent.broker?]
    rw [read, List.filterMap_append, silent, filterMap_broker, List.nil_append, ← actor]
    exact gate.step stepped

theorem gate_of_run {labels : List WireLabel}
    (run : Run (Wired.step env) Anything (.new env) labels events wired) :
    Gate env id (handled id events) wired.system.conns := by
  refine run.invariant (P := fun events wired => Gate env id (handled id events) wired.system.conns) ?_
    fun _ _ _ _ _ gate _ taken => (gate.move taken).1
  exact ⟨fun _ => rfl, by simp [Wired.new, System.new]⟩

end

theorem effects_authenticated (env : Env) :
    (∀ lhs rhs : Bytes, ctEq lhs rhs = true ↔ lhs = rhs) ∧
      ∀ (id : Nat) (labels : List WireLabel) (events new : List WireEvent) (label : WireLabel)
        (wired next : Wired maxSessions maxSubs maxInflight maxRetained),
        Run (Wired.step env) Anything (.new env) labels events wired →
        Wired.step env wired label = some (next, new) → label.actor? = some id →
        Effective id wired.system.broker next.system.broker (new.filterMap WireEvent.broker?) →
        Authenticated env (handled id (events ++ new)) :=
  ⟨ctEq_iff, fun _ _ _ _ _ _ _ run taken actor effective =>
    ((gate_of_run run).move taken).2 actor effective⟩

theorem effects_authenticated_at_connect :
    ∃ (wired next : Wired 1 1 1 1) (events new : List WireEvent),
      Run (Wired.step gatomqttEnv) Anything (.new gatomqttEnv) [.broker .spawn, .arrive 0 connectFrame] events wired ∧
      Wired.step gatomqttEnv wired (.poll 0 none 0 0 true) = some (next, new) ∧
      next.system.broker.registry ≠ wired.system.broker.registry ∧
      Authenticated gatomqttEnv (handled 0 (events ++ new)) := by
  obtain ⟨wired, events, run, tested⟩ : ∃ (wired : Wired 1 1 1 1) (events : List WireEvent),
      Run (Wired.step gatomqttEnv) Anything (.new gatomqttEnv) [.broker .spawn, .arrive 0 connectFrame] events wired ∧
      (Wired.step gatomqttEnv wired (.poll 0 none 0 0 true)).any
        (fun after => decide (after.1.system.broker.registry ≠ wired.system.broker.registry)) = true :=
    Execution.exists_run (by decide +kernel)
  obtain ⟨⟨next, new⟩, taken, changed⟩ := (Option.any_eq_true _ _).mp tested
  have differs := of_decide_eq_true changed
  exact ⟨wired, next, events, new, run, taken, differs,
    (effects_authenticated gatomqttEnv).2 0 _ events new _ wired next run taken rfl (.inl differs)⟩

end PicoBroker
