import PicoBroker.Broker.Steps

set_option autoImplicit false

namespace PicoBroker

open Execution (Run Anything)

variable {maxSessions maxSubs maxInflight maxRetained : Nat}

def displacedWills (events : List Event) : List LwtMessage :=
  events.filterMap fun
    | .displaced lwt => some lwt
    | _ => none

theorem displacedWills_append (events new : List Event) :
    displacedWills (events ++ new) = displacedWills events ++ displacedWills new :=
  List.filterMap_append

theorem displacedWills_eq_nil {events : List Event} (none : ∀ lwt, .displaced lwt ∉ events) :
    displacedWills events = [] := by
  rw [displacedWills, List.filterMap_eq_nil_iff]
  intro event member
  cases event with
  | displaced lwt => exact absurd member (none lwt)
  | _ => rfl

theorem displacedWills_quiet {events : List Event} (quiet : ∀ event ∈ events, ¬ Bookkeeping event) :
    displacedWills events = [] :=
  displacedWills_eq_nil fun _ member => quiet _ member trivial

theorem displacedWills_accepted (id : Nat) (clientId : Bytes) (outcome : ConnectOutcome) :
    displacedWills (.accepted id outcome.sessionId clientId ::
      (if outcome.sessionPresent then [] else [.created outcome.sessionId]) ++
        outcome.displacedLwt.toList.map .displaced) = outcome.displacedLwt.toList := by
  cases outcome.sessionPresent <;> cases outcome.displacedLwt <;> rfl

variable {env : Env}

theorem step_displacedWills {events new : List Event} {label : Label}
    {system next : System maxSessions maxSubs maxInflight maxRetained}
    (exact : system.broker.registry.publishedLwts.items = displacedWills events)
    (taken : System.step env system label = some (next, new)) :
    next.broker.registry.publishedLwts.items = displacedWills (events ++ new) := by
  rw [displacedWills_append]
  cases step_transition taken with
  | spawned => simpa [displacedWills] using exact
  | @outbound publish now broker sent =>
    have quiet : displacedWills (routedEvents system.broker.registry broker.registry) = [] :=
      displacedWills_quiet fun _ member => (routedEvents_routing member).quiet.1
    rw [quiet, List.append_nil, ← exact, sent]
    exact congrArg _ (processOutboundPublish_publishedLwts ..)
  | connected _ _ connected =>
    cases connected with
    | accepted admission _ =>
      rw [displacedWills_accepted, ← exact]
      exact admission.accepted.publishedLwts
    | refused admission failed _ =>
      rw [displacedWills_eq_nil fun _ => not_mem_createdEvents (by simp), List.append_nil, ← exact]
      exact congrArg _ (admission.publishedLwts_of_failed failed)
  | removed _ _ =>
    simpa [displacedWills, removeStep, SessionRegistry.remove_publishedLwts] using exact
  | ordinary _ _ ordinary =>
    rw [displacedWills_quiet ordinary.quiet, List.append_nil, ← exact]
    exact congrArg _ ordinary.publishedLwts

theorem publishedLwts_eq_displacedWills {labels : List Label} {events : List Event}
    {system : System maxSessions maxSubs maxInflight maxRetained}
    (run : Run (System.step env) Anything .new labels events system) :
    system.broker.registry.publishedLwts.items = displacedWills events :=
  run.invariant (P := fun events system =>
      system.broker.registry.publishedLwts.items = displacedWills events)
    rfl fun _ _ _ _ _ exact _ taken => step_displacedWills exact taken

-- A session of that client, or a slot to put one in.
def Available (registry : SessionRegistry maxSessions maxSubs maxInflight) (clientId : Bytes) : Prop :=
  (∃ slot session, registry.get slot = some session ∧ session.clientId.items = clientId) ∨
    ∃ slot < maxSessions, registry.get slot = none

def Answers (registry : SessionRegistry maxSessions maxSubs maxInflight) (packet : Connect) :
    Except ConnectError PreparedConnect → Prop
  | .ok (.accepted _) => Available registry packet.clientId
  | .ok (.rejected code) => code = .serverUnavailable ∧ ¬ Available registry packet.clientId
  | .error _ => False

variable {registry : SessionRegistry maxSessions maxSubs maxInflight} {packet : Connect}

theorem available_of_created {id : SessionId}
    (free : (displace registry packet.clientId).2.slots.firstFree = some id) :
    Available registry packet.clientId := by
  cases found : registry.findByClientId packet.clientId with
  | some existing =>
    obtain ⟨session, present, same⟩ := SessionRegistry.findByClientId_eq_some found
    exact .inl ⟨existing, session, present, same⟩
  | none =>
    rw [displace_of_unknown found] at free
    obtain ⟨inside, empty, _⟩ := SessionRegistry.firstFree_eq_some.mp free
    exact .inr ⟨id, inside, empty⟩

theorem not_available_of_full (unknown : registry.findByClientId packet.clientId = none)
    (full : registry.isFull = true) : ¬ Available registry packet.clientId := by
  rintro (⟨slot, session, present, same⟩ | ⟨slot, inside, empty⟩)
  · exact SessionRegistry.findByClientId_eq_none.mp unknown slot session present same
  · exact Slots.firstFree_eq_none.mp (SessionRegistry.isFull_iff.mp full) slot inside empty

theorem freshState_of_fits (named : packet.clientId.length ≤ 64) (fits : WillFits packet)
    {error : ConnectError} :
    (freshState packet : Except ConnectError (SessionState maxSubs maxInflight)) ≠ .error error := by
  obtain ⟨lwt, ok⟩ := toLwt_ok_iff.mpr fits
  have converted : (Bounded.ofList? packet.clientId : Option ClientId) = some ⟨packet.clientId, named⟩ :=
    Bounded.ofList?_eq_some.mpr rfl
  simp [freshState, toClientId, converted, ok]

theorem answers_iff {houseToken : HouseToken} (admissible : Admissible packet houseToken)
    (named : packet.clientId.length ≤ 64) (fits : WillFits packet) :
    Answers registry packet (prepareConnect registry packet houseToken).2 ↔
      ¬ (DisplacesWill registry packet ∧ registry.publishedLwts.items.length = maxSessions) := by
  have admission := prepareConnect_spec registry packet houseToken
  generalize prepareConnect registry packet houseToken = prepared at admission ⊢
  rcases prepared with ⟨after, result⟩
  cases admission with
  | refused _ inadmissible => exact absurd admissible inadmissible
  | badWill _ _ invalid =>
    obtain ⟨lwt, ok⟩ := toLwt_ok_iff.mpr fits
    rw [ok] at invalid
    cases invalid
  | @resumed existing session _ _ resumed present _ =>
    obtain ⟨persistent, found⟩ := resumable_eq_some resumed
    obtain ⟨_, stored, same⟩ := SessionRegistry.findByClientId_eq_some found
    refine iff_of_true (.inl ⟨existing, _, stored, same⟩) ?_
    rintro ⟨⟨clean, _⟩, _⟩
    rw [persistent] at clean
    cases clean
  | unavailable _ unknown full =>
    refine iff_of_true ⟨rfl, not_available_of_full unknown full⟩ ?_
    rintro ⟨⟨_, will⟩, _⟩
    simp [existingWill, unknown] at will
  | invalid _ _ _ invalid => exact absurd invalid (freshState_of_fits named fits)
  | unrecorded _ fresh _ _ displaced full =>
    obtain ⟨existing, session, found, present, will⟩ := displaced_of_some displaced
    have had : existingWill registry packet.clientId ≠ none := by
      simp [existingWill, found, present, will]
    exact iff_of_false id (not_not.mpr ⟨⟨clean_of_fresh fresh found, had⟩, full⟩)
  | @created _ _ publishedLwts _ _ free _ recorded =>
    refine iff_of_true (available_of_created free) ?_
    rintro ⟨⟨_, had⟩, full⟩
    -- the queue took the will, so it was not full
    obtain ⟨lwt, will⟩ := Option.ne_none_iff_exists'.mp had
    obtain ⟨existing, session, found, present, will⟩ := existingWill_eq_some.mp will
    have room := publishedLwts.fits
    rw [recorded, displace_of_found found present, will, List.length_append, full] at room
    simp only [Option.toList_some, List.length_singleton] at room
    omega

theorem prepareConnect_answers_iff {labels : List Label} {events : List Event}
    {system : System maxSessions maxSubs maxInflight maxRetained}
    (run : Run (System.step env) Anything .new labels events system) {packet : Connect}
    {houseToken : HouseToken} (admissible : Admissible packet houseToken)
    (named : packet.clientId.length ≤ 64) (fits : WillFits packet) :
    Answers system.broker.registry packet (prepareConnect system.broker.registry packet houseToken).2 ↔
      ¬ (DisplacesWill system.broker.registry packet ∧ (displacedWills events).length = maxSessions) := by
  rw [answers_iff admissible named fits, publishedLwts_eq_displacedWills run]

def mournedConnect : Connect := houseConnect [97] true (some ⟨[119], [], .atMostOnce, false⟩)

-- One client connects with a will and takes its own session over.
def mournedTakeover : List Label :=
  [.spawn, .spawn, .connect 0 mournedConnect, .connect 1 mournedConnect]

theorem mournedConnect_fits : WillFits mournedConnect := by
  rintro will ⟨⟩
  decide

theorem prepareConnect_answers_at_takeover :
    ∃ (system : System 1 1 1 1) (events : List Event),
      Run (System.step gatomqttEnv) Anything .new mournedTakeover events system ∧
      (Answers system.broker.registry mournedConnect
          (prepareConnect system.broker.registry mournedConnect gatomqttToken).2 ↔
        ¬ (DisplacesWill system.broker.registry mournedConnect ∧ (displacedWills events).length = 1)) := by
  obtain ⟨system, events, run, _⟩ : ∃ (system : System 1 1 1 1) (events : List Event),
      Run (System.step gatomqttEnv) Anything .new mournedTakeover events system ∧ true = true :=
    Execution.exists_run (by decide +kernel)
  exact ⟨system, events, run, prepareConnect_answers_iff run (by decide) (by decide) mournedConnect_fits⟩

-- The third CONNECT of that client is an error, although its session exists.
theorem prepareConnect_reconnect_refused :
    ∃ (system : System 1 1 1 1) (events : List Event),
      Run (System.step gatomqttEnv) Anything .new mournedTakeover events system ∧
      Admissible mournedConnect gatomqttToken ∧ mournedConnect.clientId.length ≤ 64 ∧
      WillFits mournedConnect ∧
      (prepareConnect system.broker.registry mournedConnect gatomqttToken).2 =
        .error (.registry .lwtQueueFull) ∧
      ¬ Answers system.broker.registry mournedConnect
        (prepareConnect system.broker.registry mournedConnect gatomqttToken).2 := by
  obtain ⟨system, events, run, failed⟩ : ∃ (system : System 1 1 1 1) (events : List Event),
      Run (System.step gatomqttEnv) Anything .new mournedTakeover events system ∧
      decide ((prepareConnect system.broker.registry mournedConnect gatomqttToken).2 =
        .error (.registry .lwtQueueFull)) = true :=
    Execution.exists_run (by decide +kernel)
  have error := of_decide_eq_true failed
  refine ⟨system, events, run, by decide, by decide, mournedConnect_fits, error, ?_⟩
  rw [error]
  exact id

end PicoBroker
