import PicoBroker.Invariants.Ownership
import PicoBroker.Invariants.ReferenceCounts
import PicoBroker.Invariants.ReferenceRuns

set_option autoImplicit false

namespace PicoBroker

open Execution (Run Anything)

variable {maxSessions maxSubs maxInflight maxRetained : Nat} {env : Env}

def Unrecordable (registry : SessionRegistry maxSessions maxSubs maxInflight) (packet : Connect)
    (houseToken : HouseToken) : Prop :=
  Admissible packet houseToken ∧ WillFits packet ∧ DisplacesWill registry packet ∧
    registry.publishedLwts.items.length = maxSessions

instance (registry : SessionRegistry maxSessions maxSubs maxInflight) (packet : Connect)
    (houseToken : HouseToken) : Decidable (Unrecordable registry packet houseToken) :=
  inferInstanceAs (Decidable (_ ∧ _ ∧ _ ∧ _))

def Phase.connack? : Phase → Option Bool
  | .connack _ sessionPresent => some sessionPresent
  | _ => none

def Leakless (env : Env) (system : System maxSessions maxSubs maxInflight maxRetained) (label : Label) :
    Prop :=
  (∀ connect ∈ label.connect?, ¬ Unrecordable system.broker.registry connect.2 env.houseToken) ∧
    ∀ write ∈ label.write?, ∀ conn ∈ system.conns[write.1]?, ∀ sessionPresent ∈ conn.phase.connack?,
      write.2 = true ∧
        (env.codec.encodeSlice (.connack ⟨sessionPresent, .accepted⟩) env.maxPacketSize).isSome

instance (system : System maxSessions maxSubs maxInflight maxRetained) (label : Label) :
    Decidable (Leakless env system label) :=
  inferInstanceAs (Decidable (_ ∧ _))

-- A failed CONNECT leaves no session that was not there before.
theorem Admission.get_of_failed {registry after : SessionRegistry maxSessions maxSubs maxInflight}
    {packet : Connect} {houseToken : HouseToken} {result : Except ConnectError PreparedConnect}
    (admission : Admission registry packet houseToken after result) (failed : Failed result)
    (recordable : ¬ Unrecordable registry packet houseToken) {slot : SessionId}
    (occupied : after.get slot ≠ none) : registry.get slot ≠ none := by
  cases admission with
  | refused => exact occupied
  | badWill => exact occupied
  | resumed => exact failed.elim
  | unavailable => exact occupied
  | invalid =>
    rw [get_displace] at occupied
    split at occupied
    · exact absurd rfl occupied
    · exact occupied
  | unrecorded admissible fresh _ valid displaced full =>
    obtain ⟨existing, session, found, present, will⟩ := displaced_of_some displaced
    have had : existingWill registry packet.clientId ≠ none := by
      simp [existingWill, found, present, will]
    exact absurd ⟨admissible, willFits_of_freshState valid, ⟨clean_of_fresh fresh found, had⟩, full⟩
      recordable
  | created => exact failed.elim

section

variable {conns : List Conn} {id : Nat} {conn after : Conn} {slot : SessionId}

theorem remembered_set_self (found : conns[id]? = some conn) (kept : after.phase.slot? = some slot) :
    Remembered (conns.set id after) slot := by
  obtain ⟨inside, _⟩ := List.getElem?_eq_some_iff.mp found
  exact ⟨id, after, by simp [inside], kept⟩

theorem Remembered.set (remembered : Remembered conns slot) (found : conns[id]? = some conn)
    (kept : conn.phase.slot? = some slot → after.phase.slot? = some slot) :
    Remembered (conns.set id after) slot := by
  obtain ⟨other, owner, present, owns⟩ := remembered
  by_cases same : id = other
  · subst same
    rw [found] at present
    cases present
    exact remembered_set_self found (kept owns)
  · exact ⟨other, owner, by simpa [same] using present, owns⟩

end

theorem step_remembered {system next : System maxSessions maxSubs maxInflight maxRetained} {label : Label}
    {new : List Event}
    (remembered : ∀ slot, system.broker.registry.get slot ≠ none → Remembered system.conns slot)
    (leakless : Leakless env system label) (taken : System.step env system label = some (next, new))
    (slot : SessionId) (occupied : next.broker.registry.get slot ≠ none) : Remembered next.conns slot := by
  cases step_transition taken with
  | spawned =>
    obtain ⟨id, conn, found, owns⟩ := remembered slot occupied
    obtain ⟨inside, _⟩ := List.getElem?_eq_some_iff.mp found
    exact ⟨id, conn, by simpa [List.getElem?_append_left inside] using found, owns⟩
  | outbound sent =>
    refine remembered slot fun missing => occupied ?_
    dsimp only
    rw [sent]
    exact (processOutboundPublish_maps ..).absent slot missing
  | connected found waiting connected =>
    cases connected with
    | @accepted registry outcome session signals admission present =>
      by_cases here : slot = outcome.sessionId
      · subst here
        exact remembered_set_self found rfl
      · refine (remembered slot ?_).set found fun owns => absurd owns ?_
        · dsimp only at occupied
          rw [SessionRegistry.get_put_ne _ here, admission.accepted.others slot here] at occupied
          split at occupied
          · exact absurd rfl occupied
          · exact occupied
        · simp [waiting, Phase.slot?]
    | refused admission failed left =>
      refine (remembered slot (admission.get_of_failed failed (leakless.1 _ rfl) occupied)).set found ?_
      simp [waiting, Phase.slot?]
  | @removed id input conn gone found waiting =>
    dsimp only [removeStep] at occupied
    rw [SessionRegistry.get_remove] at occupied
    split at occupied
    · exact absurd rfl occupied
    · next different =>
      refine (remembered slot occupied).set found fun owns => absurd owns ?_
      simpa [waiting, Phase.slot?] using Ne.symm different
  | @ordinary id input conn result found turn ordinary =>
    have before : system.broker.registry.get slot ≠ none :=
      fun missing => occupied (ordinary.keeps.absent slot missing)
    refine (remembered slot before).set found fun owns => ?_
    rcases ordinary.slot with same | ⟨_, none | ⟨_, sessionPresent, answer, waiting, rfl, failed⟩⟩
    · rw [same, owns]
    · rw [none] at owns
      cases owns
    · -- the only way out that forgets the slot is a failed CONNACK
      obtain ⟨rfl, encodes⟩ := leakless.2 (id, answer) rfl conn found sessionPresent (by rw [waiting]; rfl)
      simp_all

theorem run_remembered {labels : List Label} {events : List Event}
    {system : System maxSessions maxSubs maxInflight maxRetained}
    (run : Run (System.step env) (Leakless env) .new labels events system) (slot : SessionId) :
    system.broker.registry.get slot ≠ none → Remembered system.conns slot :=
  run.invariant (P := fun _ system => ∀ slot, system.broker.registry.get slot ≠ none → Remembered system.conns slot)
    (fun slot occupied => absurd (Slots.get_empty slot) occupied)
    (fun _ _ _ _ _ remembered leakless taken => step_remembered remembered leakless taken) slot

theorem registry_empty_of_closed {labels : List Label} {events : List Event}
    {system : System maxSessions maxSubs maxInflight maxRetained}
    (run : Run (System.step env) (Leakless env) .new labels events system)
    (closed : ∀ conn ∈ system.conns, conn.phase = .closed) :
    (∀ slot, system.broker.registry.get slot = none) ∧
      ∀ slot, system.broker.registry.storedPublishes.get slot = none := by
  have noSession : ∀ slot, system.broker.registry.get slot = none := by
    intro slot
    by_contra occupied
    obtain ⟨id, conn, found, owns⟩ := run_remembered run slot occupied
    rw [closed conn (List.mem_of_getElem? found)] at owns
    cases owns
  refine ⟨noSession, (run_consistent run).noLeak ?_⟩
  intro slot session present
  rw [noSession slot] at present
  cases present

def visit : List Label :=
  .spawn :: Label.admit 0 [97] ++ [.conn 0 (.packet .disconnect 0 0 true), .conn 0 .lock]

theorem registry_empty_after_visit :
    ∃ (system : System 1 1 1 1) (events : List Event),
      Run (System.step gatomqttEnv) (Leakless gatomqttEnv) .new visit events system ∧
      (∀ conn ∈ system.conns, conn.phase = .closed) ∧
      (∀ slot, system.broker.registry.get slot = none) ∧
        ∀ slot, system.broker.registry.storedPublishes.get slot = none := by
  obtain ⟨system, events, run, tested⟩ : ∃ (system : System 1 1 1 1) (events : List Event),
      Run (System.step gatomqttEnv) (Leakless gatomqttEnv) .new visit events system ∧
      decide (∀ conn ∈ system.conns, conn.phase = .closed) = true :=
    Execution.exists_run (by decide +kernel)
  have closed := of_decide_eq_true tested
  exact ⟨system, events, run, closed, registry_empty_of_closed run closed⟩

-- The CONNACK cannot be written; the only loop has returned, and its session stays.
theorem session_outlives_connection :
    ∃ (system : System 1 1 1 1) (events : List Event),
      Run (System.step gatomqttEnv) Anything .new
        [.spawn, .connect 0 (houseConnect [97] true none), .conn 0 (.write false)] events system ∧
      (∀ conn ∈ system.conns, conn.phase = .closed) ∧ system.broker.registry.get 0 ≠ none := by
  obtain ⟨system, events, run, tested⟩ : ∃ (system : System 1 1 1 1) (events : List Event),
      Run (System.step gatomqttEnv) Anything .new
        [.spawn, .connect 0 (houseConnect [97] true none), .conn 0 (.write false)] events system ∧
      decide ((∀ conn ∈ system.conns, conn.phase = .closed) ∧ system.broker.registry.get 0 ≠ none) = true :=
    Execution.exists_run (by decide +kernel)
  exact ⟨system, events, run, of_decide_eq_true tested⟩

end PicoBroker
