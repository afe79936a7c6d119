import PicoBroker.Contracts.FailedConnect
import PicoBroker.Invariants.Ownership

set_option autoImplicit false

namespace PicoBroker

open Execution (Run Anything)

variable {maxSessions maxSubs maxInflight maxRetained : Nat} {env : Env}

def Unshared (env : Env) (system : System maxSessions maxSubs maxInflight maxRetained) (label : Label) :
    Prop :=
  ∀ connect ∈ label.connect?, Admissible connect.2 env.houseToken →
    (∀ slot ∈ claimedSlot system.broker.registry connect.2, ¬ Remembered system.conns slot) ∧
      ¬ ∃ existing session,
        FailedTakeover system.broker.registry connect.2 env.houseToken existing session

instance (system : System maxSessions maxSubs maxInflight maxRetained) (label : Label) :
    Decidable (Unshared env system label) :=
  inferInstanceAs (Decidable (∀ connect ∈ label.connect?, _))

-- The last CONNECT accepted for that client id, and what happened since.
def Latest (events : List Event) (id : Nat) (slot : SessionId) (clientId : Bytes) (later : List Event) :
    Prop :=
  ∃ earlier, events = earlier ++ .accepted id slot clientId :: later ∧
    ∀ other elsewhere, .accepted other elsewhere clientId ∉ later

section

variable {events new later : List Event} {id : Nat} {slot : SessionId} {clientId : Bytes}

theorem Latest.mem (latest : Latest events id slot clientId later) : .accepted id slot clientId ∈ events := by
  obtain ⟨earlier, rfl, _⟩ := latest
  simp

theorem Latest.of_append (latest : Latest (events ++ new) id slot clientId later) :
    (∃ middle, Latest events id slot clientId middle ∧ later = middle ++ new ∧
      ∀ other elsewhere, .accepted other elsewhere clientId ∉ new) ∨
    ∃ earlier, new = earlier ++ .accepted id slot clientId :: later := by
  obtain ⟨earlier, split, none⟩ := latest
  rcases List.append_eq_append_iff.mp split with ⟨rest, _, inNew⟩ | ⟨rest, inEvents, continued⟩
  · exact .inr ⟨rest, inNew⟩
  · cases rest with
    | nil => exact .inr ⟨[], continued.symm⟩
    | cons event middle =>
      obtain ⟨rfl, rfl⟩ := List.cons.inj continued
      refine .inl ⟨middle, ⟨earlier, inEvents, fun other elsewhere member => ?_⟩, rfl, fun other elsewhere member => ?_⟩
      · exact none other elsewhere (List.mem_append_left _ member)
      · exact none other elsewhere (List.mem_append_right _ member)

end

structure Separate (events : List Event) (system : System maxSessions maxSubs maxInflight maxRetained) :
    Prop where
  joined : Joined events system.conns
  unique : Unique system.conns
  present : ∀ id conn slot clientId later, Latest events id slot clientId later →
    system.conns[id]? = some conn → conn.phase.serving? ≠ none →
      ∃ session, system.broker.registry.get slot = some session ∧ session.clientId.items = clientId
  unpublished : ∀ id conn slot clientId later, Latest events id slot clientId later →
    system.conns[id]? = some conn → conn.phase.serving? ≠ none →
      ∀ other lwt, .willPublished other slot lwt ∉ later

theorem Joined.serving_slot {events : List Event} {conns : List Conn} {id : Nat} {conn : Conn}
    {slot : SessionId} {clientId : Bytes} (joined : Joined events conns)
    (accepted : .accepted id slot clientId ∈ events) (found : conns[id]? = some conn)
    (serving : conn.phase.serving? ≠ none) : conn.phase.serving? = some slot := by
  obtain ⟨held, holds⟩ := Option.ne_none_iff_exists'.mp serving
  obtain ⟨owner, _, present, _, _, _, only⟩ := joined.known id slot clientId accepted
  rw [found] at present
  cases present
  rw [holds, only held (slot?_of_serving? holds)]

structure Spared (id : Nat) (slot : SessionId) (label : Label)
    (next : System maxSessions maxSubs maxInflight maxRetained) (new : List Event)
    (session : SessionState maxSubs maxInflight) : Prop where
  unpublished : ∀ other lwt, .willPublished other slot lwt ∉ new
  kept : ∃ after, next.broker.registry.get slot = some after ∧ Keeps session after ∧
    ((∀ input, label = .conn id input → ¬ Resubscribes input) → KeepsAll session after)

section

variable {system next : System maxSessions maxSubs maxInflight maxRetained} {events new : List Event}
  {label : Label} {id : Nat} {conn : Conn} {slot : SessionId} {clientId : Bytes} {later : List Event}
  {session : SessionState maxSubs maxInflight}

theorem Spared.of_same (unpublished : ∀ other lwt, .willPublished other slot lwt ∉ new)
    (same : next.broker.registry.get slot = some session) : Spared id slot label next new session :=
  ⟨unpublished, session, same, .refl session, fun _ => .refl session⟩

theorem Connected.spares {packet : Connect} {reader : Nat} {now : Instant}
    {result : Result maxSessions maxSubs maxInflight maxRetained}
    (connected : Connected env system.broker reader packet now result)
    (unshared : Unshared env system (.conn reader (.firstPacket (.connect packet) now)))
    (present : system.broker.registry.get slot = some session) (remembered : Remembered system.conns slot)
    (outlasted : ∀ other elsewhere, .accepted other elsewhere session.clientId.items ∉ result.events) :
    (∀ other lwt, .willPublished other slot lwt ∉ result.events) ∧
      result.broker.registry.get slot = some session := by
  cases connected with
  | @accepted registry outcome _ _ admission _ =>
    have accepted := admission.accepted
    have elsewhere : slot ≠ outcome.sessionId := by
      rintro rfl
      exact (unshared _ rfl admission.admissible_of_accepted).1 _ accepted.claimed remembered
    refine ⟨fun _ _ member => bookkeeping_of_accepted member, ?_⟩
    dsimp only
    rw [SessionRegistry.get_put_ne _ elsewhere, accepted.others slot elsewhere, if_neg, present]
    -- the session would be the one this CONNECT takes over, and the CONNECT the later one
    intro displaced
    obtain ⟨taken, takenAt, same⟩ := SessionRegistry.findByClientId_eq_some displaced
    rw [present] at takenAt
    cases takenAt
    apply outlasted
    rw [same]
    exact List.mem_cons_self
  | refused admission failed _ =>
    have intact : ¬ ∃ existing session, FailedTakeover _ _ env.houseToken existing session :=
      fun ⟨existing, session, takeover⟩ => (unshared _ rfl takeover.admissible).2 ⟨existing, session, takeover⟩
    have unchanged := admission.atomic_iff.mpr intact failed
    exact ⟨fun _ _ => not_mem_createdEvents (by simp), by simpa [unchanged] using present⟩

theorem Separate.spared (separate : Separate events system) (unshared : Unshared env system label)
    (taken : System.step env system label = some (next, new))
    (latest : Latest events id slot clientId later) (found : system.conns[id]? = some conn)
    (serving : conn.phase.serving? ≠ none) (present : system.broker.registry.get slot = some session)
    (outlasted : ∀ other elsewhere, .accepted other elsewhere clientId ∉ new) :
    Spared id slot label next new session := by
  have servingSlot := separate.joined.serving_slot latest.mem found serving
  have holds := slot?_of_serving? servingSlot
  obtain ⟨stored, storedAt, owned⟩ := separate.present id conn slot clientId later latest found serving
  rw [present] at storedAt
  cases storedAt
  cases step_transition taken with
  | spawned => exact .of_same (by simp) present
  | outbound sent =>
    obtain ⟨after, kept, routed⟩ := (processOutboundPublish_maps ..).present slot session present
    rw [← sent] at kept
    exact ⟨fun other lwt member => (routedEvents_routing member).quiet.2 _ _ _ rfl, after, kept,
      routed.keepsAll.toKeeps, fun _ => routed.keepsAll⟩
  | connected _ _ connected =>
    obtain ⟨unpublished, same⟩ := connected.spares unshared present ⟨id, conn, found, holds⟩ fun other elsewhere =>
      owned ▸ outlasted other elsewhere
    exact .of_same unpublished same
  | @removed other _ leaving gone theirs waiting =>
    have different : slot ≠ gone := by
      rintro rfl
      have same := separate.unique _ _ _ _ slot found theirs holds (by rw [waiting]; rfl)
      subst same
      rw [found] at theirs
      cases theirs
      rw [waiting] at serving
      exact serving rfl
    exact .of_same (by simp) (by simp [removeStep, SessionRegistry.get_remove, different, present])
  | @ordinary other input moving result stepping _ ordinary =>
    have mine (theirs : moving.phase.slot? = some slot) : other = id ∧ moving = conn := by
      have same := separate.unique _ _ _ _ slot stepping found theirs holds
      subst same
      rw [found] at stepping
      exact ⟨rfl, (Option.some.inj stepping).symm⟩
    obtain ⟨after, kept, keeps⟩ := ordinary.keeps.present slot session present
    refine ⟨fun witness lwt member => ?_, after, kept, keeps, fun calm => ?_⟩
    · obtain ⟨theirs, leaving⟩ := ordinary.wills _ member _ _ _ rfl
      obtain ⟨_, rfl⟩ := mine theirs
      exact serving leaving
    · obtain ⟨_, keptAgain, all⟩ := ordinary.subscriptions slot session present fun theirs => by
        obtain ⟨rfl, _⟩ := mine (slot?_of_serving? theirs)
        exact calm input rfl
      rw [kept] at keptAgain
      cases keptAgain
      exact all

-- A loop in its main part that had been accepted before the step was in its main part then.
theorem Joined.serving_before (joined : Joined events system.conns)
    (taken : System.step env system label = some (next, new)) (accepted : .accepted id slot clientId ∈ events)
    (found : next.conns[id]? = some conn) (serving : conn.phase.serving? ≠ none) :
    ∃ before, system.conns[id]? = some before ∧ before.phase.serving? ≠ none := by
  obtain ⟨owner, _, present, started, _⟩ := joined.known id slot clientId accepted
  obtain ⟨held, holds⟩ := Option.ne_none_iff_exists'.mp serving
  rcases step_serving taken found holds with ⟨before, earlier, same⟩ | ⟨before, _, _, earlier, waiting, _⟩
  · exact ⟨before, earlier, by simp [same]⟩
  · rw [earlier] at present
    cases present
    exact absurd waiting started

-- In the step that accepts a CONNECT, the session is there and nothing else is shown after it.
theorem accepted_in_step (taken : System.step env system label = some (next, new))
    {earlier : List Event} (shown : new = earlier ++ .accepted id slot clientId :: later) :
    (∃ session, next.broker.registry.get slot = some session ∧ session.clientId.items = clientId) ∧
      ∀ other lwt, .willPublished other slot lwt ∉ later := by
  have member : .accepted id slot clientId ∈ new := by rw [shown]; simp
  cases step_transition taken with
  | spawned => cases member
  | outbound _ => exact absurd trivial (routedEvents_routing member).quiet.1
  | connected _ _ connected =>
    cases connected with
    | @accepted registry outcome session _ admission present =>
      obtain ⟨stored, storedAt, owned⟩ := admission.accepted.present
      rw [present] at storedAt
      cases storedAt
      refine ⟨?_, fun other lwt published => ?_⟩
      · rcases List.mem_cons.mp member with same | inTail
        · cases same
          exact ⟨_, SessionRegistry.get_put_self present _, owned⟩
        · exact absurd inTail (not_accepted_in_tail outcome id slot clientId)
      · have inStep : .willPublished other slot lwt ∈ earlier ++ .accepted id slot clientId :: later := by
          simp [published]
        rw [← shown] at inStep
        exact bookkeeping_of_accepted inStep
    | refused => exact absurd member (not_mem_createdEvents (by simp))
  | removed => cases member
  | ordinary _ _ ordinary => exact absurd trivial (ordinary.quiet _ member)

theorem Separate.step (separate : Separate events system) (unshared : Unshared env system label)
    (taken : System.step env system label = some (next, new)) : Separate (events ++ new) next := by
  have protect {id : Nat} {conn : Conn} {slot : SessionId} {clientId : Bytes} {later : List Event}
      (latest : Latest (events ++ new) id slot clientId later) (found : next.conns[id]? = some conn)
      (serving : conn.phase.serving? ≠ none) :
      (∃ session, next.broker.registry.get slot = some session ∧ session.clientId.items = clientId) ∧
        ∀ other lwt, .willPublished other slot lwt ∉ later := by
    rcases latest.of_append with ⟨middle, before, rfl, outlasted⟩ | ⟨earlier, shown⟩
    · obtain ⟨conn, foundBefore, servingBefore⟩ :=
        separate.joined.serving_before taken before.mem found serving
      obtain ⟨session, present, owned⟩ :=
        separate.present id conn slot clientId middle before foundBefore servingBefore
      have spared := separate.spared unshared taken before foundBefore servingBefore present outlasted
      obtain ⟨after, kept, keeps, _⟩ := spared.kept
      refine ⟨⟨after, kept, by rw [keeps.clientId, owned]⟩, fun other lwt member => ?_⟩
      rcases List.mem_append.mp member with earlier | now
      · exact separate.unpublished id conn slot clientId middle before foundBefore servingBefore other lwt earlier
      · exact spared.unpublished other lwt now
    · exact accepted_in_step taken shown
  exact ⟨step_joined separate.joined taken,
    separate.unique.step (fun connect member admissible => (unshared connect member admissible).1) taken,
    fun _ _ _ _ _ latest found serving => (protect latest found serving).1,
    fun _ _ _ _ _ latest found serving => (protect latest found serving).2⟩

end

theorem separate_new : Separate [] (.new : System maxSessions maxSubs maxInflight maxRetained) where
  joined := joined_new
  unique _ _ _ _ _ found := by simp [System.new] at found
  present _ _ _ _ _ latest := absurd latest.mem (by simp)
  unpublished _ _ _ _ _ latest := absurd latest.mem (by simp)

theorem run_separate {labels : List Label} {events : List Event}
    {system : System maxSessions maxSubs maxInflight maxRetained}
    (run : Run (System.step env) (Unshared env) .new labels events system) : Separate events system :=
  run.invariant (P := Separate) separate_new
    fun _ _ _ _ _ separate unshared taken => separate.step unshared taken

structure Undisturbed (env : Env) (system : System maxSessions maxSubs maxInflight maxRetained) (id : Nat)
    (slot : SessionId) (clientId : Bytes) (later : List Event) : Prop where
  present : ∃ session, system.broker.registry.get slot = some session ∧ session.clientId.items = clientId
  unpublished : ∀ other lwt, .willPublished other slot lwt ∉ later
  spared : ∀ label next new session, Unshared env system label →
    System.step env system label = some (next, new) →
    (∀ other elsewhere, .accepted other elsewhere clientId ∉ new) →
    system.broker.registry.get slot = some session → Spared id slot label next new session

theorem session_undisturbed {labels : List Label} {events : List Event}
    {system : System maxSessions maxSubs maxInflight maxRetained}
    (run : Run (System.step env) (Unshared env) .new labels events system) {id : Nat} {conn : Conn}
    {slot : SessionId} {clientId : Bytes} {later : List Event}
    (latest : Latest events id slot clientId later) (found : system.conns[id]? = some conn)
    (serving : conn.phase.serving? ≠ none) : Undisturbed env system id slot clientId later where
  present := (run_separate run).present id conn slot clientId later latest found serving
  unpublished := (run_separate run).unpublished id conn slot clientId later latest found serving
  spared _ _ _ _ unshared taken outlasted present :=
    (run_separate run).spared unshared taken latest found serving present outlasted

-- Clients `a` and `b` connect side by side.
theorem session_undisturbed_side_by_side :
    ∃ (system : System 2 1 1 1) (events : List Event),
      Run (System.step gatomqttEnv) (Unshared gatomqttEnv) .new
        [.spawn, .spawn, .connect 0 (houseConnect [97] true none), .connect 1 (houseConnect [98] true none)]
        events system ∧
      Undisturbed gatomqttEnv system 0 0 [97] [.created 0, .accepted 1 1 [98], .created 1] := by
  obtain ⟨system, events, run, tested⟩ : ∃ (system : System 2 1 1 1) (events : List Event),
      Run (System.step gatomqttEnv) (Unshared gatomqttEnv) .new
        [.spawn, .spawn, .connect 0 (houseConnect [97] true none), .connect 1 (houseConnect [98] true none)]
        events system ∧
      decide (events = [.accepted 0 0 [97], .created 0, .accepted 1 1 [98], .created 1] ∧
        system.conns[0]? = some (Conn.mk (.connack 0 false) (some (houseConnect [97] true none)))) = true :=
    Execution.exists_run (by decide +kernel)
  obtain ⟨shown, found⟩ := of_decide_eq_true tested
  exact ⟨system, events, run,
    session_undisturbed run ⟨[], shown, fun other elsewhere => by simp⟩ found (by simp [Phase.serving?])⟩

def takeoverWill : LastWill := ⟨[119], [120], .atMostOnce, true⟩

-- The second connection of client `a` takes its session over; then the first one reads end of file.
def displacedTeardown : List Label :=
  [.spawn, .spawn, .connect 0 (houseConnect [97] true none),
    .connect 1 (houseConnect [97] true (some takeoverWill)), .conn 0 (.write true), .conn 0 .lock,
    .conn 0 (.service 0 0 []), .conn 0 (.readFailed true), .conn 0 .lock, .conn 0 .lock]

theorem session_torn_down :
    ∃ (system : System 1 1 1 1) (events : List Event) (conn : Conn) (lwt : LwtMessage),
      Run (System.step gatomqttEnv) Anything .new displacedTeardown events system ∧
      Latest events 1 0 [97]
        [.created 0, .wrote 0 (.connack ⟨false, .accepted⟩), .willPublished 0 0 lwt] ∧
      system.conns[1]? = some conn ∧ conn.phase.serving? = some 0 ∧
      system.broker.registry.get 0 = none ∧ system.broker.retained.find lwt.topic ≠ none := by
  let lwt : LwtMessage := ⟨⟨[119], by decide⟩, ⟨[120], by decide⟩, .atMostOnce, true⟩
  obtain ⟨system, events, run, tested⟩ : ∃ (system : System 1 1 1 1) (events : List Event),
      Run (System.step gatomqttEnv) Anything .new displacedTeardown events system ∧
      decide (events = [.accepted 0 0 [97], .created 0, .accepted 1 0 [97], .created 0,
          .wrote 0 (.connack ⟨false, .accepted⟩), .willPublished 0 0 lwt] ∧
        system.conns[1]? =
          some (Conn.mk (.connack 0 false) (some (houseConnect [97] true (some takeoverWill)))) ∧
        system.broker.registry.get 0 = none ∧ system.broker.retained.find lwt.topic ≠ none) = true :=
    Execution.exists_run (by decide +kernel)
  obtain ⟨shown, found, removed⟩ := of_decide_eq_true tested
  exact ⟨system, events, _, lwt, run,
    ⟨[.accepted 0 0 [97], .created 0], shown, fun other elsewhere => by simp⟩, found, rfl, removed⟩

end PicoBroker
