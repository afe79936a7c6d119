import Mathlib.Data.Fintype.EquivFin
import PicoBroker.Invariants.Lifetimes
import PicoBroker.Invariants.Reconnects
import PicoBroker.Server.Frontends

set_option autoImplicit false

namespace PicoBroker

open Execution (Run)

variable {workers maxSubs maxInflight maxRetained : Nat} {env : Env} {front : Frontend workers}
  {server next : Server front maxSubs maxInflight maxRetained} {label : ServerLabel front} {new : List Event}

def Manned (server : Server front maxSubs maxInflight maxRetained) : Prop :=
  ∀ (id : Nat) (conn : Conn), server.system.conns[id]? = some conn → conn.phase ≠ .closed →
    ∃ slot, front.serving server.front slot = true ∧ server.conn slot = id

-- The steps of the loops by which no session is left behind.
def Tidy (env : Env) (server : Server front maxSubs maxInflight maxRetained) : ServerLabel front → Prop
  | .front _ => True
  | .broker label => Leakless env server.system label

instance (server : Server front maxSubs maxInflight maxRetained) (label : ServerLabel front) :
    Decidable (Tidy env server label) :=
  match label with
  | .front _ => .isTrue trivial
  | .broker label => inferInstanceAs (Decidable (Leakless env server.system label))

-- A loop that runs after a step ran before it, unless it was only started.
theorem open_before {system next : System workers maxSubs maxInflight maxRetained} {label : Label}
    (taken : System.step env system label = some (next, new)) (started : label ≠ .spawn) {id : Nat} {conn : Conn}
    (found : next.conns[id]? = some conn) (running : conn.phase ≠ .closed) :
    ∃ before, system.conns[id]? = some before ∧ before.phase ≠ .closed := by
  cases label with
  | spawn => exact absurd rfl started
  | outbound publish now =>
    cases taken
    exact ⟨conn, found, running⟩
  | conn moving input =>
    obtain ⟨before, result, stepping, stepped, rfl, _⟩ := step_conn taken
    rcases conn_of_set stepping found with ⟨rfl, _⟩ | ⟨_, old⟩
    · refine ⟨before, stepping, fun closed => ?_⟩
      unfold connStep at stepped
      simp [closed] at stepped
    · exact ⟨conn, old, running⟩

theorem Manned.frontStep {moved : front.Label} {state : front.State} (manned : Manned server)
    (taken : front.step server.front moved = some state) (stepped : server.frontStep moved state = some next) :
    Manned next := by
  unfold Server.frontStep at stepped
  split at stepped
  · next slot opens =>
    cases stepped
    obtain ⟨idle, serving⟩ := front.opened taken opens
    intro id conn found running
    rcases Nat.lt_or_ge id server.system.conns.length with old | fresh
    · obtain ⟨seat, busy, seated⟩ := manned id conn ((List.getElem?_append_left old).symm.trans found) running
      have other : seat ≠ slot := by
        rintro rfl
        rw [idle] at busy
        cases busy
      refine ⟨seat, ?_, (Function.update_of_ne other ..).trans seated⟩
      rw [front.kept taken]
      · exact busy
      · rw [opens]
        rintro ⟨⟩
        exact other rfl
      · rw [opens]
        nofun
    · obtain ⟨inside, _⟩ := List.getElem?_eq_some_iff.mp found
      rw [List.length_append, List.length_singleton] at inside
      refine ⟨slot, serving, (Function.update_self ..).trans ?_⟩
      omega
  · next slot ends =>
    split at stepped
    · next returned =>
      cases stepped
      intro id conn found running
      obtain ⟨seat, busy, seated⟩ := manned id conn found running
      refine ⟨seat, ?_, seated⟩
      rw [front.kept taken]
      · exact busy
      · rw [ends]
        nofun
      · rw [ends]
        rintro ⟨⟩
        -- the worker only leaves a loop that has returned
        rw [Server.ended, seated, found] at returned
        exact running (by simpa using returned)
    · cases stepped
  · next unshifted =>
    cases stepped
    intro id conn found running
    obtain ⟨seat, busy, seated⟩ := manned id conn found running
    refine ⟨seat, ?_, seated⟩
    rw [front.kept taken]
    · exact busy
    · rw [unshifted]
      nofun
    · rw [unshifted]
      nofun

structure Housed (server : Server front maxSubs maxInflight maxRetained) : Prop where
  manned : Manned server
  remembered : ∀ slot, server.system.broker.registry.get slot ≠ none → Remembered server.system.conns slot

theorem frontStep_remembered {moved : front.Label} {state : front.State} (housed : Housed server)
    (stepped : server.frontStep moved state = some next) (slot : SessionId)
    (occupied : next.system.broker.registry.get slot ≠ none) : Remembered next.system.conns slot := by
  unfold Server.frontStep at stepped
  split at stepped
  · cases stepped
    obtain ⟨id, conn, found, owns⟩ := housed.remembered slot occupied
    exact ⟨id, conn, (List.getElem?_append_left (List.getElem?_eq_some_iff.mp found).1).trans found, owns⟩
  · split at stepped
    · cases stepped
      exact housed.remembered slot occupied
    · cases stepped
  · cases stepped
    exact housed.remembered slot occupied

theorem Housed.step (housed : Housed server) (tidy : Tidy env server label)
    (taken : Server.step env server label = some (next, new)) : Housed next := by
  cases label with
  | front moved =>
    simp only [Server.step] at taken
    split at taken
    · cases taken
    · next state moving =>
      obtain ⟨after, stepped, same⟩ := Option.map_eq_some_iff.mp taken
      cases same
      exact ⟨housed.manned.frontStep moving stepped, frontStep_remembered housed stepped⟩
  | broker below =>
    have started : below ≠ .spawn := by
      rintro rfl
      cases taken
    have stepped : (System.step env server.system below).map
        (fun moved => ({ server with system := moved.1 }, moved.2)) = some (next, new) := by
      cases below with
      | spawn => exact absurd rfl started
      | outbound | conn => exact taken
    obtain ⟨⟨system, events⟩, moved, same⟩ := Option.map_eq_some_iff.mp stepped
    cases same
    refine ⟨fun id conn found running => ?_, step_remembered housed.remembered tidy moved⟩
    obtain ⟨before, old, open'⟩ := open_before moved started found running
    exact housed.manned id before old open'

theorem housed_new : Housed (Server.new : Server front maxSubs maxInflight maxRetained) where
  manned := by simp [Manned, Server.new, System.new]
  remembered slot occupied := absurd (Slots.get_empty slot) occupied

-- A session in every slot would need a worker for each, and one more for the loop that waits.
theorem Housed.room (housed : Housed server) {id : Nat} {conn : Conn}
    (found : server.system.conns[id]? = some conn) (waiting : conn.phase = .awaitConnect) :
    ∃ slot < workers, server.system.broker.registry.get slot = none := by
  by_contra noRoom
  have full (slot : Fin workers) : server.system.broker.registry.get slot ≠ none :=
    fun free => noRoom ⟨slot, slot.isLt, free⟩
  have seats (slot : Fin workers) : ∃ (seat : Fin workers) (owner : Conn),
      server.system.conns[server.conn seat]? = some owner ∧ owner.phase.slot? = some slot.val := by
    obtain ⟨owner, conn, present, owns⟩ := housed.remembered slot (full slot)
    obtain ⟨seat, _, seated⟩ := housed.manned owner conn present (by rintro closed; rw [closed] at owns; cases owns)
    exact ⟨seat, conn, seated.symm ▸ present, owns⟩
  choose seat owner present owns using seats
  have injective : Function.Injective seat := by
    intro left right same
    have sameOwner : owner right = owner left := by
      have both := present left
      rw [same, present right] at both
      exact Option.some.inj both
    have sameSlot := owns left
    rw [← sameOwner, owns right] at sameSlot
    exact Fin.ext (Option.some.inj sameSlot).symm
  obtain ⟨mine, _, seated⟩ := housed.manned id conn found (by rw [waiting]; nofun)
  obtain ⟨slot, same⟩ := Finite.injective_iff_surjective.mp injective mine
  have mineIsTheirs : conn = owner slot := by
    have both := present slot
    rw [same, seated, found] at both
    exact Option.some.inj both
  have owned := owns slot
  rw [← mineIsTheirs, waiting] at owned
  cases owned

theorem run_housed {labels : List (ServerLabel front)} {events : List Event}
    (run : Run (Server.step env) (Tidy env) .new labels events server) : Housed server :=
  run.invariant (P := fun _ server => Housed server) housed_new
    (fun _ _ _ _ _ housed tidy taken => housed.step tidy taken)

theorem connect_accepted {labels : List (ServerLabel front)} {events : List Event}
    (run : Run (Server.step env) (Tidy env) .new labels events server) {id : Nat} {conn : Conn} {packet : Connect}
    (found : server.system.conns[id]? = some conn) (waiting : conn.phase = .awaitConnect)
    (admissible : Admissible packet env.houseToken) (named : packet.clientId.length ≤ 64)
    (fits : WillFits packet) (recordable : ¬ Unrecordable server.system.broker.registry packet env.houseToken) :
    ∃ outcome, (prepareConnect server.system.broker.registry packet env.houseToken).2 =
      .ok (.accepted outcome) := by
  have available : Available server.system.broker.registry packet.clientId :=
    .inr ((run_housed run).room found waiting)
  have answers := (answers_iff admissible named fits).mpr
    fun ⟨displaces, full⟩ => recordable ⟨admissible, fits, displaces, full⟩
  revert answers
  cases (prepareConnect server.system.broker.registry packet env.houseToken).2 with
  | error error => exact False.elim
  | ok prepared =>
    cases prepared with
    | accepted outcome => exact fun _ => ⟨outcome, rfl⟩
    | rejected code => exact fun unavailable => absurd available unavailable.2

def onlyWorker : Fin 1 := Fin.last 0

def tlsArrival : List (PoolLabel 1) :=
  [.accept .lock, .accept (.accepted true), .worker onlyWorker .ready, .worker onlyWorker .random,
    .worker onlyWorker (.handshake true)]

def tlsStep (label : PoolLabel 1) : ServerLabel (tlsFrontend 1) := .front label

def plainStep (input : PlainInput) : ServerLabel (plainFrontend 1) := .front (⟨onlyWorker, input⟩ : PlainLabel 1)

-- The only worker of each build has served one client and runs the loop of the next.
def tlsReturn : List (ServerLabel (tlsFrontend 1)) :=
  tlsStep (.worker onlyWorker .start) :: tlsArrival.map tlsStep ++ (visit.drop 1).map .broker ++
    tlsStep (.worker onlyWorker .ended) :: tlsStep (.worker onlyWorker .lock) :: tlsArrival.map tlsStep

def plainReturn : List (ServerLabel (plainFrontend 1)) :=
  plainStep (.start true) :: plainStep (.accepted true true) :: (visit.drop 1).map .broker ++
    [plainStep (.ended true), plainStep (.accepted true true)]

theorem connect_accepted_after_visit :
    (∃ (server : Server (tlsFrontend 1) 1 1 1) (events : List Event),
      Run (Server.step gatomqttEnv) (Tidy gatomqttEnv) .new tlsReturn events server ∧
      server.system.conns[1]? = some (⟨.awaitConnect, none⟩ : Conn) ∧
      ∃ outcome, (prepareConnect server.system.broker.registry (houseConnect [98] true none) gatomqttToken).2 =
        .ok (.accepted outcome)) ∧
    ∃ (server : Server (plainFrontend 1) 1 1 1) (events : List Event),
      Run (Server.step gatomqttEnv) (Tidy gatomqttEnv) .new plainReturn events server ∧
      server.system.conns[1]? = some (⟨.awaitConnect, none⟩ : Conn) ∧
      ∃ outcome, (prepareConnect server.system.broker.registry (houseConnect [98] true none) gatomqttToken).2 =
        .ok (.accepted outcome) := by
  constructor
  · obtain ⟨server, events, run, tested⟩ : ∃ (server : Server (tlsFrontend 1) 1 1 1) (events : List Event),
        Run (Server.step gatomqttEnv) (Tidy gatomqttEnv) .new tlsReturn events server ∧
          decide (server.system.conns[1]? = some (⟨.awaitConnect, none⟩ : Conn) ∧
            ¬ Unrecordable server.system.broker.registry (houseConnect [98] true none) gatomqttToken) = true :=
      Execution.exists_run (by decide +kernel)
    obtain ⟨found, recordable⟩ := of_decide_eq_true tested
    exact ⟨server, events, run, found,
      connect_accepted run found rfl (by decide) (by decide) (by rintro will ⟨⟩) recordable⟩
  · obtain ⟨server, events, run, tested⟩ : ∃ (server : Server (plainFrontend 1) 1 1 1) (events : List Event),
        Run (Server.step gatomqttEnv) (Tidy gatomqttEnv) .new plainReturn events server ∧
          decide (server.system.conns[1]? = some (⟨.awaitConnect, none⟩ : Conn) ∧
            ¬ Unrecordable server.system.broker.registry (houseConnect [98] true none) gatomqttToken) = true :=
      Execution.exists_run (by decide +kernel)
    obtain ⟨found, recordable⟩ := of_decide_eq_true tested
    exact ⟨server, events, run, found,
      connect_accepted run found rfl (by decide) (by decide) (by rintro will ⟨⟩) recordable⟩

end PicoBroker
