import PicoBroker.Broker.Connection
import PicoBroker.Server.Workers

set_option autoImplicit false

namespace PicoBroker

variable {workers maxSubs maxInflight maxRetained : Nat}

inductive Shift (workers : Nat) where
  | opens (slot : Fin workers)
  | ends (slot : Fin workers)

structure Frontend (workers : Nat) where
  State : Type
  Label : Type
  start : State
  step : State → Label → Option State
  serving : State → Fin workers → Bool
  shift : Label → Option (Shift workers)
  opened : ∀ {state label next slot}, step state label = some next → shift label = some (.opens slot) →
    serving state slot = false ∧ serving next slot = true
  kept : ∀ {state label next slot}, step state label = some next → shift label ≠ some (.opens slot) →
    shift label ≠ some (.ends slot) → serving next slot = serving state slot

def WorkerTask.serving : WorkerTask → Bool
  | .connection _ => true
  | _ => false

def PoolLabel.shift : PoolLabel workers → Option (Shift workers)
  | .worker slot (.handshake true) => some (.opens slot)
  | .worker slot .ended => some (.ends slot)
  | _ => none

namespace Pool

theorem waitForWorkerSocket_serving (pool : Pool workers) (slot : Fin workers) :
    ((pool.waitForWorkerSocket slot).1.tasks slot).serving = false := by
  unfold waitForWorkerSocket
  split <;> simp [WorkerTask.serving]

theorem acceptStep_tasks {pool next : Pool workers} {input : AcceptInput} {new : List (PoolEvent workers)}
    (taken : pool.acceptStep input = some (next, new)) : next.tasks = pool.tasks := by
  have searched (pool : Pool workers) (slot : Nat) : (pool.tryReserveWorkerSlot slot).tasks = pool.tasks := by
    unfold tryReserveWorkerSlot workerBusySnapshot
    split
    · rfl
    · split
      · rfl
      · split <;> rfl
  cases acceptStep_move taken with
  | searched => exact searched ..
  | looked =>
    unfold workerBusySnapshot
    split <;> rfl
  | handedOver | resumed => rw [searched]; rfl
  | reserved | failed | backedOff => rfl

theorem workerStep_tasks {pool next : Pool workers} {held slot : Fin workers} {input : WorkerInput}
    {new : List (PoolEvent workers)} (taken : pool.workerStep held input = some (next, new))
    (other : slot ≠ held) : next.tasks slot = pool.tasks slot := by
  have waited (pool : Pool workers) : (pool.waitForWorkerSocket held).1.tasks slot = pool.tasks slot := by
    unfold waitForWorkerSocket
    split <;> exact setTask_ne _ _ other
  cases workerStep_move taken with
  | waited | released => exact waited _
  | handled => exact setTask_ne _ _ other

theorem workerStep_serving {pool next : Pool workers} {slot : Fin workers} {input : WorkerInput}
    {new : List (PoolEvent workers)} (taken : pool.workerStep slot input = some (next, new)) :
    (input = .handshake true → (pool.tasks slot).serving = false ∧ (next.tasks slot).serving = true) ∧
      (input ≠ .handshake true → input ≠ .ended → (next.tasks slot).serving = (pool.tasks slot).serving) := by
  unfold workerStep at taken
  split at taken
  · next spawned =>
    obtain ⟨rfl, rfl⟩ := Prod.ext_iff.mp (Option.some.inj taken)
    exact ⟨nofun, fun _ _ => (waitForWorkerSocket_serving ..).trans (by rw [spawned]; rfl)⟩
  · next waiting =>
    split at taken
    · obtain ⟨rfl, rfl⟩ := Prod.ext_iff.mp (Option.some.inj taken)
      exact ⟨nofun, fun _ _ => (waitForWorkerSocket_serving ..).trans (by rw [waiting]; rfl)⟩
    · cases taken
  · next socket drawing =>
    cases taken
    simp [drawing, WorkerTask.serving]
  · next socket ok accepting =>
    cases taken
    cases ok <;> simp [accepting, WorkerTask.serving]
  · next socket closing =>
    cases taken
    simp [closing, WorkerTask.serving]
  · next socket serving =>
    cases taken
    simp
  · next socket releasing =>
    split at taken
    · cases taken
    · cases taken
      exact ⟨nofun, fun _ _ => (waitForWorkerSocket_serving ..).trans (by rw [releasing]; rfl)⟩
  · cases taken

end Pool

def tlsFrontend (workers : Nat) : Frontend workers where
  State := Pool workers
  Label := PoolLabel workers
  start := .new
  step pool label := (Pool.step pool label).map Prod.fst
  serving pool slot := (pool.tasks slot).serving
  shift := PoolLabel.shift
  opened := by
    intro pool label next slot taken opens
    obtain ⟨⟨_, new⟩, stepped, rfl⟩ := Option.map_eq_some_iff.mp taken
    unfold PoolLabel.shift at opens
    split at opens <;> cases opens
    exact (Pool.workerStep_serving stepped).1 rfl
  kept := by
    intro pool label next slot taken closed running
    obtain ⟨⟨_, new⟩, stepped, rfl⟩ := Option.map_eq_some_iff.mp taken
    cases label with
    | accept input => exact congrArg (fun tasks => (tasks slot).serving) (Pool.acceptStep_tasks stepped)
    | worker held input =>
      by_cases same : slot = held
      · subst same
        refine (Pool.workerStep_serving stepped).2 ?_ ?_
        · rintro rfl
          exact closed rfl
        · rintro rfl
          exact running rfl
      · exact congrArg WorkerTask.serving (Pool.workerStep_tasks stepped same)

-- Where `plain_worker` is suspended.
inductive PlainTask where
  | spawned
  | outOfMemory
  | accept
  | connection
deriving DecidableEq

-- `allocated` is whether the buffers of the next socket could be allocated.
inductive PlainInput where
  | start (allocated : Bool)
  | timer (allocated : Bool)
  | accepted (ok allocated : Bool)
  | ended (allocated : Bool)
deriving DecidableEq

structure PlainLabel (workers : Nat) where
  slot : Fin workers
  input : PlainInput
deriving DecidableEq

namespace PlainTask

-- The beginning of the loop's body.
def newSocket (allocated : Bool) : PlainTask := if allocated then .accept else .outOfMemory

def plainWorker : PlainTask → PlainInput → Option PlainTask
  | .spawned, .start allocated => some (newSocket allocated)
  | .outOfMemory, .timer allocated => some (newSocket allocated)
  | .accept, .accepted ok allocated => some (if ok then .connection else newSocket allocated)
  | .connection, .ended allocated => some (newSocket allocated)
  | _, _ => none

def serving (task : PlainTask) : Bool := task = .connection

theorem newSocket_serving (allocated : Bool) : (newSocket allocated).serving = false := by
  cases allocated <;> rfl

theorem plainWorker_serving {task next : PlainTask} {input : PlainInput}
    (taken : plainWorker task input = some next) :
    (∀ allocated, input = .accepted true allocated → task.serving = false ∧ next.serving = true) ∧
      ((∀ allocated, input ≠ .accepted true allocated) → (∀ allocated, input ≠ .ended allocated) →
        next.serving = task.serving) := by
  unfold plainWorker at taken
  split at taken
  · cases taken
    exact ⟨nofun, fun _ _ => newSocket_serving _⟩
  · cases taken
    exact ⟨nofun, fun _ _ => newSocket_serving _⟩
  · next ok allocated =>
    cases taken
    cases ok with
    | true => exact ⟨fun _ _ => ⟨rfl, rfl⟩, fun closed => absurd rfl (closed allocated)⟩
    | false => exact ⟨nofun, fun _ _ => newSocket_serving _⟩
  · next allocated =>
    cases taken
    exact ⟨nofun, fun _ running => absurd rfl (running allocated)⟩
  · cases taken

end PlainTask

def PlainLabel.shift (label : PlainLabel workers) : Option (Shift workers) :=
  match label.input with
  | .accepted true _ => some (.opens label.slot)
  | .ended _ => some (.ends label.slot)
  | _ => none

def plainFrontend (workers : Nat) : Frontend workers where
  State := Fin workers → PlainTask
  Label := PlainLabel workers
  start _ := .spawned
  step tasks label :=
    ((tasks label.slot).plainWorker label.input).map fun task => Function.update tasks label.slot task
  serving tasks slot := (tasks slot).serving
  shift := PlainLabel.shift
  opened := by
    rintro tasks ⟨held, input⟩ next slot taken opens
    obtain ⟨task, stepped, rfl⟩ := Option.map_eq_some_iff.mp taken
    unfold PlainLabel.shift at opens
    split at opens <;> cases opens
    next allocated same =>
      rw [Function.update_self]
      exact (PlainTask.plainWorker_serving stepped).1 allocated same
  kept := by
    rintro tasks ⟨held, input⟩ next slot taken closed running
    obtain ⟨task, stepped, rfl⟩ := Option.map_eq_some_iff.mp taken
    by_cases same : slot = held
    · subst same
      rw [Function.update_self]
      refine (PlainTask.plainWorker_serving stepped).2 ?_ ?_
      · rintro allocated rfl
        exact closed rfl
      · rintro allocated rfl
        exact running rfl
    · rw [Function.update_of_ne same]

structure Server (front : Frontend workers) (maxSubs maxInflight maxRetained : Nat) where
  front : front.State
  system : System workers maxSubs maxInflight maxRetained
  conn : Fin workers → Nat

inductive ServerLabel (front : Frontend workers) where
  | front (label : front.Label)
  | broker (label : Label)

namespace Server

variable {front : Frontend workers}

def new : Server front maxSubs maxInflight maxRetained := ⟨front.start, .new, fun _ => 0⟩

def ended (server : Server front maxSubs maxInflight maxRetained) (slot : Fin workers) : Bool :=
  server.system.conns[server.conn slot]?.any (·.phase = .closed)

def frontStep (server : Server front maxSubs maxInflight maxRetained) (label : front.Label)
    (next : front.State) : Option (Server front maxSubs maxInflight maxRetained) :=
  match front.shift label with
  | some (.opens slot) =>
      some ⟨next, { server.system with conns := server.system.conns ++ [⟨.awaitConnect, none⟩] },
        Function.update server.conn slot server.system.conns.length⟩
  | some (.ends slot) => if server.ended slot then some { server with front := next } else none
  | none => some { server with front := next }

def step (env : Env) : Execution.Step (Server front maxSubs maxInflight maxRetained) (ServerLabel front) Event
  | server, .front label =>
      match front.step server.front label with
      | none => none
      | some next => (server.frontStep label next).map fun next => (next, [])
  | _, .broker .spawn => none
  | server, .broker label =>
      (System.step env server.system label).map fun (system, events) =>
        ({ server with system := system }, events)

end Server

end PicoBroker
