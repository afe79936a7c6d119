import Mathlib.Logic.Function.Basic
import PicoBroker.Shared.Execution

set_option autoImplicit false

namespace PicoBroker

variable {workers : Nat}

-- A socket borrows the buffers `WORKER_BUFFERS[buffers]` for as long as it lives.
structure TcpSocket where
  id : Nat
  buffers : Nat
deriving DecidableEq

-- `locked` is set while a guard of the flag lives across an await.
structure WorkerStatics where
  busy : Bool
  locked : Bool
  socket : Option TcpSocket
  ready : Bool
deriving DecidableEq

-- Where `mqtt_tls_worker_body` is suspended.
inductive WorkerTask where
  | spawned
  | waiting
  | random (socket : TcpSocket)
  | accept (socket : TcpSocket)
  | close (socket : TcpSocket)
  | connection (socket : TcpSocket)
  | release (socket : TcpSocket)
deriving DecidableEq

-- Where `mqtt_accept_task` is suspended.
inductive AcceptTask (workers : Nat) where
  | reserve (slot : Fin workers)
  | snapshot (slot : Fin workers)
  | allBusy
  | listen (slot : Fin workers) (socket : TcpSocket)
  | failed (slot : Fin workers) (socket : TcpSocket)
  | backoff (slot : Fin workers) (socket : TcpSocket)
deriving DecidableEq

def WorkerTask.socket? : WorkerTask → Option TcpSocket
  | .spawned | .waiting => none
  | .random socket | .accept socket | .close socket | .connection socket | .release socket => some socket

def AcceptTask.socket? : AcceptTask workers → Option (Fin workers × TcpSocket)
  | .reserve _ | .snapshot _ | .allBusy => none
  | .listen slot socket | .failed slot socket | .backoff slot socket => some (slot, socket)

structure Pool (workers : Nat) where
  statics : Fin workers → WorkerStatics
  tasks : Fin workers → WorkerTask
  accept : AcceptTask workers
  allBusyLogged : Bool
  sockets : Nat

inductive AcceptInput where
  | lock
  | timer
  | accepted (ok : Bool)
deriving DecidableEq

inductive WorkerInput where
  | start
  | ready
  | random
  | handshake (ok : Bool)
  | closed
  | ended
  | lock
deriving DecidableEq

inductive PoolLabel (workers : Nat) where
  | accept (input : AcceptInput)
  | worker (slot : Fin workers) (input : WorkerInput)
deriving DecidableEq

inductive Passage where
  | handedOver
  | overwritten
  | taken
  | finished
deriving DecidableEq

structure PoolEvent (workers : Nat) where
  passage : Passage
  slot : Fin workers
  socket : TcpSocket
deriving DecidableEq

namespace WorkerStatics

def new : WorkerStatics := ⟨false, false, none, false⟩

def put (statics : WorkerStatics) (socket : TcpSocket) : WorkerStatics := { statics with socket := some socket }

def take (statics : WorkerStatics) : Option TcpSocket × WorkerStatics :=
  (statics.socket, { statics with socket := none })

end WorkerStatics

namespace Pool

def setStatics (pool : Pool workers) (slot : Fin workers) (statics : WorkerStatics) : Pool workers :=
  { pool with statics := Function.update pool.statics slot statics }

def setTask (pool : Pool workers) (slot : Fin workers) (task : WorkerTask) : Pool workers :=
  { pool with tasks := Function.update pool.tasks slot task }

section

variable (pool : Pool workers) {slot other : Fin workers} (statics : WorkerStatics) (task : WorkerTask)

@[simp] theorem setStatics_self : (pool.setStatics slot statics).statics slot = statics := Function.update_self ..

@[simp] theorem setTask_self : (pool.setTask slot task).tasks slot = task := Function.update_self ..

theorem setStatics_ne (different : other ≠ slot) :
    (pool.setStatics slot statics).statics other = pool.statics other := Function.update_of_ne different ..

theorem setTask_ne (different : other ≠ slot) : (pool.setTask slot task).tasks other = pool.tasks other :=
  Function.update_of_ne different ..

end

-- What `worker_busy_snapshot` returns is only printed.
def workerBusySnapshot (pool : Pool workers) (slot : Nat) : Pool workers :=
  if inside : slot < workers then { pool with accept := .snapshot ⟨slot, inside⟩ }
  else { pool with accept := .allBusy, allBusyLogged := true }

def tryReserveWorkerSlot (pool : Pool workers) (slot : Nat) : Pool workers :=
  if inside : slot < workers then { pool with accept := .reserve ⟨slot, inside⟩ }
  else if pool.allBusyLogged then { pool with accept := .allBusy }
  else pool.workerBusySnapshot 0

def new : Pool workers :=
  tryReserveWorkerSlot ⟨fun _ => .new, fun _ => .spawned, .allBusy, false, 0⟩ 0

def listenAt (pool : Pool workers) (slot : Fin workers) : Pool workers :=
  { pool.setStatics slot { pool.statics slot with busy := true } with
    accept := .listen slot ⟨pool.sockets, slot⟩
    allBusyLogged := false
    sockets := pool.sockets + 1 }

def waitForWorkerSocket (pool : Pool workers) (slot : Fin workers) : Pool workers × List (PoolEvent workers) :=
  match (pool.statics slot).take with
  | (some socket, statics) => ((pool.setStatics slot statics).setTask slot (.random socket), [⟨.taken, slot, socket⟩])
  | (none, statics) => ((pool.setStatics slot statics).setTask slot .waiting, [])

-- `put` drops the socket that was in the cell.
def handOver (pool : Pool workers) (slot : Fin workers) (socket : TcpSocket) :
    Pool workers × List (PoolEvent workers) :=
  (pool.setStatics slot { (pool.statics slot).put socket with ready := true },
    (pool.statics slot).socket.toList.map (⟨.overwritten, slot, ·⟩) ++ [⟨.handedOver, slot, socket⟩])

def acceptStep (pool : Pool workers) (input : AcceptInput) : Option (Pool workers × List (PoolEvent workers)) :=
  match pool.accept, input with
  | .reserve slot, .lock =>
      if (pool.statics slot).locked then none
      else if (pool.statics slot).busy then some (pool.tryReserveWorkerSlot (slot + 1), [])
      else some (pool.listenAt slot, [])
  | .snapshot slot, .lock =>
      if (pool.statics slot).locked then none else some (pool.workerBusySnapshot (slot + 1), [])
  | .allBusy, .timer => some (pool.tryReserveWorkerSlot 0, [])
  | .listen slot socket, .accepted true =>
      let (pool, events) := pool.handOver slot socket
      some (pool.tryReserveWorkerSlot 0, events)
  | .listen slot socket, .accepted false => some ({ pool with accept := .failed slot socket }, [])
  -- The guard and the socket live until the timer ends.
  | .failed slot socket, .lock =>
      if (pool.statics slot).locked then none
      else some ({ pool.setStatics slot { pool.statics slot with busy := false, locked := true } with
        accept := .backoff slot socket }, [])
  | .backoff slot _, .timer =>
      some ((pool.setStatics slot { pool.statics slot with locked := false }).tryReserveWorkerSlot 0, [])
  | _, _ => none

def workerStep (pool : Pool workers) (slot : Fin workers) (input : WorkerInput) :
    Option (Pool workers × List (PoolEvent workers)) :=
  match pool.tasks slot, input with
  | .spawned, .start => some (pool.waitForWorkerSocket slot)
  | .waiting, .ready =>
      if (pool.statics slot).ready then
        some ((pool.setStatics slot { pool.statics slot with ready := false }).waitForWorkerSocket slot)
      else none
  | .random socket, .random => some (pool.setTask slot (.accept socket), [])
  | .accept socket, .handshake ok =>
      some (pool.setTask slot (if ok then .connection socket else .close socket), [])
  | .close socket, .closed => some (pool.setTask slot (.release socket), [])
  | .connection socket, .ended => some (pool.setTask slot (.release socket), [])
  -- `release_worker_slot` and the end of the loop's body, which drops the socket.
  | .release socket, .lock =>
      if (pool.statics slot).locked then none
      else
        let (pool, events) :=
          (pool.setStatics slot { pool.statics slot with busy := false }).waitForWorkerSocket slot
        some (pool, ⟨.finished, slot, socket⟩ :: events)
  | _, _ => none

def step : Execution.Step (Pool workers) (PoolLabel workers) (PoolEvent workers)
  | pool, .accept input => pool.acceptStep input
  | pool, .worker slot input => pool.workerStep slot input

inductive Move (pool : Pool workers) :
    PoolLabel workers → Pool workers → List (PoolEvent workers) → Prop
  | searched {input : AcceptInput} {slot : Nat} (searching : pool.accept.socket? = none) :
      Move pool (.accept input) (pool.tryReserveWorkerSlot slot) []
  | looked {input : AcceptInput} {slot : Nat} (searching : pool.accept.socket? = none) :
      Move pool (.accept input) (pool.workerBusySnapshot slot) []
  | reserved {input : AcceptInput} {slot : Fin workers} (searching : pool.accept.socket? = none)
      (unlocked : (pool.statics slot).locked = false) (free : (pool.statics slot).busy = false) :
      Move pool (.accept input) (pool.listenAt slot) []
  | handedOver {input : AcceptInput} {slot : Fin workers} {socket : TcpSocket}
      (listening : pool.accept = .listen slot socket) :
      Move pool (.accept input) ((pool.handOver slot socket).1.tryReserveWorkerSlot 0)
        (pool.handOver slot socket).2
  | failed {input : AcceptInput} {slot : Fin workers} {socket : TcpSocket}
      (listening : pool.accept = .listen slot socket) :
      Move pool (.accept input) { pool with accept := .failed slot socket } []
  | backedOff {input : AcceptInput} {slot : Fin workers} {socket : TcpSocket}
      (failed : pool.accept = .failed slot socket) (unlocked : (pool.statics slot).locked = false) :
      Move pool (.accept input)
        { pool.setStatics slot { pool.statics slot with busy := false, locked := true } with
          accept := .backoff slot socket } []
  | resumed {input : AcceptInput} {slot : Fin workers} {socket : TcpSocket}
      (waiting : pool.accept = .backoff slot socket) :
      Move pool (.accept input)
        ((pool.setStatics slot { pool.statics slot with locked := false }).tryReserveWorkerSlot 0) []
  | waited {slot : Fin workers} {input : WorkerInput} {ready : Bool} (idle : (pool.tasks slot).socket? = none) :
      Move pool (.worker slot input)
        ((pool.setStatics slot { pool.statics slot with ready := ready }).waitForWorkerSocket slot).1
        ((pool.setStatics slot { pool.statics slot with ready := ready }).waitForWorkerSocket slot).2
  | handled {slot : Fin workers} {input : WorkerInput} {task : WorkerTask} {socket : TcpSocket}
      (before : (pool.tasks slot).socket? = some socket) (after : task.socket? = some socket) :
      Move pool (.worker slot input) (pool.setTask slot task) []
  | released {slot : Fin workers} {input : WorkerInput} {socket : TcpSocket}
      (releasing : (pool.tasks slot).socket? = some socket) (unlocked : (pool.statics slot).locked = false) :
      Move pool (.worker slot input)
        ((pool.setStatics slot { pool.statics slot with busy := false }).waitForWorkerSocket slot).1
        (⟨.finished, slot, socket⟩ ::
          ((pool.setStatics slot { pool.statics slot with busy := false }).waitForWorkerSocket slot).2)

theorem acceptStep_move {pool next : Pool workers} {input : AcceptInput} {new : List (PoolEvent workers)}
    (taken : pool.acceptStep input = some (next, new)) : Move pool (.accept input) next new := by
  unfold acceptStep at taken
  split at taken
  · next slot reserving =>
    have searching : pool.accept.socket? = none := by rw [reserving]; rfl
    split at taken
    · cases taken
    · next unlocked =>
      split at taken
      · cases taken
        exact .searched searching
      · next free =>
        cases taken
        exact .reserved searching (by simpa using unlocked) (by simpa using free)
  · next slot looking =>
    split at taken
    · cases taken
    · cases taken
      exact .looked (by rw [looking]; rfl)
  · next pausing =>
    cases taken
    exact .searched (by rw [pausing]; rfl)
  · next slot socket listening =>
    cases taken
    exact .handedOver listening
  · next slot socket listening =>
    cases taken
    exact .failed listening
  · next slot socket failed =>
    split at taken
    · cases taken
    · next unlocked =>
      cases taken
      exact .backedOff failed (by simpa using unlocked)
  · next slot socket waiting =>
    cases taken
    exact .resumed waiting
  · cases taken

theorem workerStep_move {pool next : Pool workers} {slot : Fin workers} {input : WorkerInput}
    {new : List (PoolEvent workers)} (taken : pool.workerStep slot input = some (next, new)) :
    Move pool (.worker slot input) next new := by
  unfold workerStep at taken
  split at taken
  · next spawned =>
    obtain ⟨rfl, rfl⟩ := Prod.ext_iff.mp (Option.some.inj taken)
    have unchanged : pool.setStatics slot { pool.statics slot with ready := (pool.statics slot).ready } = pool := by
      simp [setStatics]
    have waited := @Move.waited _ pool slot .start (pool.statics slot).ready (by rw [spawned]; rfl)
    rwa [unchanged] at waited
  · next waiting =>
    split at taken
    · obtain ⟨rfl, rfl⟩ := Prod.ext_iff.mp (Option.some.inj taken)
      exact .waited (by rw [waiting]; rfl)
    · cases taken
  · next socket drawing =>
    cases taken
    exact .handled (by rw [drawing]; rfl) rfl
  · next socket ok accepting =>
    cases taken
    exact .handled (by rw [accepting]; rfl) (by cases ok <;> rfl)
  · next socket closing =>
    cases taken
    exact .handled (by rw [closing]; rfl) rfl
  · next socket serving =>
    cases taken
    exact .handled (by rw [serving]; rfl) rfl
  · next socket releasing =>
    split at taken
    · cases taken
    · next unlocked =>
      cases taken
      exact .released (by rw [releasing]; rfl) (by simpa using unlocked)
  · cases taken

theorem step_move {pool next : Pool workers} {label : PoolLabel workers} {new : List (PoolEvent workers)}
    (taken : step pool label = some (next, new)) : Move pool label next new := by
  cases label with
  | accept input => exact acceptStep_move taken
  | worker slot input => exact workerStep_move taken

end Pool

end PicoBroker
