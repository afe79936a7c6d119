import PicoBroker.Server.Workers

set_option autoImplicit false

namespace PicoBroker

open Execution (Run Anything)

variable {workers : Nat}

inductive Place where
  | free
  | listening (socket : TcpSocket)
  | backoff (socket : TcpSocket)
  | stored (socket : TcpSocket)
  | worker (socket : TcpSocket)

namespace Place

def busy : Place → Bool
  | .free | .backoff _ => false
  | .listening _ | .stored _ | .worker _ => true

def locked : Place → Bool
  | .backoff _ => true
  | _ => false

def accept : Place → Place
  | .listening socket => .listening socket
  | .backoff socket => .backoff socket
  | _ => .free

def stored? : Place → Option TcpSocket
  | .stored socket => some socket
  | _ => none

def worker? : Place → Option TcpSocket
  | .worker socket => some socket
  | _ => none

def socket? : Place → Option TcpSocket
  | .free => none
  | .listening socket | .backoff socket | .stored socket | .worker socket => some socket

end Place

def AcceptTask.placeAt (slot : Fin workers) : AcceptTask workers → Place
  | .listen held socket | .failed held socket => if held = slot then .listening socket else .free
  | .backoff held socket => if held = slot then .backoff socket else .free
  | _ => .free

structure Stands (pool : Pool workers) (slot : Fin workers) (place : Place) : Prop where
  busy : (pool.statics slot).busy = place.busy
  locked : (pool.statics slot).locked = place.locked
  accept : pool.accept.placeAt slot = place.accept
  stored : (pool.statics slot).socket = place.stored?
  worker : (pool.tasks slot).socket? = place.worker?
  borrowed : ∀ socket ∈ place.socket?, socket.buffers = slot
  -- The signal is set after the cell, so a worker that waits with a full cell will be woken.
  signalled : place.stored? ≠ none → pool.tasks slot = .waiting → (pool.statics slot).ready = true

def passing (passage : Passage) (slot : Fin workers) (events : List (PoolEvent workers)) : List TcpSocket :=
  events.filterMap fun event =>
    if event.passage = passage ∧ event.slot = slot then some event.socket else none

structure Passes (slot : Fin workers) (before : Place) (new : List (PoolEvent workers)) (after : Place) :
    Prop where
  cell : before.stored?.toList ++ passing .handedOver slot new = passing .taken slot new ++ after.stored?.toList
  worker : before.worker?.toList ++ passing .taken slot new = passing .finished slot new ++ after.worker?.toList
  kept : passing .overwritten slot new = []

section

variable (passage : Passage) (slot : Fin workers)

@[simp] theorem passing_nil : passing passage slot [] = [] := rfl

@[simp] theorem passing_append (events new : List (PoolEvent workers)) :
    passing passage slot (events ++ new) = passing passage slot events ++ passing passage slot new :=
  List.filterMap_append

theorem passing_eq_nil {passage : Passage} {slot : Fin workers} {new : List (PoolEvent workers)}
    (other : ∀ event ∈ new, event.slot ≠ slot) : passing passage slot new = [] := by
  rw [passing, List.filterMap_eq_nil_iff]
  intro event member
  simp [other event member]

end

theorem Passes.nothing (slot : Fin workers) (place : Place) : Passes slot place [] place := by
  constructor <;> simp

theorem Passes.elsewhere {slot held : Fin workers} {new : List (PoolEvent workers)} (place : Place)
    (shown : ∀ event ∈ new, event.slot = held) (other : slot ≠ held) : Passes slot place new place := by
  have unseen : ∀ event ∈ new, event.slot ≠ slot := by
    intro event member
    rw [shown event member]
    exact Ne.symm other
  constructor <;> simp [passing_eq_nil unseen]

section

variable {pool next : Pool workers} {slot : Fin workers} {place : Place}

theorem Stands.congr (stands : Stands pool slot place) (statics : next.statics slot = pool.statics slot)
    (task : next.tasks slot = pool.tasks slot)
    (accept : next.accept.placeAt slot = pool.accept.placeAt slot) : Stands next slot place where
  busy := by rw [statics, stands.busy]
  locked := by rw [statics, stands.locked]
  accept := by rw [accept, stands.accept]
  stored := by rw [statics, stands.stored]
  worker := by rw [task, stands.worker]
  borrowed := stands.borrowed
  signalled := by
    rw [statics, task]
    exact stands.signalled

structure Searches (before after : Pool workers) : Prop where
  statics : after.statics = before.statics
  tasks : after.tasks = before.tasks
  sockets : after.sockets = before.sockets
  idle : after.accept.socket? = none

theorem workerBusySnapshot_searches (pool : Pool workers) (first : Nat) :
    Searches pool (pool.workerBusySnapshot first) := by
  unfold Pool.workerBusySnapshot
  split <;> exact ⟨rfl, rfl, rfl, rfl⟩

theorem tryReserveWorkerSlot_searches (pool : Pool workers) (first : Nat) :
    Searches pool (pool.tryReserveWorkerSlot first) := by
  unfold Pool.tryReserveWorkerSlot
  split
  · exact ⟨rfl, rfl, rfl, rfl⟩
  · split
    · exact ⟨rfl, rfl, rfl, rfl⟩
    · exact workerBusySnapshot_searches pool 0

theorem placeAt_of_idle {accept : AcceptTask workers} (idle : accept.socket? = none) (slot : Fin workers) :
    accept.placeAt slot = .free := by
  cases accept with
  | listen | failed | backoff => cases idle
  | _ => rfl

theorem Searches.stands (searches : Searches pool next) (stands : Stands pool slot place)
    (idle : pool.accept.placeAt slot = .free) : Stands next slot place :=
  stands.congr (by rw [searches.statics]) (by rw [searches.tasks])
    ((placeAt_of_idle searches.idle slot).trans idle.symm)

theorem Stands.search (stands : Stands { pool with accept := .allBusy } slot place) (first : Nat) :
    Stands (pool.tryReserveWorkerSlot first) slot place := by
  have searches := tryReserveWorkerSlot_searches pool first
  exact stands.congr (by rw [searches.statics]) (by rw [searches.tasks]) (placeAt_of_idle searches.idle slot)

theorem placeAt_other {accept : AcceptTask workers} {held : Fin workers} {socket : TcpSocket}
    (holds : accept.socket? = some (held, socket)) (other : slot ≠ held) : accept.placeAt slot = .free := by
  cases accept with
  | listen | failed | backoff =>
    cases holds
    exact if_neg (Ne.symm other)
  | _ => cases holds

theorem waitForWorkerSocket_none (empty : (pool.statics slot).socket = none) :
    pool.waitForWorkerSocket slot = (pool.setTask slot .waiting, []) := by
  have unchanged : { pool.statics slot with socket := none } = pool.statics slot := by rw [← empty]
  simp [Pool.waitForWorkerSocket, WorkerStatics.take, empty, Pool.setStatics, unchanged]

theorem waitForWorkerSocket_some {socket : TcpSocket} (full : (pool.statics slot).socket = some socket) :
    pool.waitForWorkerSocket slot =
      ((pool.setStatics slot { pool.statics slot with socket := none }).setTask slot (.random socket),
        [⟨.taken, slot, socket⟩]) := by
  simp [Pool.waitForWorkerSocket, WorkerStatics.take, full]

theorem Stands.reserved (stands : Stands pool slot place) (unlocked : (pool.statics slot).locked = false)
    (free : (pool.statics slot).busy = false) :
    place = .free ∧ Stands (pool.listenAt slot) slot (.listening ⟨pool.sockets, slot⟩) := by
  rw [stands.locked] at unlocked
  rw [stands.busy] at free
  cases place with
  | free =>
    refine ⟨rfl, ?_⟩
    constructor <;> simp [Pool.listenAt, Pool.setStatics, Place.busy, Place.locked, Place.accept, Place.stored?,
      Place.worker?, Place.socket?, AcceptTask.placeAt, stands.locked, stands.stored, stands.worker]
  | backoff => cases unlocked
  | listening | stored | worker => cases free

theorem Stands.listening {socket : TcpSocket} (stands : Stands pool slot place)
    (listening : pool.accept.placeAt slot = .listening socket) : place = .listening socket := by
  rw [stands.accept] at listening
  cases place <;> first | exact listening | cases listening

theorem Stands.handedOver {socket : TcpSocket} (stands : Stands pool slot (.listening socket)) :
    Stands ((pool.handOver slot socket).1.tryReserveWorkerSlot 0) slot (.stored socket) := by
  refine Stands.search ?_ 0
  constructor
  case borrowed => exact stands.borrowed
  all_goals
    simp [Pool.handOver, Pool.setStatics, WorkerStatics.put, AcceptTask.placeAt, stands.busy, stands.locked,
      stands.worker, Place.busy, Place.locked, Place.accept, Place.stored?, Place.worker?]

theorem Stands.backedOff {socket : TcpSocket} (stands : Stands pool slot (.listening socket)) :
    Stands { pool.setStatics slot { pool.statics slot with busy := false, locked := true } with
      accept := .backoff slot socket } slot (.backoff socket) := by
  constructor
  case borrowed => exact stands.borrowed
  all_goals
    simp [Pool.setStatics, AcceptTask.placeAt, stands.stored, stands.worker, Place.busy, Place.locked,
      Place.accept, Place.stored?, Place.worker?]

theorem Stands.resumed {socket : TcpSocket} (stands : Stands pool slot (.backoff socket)) :
    Stands ((pool.setStatics slot { pool.statics slot with locked := false }).tryReserveWorkerSlot 0)
      slot .free := by
  refine Stands.search ?_ 0
  constructor <;> simp [Pool.setStatics, AcceptTask.placeAt, stands.busy, stands.stored, stands.worker, Place.busy,
    Place.locked, Place.accept, Place.stored?, Place.worker?, Place.socket?]

-- A worker that looks for a connection takes what is in the cell.
theorem Stands.waited (stands : Stands pool slot place) (idle : (pool.tasks slot).socket? = none) (ready : Bool) :
    let waited := (pool.setStatics slot { pool.statics slot with ready := ready }).waitForWorkerSocket slot
    ∃ after, Stands waited.1 slot after ∧ Passes slot place waited.2 after := by
  rw [stands.worker] at idle
  cases place with
  | worker => cases idle
  | stored socket =>
    have full : ((pool.setStatics slot { pool.statics slot with ready := ready }).statics slot).socket =
        some socket := by
      rw [Pool.setStatics_self]
      exact stands.stored
    rw [waitForWorkerSocket_some full]
    refine ⟨.worker socket, ?_, ?_⟩
    · constructor
      case borrowed => exact stands.borrowed
      case accept => exact stands.accept
      all_goals
        simp [Pool.setStatics, Pool.setTask, stands.busy, stands.locked, WorkerTask.socket?, Place.busy,
          Place.locked, Place.stored?, Place.worker?]
    · constructor <;> simp [passing, Place.stored?, Place.worker?]
  | _ =>
    rw [waitForWorkerSocket_none (by simp [Pool.setStatics, stands.stored, Place.stored?])]
    refine ⟨_, ?_, .nothing slot _⟩
    constructor
    case borrowed => exact stands.borrowed
    case accept => exact stands.accept
    all_goals
      simp [Pool.setStatics, Pool.setTask, stands.busy, stands.locked, stands.stored, WorkerTask.socket?,
        Place.busy, Place.locked, Place.stored?, Place.worker?]

theorem Stands.released {socket : TcpSocket} (stands : Stands pool slot place)
    (releasing : (pool.tasks slot).socket? = some socket) :
    let waited := (pool.setStatics slot { pool.statics slot with busy := false }).waitForWorkerSocket slot
    Stands waited.1 slot .free ∧ Passes slot place (⟨.finished, slot, socket⟩ :: waited.2) .free := by
  rw [stands.worker] at releasing
  cases place with
  | worker held =>
    obtain rfl : held = socket := Option.some.inj releasing
    rw [waitForWorkerSocket_none (by simp [Pool.setStatics, stands.stored, Place.stored?])]
    constructor
    · constructor
      case accept => exact stands.accept
      all_goals
        simp [Pool.setStatics, Pool.setTask, stands.locked, stands.stored, WorkerTask.socket?, Place.busy,
          Place.locked, Place.stored?, Place.worker?, Place.socket?]
    · constructor <;> simp [passing, Place.stored?, Place.worker?]
  | _ => cases releasing

theorem Stands.handled {socket : TcpSocket} {task : WorkerTask} (stands : Stands pool slot place)
    (before : (pool.tasks slot).socket? = some socket) (after : task.socket? = some socket) :
    Stands (pool.setTask slot task) slot place where
  busy := stands.busy
  locked := stands.locked
  accept := stands.accept
  stored := stands.stored
  worker := by rw [Pool.setTask_self, after, ← before, stands.worker]
  borrowed := stands.borrowed
  signalled := by
    rw [Pool.setTask_self]
    rintro _ rfl
    cases after

theorem waitForWorkerSocket_other (pool : Pool workers) {held : Fin workers} (other : slot ≠ held) :
    (pool.waitForWorkerSocket held).1.statics slot = pool.statics slot ∧
      (pool.waitForWorkerSocket held).1.tasks slot = pool.tasks slot ∧
      (pool.waitForWorkerSocket held).1.accept = pool.accept ∧
      (pool.waitForWorkerSocket held).1.sockets = pool.sockets ∧
      ∀ event ∈ (pool.waitForWorkerSocket held).2, event.slot = held := by
  unfold Pool.waitForWorkerSocket
  split <;> simp [Pool.setStatics, Pool.setTask, other]

theorem handOver_slot {held : Fin workers} {socket : TcpSocket} :
    ∀ event ∈ (pool.handOver held socket).2, event.slot = held := by
  intro event member
  rcases List.mem_append.mp member with dropped | put
  · obtain ⟨_, _, rfl⟩ := List.mem_map.mp dropped
    rfl
  · rw [List.mem_singleton.mp put]

theorem Stands.move {label : PoolLabel workers} {new : List (PoolEvent workers)} (stands : Stands pool slot place)
    (move : pool.Move label next new) : ∃ after, Stands next slot after ∧ Passes slot place new after := by
  cases move with
  | searched searching =>
    exact ⟨place, (tryReserveWorkerSlot_searches ..).stands stands (placeAt_of_idle searching slot),
      .nothing slot place⟩
  | looked searching =>
    exact ⟨place, (workerBusySnapshot_searches ..).stands stands (placeAt_of_idle searching slot),
      .nothing slot place⟩
  | @reserved _ held searching unlocked free =>
    by_cases same : slot = held
    · subst same
      obtain ⟨rfl, after⟩ := stands.reserved unlocked free
      exact ⟨_, after, by constructor <;> rfl⟩
    · refine ⟨place, stands.congr (Pool.setStatics_ne _ _ same) rfl ?_, .nothing slot place⟩
      exact (if_neg (Ne.symm same)).trans (placeAt_of_idle searching slot).symm
  | @handedOver _ held socket listening =>
    by_cases same : slot = held
    · subst same
      have known : pool.accept.placeAt slot = .listening socket := by simp [listening, AcceptTask.placeAt]
      obtain rfl := stands.listening known
      refine ⟨_, stands.handedOver, ?_⟩
      constructor <;> simp [passing, Pool.handOver, stands.stored, Place.stored?, Place.worker?]
    · have idle : pool.accept.placeAt slot = .free := placeAt_other (by rw [listening]; rfl) same
      refine ⟨place, Stands.search ?_ 0, .elsewhere place handOver_slot same⟩
      exact stands.congr (Pool.setStatics_ne _ _ same) rfl idle.symm
  | @failed _ held socket listening =>
    refine ⟨place, stands.congr rfl rfl ?_, .nothing slot place⟩
    rw [listening]
    rfl
  | @backedOff _ held socket failed unlocked =>
    by_cases same : slot = held
    · subst same
      have known : pool.accept.placeAt slot = .listening socket := by simp [failed, AcceptTask.placeAt]
      obtain rfl := stands.listening known
      exact ⟨_, stands.backedOff, by constructor <;> rfl⟩
    · have idle : pool.accept.placeAt slot = .free := placeAt_other (by rw [failed]; rfl) same
      refine ⟨place, stands.congr (Pool.setStatics_ne _ _ same) rfl ?_, .nothing slot place⟩
      exact (if_neg (Ne.symm same)).trans idle.symm
  | @resumed _ held socket waiting =>
    by_cases same : slot = held
    · subst same
      have known : pool.accept.placeAt slot = .backoff socket := by simp [waiting, AcceptTask.placeAt]
      rw [stands.accept] at known
      cases place <;> cases known
      exact ⟨_, stands.resumed, by constructor <;> rfl⟩
    · have idle : pool.accept.placeAt slot = .free := placeAt_other (by rw [waiting]; rfl) same
      refine ⟨place, Stands.search ?_ 0, .nothing slot place⟩
      exact stands.congr (Pool.setStatics_ne _ _ same) rfl idle.symm
  | @waited held _ ready idle =>
    by_cases same : slot = held
    · subst same
      exact stands.waited idle ready
    · obtain ⟨statics, task, accept, _, shown⟩ := waitForWorkerSocket_other
        (pool.setStatics held { pool.statics held with ready := ready }) same
      exact ⟨place, stands.congr (statics.trans (Pool.setStatics_ne _ _ same)) task (by rw [accept]; rfl),
        .elsewhere place shown same⟩
  | @handled held _ task socket before after =>
    by_cases same : slot = held
    · subst same
      exact ⟨place, stands.handled before after, .nothing slot place⟩
    · exact ⟨place, stands.congr rfl (Pool.setTask_ne _ _ same) rfl, .nothing slot place⟩
  | @released held _ socket releasing unlocked =>
    by_cases same : slot = held
    · subst same
      obtain ⟨after, passes⟩ := stands.released releasing
      exact ⟨.free, after, passes⟩
    · obtain ⟨statics, task, accept, _, shown⟩ := waitForWorkerSocket_other
        (pool.setStatics held { pool.statics held with busy := false }) same
      refine ⟨place, stands.congr (statics.trans (Pool.setStatics_ne _ _ same)) task (by rw [accept]; rfl),
        .elsewhere place ?_ same⟩
      exact List.forall_mem_cons.mpr ⟨rfl, shown⟩

end

structure Accounted (events : List (PoolEvent workers)) (pool : Pool workers) (slot : Fin workers)
    (place : Place) : Prop where
  stands : Stands pool slot place
  cell : passing .handedOver slot events = passing .taken slot events ++ place.stored?.toList
  worker : passing .taken slot events = passing .finished slot events ++ place.worker?.toList
  kept : passing .overwritten slot events = []

theorem Accounted.step {events new : List (PoolEvent workers)} {pool next : Pool workers} {slot : Fin workers}
    {place : Place} {label : PoolLabel workers} (accounted : Accounted events pool slot place)
    (taken : Pool.step pool label = some (next, new)) : ∃ after, Accounted (events ++ new) next slot after := by
  obtain ⟨after, stands, passes⟩ := accounted.stands.move (Pool.step_move taken)
  refine ⟨after, stands, ?_, ?_, ?_⟩
  · rw [passing_append, accounted.cell, List.append_assoc, passes.cell, passing_append, List.append_assoc]
  · rw [passing_append, accounted.worker, List.append_assoc, passes.worker, passing_append, List.append_assoc]
  · rw [passing_append, accounted.kept, passes.kept, List.append_nil]

theorem accounted_new (slot : Fin workers) : Accounted [] Pool.new slot .free where
  stands := by
    refine Stands.search ?_ 0
    constructor <;> simp [WorkerStatics.new, AcceptTask.placeAt, WorkerTask.socket?, Place.busy, Place.locked,
      Place.accept, Place.stored?, Place.worker?, Place.socket?]
  cell := rfl
  worker := rfl
  kept := rfl

section

variable {labels : List (PoolLabel workers)} {events : List (PoolEvent workers)} {pool : Pool workers}

theorem run_accounted (run : Run Pool.step Anything .new labels events pool) (slot : Fin workers) :
    ∃ place, Accounted events pool slot place :=
  run.invariant (P := fun events pool => ∃ place, Accounted events pool slot place)
    ⟨.free, accounted_new slot⟩
    (fun _ _ _ _ _ ⟨_, accounted⟩ _ taken => accounted.step taken)

end

end PicoBroker
