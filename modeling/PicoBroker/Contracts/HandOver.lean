import Mathlib.Data.List.FinRange
import PicoBroker.Invariants.WorkerPool

set_option autoImplicit false

namespace PicoBroker

open Execution (Run Anything)

variable {workers : Nat} {labels : List (PoolLabel workers)} {events : List (PoolEvent workers)}
  {pool : Pool workers}

def Pool.liveSockets (pool : Pool workers) : List TcpSocket :=
  (pool.accept.socket?.map Prod.snd).toList ++
    (List.finRange workers).flatMap fun slot =>
      (pool.statics slot).socket.toList ++ (pool.tasks slot).socket?.toList

theorem Stands.sockets {slot : Fin workers} {place : Place} (stands : Stands pool slot place) :
    (pool.statics slot).socket.toList ++ (pool.tasks slot).socket?.toList =
      place.stored?.toList ++ place.worker?.toList := by
  rw [stands.stored, stands.worker]

theorem Stands.buffers {slot : Fin workers} {place : Place} (stands : Stands pool slot place) {socket : TcpSocket}
    (held : socket ∈ place.stored?.toList ++ place.worker?.toList) :
    socket.buffers = slot ∧ place.accept = .free := by
  cases place with
  | stored | worker =>
    obtain rfl := List.mem_singleton.mp held
    exact ⟨stands.borrowed _ rfl, rfl⟩
  | _ => cases held

theorem Stands.held {slot : Fin workers} {place : Place} (stands : Stands pool slot place) {socket : TcpSocket}
    (holds : pool.accept.socket? = some (slot, socket)) : socket.buffers = slot ∧ place.accept ≠ .free := by
  have known := stands.accept
  cases accept : pool.accept with
  | listen | failed | backoff =>
    rw [accept] at holds known
    cases holds
    simp only [AcceptTask.placeAt, if_true] at known
    cases place <;> cases known
    exact ⟨stands.borrowed _ rfl, by simp [Place.accept]⟩
  | _ =>
    rw [accept] at holds
    cases holds

theorem liveSockets_apart (standing : ∀ slot, ∃ place, Stands pool slot place) :
    (pool.liveSockets.map TcpSocket.buffers).Nodup := by
  have own {slot : Fin workers} {socket : TcpSocket}
      (member : socket ∈ (pool.statics slot).socket.toList ++ (pool.tasks slot).socket?.toList) :
      socket.buffers = slot ∧ pool.accept.placeAt slot = .free := by
    obtain ⟨place, stands⟩ := standing slot
    rw [stands.sockets] at member
    obtain ⟨same, free⟩ := stands.buffers member
    exact ⟨same, stands.accept.trans free⟩
  rw [Pool.liveSockets, List.map_append, List.map_flatMap]
  refine List.nodup_append.mpr ⟨?_, ?_, ?_⟩
  · cases pool.accept.socket? <;> simp
  · refine List.nodup_flatMap.mpr ⟨fun slot _ => ?_, ?_⟩
    · obtain ⟨place, stands⟩ := standing slot
      rw [stands.sockets]
      cases place <;> simp [Place.stored?, Place.worker?]
    · refine (List.nodup_finRange workers).imp fun {left right} different => ?_
      intro buffers inLeft inRight
      obtain ⟨first, firstHeld, rfl⟩ := List.mem_map.mp inLeft
      obtain ⟨second, secondHeld, same⟩ := List.mem_map.mp inRight
      rw [(own firstHeld).1, (own secondHeld).1] at same
      exact different (Fin.ext same.symm)
  · intro buffers inAccept other inSlots
    simp only [List.mem_map, Option.mem_toList, Option.map_eq_some_iff] at inAccept
    obtain ⟨_, ⟨⟨slot, socket⟩, holds, rfl⟩, rfl⟩ := inAccept
    obtain ⟨elsewhere, _, member⟩ := List.mem_flatMap.mp inSlots
    obtain ⟨second, held, rfl⟩ := List.mem_map.mp member
    obtain ⟨place, stands⟩ := standing slot
    obtain ⟨mine, busy⟩ := stands.held holds
    obtain ⟨theirs, free⟩ := own held
    rintro same
    rw [mine, theirs] at same
    rw [← Fin.ext same, stands.accept] at free
    exact busy free

theorem passing_overwritten {event : PoolEvent workers} (member : event ∈ events)
    (dropped : event.passage = .overwritten) : event.socket ∈ passing .overwritten event.slot events :=
  List.mem_filterMap.mpr ⟨event, member, by simp [dropped]⟩

theorem buffers_exclusive (run : Run Pool.step Anything .new labels events pool) :
    (pool.liveSockets.map TcpSocket.buffers).Nodup ∧ ∀ event ∈ events, event.passage ≠ .overwritten := by
  refine ⟨liveSockets_apart fun slot => ?_, fun event member dropped => ?_⟩
  · obtain ⟨place, accounted⟩ := run_accounted run slot
    exact ⟨place, accounted.stands⟩
  · obtain ⟨place, accounted⟩ := run_accounted run event.slot
    have lost := passing_overwritten member dropped
    rw [accounted.kept] at lost
    cases lost

def servedRun : List (PoolLabel 2) :=
  [.accept .lock, .worker 0 .start, .accept (.accepted true), .worker 0 .ready, .worker 0 .random,
    .worker 0 (.handshake true), .accept .lock, .accept .lock]

theorem buffers_exclusive_served :
    ∃ (pool : Pool 2) (events : List (PoolEvent 2)), Run Pool.step Anything .new servedRun events pool ∧
      pool.liveSockets = [⟨1, 1⟩, ⟨0, 0⟩] ∧
      (pool.liveSockets.map TcpSocket.buffers).Nodup ∧ ∀ event ∈ events, event.passage ≠ .overwritten := by
  obtain ⟨pool, events, run, tested⟩ : ∃ (pool : Pool 2) (events : List (PoolEvent 2)),
      Run Pool.step Anything .new servedRun events pool ∧
        decide (pool.liveSockets = [⟨1, 1⟩, ⟨0, 0⟩]) = true :=
    Execution.exists_run (by decide +kernel)
  exact ⟨pool, events, run, of_decide_eq_true tested, buffers_exclusive run⟩

def PoolEvent.handedOver? (event : PoolEvent workers) : Option Nat :=
  if event.passage = .handedOver then some event.socket.id else none

def handedOverIds (events : List (PoolEvent workers)) : List Nat := events.filterMap PoolEvent.handedOver?

structure Numbered (events : List (PoolEvent workers)) (pool : Pool workers) : Prop where
  distinct : (handedOverIds events).Nodup
  below : ∀ id ∈ handedOverIds events, id < pool.sockets
  held : ∀ slot socket, pool.accept.socket? = some (slot, socket) →
    socket.id < pool.sockets ∧ socket.id ∉ handedOverIds events

section

variable {next : Pool workers} {new : List (PoolEvent workers)}

theorem Numbered.quiet (numbered : Numbered events pool) (silent : handedOverIds new = [])
    (sockets : next.sockets = pool.sockets)
    (accept : next.accept.socket? = none ∨ next.accept.socket? = pool.accept.socket?) :
    Numbered (events ++ new) next := by
  have unchanged : handedOverIds (events ++ new) = handedOverIds events := by
    rw [handedOverIds, List.filterMap_append]
    exact (congrArg _ silent).trans (List.append_nil _)
  refine ⟨by rw [unchanged]; exact numbered.distinct, ?_, fun slot socket holds => ?_⟩
  · rw [unchanged, sockets]
    exact numbered.below
  · rw [unchanged, sockets]
    rcases accept with idle | same
    · rw [idle] at holds
      cases holds
    · exact numbered.held slot socket (same ▸ holds)

theorem waitForWorkerSocket_silent (slot : Fin workers) : handedOverIds (pool.waitForWorkerSocket slot).2 = [] := by
  unfold Pool.waitForWorkerSocket
  split <;> rfl

theorem waitForWorkerSocket_accept (slot : Fin workers) :
    (pool.waitForWorkerSocket slot).1.accept = pool.accept ∧
      (pool.waitForWorkerSocket slot).1.sockets = pool.sockets := by
  unfold Pool.waitForWorkerSocket
  split <;> exact ⟨rfl, rfl⟩

theorem handOver_ids (slot : Fin workers) (socket : TcpSocket) :
    handedOverIds (pool.handOver slot socket).2 = [socket.id] := by
  cases (pool.statics slot).socket <;> simp_all [handedOverIds, Pool.handOver, PoolEvent.handedOver?]

theorem Numbered.step {label : PoolLabel workers} (numbered : Numbered events pool)
    (taken : Pool.step pool label = some (next, new)) : Numbered (events ++ new) next := by
  cases Pool.step_move taken with
  | searched =>
    exact numbered.quiet rfl (tryReserveWorkerSlot_searches ..).sockets (.inl (tryReserveWorkerSlot_searches ..).idle)
  | looked =>
    exact numbered.quiet rfl (workerBusySnapshot_searches ..).sockets (.inl (workerBusySnapshot_searches ..).idle)
  | reserved =>
    rw [List.append_nil]
    refine ⟨numbered.distinct, fun id member => ?_, ?_⟩
    · exact Nat.lt_succ_of_lt (numbered.below id member)
    · rintro slot socket ⟨⟩
      exact ⟨Nat.lt_succ_self _, fun member => Nat.lt_irrefl _ (numbered.below _ member)⟩
  | @handedOver _ slot socket listening =>
    have searches := tryReserveWorkerSlot_searches (pool.handOver slot socket).1 0
    obtain ⟨below, fresh⟩ := numbered.held slot socket (by rw [listening]; rfl)
    have shown : handedOverIds (events ++ (pool.handOver slot socket).2) = handedOverIds events ++ [socket.id] := by
      rw [handedOverIds, List.filterMap_append]
      exact congrArg _ (handOver_ids slot socket)
    refine ⟨?_, ?_, fun slot socket holds => ?_⟩
    · rw [shown]
      exact List.nodup_append.mpr ⟨numbered.distinct, by simp, by
        rintro id earlier other now rfl
        rw [List.mem_singleton.mp now] at earlier
        exact fresh earlier⟩
    · intro id member
      rw [searches.sockets]
      rw [shown] at member
      rcases List.mem_append.mp member with earlier | now
      · exact numbered.below id earlier
      · rw [List.mem_singleton.mp now]
        exact below
    · rw [searches.idle] at holds
      cases holds
  | failed listening => exact numbered.quiet rfl rfl (.inr (by rw [listening]; rfl))
  | backedOff failed => exact numbered.quiet rfl rfl (.inr (by rw [failed]; rfl))
  | resumed =>
    exact numbered.quiet rfl (tryReserveWorkerSlot_searches ..).sockets (.inl (tryReserveWorkerSlot_searches ..).idle)
  | waited =>
    obtain ⟨accept, sockets⟩ := waitForWorkerSocket_accept _
    exact numbered.quiet (waitForWorkerSocket_silent _) sockets (.inr (by rw [accept]; rfl))
  | handled => exact numbered.quiet rfl rfl (.inr rfl)
  | released =>
    obtain ⟨accept, sockets⟩ := waitForWorkerSocket_accept _
    exact numbered.quiet (waitForWorkerSocket_silent _) sockets (.inr (by rw [accept]; rfl))

end

theorem numbered_new : Numbered [] (Pool.new : Pool workers) := by
  have searches := tryReserveWorkerSlot_searches
    (⟨fun _ => .new, fun _ => .spawned, .allBusy, false, 0⟩ : Pool workers) 0
  refine ⟨by simp [handedOverIds], by simp [handedOverIds], fun slot socket holds => ?_⟩
  rw [Pool.new, searches.idle] at holds
  cases holds

theorem run_numbered (run : Run Pool.step Anything .new labels events pool) : Numbered events pool :=
  run.invariant (P := Numbered) numbered_new (fun _ _ _ _ _ numbered _ taken => numbered.step taken)

theorem connections_handled_once (run : Run Pool.step Anything .new labels events pool) :
    (handedOverIds events).Nodup ∧ ∀ slot, passing .handedOver slot events =
      passing .finished slot events ++ (pool.tasks slot).socket?.toList ++ (pool.statics slot).socket.toList := by
  refine ⟨(run_numbered run).distinct, fun slot => ?_⟩
  obtain ⟨place, accounted⟩ := run_accounted run slot
  rw [accounted.cell, accounted.worker, accounted.stands.worker, accounted.stands.stored]

def twoConnections : List (PoolLabel 1) :=
  [.accept .lock, .worker 0 .start, .accept (.accepted true), .worker 0 .ready, .accept .lock, .accept .lock,
    .worker 0 .random, .worker 0 (.handshake false), .worker 0 .closed, .worker 0 .lock, .accept .timer,
    .accept .lock, .accept (.accepted true)]

theorem connections_handled_once_two :
    ∃ (pool : Pool 1) (events : List (PoolEvent 1)), Run Pool.step Anything .new twoConnections events pool ∧
      passing .handedOver 0 events = [⟨0, 0⟩, ⟨1, 0⟩] ∧ (pool.statics 0).socket = some ⟨1, 0⟩ ∧
      (handedOverIds events).Nodup ∧ ∀ slot, passing .handedOver slot events =
        passing .finished slot events ++ (pool.tasks slot).socket?.toList ++
          (pool.statics slot).socket.toList := by
  obtain ⟨pool, events, run, tested⟩ : ∃ (pool : Pool 1) (events : List (PoolEvent 1)),
      Run Pool.step Anything .new twoConnections events pool ∧
        decide (passing .handedOver 0 events = [⟨0, 0⟩, ⟨1, 0⟩] ∧ (pool.statics 0).socket = some ⟨1, 0⟩) = true :=
    Execution.exists_run (by decide +kernel)
  obtain ⟨both, stored⟩ := of_decide_eq_true tested
  exact ⟨pool, events, run, both, stored, connections_handled_once run⟩

theorem Stands.takes {slot : Fin workers} {socket : TcpSocket} (stands : Stands pool slot (.stored socket)) :
    ∃ input next, Pool.step pool (.worker slot input) = some (next, [⟨.taken, slot, socket⟩]) := by
  have idle := stands.worker
  cases task : pool.tasks slot with
  | spawned =>
    refine ⟨.start, (pool.waitForWorkerSocket slot).1, ?_⟩
    simp only [Pool.step, Pool.workerStep, task]
    rw [waitForWorkerSocket_some stands.stored]
  | waiting =>
    refine ⟨.ready, ((pool.setStatics slot { pool.statics slot with ready := false }).waitForWorkerSocket slot).1, ?_⟩
    simp only [Pool.step, Pool.workerStep, task, stands.signalled (by simp [Place.stored?]) task, if_true]
    rw [waitForWorkerSocket_some (by simpa [Place.stored?] using stands.stored)]
  | _ =>
    rw [task] at idle
    cases idle

theorem stored_connection_taken (run : Run Pool.step Anything .new labels events pool) {slot : Fin workers}
    {socket : TcpSocket} (stored : (pool.statics slot).socket = some socket) :
    ∃ input next, Pool.step pool (.worker slot input) = some (next, [⟨.taken, slot, socket⟩]) := by
  obtain ⟨place, accounted⟩ := run_accounted run slot
  have stands := accounted.stands
  rw [stands.stored] at stored
  cases place <;> cases stored
  exact stands.takes

theorem stored_connection_taken_first :
    ∃ (pool : Pool 1) (events : List (PoolEvent 1)),
      Run Pool.step Anything .new [.accept .lock, .worker 0 .start, .accept (.accepted true)] events pool ∧
      (pool.statics 0).socket = some ⟨0, 0⟩ ∧
      ∃ input next, Pool.step pool (.worker 0 input) = some (next, [⟨.taken, 0, ⟨0, 0⟩⟩]) := by
  obtain ⟨pool, events, run, tested⟩ : ∃ (pool : Pool 1) (events : List (PoolEvent 1)),
      Run Pool.step Anything .new [.accept .lock, .worker 0 .start, .accept (.accepted true)] events pool ∧
        decide ((pool.statics 0).socket = some ⟨0, 0⟩) = true :=
    Execution.exists_run (by decide +kernel)
  have stored := of_decide_eq_true tested
  exact ⟨pool, events, run, stored, stored_connection_taken run stored⟩

def AcceptTask.listening : AcceptTask workers → Bool
  | .listen _ _ => true
  | _ => false

def PoolLabel.isAccept : PoolLabel workers → Bool
  | .accept _ => true
  | .worker _ _ => false

def Searching (pool : Pool workers) (_ : PoolLabel workers) : Prop := pool.accept.listening = false

-- Whatever the workers do in between, up to the next `listen`.
structure ListensWithin (pool : Pool workers) (bound : Nat) : Prop where
  bounded : ∀ later shown next, Run Pool.step Searching pool later shown next →
    later.countP PoolLabel.isAccept ≤ bound
  unblocked : ∀ later shown next, Run Pool.step Searching pool later shown next → next.accept.listening = false →
    ∃ input, (next.acceptStep input).isSome = true

-- The steps of the accept task that are left while the slot `free` is not busy.
def Pool.remaining (free : Fin workers) (pool : Pool workers) : Nat :=
  match pool.accept with
  | .reserve slot =>
      if slot ≤ free then free - slot + 1
      else workers - slot + (if pool.allBusyLogged then 0 else workers) + (free + 2)
  | .snapshot slot => workers - slot + (free + 2)
  | .allBusy => free + 2
  | .listen _ _ => 0
  | .failed _ _ => free + 3
  | .backoff _ _ => free + 2

section

variable {free : Fin workers}

theorem remaining_le (pool : Pool workers) (free : Fin workers) : pool.remaining free ≤ 2 * workers + 1 := by
  have inside := free.isLt
  unfold Pool.remaining
  split
  · split
    · omega
    · split <;> omega
  all_goals omega

theorem remaining_workerBusySnapshot (pool : Pool workers) (first : Nat) :
    (pool.workerBusySnapshot first).remaining free = workers - first + (free + 2) := by
  unfold Pool.workerBusySnapshot
  split
  · rfl
  · simp only [Pool.remaining]
    omega

theorem remaining_tryReserve_ahead (pool : Pool workers) {first : Nat} (ahead : first ≤ free) :
    (pool.tryReserveWorkerSlot first).remaining free = free - first + 1 := by
  have inside : first < workers := Nat.lt_of_le_of_lt ahead free.isLt
  have onward : (⟨first, inside⟩ : Fin workers) ≤ free := ahead
  rw [Pool.tryReserveWorkerSlot, dif_pos inside, Pool.remaining]
  exact if_pos onward

theorem remaining_tryReserve_past (pool : Pool workers) {first : Nat} (past : free < first) :
    (pool.tryReserveWorkerSlot first).remaining free ≤
      workers - first + (if pool.allBusyLogged then 0 else workers) + (free + 2) := by
  unfold Pool.tryReserveWorkerSlot
  split
  · next inside =>
    have behind : ¬(⟨first, inside⟩ : Fin workers) ≤ free := Nat.not_le_of_lt past
    rw [Pool.remaining]
    exact Nat.le_of_eq (if_neg behind)
  · split
    · simp only [Pool.remaining]
      omega
    · rw [remaining_workerBusySnapshot]
      omega

theorem tryReserve_busy (pool : Pool workers) (first : Nat) (slot : Fin workers) :
    ((pool.tryReserveWorkerSlot first).statics slot).busy = (pool.statics slot).busy := by
  rw [(tryReserveWorkerSlot_searches pool first).statics]

theorem waitForWorkerSocket_keeps (pool : Pool workers) (slot : Fin workers) :
    (pool.waitForWorkerSocket slot).1.remaining free = pool.remaining free ∧
      ((pool.waitForWorkerSocket slot).1.statics free).busy = (pool.statics free).busy := by
  unfold Pool.waitForWorkerSocket WorkerStatics.take
  by_cases same : free = slot
  · subst same
    cases (pool.statics free).socket <;> exact ⟨rfl, by simp [Pool.setTask]⟩
  · cases (pool.statics slot).socket <;>
      exact ⟨rfl, congrArg WorkerStatics.busy (Pool.setStatics_ne _ _ same)⟩

theorem setStatics_busy (pool : Pool workers) (slot : Fin workers) {statics : WorkerStatics}
    (cleared : statics.busy = false ∨ statics.busy = (pool.statics slot).busy)
    (idle : (pool.statics free).busy = false) : ((pool.setStatics slot statics).statics free).busy = false := by
  by_cases same : free = slot
  · subst same
    rw [Pool.setStatics_self]
    exact cleared.elim id fun kept => kept.trans idle
  · rw [Pool.setStatics_ne _ _ same]
    exact idle

-- The workers leave the accept task alone, and none of them sets a flag.
theorem workerStep_remaining {slot : Fin workers} {input : WorkerInput} {next : Pool workers}
    {new : List (PoolEvent workers)} (taken : pool.workerStep slot input = some (next, new)) :
    next.remaining free = pool.remaining free ∧
      ((pool.statics free).busy = false → (next.statics free).busy = false) := by
  cases Pool.workerStep_move taken with
  | @waited _ _ ready =>
    obtain ⟨same, busy⟩ := @waitForWorkerSocket_keeps _ free
      (pool.setStatics slot { pool.statics slot with ready := ready }) slot
    refine ⟨same, fun idle => ?_⟩
    rw [busy]
    exact setStatics_busy pool slot (.inr rfl) idle
  | handled => exact ⟨rfl, id⟩
  | released =>
    obtain ⟨same, busy⟩ := @waitForWorkerSocket_keeps _ free
      (pool.setStatics slot { pool.statics slot with busy := false }) slot
    refine ⟨same, fun idle => ?_⟩
    rw [busy]
    exact setStatics_busy pool slot (.inl rfl) idle

theorem acceptStep_remaining {input : AcceptInput} {next : Pool workers} {new : List (PoolEvent workers)}
    (idle : (pool.statics free).busy = false) (searching : pool.accept.listening = false)
    (taken : pool.acceptStep input = some (next, new)) :
    (next.accept.listening = false → (next.statics free).busy = false) ∧
      1 + next.remaining free ≤ pool.remaining free := by
  unfold Pool.acceptStep at taken
  split at taken
  · next slot reserving =>
    split at taken
    · cases taken
    · split at taken
      · next busy =>
        cases taken
        refine ⟨fun _ => (tryReserve_busy ..).trans idle, ?_⟩
        have different : slot ≠ free := by
          rintro rfl
          rw [idle] at busy
          cases busy
        have rank : pool.remaining free = if slot ≤ free then free.val - slot.val + 1
            else workers - slot.val + (if pool.allBusyLogged then 0 else workers) + (free.val + 2) := by
          simp only [Pool.remaining, reserving]
        rw [rank]
        by_cases ahead : slot ≤ free
        · have before : slot.val < free.val := Nat.lt_of_le_of_ne ahead (Fin.val_ne_of_ne different)
          rw [remaining_tryReserve_ahead pool before, if_pos ahead]
          omega
        · have past : free.val < slot.val + 1 := Nat.lt_succ_of_lt (Nat.lt_of_not_le ahead)
          have rest := remaining_tryReserve_past pool past
          have inside := slot.isLt
          rw [if_neg ahead]
          omega
      · cases taken
        refine ⟨?_, ?_⟩
        · intro unheard
          cases unheard
        · simp only [Pool.remaining, Pool.listenAt, reserving]
          split <;> omega
  · next slot looking =>
    split at taken
    · cases taken
    · cases taken
      have inside := slot.isLt
      refine ⟨fun _ => ?_, ?_⟩
      · rw [(workerBusySnapshot_searches ..).statics]
        exact idle
      · rw [remaining_workerBusySnapshot]
        simp only [Pool.remaining, looking]
        omega
  · next pausing =>
    cases taken
    refine ⟨fun _ => (tryReserve_busy ..).trans idle, ?_⟩
    rw [remaining_tryReserve_ahead pool (Nat.zero_le _)]
    simp only [Pool.remaining, pausing]
    omega
  · next listening =>
    rw [listening] at searching
    cases searching
  · next listening =>
    rw [listening] at searching
    cases searching
  · next slot socket failed =>
    split at taken
    · cases taken
    · cases taken
      refine ⟨fun _ => setStatics_busy pool slot (.inl rfl) idle, ?_⟩
      simp only [Pool.remaining, failed]
      omega
  · next slot socket waiting =>
    cases taken
    refine ⟨fun _ => (tryReserve_busy ..).trans (setStatics_busy pool slot (.inr rfl) idle), ?_⟩
    rw [remaining_tryReserve_ahead _ (Nat.zero_le _)]
    simp only [Pool.remaining, waiting]
    omega
  · cases taken

end

theorem Stands.unlocked_of_ne {slot : Fin workers} {place : Place} (stands : Stands pool slot place)
    (elsewhere : ∀ socket, pool.accept ≠ .backoff slot socket) : (pool.statics slot).locked = false := by
  rw [stands.locked]
  cases place with
  | backoff socket =>
    have known := stands.accept
    cases accept : pool.accept with
    | backoff held other =>
      rw [accept] at known
      simp only [AcceptTask.placeAt] at known
      split at known
      · next same => exact absurd (same ▸ accept) (elsewhere other)
      · cases known
    | listen held other | failed held other =>
      rw [accept] at known
      simp only [AcceptTask.placeAt] at known
      split at known <;> cases known
    | _ =>
      rw [accept] at known
      cases known
  | _ => rfl

-- Only the accept task holds a guard across an await, and never while it asks for another one.
theorem acceptStep_enabled (standing : ∀ slot, ∃ place, Stands pool slot place)
    (searching : pool.accept.listening = false) : ∃ input, (pool.acceptStep input).isSome = true := by
  have unlocked (elsewhere : ∀ slot socket, pool.accept ≠ .backoff slot socket) (slot : Fin workers) :
      (pool.statics slot).locked = false := by
    obtain ⟨place, stands⟩ := standing slot
    exact stands.unlocked_of_ne (elsewhere slot)
  cases accept : pool.accept with
  | reserve slot =>
    refine ⟨.lock, ?_⟩
    simp only [Pool.acceptStep, accept, unlocked (by simp [accept]) slot, Bool.false_eq_true, if_false]
    split <;> rfl
  | snapshot slot => exact ⟨.lock, by simp [Pool.acceptStep, accept, unlocked (by simp [accept]) slot]⟩
  | allBusy => exact ⟨.timer, by simp [Pool.acceptStep, accept]⟩
  | listen slot socket =>
    rw [accept] at searching
    cases searching
  | failed slot socket => exact ⟨.lock, by simp [Pool.acceptStep, accept, unlocked (by simp [accept]) slot]⟩
  | backoff slot socket => exact ⟨.timer, by simp [Pool.acceptStep, accept]⟩

theorem free_worker_listens (run : Run Pool.step Anything .new labels events pool) {free : Fin workers}
    (idle : (pool.statics free).busy = false) : ListensWithin pool (2 * workers + 1) := by
  have ranked {later : List (PoolLabel workers)} {shown : List (PoolEvent workers)} {next : Pool workers}
      (onward : Run Pool.step Searching pool later shown next) :
      ((∀ slot, ∃ place, Stands next slot place) ∧
          (next.accept.listening = false → (next.statics free).busy = false)) ∧
        later.countP PoolLabel.isAccept + next.remaining free ≤ pool.remaining free := by
    refine onward.ranked (P := fun pool => (∀ slot, ∃ place, Stands pool slot place) ∧
      (pool.accept.listening = false → (pool.statics free).busy = false)) _ _ ⟨fun slot => ?_, fun _ => idle⟩ ?_
    · obtain ⟨place, accounted⟩ := run_accounted run slot
      exact ⟨place, accounted.stands⟩
    rintro pool label next new ⟨standing, free⟩ searching taken
    have stands (slot : Fin workers) : ∃ place, Stands next slot place := by
      obtain ⟨place, stands⟩ := standing slot
      obtain ⟨after, moved, _⟩ := stands.move (Pool.step_move taken)
      exact ⟨after, moved⟩
    cases label with
    | accept input =>
      obtain ⟨kept, lower⟩ := acceptStep_remaining (free searching) searching taken
      exact ⟨⟨stands, kept⟩, lower⟩
    | worker slot input =>
      obtain ⟨same, kept⟩ := workerStep_remaining taken
      exact ⟨⟨stands, fun _ => kept (free searching)⟩, by simp [PoolLabel.isAccept, same]⟩
  constructor
  · intro later shown next onward
    have counted := (ranked onward).2
    have bound := remaining_le pool free
    omega
  · intro later shown next onward searching
    exact acceptStep_enabled (ranked onward).1.1 searching

-- All workers were busy when the accept task last looked, and one of them has finished since.
theorem free_worker_listens_again :
    ∃ (pool : Pool 1) (events : List (PoolEvent 1)),
      Run Pool.step Anything .new (twoConnections.take 10) events pool ∧ pool.accept = .allBusy ∧
      (pool.statics 0).busy = false ∧ ListensWithin pool 3 := by
  obtain ⟨pool, events, run, tested⟩ : ∃ (pool : Pool 1) (events : List (PoolEvent 1)),
      Run Pool.step Anything .new (twoConnections.take 10) events pool ∧
        decide (pool.accept = .allBusy ∧ (pool.statics 0).busy = false) = true :=
    Execution.exists_run (by decide +kernel)
  obtain ⟨waiting, idle⟩ := of_decide_eq_true tested
  exact ⟨pool, events, run, waiting, idle, free_worker_listens run idle⟩

end PicoBroker
