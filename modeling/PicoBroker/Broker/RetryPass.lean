import PicoBroker.Broker.Retries

set_option autoImplicit false

namespace PicoBroker

variable {maxSessions maxSubs maxInflight : Nat}

def InflightEntry.marked (entry : InflightEntry) : InflightEntry :=
  { entry with retries := saturatingAddU8 entry.retries 1 }

def InflightEntry.resent (entry : InflightEntry) (now : Instant) : InflightEntry :=
  { entry.marked with sentAt := now }

def retryOf (registry : SessionRegistry maxSessions maxSubs maxInflight) (entry : InflightEntry) :
    Option Publish :=
  (Pid.tryFrom entry.packetId).bind fun pid =>
    (registry.storedPublish entry.publish).map fun stored => retryPacket pid stored

-- The loop once more, index by index: the call of `retransmit` for the entry there.
def retryLog (codec : Codec) (maxPacketSize : Nat) (id : SessionId) (timeout : Duration) (maxRetries : Nat)
    (now : Instant) : SessionRegistry maxSessions maxSubs maxInflight → List Bool → List Nat →
      List (Option (InflightEntry × List Publish))
  | _, _, [] => []
  | registry, answers, index :: rest =>
      match (registry.get id).bind fun session => session.inflight.items[index]? with
      | none => none :: retryLog codec maxPacketSize id timeout maxRetries now registry answers rest
      | some entry =>
          if isExpired now timeout entry then
            let outcome := retransmit codec maxPacketSize registry id index entry maxRetries now
              (answers.headD true)
            some (entry, outcome.written) ::
              match outcome.result with
              | .error _ => List.replicate rest.length none
              | .ok _ =>
                  retryLog codec maxPacketSize id timeout maxRetries now outcome.registry answers.tail rest
          else none :: retryLog codec maxPacketSize id timeout maxRetries now registry answers rest

def handed (log : List (Option (InflightEntry × List Publish))) : List (Option Publish) :=
  log.map fun call => call.bind fun called => called.2.head?

@[simp]
theorem handed_cons (call : Option (InflightEntry × List Publish)) (rest : List (Option (InflightEntry × List Publish))) :
    handed (call :: rest) = (call.bind fun called => called.2.head?) :: handed rest := rfl

@[simp]
theorem handed_replicate (count : Nat) : handed (List.replicate count none) = List.replicate count none := by
  simp [handed]

def retriesLog (codec : Codec) (maxPacketSize : Nat) (id : SessionId)
    (registry : SessionRegistry maxSessions maxSubs maxInflight) (retryMs maxRetries : Nat) (now : Instant)
    (answers : List Bool) : List (Option (InflightEntry × List Publish)) :=
  retryLog codec maxPacketSize id (fromMillis retryMs) maxRetries now registry answers
    (List.range (((registry.get id).map fun session => session.inflight.items.length).getD 0))

inductive Pass (packetOf : InflightEntry → Option Publish) (timeout : Duration) (maxRetries : Nat) (now : Instant) :
    List InflightEntry → List InflightEntry → List (Option Publish) → Except RetryDisconnect Unit → Prop
  | done : Pass packetOf timeout maxRetries now [] [] [] (.ok ())
  | waiting {entry : InflightEntry} {rest after : List InflightEntry} {log : List (Option Publish)}
      {result : Except RetryDisconnect Unit} (early : isExpired now timeout entry = false)
      (later : Pass packetOf timeout maxRetries now rest after log result) :
      Pass packetOf timeout maxRetries now (entry :: rest) (entry :: after) (none :: log) result
  | sent {entry : InflightEntry} {rest after : List InflightEntry} {log : List (Option Publish)}
      {result : Except RetryDisconnect Unit} {publish : Publish} (due : isExpired now timeout entry = true)
      (allowed : entry.marked.retries ≤ maxRetries) (packet : packetOf entry = some publish)
      (later : Pass packetOf timeout maxRetries now rest after log result) :
      Pass packetOf timeout maxRetries now (entry :: rest) (entry.resent now :: after) (some publish :: log) result
  | refused {entry : InflightEntry} {rest : List InflightEntry} {publish : Publish}
      (due : isExpired now timeout entry = true) (allowed : entry.marked.retries ≤ maxRetries)
      (packet : packetOf entry = some publish) :
      Pass packetOf timeout maxRetries now (entry :: rest) (entry.marked :: rest)
        (some publish :: List.replicate rest.length none) (.error .write)
  | stopped {entry : InflightEntry} {rest : List InflightEntry} {error : RetryDisconnect}
      (due : isExpired now timeout entry = true) :
      Pass packetOf timeout maxRetries now (entry :: rest) (entry.marked :: rest)
        (none :: List.replicate rest.length none) (.error error)

structure Walked (registry : SessionRegistry maxSessions maxSubs maxInflight) (id : SessionId)
    (session : SessionState maxSubs maxInflight) (timeout : Duration) (maxRetries : Nat) (now : Instant)
    (before rest : List InflightEntry) (log : List (Option Publish))
    (outcome : RetryOutcome maxSessions maxSubs maxInflight) : Prop where
  pass : ∃ (after : List InflightEntry) (inflight : Bounded InflightEntry maxInflight),
    inflight.items = before ++ after ∧
      outcome.registry = registry.put id { session with inflight := inflight } ∧
      Pass (retryOf registry) timeout maxRetries now rest after log outcome.result
  written : outcome.written = log.filterMap fun handed => handed

section

variable {codec : Codec} {maxPacketSize : Nat} {id : SessionId} {timeout : Duration} {maxRetries : Nat}
  {now : Instant} {registry : SessionRegistry maxSessions maxSubs maxInflight}
  {session : SessionState maxSubs maxInflight} {entry : InflightEntry} {before rest : List InflightEntry}

theorem modifyEntry_split (present : registry.get id = some session)
    (split : session.inflight.items = before ++ entry :: rest) (f : InflightEntry → InflightEntry) :
    ∃ inflight : Bounded InflightEntry maxInflight, inflight.items = before ++ f entry :: rest ∧
      modifyEntry registry id before.length f = registry.put id { session with inflight := inflight } := by
  refine ⟨session.inflight.modify before.length f, ?_, by simp only [modifyEntry, present]⟩
  simp [split, List.modify_eq_take_drop]

inductive Retransmission (registry : SessionRegistry maxSessions maxSubs maxInflight) (id : SessionId)
    (session : SessionState maxSubs maxInflight) (before : List InflightEntry) (entry : InflightEntry)
    (rest : List InflightEntry) (maxRetries : Nat) (now : Instant) :
    RetryOutcome maxSessions maxSubs maxInflight → Prop
  | stopped {inflight : Bounded InflightEntry maxInflight} {error : RetryDisconnect}
      (items : inflight.items = before ++ entry.marked :: rest) :
      Retransmission registry id session before entry rest maxRetries now
        ⟨registry.put id { session with inflight := inflight }, [], .error error⟩
  | refused {inflight : Bounded InflightEntry maxInflight} {publish : Publish}
      (items : inflight.items = before ++ entry.marked :: rest) (allowed : entry.marked.retries ≤ maxRetries)
      (packet : retryOf registry entry = some publish) :
      Retransmission registry id session before entry rest maxRetries now
        ⟨registry.put id { session with inflight := inflight }, [publish], .error .write⟩
  | sent {inflight : Bounded InflightEntry maxInflight} {publish : Publish}
      (items : inflight.items = before ++ entry.resent now :: rest) (allowed : entry.marked.retries ≤ maxRetries)
      (packet : retryOf registry entry = some publish) :
      Retransmission registry id session before entry rest maxRetries now
        ⟨registry.put id { session with inflight := inflight }, [publish], .ok ()⟩

theorem retransmit_split (codec : Codec) (maxPacketSize maxRetries : Nat) (now : Instant) (accepted : Bool)
    (present : registry.get id = some session) (split : session.inflight.items = before ++ entry :: rest) :
    Retransmission registry id session before entry rest maxRetries now
      (retransmit codec maxPacketSize registry id before.length entry maxRetries now accepted) := by
  obtain ⟨inflight, items, counted⟩ := modifyEntry_split present split fun other =>
    { other with retries := saturatingAddU8 entry.retries 1 }
  simp only [retransmit, counted]
  have marked := SessionRegistry.get_put_self present { session with inflight := inflight }
  have pool : (registry.put id { session with inflight := inflight }).storedPublish entry.publish =
      registry.storedPublish entry.publish := rfl
  rw [pool]
  split
  · exact .stopped items
  · next within =>
    have allowed : entry.marked.retries ≤ maxRetries := Nat.le_of_not_lt within
    cases converted : Pid.tryFrom entry.packetId with
    | none => exact .stopped items
    | some pid =>
      cases found : registry.storedPublish entry.publish with
      | none => exact .stopped items
      | some stored =>
        have packet : retryOf registry entry = some (retryPacket pid stored) := by simp [retryOf, converted, found]
        dsimp only
        split
        · exact .stopped items
        · split
          · obtain ⟨updated, resent, finished⟩ := modifyEntry_split marked items fun other =>
              if other.packetId = entry.packetId then
                { other with sentAt := now, retries := saturatingAddU8 entry.retries 1 }
              else other
            rw [finished, SessionRegistry.put_put]
            exact .sent (by simpa [InflightEntry.resent, InflightEntry.marked] using resent) allowed packet
          · exact .refused items allowed packet

theorem retryLoop_walked (codec : Codec) (maxPacketSize : Nat) (timeout : Duration) (maxRetries : Nat)
    (now : Instant) (answers : List Bool) (present : registry.get id = some session)
    (split : session.inflight.items = before ++ rest) :
    Walked registry id session timeout maxRetries now before rest
      (handed (retryLog codec maxPacketSize id timeout maxRetries now registry answers
        (List.range' before.length rest.length)))
      (retryLoop codec maxPacketSize id timeout maxRetries now registry answers
        (List.range' before.length rest.length)) := by
  induction rest generalizing registry session before answers with
  | nil => exact ⟨⟨[], session.inflight, split, (SessionRegistry.put_same present).symm, .done⟩, rfl⟩
  | cons entry rest ih =>
    have located : (registry.get id).bind (fun session => session.inflight.items[before.length]?) = some entry := by
      simp [present, split]
    simp only [List.length_cons, List.range'_succ, retryLoop, retryLog, located, List.length_range']
    by_cases due : isExpired now timeout entry = true
    · have retransmitted := retransmit_split codec maxPacketSize maxRetries now (answers.headD true) present split
      simp only [due, if_true]
      generalize retransmit codec maxPacketSize registry id before.length entry maxRetries now
        (answers.headD true) = outcome at retransmitted ⊢
      cases retransmitted with
      | stopped items =>
        simp only [handed_cons, handed_replicate, Option.bind_some, List.head?_nil]
        exact ⟨⟨_, _, items, rfl, .stopped due⟩, by simp⟩
      | refused items allowed packet =>
        simp only [handed_cons, handed_replicate, Option.bind_some, List.head?_cons]
        exact ⟨⟨_, _, items, rfl, .refused due allowed packet⟩, by simp⟩
      | @sent inflight publish items allowed packet =>
        have onward : inflight.items = (before ++ [entry.resent now]) ++ rest := by simpa using items
        have later := ih answers.tail
          (SessionRegistry.get_put_self present { session with inflight := inflight }) onward
        rw [List.length_append, List.length_singleton] at later
        obtain ⟨⟨after, updated, kept, left, walked⟩, written⟩ := later
        rw [SessionRegistry.put_put] at left
        exact ⟨⟨entry.resent now :: after, updated, by simpa using kept, left, .sent due allowed packet walked⟩,
          by simpa using written⟩
    · have early : isExpired now timeout entry = false := by simpa using due
      have onward : session.inflight.items = (before ++ [entry]) ++ rest := by simpa using split
      have later := ih answers present onward
      rw [List.length_append, List.length_singleton] at later
      obtain ⟨⟨after, inflight, items, left, walked⟩, written⟩ := later
      simp only [early]
      exact ⟨⟨entry :: after, inflight, by simpa using items, left, .waiting early walked⟩, by simpa using written⟩

theorem processInflightRetriesAt_walked (codec : Codec) (maxPacketSize retryMs maxRetries : Nat) (now : Instant)
    (answers : List Bool) (present : registry.get id = some session) :
    Walked registry id session (fromMillis retryMs) maxRetries now [] session.inflight.items
      (handed (retriesLog codec maxPacketSize id registry retryMs maxRetries now answers))
      (processInflightRetriesAt codec maxPacketSize id registry retryMs maxRetries now answers) := by
  have walked := retryLoop_walked codec maxPacketSize (fromMillis retryMs) maxRetries now answers present
    (List.nil_append _).symm
  simpa [retriesLog, processInflightRetriesAt, present, List.range_eq_range'] using walked

theorem processInflightRetriesAt_absent (codec : Codec) (maxPacketSize retryMs maxRetries : Nat) (now : Instant)
    (answers : List Bool) (absent : registry.get id = none) :
    processInflightRetriesAt codec maxPacketSize id registry retryMs maxRetries now answers =
      ⟨registry, [], .ok ()⟩ := by
  simp [processInflightRetriesAt, absent, retryLoop]

end

def InflightEntry.renewed (entry : InflightEntry) (now : Instant) (timeout : Duration) : InflightEntry :=
  if isExpired now timeout entry then entry.resent now else entry

def handedAt (log : List (Option Publish)) (index : Nat) : Bool := log[index]?.join.isSome

theorem handedAt_replicate (head : Option Publish) (count index : Nat) :
    handedAt (head :: List.replicate count none) (index + 1) = false := by
  by_cases inside : index < count <;> simp [handedAt, inside]

namespace Pass

variable {packetOf : InflightEntry → Option Publish} {timeout : Duration} {maxRetries : Nat} {now : Instant}
  {rest after : List InflightEntry} {log : List (Option Publish)} {result : Except RetryDisconnect Unit}

theorem renewed (pass : Pass packetOf timeout maxRetries now rest after log result) (ok : result = .ok ()) :
    after = rest.map fun entry => entry.renewed now timeout := by
  induction pass with
  | done => rfl
  | waiting early _ ih => simp [InflightEntry.renewed, early, ih ok]
  | sent due _ _ _ ih => simp [InflightEntry.renewed, due, ih ok]
  | refused | stopped => cases ok

theorem packets (pass : Pass packetOf timeout maxRetries now rest after log result) (ok : result = .ok ()) :
    (log.filterMap fun handed => handed).map some = (rest.filter fun entry => isExpired now timeout entry).map packetOf := by
  induction pass with
  | done => rfl
  | waiting early _ ih => simp [early, ih ok]
  | sent due _ packet _ ih => simp [due, packet, ih ok]
  | refused | stopped => cases ok

-- An entry's count goes up by at most one, and a packet is handed over only below the limit.
theorem entry {index : Nat} {entry : InflightEntry}
    (pass : Pass packetOf timeout maxRetries now rest after log result) (located : rest[index]? = some entry) :
    ∃ later, after[index]? = some later ∧
      (later.retries = entry.retries ∧ handedAt log index = false ∨
        later.retries = entry.marked.retries ∧
          (handedAt log index = true → entry.marked.retries ≤ maxRetries)) := by
  induction pass generalizing index with
  | done => cases located
  | waiting early _ ih =>
    cases index with
    | zero =>
      cases located
      exact ⟨_, rfl, .inl ⟨rfl, rfl⟩⟩
    | succ index => exact ih located
  | sent due allowed packet _ ih =>
    cases index with
    | zero =>
      cases located
      exact ⟨_, rfl, .inr ⟨rfl, fun _ => allowed⟩⟩
    | succ index => exact ih located
  | refused due allowed packet =>
    cases index with
    | zero =>
      cases located
      exact ⟨_, rfl, .inr ⟨rfl, fun _ => allowed⟩⟩
    | succ index => exact ⟨_, located, .inl ⟨rfl, handedAt_replicate _ _ _⟩⟩
  | stopped due =>
    cases index with
    | zero =>
      cases located
      exact ⟨_, rfl, .inr ⟨rfl, fun handed => by cases handed⟩⟩
    | succ index => exact ⟨_, located, .inl ⟨rfl, handedAt_replicate _ _ _⟩⟩

theorem allowed (pass : Pass packetOf timeout maxRetries now rest after log result) (ok : result = .ok ()) :
    ∀ entry ∈ rest, isExpired now timeout entry = true → entry.marked.retries ≤ maxRetries := by
  induction pass with
  | done => simp
  | waiting early _ ih => exact List.forall_mem_cons.mpr ⟨by simp [early], ih ok⟩
  | sent _ allowed _ _ ih => exact List.forall_mem_cons.mpr ⟨fun _ => allowed, ih ok⟩
  | refused | stopped => cases ok

end Pass

end PicoBroker
