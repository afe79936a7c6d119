import PicoBroker.Broker.Operations
import PicoBroker.Broker.RetryPass
import PicoBroker.Shared.Mealy

set_option autoImplicit false

namespace PicoBroker

variable {maxSessions maxSubs maxInflight : Nat}

structure RetryCall where
  now : Instant
  answers : List Bool

def retryStep (codec : Codec) (maxPacketSize : Nat) (id : SessionId) (retryMs maxRetries : Nat)
    (registry : SessionRegistry maxSessions maxSubs maxInflight) (call : RetryCall) :
    (List (Option Publish) × Except RetryDisconnect Unit) × SessionRegistry maxSessions maxSubs maxInflight :=
  let outcome := processInflightRetriesAt codec maxPacketSize id registry retryMs maxRetries call.now call.answers
  ((handed (retriesLog codec maxPacketSize id registry retryMs maxRetries call.now call.answers), outcome.result),
    outcome.registry)

def resends (codec : Codec) (maxPacketSize : Nat) (id : SessionId) (retryMs maxRetries : Nat)
    (registry : SessionRegistry maxSessions maxSubs maxInflight) (index : Nat) (calls : List RetryCall) : Nat :=
  (Mealy.replies (retryStep codec maxPacketSize id retryMs maxRetries) registry calls).countP fun reply =>
    handedAt reply.1 index

def retriedAll (codec : Codec) (maxPacketSize : Nat) (id : SessionId) (retryMs maxRetries : Nat)
    (registry : SessionRegistry maxSessions maxSubs maxInflight) (calls : List RetryCall) :
    SessionRegistry maxSessions maxSubs maxInflight :=
  Mealy.final (retryStep codec maxPacketSize id retryMs maxRetries) registry calls

def SessionRegistry.entry (registry : SessionRegistry maxSessions maxSubs maxInflight) (id : SessionId)
    (index : Nat) : Option InflightEntry :=
  (registry.get id).bind fun session => session.inflight.items[index]?

structure Renewed (registry : SessionRegistry maxSessions maxSubs maxInflight) (id : SessionId) (timeout : Duration)
    (now : Instant) (outcome : RetryOutcome maxSessions maxSubs maxInflight) : Prop where
  absent : registry.get id = none → outcome.registry = registry ∧ outcome.written = []
  written : ∀ session, registry.get id = some session → outcome.written.map some =
    (session.inflight.items.filter fun entry => isExpired now timeout entry).map (retryOf registry)
  inflight : ∀ session, registry.get id = some session → ∃ inflight : Bounded InflightEntry maxInflight,
    inflight.items = (session.inflight.items.map fun entry => entry.renewed now timeout) ∧
      outcome.registry = registry.put id { session with inflight := inflight }

structure RetriesBounded (codec : Codec) (maxPacketSize : Nat) (id : SessionId) (retryMs maxRetries : Nat)
    (registry : SessionRegistry maxSessions maxSubs maxInflight) (calls : List RetryCall) : Prop where
  bounded : ∀ index entry, registry.entry id index = some entry →
    resends codec maxPacketSize id retryMs maxRetries registry index calls ≤ maxRetries
  exhausted : ∀ index entry, registry.entry id index = some entry →
    resends codec maxPacketSize id retryMs maxRetries registry index calls = maxRetries →
    ∃ latest,
      (retriedAll codec maxPacketSize id retryMs maxRetries registry calls).entry id index = some latest ∧
      ∀ now answers, isExpired now (fromMillis retryMs) latest = true →
        (processInflightRetriesAt codec maxPacketSize id
          (retriedAll codec maxPacketSize id retryMs maxRetries registry calls) retryMs maxRetries
          now answers).result ≠ .ok ()
  renewed : ∀ now answers,
    (processInflightRetriesAt codec maxPacketSize id
      (retriedAll codec maxPacketSize id retryMs maxRetries registry calls) retryMs maxRetries
      now answers).result = .ok () →
    Renewed (retriedAll codec maxPacketSize id retryMs maxRetries registry calls) id (fromMillis retryMs) now
      (processInflightRetriesAt codec maxPacketSize id
        (retriedAll codec maxPacketSize id retryMs maxRetries registry calls) retryMs maxRetries now answers)

section

variable {codec : Codec} {maxPacketSize : Nat} {id : SessionId} {retryMs maxRetries : Nat} {now : Instant}
  {answers : List Bool} {registry : SessionRegistry maxSessions maxSubs maxInflight}

theorem processInflightRetriesAt_renewed
    (ok : (processInflightRetriesAt codec maxPacketSize id registry retryMs maxRetries now answers).result = .ok ()) :
    Renewed registry id (fromMillis retryMs) now
      (processInflightRetriesAt codec maxPacketSize id registry retryMs maxRetries now answers) where
  absent := by
    intro missing
    simp [processInflightRetriesAt_absent codec maxPacketSize retryMs maxRetries now answers missing]
  written := by
    intro session present
    have walked := processInflightRetriesAt_walked codec maxPacketSize retryMs maxRetries now answers present
    obtain ⟨_, _, _, _, pass⟩ := walked.pass
    rw [walked.written]
    exact pass.packets ok
  inflight := by
    intro session present
    have walked := processInflightRetriesAt_walked codec maxPacketSize retryMs maxRetries now answers present
    obtain ⟨after, inflight, items, left, pass⟩ := walked.pass
    exact ⟨inflight, items.trans (pass.renewed ok), left⟩

theorem entry_eq_some {index : Nat} {entry : InflightEntry} :
    registry.entry id index = some entry ↔
      ∃ session, registry.get id = some session ∧ session.inflight.items[index]? = some entry :=
  Option.bind_eq_some_iff

-- One call: the count of an entry never falls behind what was handed over for it.
theorem retryStep_entry (codec : Codec) (maxPacketSize retryMs maxRetries : Nat) {index : Nat}
    {entry : InflightEntry} (call : RetryCall) (located : registry.entry id index = some entry) :
    ∃ later, (retryStep codec maxPacketSize id retryMs maxRetries registry call).2.entry id index = some later ∧
      (later.retries = entry.retries ∧
          handedAt (retryStep codec maxPacketSize id retryMs maxRetries registry call).1.1 index = false ∨
        later.retries = entry.marked.retries ∧
          (handedAt (retryStep codec maxPacketSize id retryMs maxRetries registry call).1.1 index = true →
            entry.marked.retries ≤ maxRetries)) := by
  obtain ⟨session, present, tracked⟩ := entry_eq_some.mp located
  have walked :=
    processInflightRetriesAt_walked codec maxPacketSize retryMs maxRetries call.now call.answers present
  obtain ⟨after, inflight, items, left, pass⟩ := walked.pass
  obtain ⟨later, kept, counted⟩ := pass.entry tracked
  have updated : (retryStep codec maxPacketSize id retryMs maxRetries registry call).2.get id =
      some { session with inflight := inflight } := by
    simp only [retryStep, left]
    exact SessionRegistry.get_put_self present _
  exact ⟨later, entry_eq_some.mpr ⟨_, updated, by simpa [items] using kept⟩, counted⟩

-- By induction on the calls, with `sent` for what was handed over before them. Below 255 the count does not
-- saturate, so it stays at least the number of packets.
theorem resends_counted (limit : maxRetries < 255) {index sent : Nat} {entry : InflightEntry}
    (calls : List RetryCall) (located : registry.entry id index = some entry) (counted : sent ≤ entry.retries)
    (within : sent ≤ maxRetries) :
    ∃ latest, (retriedAll codec maxPacketSize id retryMs maxRetries registry calls).entry id index = some latest ∧
      sent + resends codec maxPacketSize id retryMs maxRetries registry index calls ≤ latest.retries ∧
      sent + resends codec maxPacketSize id retryMs maxRetries registry index calls ≤ maxRetries := by
  induction calls generalizing registry entry sent with
  | nil => exact ⟨entry, located, counted, within⟩
  | cons call rest ih =>
    obtain ⟨later, kept, step⟩ := retryStep_entry codec maxPacketSize retryMs maxRetries call located
    have marked : entry.marked.retries = min (entry.retries + 1) 255 := rfl
    simp only [resends, retriedAll, Mealy.replies, Mealy.final, List.countP_cons] at ih ⊢
    cases handed : handedAt (retryStep codec maxPacketSize id retryMs maxRetries registry call).1.1 index with
    | false =>
      have onward : sent ≤ later.retries := by
        rcases step with ⟨same, _⟩ | ⟨raised, _⟩
        · omega
        · omega
      simpa [handed] using ih kept onward within
    | true =>
      rcases step with ⟨_, idle⟩ | ⟨raised, allowed⟩
      · rw [handed] at idle
        cases idle
      · have below := allowed handed
        have later := ih kept (show sent + 1 ≤ later.retries by omega) (by omega)
        simpa [handed, Nat.add_assoc, Nat.add_comm 1] using later

theorem expired_ne_ok {index : Nat} {entry : InflightEntry} (located : registry.entry id index = some entry)
    (due : isExpired now (fromMillis retryMs) entry = true) (exceeded : maxRetries < entry.marked.retries) :
    (processInflightRetriesAt codec maxPacketSize id registry retryMs maxRetries now answers).result ≠ .ok () := by
  intro ok
  obtain ⟨session, present, tracked⟩ := entry_eq_some.mp located
  have walked := processInflightRetriesAt_walked codec maxPacketSize retryMs maxRetries now answers present
  obtain ⟨_, _, _, _, pass⟩ := walked.pass
  have allowed := pass.allowed ok entry (List.mem_of_getElem? tracked) due
  omega

end

theorem retries_bounded (codec : Codec) (maxPacketSize : Nat) (id : SessionId) (retryMs maxRetries : Nat)
    (registry : SessionRegistry maxSessions maxSubs maxInflight) (calls : List RetryCall)
    (limit : maxRetries < 255) :
    RetriesBounded codec maxPacketSize id retryMs maxRetries registry calls where
  bounded := by
    intro index entry located
    obtain ⟨_, _, _, within⟩ := resends_counted limit calls located (Nat.zero_le _) (Nat.zero_le _)
    simpa using within
  exhausted := by
    intro index entry located used
    obtain ⟨latest, kept, counted, _⟩ := resends_counted limit calls located (Nat.zero_le _) (Nat.zero_le _)
    refine ⟨latest, kept, ?_⟩
    intro now answers due
    have marked : latest.marked.retries = min (latest.retries + 1) 255 := rfl
    exact expired_ne_ok kept due (by omega)
  renewed := by
    intro now answers ok
    exact processInflightRetriesAt_renewed ok

-- A message at QoS 1 that the subscriber never acknowledges.
def unacknowledgedHistory : List (Operation 1 1) :=
  [.connect (houseConnect [97] true none) gatomqttToken,
    .subscribe 0 ⟨.new, .truncate [⟨.truncate [116], .atLeastOnce⟩]⟩ .new,
    .outbound .new .empty ⟨.truncate [116], .truncate [1], .atLeastOnce, false⟩ 0]

def unacknowledged : SessionRegistry 1 1 1 := Operation.applyAll Mqtt311.codec unacknowledgedHistory

def calledAtOnce (count : Nat) : List RetryCall := List.replicate count ⟨0, []⟩

theorem retries_bounded_two :
    resends Mqtt311.codec 64 0 0 2 unacknowledged 0 (calledAtOnce 2) = 2 ∧
      (processInflightRetriesAt Mqtt311.codec 64 0
        (retriedAll Mqtt311.codec 64 0 0 2 unacknowledged (calledAtOnce 2)) 0 2 0 []).result ≠ .ok () := by
  have sent : resends Mqtt311.codec 64 0 0 2 unacknowledged 0 (calledAtOnce 2) = 2 := by decide +kernel
  have due : ∀ latest,
      (retriedAll Mqtt311.codec 64 0 0 2 unacknowledged (calledAtOnce 2)).entry 0 0 = some latest →
        isExpired 0 (fromMillis 0) latest = true := by decide +kernel
  have results := retries_bounded Mqtt311.codec 64 0 0 2 unacknowledged (calledAtOnce 2) (by decide)
  obtain ⟨latest, kept, ended⟩ := results.exhausted 0 ⟨1, ⟨0, 1⟩, .atLeastOnce, 0, 0⟩ (by decide +kernel) sent
  exact ⟨sent, ended 0 [] (due latest kept)⟩

theorem retries_unbounded :
    ¬ RetriesBounded Mqtt311.codec 64 0 0 255 unacknowledged (calledAtOnce 256) := by
  intro results
  have sent : resends Mqtt311.codec 64 0 0 255 unacknowledged 0 (calledAtOnce 256) = 256 := by decide +kernel
  have bounded := results.bounded 0 ⟨1, ⟨0, 1⟩, .atLeastOnce, 0, 0⟩ (by decide +kernel)
  omega

end PicoBroker
