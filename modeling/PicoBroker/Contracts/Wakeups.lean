import PicoBroker.Contracts.Retries

set_option autoImplicit false

namespace PicoBroker

variable {maxSessions maxSubs maxInflight : Nat}

structure WakesInTime (session : SessionState maxSubs maxInflight) (now : Instant) (retryMs : Nat)
    (maxWait wait : Duration) : Prop where
  positive : 1 ≤ wait
  bounded : wait ≤ max 1 maxWait
  keepalive : 1 < wait → ∀ time, now ≤ time → time ≤ now + wait → session.isKeepaliveExpired time = false
  retries : 1 < wait → ∀ time, now ≤ time → time < now + wait →
    ∀ entry ∈ session.inflight.items, isExpired time (fromMillis retryMs) entry = false
  needed : (∀ entry ∈ session.inflight.items, entry.sentAt ≤ now) → 1 < wait → wait < maxWait →
    (0 < session.keepaliveSecs ∧ now + wait = session.keepaliveDeadline) ∨
      ∃ entry ∈ session.inflight.items, isExpired (now + wait) (fromMillis retryMs) entry = true

def NoneOverdue (registry : SessionRegistry maxSessions maxSubs maxInflight) (id : SessionId) (timeout : Duration)
    (now : Instant) : Prop :=
  ∀ session, registry.get id = some session → ∀ entry ∈ session.inflight.items, isExpired now timeout entry = false

section

variable {now : Instant} {timeout : Duration} {entry : InflightEntry}

theorem isExpired_iff : isExpired now timeout entry = true ↔ entry.sentAt ≤ now ∧ timeout ≤ now - entry.sentAt := by
  by_cases past : entry.sentAt ≤ now <;> simp [isExpired, checkedDurationSince, past]

theorem isExpired_eq_false : isExpired now timeout entry = false ↔ now < entry.sentAt ∨ now - entry.sentAt < timeout := by
  rw [← Bool.not_eq_true, isExpired_iff]
  lia

end

namespace SessionState

variable {session : SessionState maxSubs maxInflight} {now : Instant} {retryMs : Nat} {maxWait : Duration}

theorem retryRemaining_eq {timeout : Duration} {entry : InflightEntry} : retryRemaining now timeout entry = timeout - (now - entry.sentAt) := by
  by_cases past : entry.sentAt ≤ now
  · simp only [retryRemaining, checkedDurationSince, past, if_true, Option.getD_some]
    split <;> lia
  · simp only [retryRemaining, checkedDurationSince, past, if_false, Option.getD_none]
    split <;> lia

def remaining (session : SessionState maxSubs maxInflight) (now : Instant) (retryMs : Nat) : List Duration :=
  (if session.keepaliveSecs > 0 then [session.keepaliveDeadline - now] else []) ++
    session.inflight.items.map (retryRemaining now (fromMillis retryMs))

theorem foldl_min_zero (waits : List Duration) : waits.foldl min 0 = 0 := by
  induction waits with
  | nil => rfl
  | cons wait rest ih => simpa using ih

-- The early return is the case of a keepalive that has nothing left.
theorem nextWakeupAfter_eq :
    session.nextWakeupAfter now retryMs maxWait = max ((session.remaining now retryMs).foldl min maxWait) 1 := by
  unfold nextWakeupAfter remaining checkedDurationSince
  by_cases keepalive : session.keepaliveSecs > 0
  · by_cases early : now ≤ session.keepaliveDeadline
    · simp [keepalive, early, List.foldl_map]
    · have passed : session.keepaliveDeadline - now = 0 := by lia
      simp [keepalive, early, passed, foldl_min_zero]
  · simp [keepalive, List.foldl_map]

theorem nextWakeupAfter_least (session : SessionState maxSubs maxInflight) (now : Instant) (retryMs : Nat)
    (maxWait : Duration) :
    ∃ least, session.nextWakeupAfter now retryMs maxWait = max least 1 ∧
      least ∈ maxWait :: session.remaining now retryMs ∧
      ∀ wait ∈ maxWait :: session.remaining now retryMs, least ≤ wait :=
  ⟨_, nextWakeupAfter_eq, List.min?_eq_some_iff.mp rfl⟩

theorem mem_remaining {wait : Duration} :
    wait ∈ session.remaining now retryMs ↔
      (0 < session.keepaliveSecs ∧ wait = session.keepaliveDeadline - now) ∨
        ∃ entry ∈ session.inflight.items, wait = fromMillis retryMs - (now - entry.sentAt) := by
  by_cases keepalive : session.keepaliveSecs > 0 <;>
    simp [remaining, keepalive, retryRemaining_eq, eq_comm]

theorem isKeepaliveExpired_eq_false {time : Instant} (inTime : 0 < session.keepaliveSecs → time ≤ session.keepaliveDeadline) :
    session.isKeepaliveExpired time = false := by
  unfold isKeepaliveExpired
  split
  · rfl
  · next running => simpa using inTime (Nat.pos_of_ne_zero running)

theorem nextWakeupAfter_wakesInTime (session : SessionState maxSubs maxInflight) (now : Instant) (retryMs : Nat)
    (maxWait : Duration) :
    WakesInTime session now retryMs maxWait (session.nextWakeupAfter now retryMs maxWait) := by
  obtain ⟨least, wakeup, member, below⟩ := session.nextWakeupAfter_least now retryMs maxWait
  rw [wakeup]
  have capped : least ≤ maxWait := below maxWait (List.mem_cons_self ..)
  have remains (wait : Duration) (listed : wait ∈ session.remaining now retryMs) : least ≤ wait :=
    below wait (List.mem_cons_of_mem _ listed)
  refine ⟨by lia, by lia, ?_, ?_, ?_⟩
  · intro long time _ until_
    apply isKeepaliveExpired_eq_false
    intro running
    have left := remains _ (mem_remaining.mpr (.inl ⟨running, rfl⟩))
    lia
  · intro long time _ before entry tracked
    have left := remains _ (mem_remaining.mpr (.inr ⟨entry, tracked, rfl⟩))
    rw [isExpired_eq_false]
    lia
  · intro past long short
    -- A sleep below `max_wait` is one of the remaining times.
    have listed : least ∈ session.remaining now retryMs := by
      rcases List.mem_cons.mp member with same | listed
      · lia
      · exact listed
    rcases mem_remaining.mp listed with ⟨running, left⟩ | ⟨entry, tracked, left⟩
    · exact .inl ⟨running, by lia⟩
    · have sent := past entry tracked
      exact .inr ⟨entry, tracked, isExpired_iff.mpr (by lia)⟩

end SessionState

theorem renewed_not_expired {now : Instant} {timeout : Duration} (positive : 0 < timeout) (entry : InflightEntry) :
    isExpired now timeout (entry.renewed now timeout) = false := by
  unfold InflightEntry.renewed
  split
  · rw [isExpired_eq_false]
    simp [InflightEntry.resent, positive]
  · next early => simpa using early

theorem Renewed.noneOverdue {registry : SessionRegistry maxSessions maxSubs maxInflight} {id : SessionId}
    {timeout : Duration} {now : Instant} {outcome : RetryOutcome maxSessions maxSubs maxInflight}
    (renewed : Renewed registry id timeout now outcome) (positive : 0 < timeout) :
    NoneOverdue outcome.registry id timeout now := by
  intro session present entry tracked
  cases found : registry.get id with
  | none =>
    rw [(renewed.absent found).1, found] at present
    cases present
  | some old =>
    obtain ⟨inflight, items, left⟩ := renewed.inflight old found
    rw [left, SessionRegistry.get_put_self found] at present
    cases present
    obtain ⟨earlier, _, same⟩ := List.mem_map.mp (items ▸ tracked)
    rw [← same]
    exact renewed_not_expired positive earlier

theorem nextWakeupAfter_never_oversleeps (codec : Codec) (maxPacketSize : Nat) (id : SessionId)
    (registry : SessionRegistry maxSessions maxSubs maxInflight) (session : SessionState maxSubs maxInflight)
    (now : Instant) (retryMs maxRetries : Nat) (maxWait : Duration) (answers : List Bool) :
    WakesInTime session now retryMs maxWait (session.nextWakeupAfter now retryMs maxWait) ∧
      (0 < fromMillis retryMs →
        (processInflightRetriesAt codec maxPacketSize id registry retryMs maxRetries now answers).result = .ok () →
        NoneOverdue
          (processInflightRetriesAt codec maxPacketSize id registry retryMs maxRetries now answers).registry id
          (fromMillis retryMs) now) := by
  refine ⟨session.nextWakeupAfter_wakesInTime now retryMs maxWait, ?_⟩
  intro positive ok
  exact (processInflightRetriesAt_renewed ok).noneOverdue positive

theorem nextWakeupAfter_never_oversleeps_resent :
    NoneOverdue (processInflightRetriesAt Mqtt311.codec 64 0 unacknowledged 5000 3 5000000 []).registry 0
      (fromMillis 5000) 5000000 :=
  (nextWakeupAfter_never_oversleeps Mqtt311.codec 64 0 unacknowledged (.new .empty 0) 5000000 5000 3 0 []).2
    (by decide) (by decide +kernel)

end PicoBroker
