import PicoBroker.Invariants.Counts

set_option autoImplicit false

namespace PicoBroker

open Execution (Run Anything watch)

variable {maxSessions maxSubs maxInflight maxRetained : Nat}

structure Obeys (env : Env) (tally : Tally) (system : System maxSessions maxSubs maxInflight maxRetained)
    (label : Label) (next : System maxSessions maxSubs maxInflight maxRetained) (new : List Event) : Prop where
  created : ∀ slot session, .created slot ∈ new → next.broker.registry.get slot = some session →
    session.quarantined = false
  quarantined : ∀ slot old session, .created slot ∉ new → system.broker.registry.get slot = some old →
    next.broker.registry.get slot = some session → old.quarantined = false →
    (session.quarantined = true ↔ tally.drops slot < env.config.maxOutboxDrops ∧
      env.config.maxOutboxDrops ≤ (tally.note env system label new).drops slot)
  disconnected : ∀ id, system.limited id = false →
    (∀ publish activityNow now accepts,
      label = .conn id (.packet (.publish publish) activityNow now accepts) → publish.qospid = .atMostOnce) →
    (next.limited id = true ↔ system.refused? label = some (id, true) ∧
      (tally.note env system label new).refusals id = env.config.maxViolations)

-- No will meets a full outbox, and a CONNECT is given no slot that a loop remembers.
def Regular (env : Env) (system : System maxSessions maxSubs maxInflight maxRetained) (label : Label) :
    Prop :=
  (∀ slot ∈ system.willTo env label, ¬ ∃ session ∈ system.broker.registry.get slot, session.Full) ∧
    ∀ connect ∈ label.connect?, Admissible connect.2 env.houseToken →
      (∀ slot ∈ claimedSlot system.broker.registry connect.2, ¬ Remembered system.conns slot) ∧
        ∀ slot ∈ resumable system.broker.registry connect.2, ∀ session ∈ system.broker.registry.get slot,
          session.outboxDrops = 0

instance (env : Env) (system : System maxSessions maxSubs maxInflight maxRetained) (label : Label) :
    Decidable (Regular env system label) :=
  inferInstanceAs (Decidable (_ ∧ ∀ connect ∈ label.connect?, _))

structure DropsTracked (tally : Tally) (system : System maxSessions maxSubs maxInflight maxRetained) : Prop where
  counter : ∀ slot session, system.broker.registry.get slot = some session →
    session.outboxDrops = min (tally.drops slot) 255
  below : ∀ slot session, system.broker.registry.get slot = some session → session.quarantined = false →
    tally.drops slot < gatomqttConfig.maxOutboxDrops

structure Reckoned (drops : Nat) (old session : SessionState maxSubs maxInflight) : Prop where
  counter : session.outboxDrops = min drops 255
  below : session.quarantined = false → drops < gatomqttConfig.maxOutboxDrops
  reached : old.quarantined = false → session.quarantined = true → gatomqttConfig.maxOutboxDrops ≤ drops

section

variable {env : Env} {system next : System maxSessions maxSubs maxInflight maxRetained} {label : Label}
  {new : List Event} {tally : Tally} {slot : SessionId} {old session : SessionState maxSubs maxInflight}

theorem charge_outboxDrops (session : SessionState maxSubs maxInflight) :
    (system.charge label slot session).outboxDrops = session.outboxDrops := by
  unfold System.charge
  split
  · split <;> rfl
  · rfl

theorem charge_quarantined (session : SessionState maxSubs maxInflight) :
    (system.charge label slot session).quarantined = session.quarantined := by
  unfold System.charge
  split
  · split <;> rfl
  · rfl

theorem Regular.drops_iff (regular : Regular env system label)
    (found : system.broker.registry.get slot = some old) :
    system.Drops env label slot ↔ slot ∈ system.routedTo env label ∧ old.Full := by
  have full : (∃ session ∈ system.broker.registry.get slot, session.Full) ↔ old.Full := by simp [found]
  constructor
  · rintro ⟨routed | willed, overflowing⟩
    · exact ⟨routed, full.mp overflowing⟩
    · exact absurd overflowing (regular.1 slot willed)
  · rintro ⟨routed, overflowing⟩
    exact ⟨.inl routed, full.mpr overflowing⟩

theorem DropsTracked.effect (tracked : DropsTracked tally system) (regular : Regular env system label)
    (uncreated : .created slot ∉ new) (found : system.broker.registry.get slot = some old)
    (effect : Effect env system label slot old session) :
    Reckoned ((tally.note env system label new).drops slot) old session := by
  have counter := tracked.counter slot old found
  have below := tracked.below slot old found
  simp only [Tally.note, uncreated, false_or]
  by_cases emptied : system.emptied? label = some slot
  · obtain ⟨reset, same⟩ := effect.emptied emptied
    rw [if_pos emptied]
    refine ⟨reset, fun _ => by decide, fun calm quarantined => ?_⟩
    rw [same, calm] at quarantined
    cases quarantined
  · have counted := effect.counted emptied
    rw [if_neg emptied]
    by_cases dropped : system.Drops env label slot
    · obtain ⟨drops, quarantined⟩ := counted.hit ((regular.drops_iff found).mp dropped)
      rw [charge_outboxDrops, counter] at drops quarantined
      rw [charge_quarantined] at quarantined
      have limit : gatomqttConfig.maxOutboxDrops = 16 := rfl
      have saturated : saturatingAddU8 (min (tally.drops slot) 255) 1 = min (tally.drops slot + 1) 255 := by
        unfold saturatingAddU8
        omega
      rw [saturated] at drops quarantined
      rw [if_pos dropped]
      refine ⟨drops, fun calm => ?_, fun calm hit => ?_⟩
      · rw [quarantined, Bool.or_eq_false_iff, decide_eq_false_iff_not] at calm
        omega
      · rw [quarantined, calm, Bool.false_or, decide_eq_true_iff] at hit
        omega
    · obtain ⟨drops, quarantined⟩ := counted.spared (mt (regular.drops_iff found).mpr dropped)
      rw [charge_outboxDrops] at drops
      rw [charge_quarantined] at quarantined
      rw [if_neg dropped]
      refine ⟨drops.trans counter, fun calm => below (quarantined.symm.trans calm), fun calm hit => ?_⟩
      rw [quarantined, calm] at hit
      cases hit

theorem DropsTracked.seated {id : Nat} {packet : Connect} {now : Instant} (tracked : DropsTracked tally system)
    (regular : Regular env system (.conn id (.firstPacket (.connect packet) now)))
    (seated : Seated env system.broker packet new slot session) (uncreated : .created slot ∉ new) :
    ∃ old, system.broker.registry.get slot = some old ∧
      Reckoned ((tally.note env system (.conn id (.firstPacket (.connect packet) now)) new).drops slot) old
        session := by
  have unchanged : (tally.note env system (.conn id (.firstPacket (.connect packet) now)) new).drops slot =
      tally.drops slot := by
    simp [Tally.note, uncreated, System.emptied?, System.Drops, System.routedTo, System.willTo]
  rw [unchanged]
  cases seated with
  | untouched same =>
    refine ⟨session, same, tracked.counter slot session same, tracked.below slot session same, ?_⟩
    intro calm quarantined
    rw [calm] at quarantined
    cases quarantined
  | @resumed old _ _ _ admissible resumed found same =>
    subst same
    have clean : old.outboxDrops = 0 := (regular.2 _ rfl admissible).2 slot resumed old found
    have none : tally.drops slot = 0 := by
      have counter := tracked.counter slot old found
      omega
    rw [none]
    exact ⟨old, found, rfl, fun _ => by decide, fun _ quarantined => by cases quarantined⟩
  | created _ _ _ _ _ created => exact absurd created uncreated

theorem DropsTracked.reckoned (tracked : DropsTracked tally system) (regular : Regular env system label)
    (taken : System.step env system label = some (next, new)) (uncreated : .created slot ∉ new)
    (kept : next.broker.registry.get slot = some session) :
    ∃ old, system.broker.registry.get slot = some old ∧
      Reckoned ((tally.note env system label new).drops slot) old session := by
  by_cases read : label.Connects
  · obtain ⟨id, packet, now, rfl⟩ := read
    obtain ⟨conn, result, _, _, connected, rfl, rfl⟩ := step_connect taken
    exact tracked.seated regular (connected.seated kept) uncreated
  · obtain ⟨old, found⟩ := step_present taken read kept
    exact ⟨old, found, tracked.effect regular uncreated found (step_effect taken read found kept)⟩

theorem step_created (taken : System.step env system label = some (next, new)) (created : .created slot ∈ new)
    (kept : next.broker.registry.get slot = some session) :
    session.outboxDrops = 0 ∧ session.quarantined = false := by
  by_cases read : label.Connects
  · obtain ⟨id, packet, now, rfl⟩ := read
    obtain ⟨conn, result, _, _, connected, rfl, rfl⟩ := step_connect taken
    cases connected.seated kept with
    | untouched _ uncreated => exact absurd created uncreated
    | resumed _ _ _ _ uncreated => exact absurd created uncreated
    | created _ _ _ _ same =>
      subst same
      exact ⟨rfl, rfl⟩
  · exact absurd trivial (step_quiet taken read _ created)

theorem DropsTracked.step (tracked : DropsTracked tally system) (regular : Regular env system label)
    (taken : System.step env system label = some (next, new)) :
    DropsTracked (tally.note env system label new) next := by
  have fresh (slot : SessionId) (created : .created slot ∈ new) :
      (tally.note env system label new).drops slot = 0 := if_pos (.inl created)
  refine ⟨fun slot session kept => ?_, fun slot session kept calm => ?_⟩
  all_goals by_cases created : .created slot ∈ new
  · rw [fresh slot created, (step_created taken created kept).1]
    rfl
  · obtain ⟨old, _, reckoned⟩ := tracked.reckoned regular taken created kept
    exact reckoned.counter
  · rw [fresh slot created]
    decide
  · obtain ⟨old, _, reckoned⟩ := tracked.reckoned regular taken created kept
    exact reckoned.below calm

end

structure RefusalsTracked (tally : Tally) (system : System maxSessions maxSubs maxInflight maxRetained) :
    Prop where
  unique : Unique system.conns
  unread : ∀ id, (∀ conn, system.conns[id]? = some conn → conn.phase = .awaitConnect) → tally.refusals id = 0
  counter : ∀ id conn slot session, system.conns[id]? = some conn → conn.phase.serving? = some slot →
    system.broker.registry.get slot = some session → session.rate.violations = tally.refusals id
  below : ∀ id conn slot, system.conns[id]? = some conn → conn.phase.serving? = some slot →
    tally.refusals id < gatomqttConfig.maxViolations

section

variable {env : Env} {system next : System maxSessions maxSubs maxInflight maxRetained} {label : Label}
  {new : List Event} {tally : Tally} {id : Nat} {conn : Conn} {slot : SessionId} {now : Instant}
  {old session : SessionState maxSubs maxInflight}

theorem refill_violations (bucket : TokenBucket) : (bucket.refill now).violations = bucket.violations := by
  unfold TokenBucket.refill
  split
  · rfl
  · split <;> rfl

theorem tryConsume_violations (bucket : TokenBucket) :
    (bucket.tryConsume now).2.violations =
      if (bucket.tryConsume now).1 then 0 else saturatingAddU8 bucket.violations 1 := by
  simp only [TokenBucket.tryConsume]
  by_cases tokens : (bucket.refill now).tokens > 0
  · simp [tokens]
  · simp [tokens, refill_violations]

theorem publisher?_eq_some {publisher : Nat} {held : SessionId}
    (publishes : system.publisher? label = some (publisher, held, now)) :
    (∃ publish activityNow accepts,
      label = .conn publisher (.packet (.publish publish) activityNow now accepts)) ∧
      ∃ conn timer, system.conns[publisher]? = some conn ∧ conn.phase = .select held timer := by
  unfold System.publisher? at publishes
  split at publishes
  · next id publish activityNow at' accepts =>
    split at publishes
    · next slot timer waiting =>
      cases publishes
      obtain ⟨conn, found, same⟩ := Option.map_eq_some_iff.mp waiting
      exact ⟨⟨publish, activityNow, accepts, rfl⟩, conn, timer, found, same⟩
    · cases publishes
  · cases publishes

theorem refused?_eq_some {refused : Bool} (verdict : system.refused? label = some (id, refused)) :
    ∃ publish activityNow now accepts conn held timer sender,
      label = .conn id (.packet (.publish publish) activityNow now accepts) ∧
      system.conns[id]? = some conn ∧ conn.phase = .select held timer ∧
      system.broker.registry.get held = some sender ∧ refused = !(sender.rate.tryConsume now).1 := by
  obtain ⟨⟨publisher, held, now⟩, publishes, asked⟩ := Option.bind_eq_some_iff.mp verdict
  obtain ⟨sender, present, same⟩ := Option.map_eq_some_iff.mp asked
  obtain ⟨rfl, rfl⟩ := Prod.mk.inj same
  obtain ⟨⟨publish, activityNow, accepts, rfl⟩, conn, timer, found, waiting⟩ := publisher?_eq_some publishes
  exact ⟨publish, activityNow, now, accepts, conn, held, timer, sender, rfl, found, waiting, present, rfl⟩

-- A bucket that refuses counts one more, and 255 is far away.
theorem RefusalsTracked.violations (tracked : RefusalsTracked tally system)
    (found : system.conns[id]? = some conn) (serving : conn.phase.serving? = some slot)
    (present : system.broker.registry.get slot = some session) :
    (session.rate.tryConsume now).2.violations =
      if (session.rate.tryConsume now).1 then 0 else tally.refusals id + 1 := by
  have below := tracked.below id conn slot found serving
  have limit : gatomqttConfig.maxViolations = 50 := rfl
  rw [tryConsume_violations, tracked.counter id conn slot session found serving present]
  split
  · rfl
  · unfold saturatingAddU8
    omega

theorem RefusalsTracked.counter_step (tracked : RefusalsTracked tally system)
    (taken : System.step env system label = some (next, new)) (unread : ¬ label.Connects)
    (found : system.conns[id]? = some conn) (serving : conn.phase.serving? = some slot)
    (kept : next.broker.registry.get slot = some session) :
    session.rate.violations = (tally.note env system label new).refusals id := by
  obtain ⟨old, present⟩ := step_present taken unread kept
  have counter := tracked.counter id conn slot old found serving present
  rw [(step_effect taken unread present kept).rate]
  cases publishes : system.publisher? label with
  | none =>
    rw [charge_of_unpublished publishes]
    simp [Tally.note, System.refused?, publishes, counter]
  | some publisher =>
    obtain ⟨publisher, held, now⟩ := publisher
    obtain ⟨_, other, timer, stored, waiting⟩ := publisher?_eq_some publishes
    by_cases here : slot = held
    · subst here
      obtain rfl : id = publisher := tracked.unique id publisher conn other slot found stored
        (slot?_of_serving? serving) (by rw [waiting]; rfl)
      have violations : (old.rate.tryConsume now).2.violations = _ := tracked.violations found serving present
      simp only [System.charge, publishes, if_true, SessionState.charge, violations, Tally.note,
        System.refused?, Option.bind_some, present, Option.map_some]
      cases (old.rate.tryConsume now).1 <;> simp
    · have different : publisher ≠ id := by
        rintro rfl
        rw [found] at stored
        cases stored
        rw [waiting] at serving
        exact here (Option.some.inj serving).symm
      simp only [System.charge, publishes, here, if_false, counter, Tally.note, System.refused?,
        Option.bind_some]
      cases system.broker.registry.get held <;> simp [different]

theorem limited_set {broker : Broker maxSessions maxSubs maxInflight maxRetained} {after : Conn}
    (found : system.conns[id]? = some conn) :
    System.limited ⟨broker, system.conns.set id after⟩ id = after.phase.limited := by
  simp [System.limited, System.phase?, conns_set_self found]

theorem RefusalsTracked.limited_iff {publish : Publish} {activityNow : Instant} {accepts : Bool}
    (tracked : RefusalsTracked tally system)
    (taken : System.step env system (.conn id (.packet (.publish publish) activityNow now accepts)) =
      some (next, new)) :
    next.limited id = true ↔
      system.refused? (.conn id (.packet (.publish publish) activityNow now accepts)) = some (id, true) ∧
        (gatomqttConfig.maxViolations ≤ tally.refusals id + 1 ∨ publish.message.qos ≠ .atMostOnce) := by
  obtain ⟨conn, result, found, stepped, rfl, _⟩ := step_conn taken
  obtain ⟨held, timer, waiting, _, continued⟩ := connStep_publish stepped
  have serving : conn.phase.serving? = some held := by rw [waiting]; rfl
  have verdict : system.refused? (.conn id (.packet (.publish publish) activityNow now accepts)) =
      (system.broker.registry.get held).map fun session => (id, !(session.rate.tryConsume now).1) := by
    simp [System.refused?, System.publisher?, System.phase?_of_found found, waiting]
  rw [limited_set found, continued, verdict]
  cases owner : system.broker.registry.get held with
  | none => simp [publishStep, owner, beginCleanup, DisconnectReason.isClean, Phase.limited]
  | some sender =>
    have violations : (sender.rate.tryConsume now).2.violations = _ := tracked.violations found serving owner
    dsimp only
    rw [publishStep_limited owner, violations]
    cases admitted : (sender.rate.tryConsume now).1 <;> simp [admitted]

theorem refusals_of_other (other : ∀ publish activityNow now accepts,
      label ≠ .conn id (.packet (.publish publish) activityNow now accepts)) :
    (tally.note env system label new).refusals id = tally.refusals id := by
  have silent (refused : Bool) : system.refused? label ≠ some (id, refused) := fun verdict => by
    obtain ⟨publish, activityNow, now, accepts, _, _, _, _, same, _⟩ := refused?_eq_some verdict
    exact other publish activityNow now accepts same
  simp [Tally.note, silent]

theorem RefusalsTracked.waiting (tracked : RefusalsTracked tally system)
    (found : system.conns[id]? = some conn) (waiting : conn.phase = .awaitConnect) : tally.refusals id = 0 := by
  refine tracked.unread id fun other present => ?_
  rw [found] at present
  cases present
  exact waiting

theorem RefusalsTracked.unread_step (tracked : RefusalsTracked tally system)
    (taken : System.step env system label = some (next, new))
    (idle : ∀ conn, next.conns[id]? = some conn → conn.phase = .awaitConnect) :
    (tally.note env system label new).refusals id = 0 := by
  by_cases own : ∃ input, label = .conn id input
  · obtain ⟨input, rfl⟩ := own
    by_cases read : (Label.conn id input).Connects
    · obtain ⟨_, packet, now, same⟩ := read
      cases same
      obtain ⟨reading, _, found, waiting, _⟩ := step_connect taken
      rw [refusals_of_other (by simp)]
      exact tracked.waiting found waiting
    · obtain ⟨conn, found, started⟩ := step_started taken read
      exact absurd (idle conn found) started
  · have other (input : Input) : label ≠ .conn id input := fun same => own ⟨input, same⟩
    rw [refusals_of_other fun _ _ _ _ => other _]
    exact tracked.unread id fun conn present => idle conn (conn_after taken other present)

theorem RefusalsTracked.below_step (tracked : RefusalsTracked tally system)
    (taken : System.step env system label = some (next, new)) (found : next.conns[id]? = some conn)
    (serving : conn.phase.serving? = some slot) :
    (tally.note env system label new).refusals id < gatomqttConfig.maxViolations := by
  rcases step_serving taken found serving with ⟨before, earlier, same⟩ | ⟨before, packet, now, earlier, waiting, rfl⟩
  · by_cases refused : system.refused? label = some (id, true)
    · obtain ⟨publish, activityNow, now, accepts, _, _, _, _, rfl, _⟩ := refused?_eq_some refused
      have going : next.limited id = false := by
        simp only [System.limited, System.phase?_of_found found, Option.any_some]
        cases phase : conn.phase <;> simp_all [Phase.serving?, Phase.limited]
      have short := mt (tracked.limited_iff taken).mpr (by simp [going])
      simp only [refused, true_and, not_or, Nat.not_le] at short
      simpa [Tally.note, refused] using short.1
    · by_cases admitted : system.refused? label = some (id, false)
      · simp [Tally.note, admitted, gatomqttConfig]
      · simp only [Tally.note, refused, admitted, if_false]
        exact tracked.below id before slot earlier same
  · rw [refusals_of_other (by simp), tracked.waiting earlier waiting]
    decide

theorem RefusalsTracked.connected {packet : Connect} (tracked : RefusalsTracked tally system)
    (regular : Regular env system (.conn id (.firstPacket (.connect packet) now)))
    {result : Result maxSessions maxSubs maxInflight maxRetained} (found : system.conns[id]? = some conn)
    (waiting : conn.phase = .awaitConnect) (connected : Connected env system.broker id packet now result)
    {other : Nat} {owner : Conn} (present : (system.conns.set id result.conn)[other]? = some owner)
    (serving : owner.phase.serving? = some slot) (kept : result.broker.registry.get slot = some session) :
    session.rate.violations = tally.refusals other := by
  rcases conn_of_set found present with ⟨rfl, rfl⟩ | ⟨_, old⟩
  · rw [tracked.waiting found waiting]
    cases connected with
    | accepted admission stored =>
      cases serving
      rw [SessionRegistry.get_put_self stored] at kept
      cases kept
      rfl
    | refused _ _ left =>
      have holds := slot?_of_serving? serving
      rw [left] at holds
      cases holds
  · refine tracked.counter other owner slot session old serving ((connected.seated kept).unclaimed ?_)
    intro admissible claimed
    exact (regular.2 _ rfl admissible).1 slot claimed ⟨other, owner, old, slot?_of_serving? serving⟩

theorem RefusalsTracked.step (tracked : RefusalsTracked tally system) (regular : Regular env system label)
    (taken : System.step env system label = some (next, new)) :
    RefusalsTracked (tally.note env system label new) next where
  unique := tracked.unique.step (fun connect member admissible => (regular.2 connect member admissible).1) taken
  unread _ idle := tracked.unread_step taken idle
  below _ _ _ found serving := tracked.below_step taken found serving
  counter id conn slot session found serving kept := by
    by_cases read : label.Connects
    · obtain ⟨reading, packet, now, rfl⟩ := read
      obtain ⟨_, result, present, waiting, connected, rfl, _⟩ := step_connect taken
      rw [refusals_of_other (by simp)]
      exact tracked.connected regular present waiting connected found serving kept
    · rcases step_serving taken found serving with ⟨before, earlier, same⟩ | ⟨_, _, _, _, _, reads⟩
      · exact tracked.counter_step taken read earlier same kept
      · exact absurd ⟨_, _, _, reads⟩ read

theorem DropsTracked.quarantined_iff (tracked : DropsTracked tally system) (regular : Regular env system label)
    (taken : System.step env system label = some (next, new)) (uncreated : .created slot ∉ new)
    (found : system.broker.registry.get slot = some old)
    (kept : next.broker.registry.get slot = some session) (calm : old.quarantined = false) :
    session.quarantined = true ↔ tally.drops slot < gatomqttConfig.maxOutboxDrops ∧
      gatomqttConfig.maxOutboxDrops ≤ (tally.note env system label new).drops slot := by
  obtain ⟨before, present, reckoned⟩ := tracked.reckoned regular taken uncreated kept
  rw [found] at present
  cases present
  constructor
  · intro quarantined
    exact ⟨tracked.below slot old found calm, reckoned.reached calm quarantined⟩
  · rintro ⟨_, reached⟩
    by_contra spared
    exact Nat.not_le_of_lt (reckoned.below (Bool.eq_false_of_not_eq_true spared)) reached

theorem limited_of_other (taken : System.step env system label = some (next, new))
    (other : ∀ publish activityNow now accepts,
      label ≠ .conn id (.packet (.publish publish) activityNow now accepts))
    (going : system.limited id = false) : next.limited id = false := by
  by_cases own : ∃ input, label = .conn id input
  · obtain ⟨input, rfl⟩ := own
    obtain ⟨conn, result, found, stepped, rfl, _⟩ := step_conn taken
    rw [limited_set found]
    exact connStep_unlimited stepped fun publish activityNow now accepts same =>
      other publish activityNow now accepts (same ▸ rfl)
  · cases found : next.conns[id]? with
    | none => simp [System.limited, System.phase?, found]
    | some conn =>
      rcases conn_before taken (fun input same => own ⟨input, same⟩) found with same | waiting
      · simpa [System.limited, System.phase?, found, same] using going
      · simp [System.limited, System.phase?, found, waiting, Phase.limited]

theorem RefusalsTracked.disconnected_iff (tracked : RefusalsTracked tally system)
    (taken : System.step env system label = some (next, new)) (going : system.limited id = false)
    (qos0 : ∀ publish activityNow now accepts,
      label = .conn id (.packet (.publish publish) activityNow now accepts) → publish.qospid = .atMostOnce) :
    next.limited id = true ↔ system.refused? label = some (id, true) ∧
      (tally.note env system label new).refusals id = gatomqttConfig.maxViolations := by
  by_cases own : ∃ publish activityNow now accepts,
      label = .conn id (.packet (.publish publish) activityNow now accepts)
  · obtain ⟨publish, activityNow, now, accepts, rfl⟩ := own
    have unnumbered : publish.message.qos = .atMostOnce := by
      simp [Publish.message, qos0 publish activityNow now accepts rfl, QosPid.qos]
    rw [tracked.limited_iff taken, unnumbered]
    refine and_congr_right fun refused => ?_
    obtain ⟨_, _, _, _, conn, held, timer, _, _, found, waiting, _⟩ := refused?_eq_some refused
    have below := tracked.below id conn held found (by rw [waiting]; rfl)
    simp only [Tally.note, refused, if_true, ne_eq, not_true_eq_false, or_false]
    omega
  · have other (publish : Publish) (activityNow now : Instant) (accepts : Bool) :
        label ≠ .conn id (.packet (.publish publish) activityNow now accepts) :=
      fun same => own ⟨publish, activityNow, now, accepts, same⟩
    refine iff_of_false (by simp [limited_of_other taken other going]) ?_
    rintro ⟨refused, _⟩
    obtain ⟨publish, activityNow, now, accepts, _, _, _, _, same, _⟩ := refused?_eq_some refused
    exact other publish activityNow now accepts same

end

section

variable {env : Env} {labels : List Label} {events : List Event}
  {system : System maxSessions maxSubs maxInflight maxRetained}

theorem run_counted {tally : Tally}
    (run : Run (watch (System.step env) (Tally.note env)) (fun state => Regular env state.1) (.new, .new) labels
      events (system, tally)) : DropsTracked tally system ∧ RefusalsTracked tally system := by
  refine run.invariant (P := fun _ state => DropsTracked state.2 state.1 ∧ RefusalsTracked state.2 state.1)
    ⟨⟨?_, ?_⟩, ⟨?_, fun _ _ => rfl, ?_, ?_⟩⟩ ?_
  · simp [System.new, Broker.new]
  · simp [System.new, Broker.new]
  · simp [System.new, Unique]
  · simp [System.new]
  · simp [System.new]
  · rintro _ ⟨system, tally⟩ label ⟨next, after⟩ new ⟨drops, refusals⟩ regular taken
    obtain ⟨stepped, rfl⟩ := Execution.watch_eq_some.mp taken
    exact ⟨drops.step regular stepped, refusals.step regular stepped⟩

theorem thresholds_obeyed
    (sameDrops : env.config.maxOutboxDrops = gatomqttConfig.maxOutboxDrops)
    (sameViolations : env.config.maxViolations = gatomqttConfig.maxViolations)
    (run : Run (System.step env) (Regular env) .new labels events system) :
    ∃ tally, Run (watch (System.step env) (Tally.note env)) Anything (.new, .new) labels events (system, tally) ∧
      ∀ label next new, Regular env system label → System.step env system label = some (next, new) →
        Obeys env tally system label next new := by
  obtain ⟨tally, watched⟩ := run.watched (Tally.note env) .new
  obtain ⟨drops, refusals⟩ := run_counted watched
  refine ⟨tally, watched.mono fun _ _ _ => trivial, fun label next new regular taken => ⟨?_, ?_, ?_⟩⟩
  · intro slot session created kept
    exact (step_created taken created kept).2
  · intro slot old session uncreated found kept calm
    rw [sameDrops]
    exact drops.quarantined_iff regular taken uncreated found kept calm
  · intro id going qos0
    rw [sameViolations]
    exact refusals.disconnected_iff taken going qos0

end

def thresholdPublish : Publish := ⟨false, .atMostOnce, false, [116], [111, 110]⟩

-- The first client subscribes and never gets to its outbox; the second one publishes.
def slowSubscriber (messages : Nat) : List Label :=
  .spawn :: .spawn :: Label.admit 0 [97] ++ Label.subscribe 0 (.truncate [116]) .atMostOnce ++ Label.admit 1 [98] ++
    (List.replicate messages (.publish 1 thresholdPublish :: Label.resume 1)).flatten

def roomyEnv : Env := { gatomqttEnv with config := { gatomqttConfig with rateCapacity := 30 } }

-- The sixteenth drop.
theorem thresholds_obeyed_slow_subscriber :
    ∃ (system next : System 2 1 1 1) (tally : Tally) (events new : List Event),
      Run (watch (System.step roomyEnv) (Tally.note roomyEnv)) Anything (.new, .new) (slowSubscriber 23) events
        (system, tally) ∧
      System.step roomyEnv system (.publish 1 thresholdPublish) = some (next, new) ∧
      Obeys roomyEnv tally system (.publish 1 thresholdPublish) next new ∧
      (system.broker.registry.get 0).map SessionState.quarantined = some false ∧
      (next.broker.registry.get 0).map SessionState.quarantined = some true := by
  obtain ⟨system, events, run, tested⟩ : ∃ (system : System 2 1 1 1) (events : List Event),
      Run (System.step roomyEnv) (Regular roomyEnv) .new (slowSubscriber 23) events system ∧
      decide (Regular roomyEnv system (.publish 1 thresholdPublish) ∧
        (system.broker.registry.get 0).map SessionState.quarantined = some false ∧
        ∃ taken ∈ System.step roomyEnv system (.publish 1 thresholdPublish),
          (taken.1.broker.registry.get 0).map SessionState.quarantined = some true) = true :=
    Execution.exists_run (by decide +kernel)
  obtain ⟨regular, calm, ⟨next, new⟩, taken, quarantined⟩ := of_decide_eq_true tested
  obtain ⟨tally, watched, obeys⟩ := thresholds_obeyed rfl rfl run
  exact ⟨system, next, tally, events, new, watched, taken, obeys _ _ _ regular taken, calm, quarantined⟩

def Disobeys (env : Env) (labels : List Label) (label : Label) : Prop :=
  ∃ (system next : System 2 1 1 1) (tally : Tally) (events new : List Event),
    Run (watch (System.step env) (Tally.note env)) (fun state => Regular env state.1) (.new, .new) labels events
      (system, tally) ∧
    Regular env system label ∧ System.step env system label = some (next, new) ∧
    ¬ Obeys env tally system label next new

def oneDropEnv : Env := { gatomqttEnv with config := { gatomqttConfig with maxOutboxDrops := 1 } }

def oneViolationEnv : Env :=
  { gatomqttEnv with config := { gatomqttConfig with rateCapacity := 0, maxViolations := 1 } }

theorem oneDropEnv_disobeys : Disobeys oneDropEnv (slowSubscriber 8) (.publish 1 thresholdPublish) := by
  obtain ⟨⟨system, tally⟩, events, run, tested⟩ : ∃ (state : System 2 1 1 1 × Tally) (events : List Event),
      Run (watch (System.step oneDropEnv) (Tally.note oneDropEnv)) (fun state => Regular oneDropEnv state.1)
        (.new, .new) (slowSubscriber 8) events state ∧
      decide (Regular oneDropEnv state.1 (.publish 1 thresholdPublish) ∧
        ∃ taken ∈ System.step oneDropEnv state.1 (.publish 1 thresholdPublish),
          .created 0 ∉ taken.2 ∧ state.2.drops 0 < 1 ∧
          1 ≤ (state.2.note oneDropEnv state.1 (.publish 1 thresholdPublish) taken.2).drops 0 ∧
          ∃ old ∈ state.1.broker.registry.get 0, ∃ session ∈ taken.1.broker.registry.get 0,
            old.quarantined = false ∧ session.quarantined = false) = true :=
    Execution.exists_run (by decide +kernel)
  obtain ⟨regular, ⟨next, new⟩, taken, uncreated, below, reached, old, found, session, kept, calm, spared⟩ :=
    of_decide_eq_true tested
  refine ⟨system, next, tally, events, new, run, regular, taken, fun obeys => ?_⟩
  have quarantined := (obeys.quarantined 0 old session uncreated found kept calm).mpr ⟨below, reached⟩
  rw [spared] at quarantined
  cases quarantined

theorem oneViolationEnv_disobeys :
    Disobeys oneViolationEnv (.spawn :: Label.admit 0 [97])
      (.publish 0 thresholdPublish) := by
  obtain ⟨⟨system, tally⟩, events, run, tested⟩ : ∃ (state : System 2 1 1 1 × Tally) (events : List Event),
      Run (watch (System.step oneViolationEnv) (Tally.note oneViolationEnv))
        (fun state => Regular oneViolationEnv state.1) (.new, .new) (.spawn :: Label.admit 0 [97]) events state ∧
      decide (Regular oneViolationEnv state.1 (.publish 0 thresholdPublish) ∧
        state.1.limited 0 = false ∧
        state.1.refused? (.publish 0 thresholdPublish) = some (0, true) ∧
        ∃ taken ∈ System.step oneViolationEnv state.1 (.publish 0 thresholdPublish),
          taken.1.limited 0 = false ∧
          (state.2.note oneViolationEnv state.1 (.publish 0 thresholdPublish)
            taken.2).refusals 0 = 1) = true :=
    Execution.exists_run (by decide +kernel)
  obtain ⟨regular, going, refused, ⟨next, new⟩, taken, spared, reached⟩ := of_decide_eq_true tested
  refine ⟨system, next, tally, events, new, run, regular, taken, fun obeys => ?_⟩
  have limited := (obeys.disconnected 0 going (by rintro _ _ _ _ ⟨⟩; rfl)).mpr ⟨refused, reached⟩
  rw [spared] at limited
  cases limited

-- Neither limit is read from the configuration.
theorem thresholds_ignored :
    Disobeys oneDropEnv (slowSubscriber 8) (.publish 1 thresholdPublish) ∧
      Disobeys oneViolationEnv (.spawn :: Label.admit 0 [97])
        (.publish 0 thresholdPublish) :=
  ⟨oneDropEnv_disobeys, oneViolationEnv_disobeys⟩

end PicoBroker
