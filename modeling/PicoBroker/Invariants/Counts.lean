import PicoBroker.Broker.Counters
import PicoBroker.Invariants.Ownership

set_option autoImplicit false

namespace PicoBroker

variable {maxSessions maxSubs maxInflight maxRetained : Nat}

namespace System

def phase? (system : System maxSessions maxSubs maxInflight maxRetained) (id : Nat) : Option Phase :=
  (system.conns[id]?).map Conn.phase

def limited (system : System maxSessions maxSubs maxInflight maxRetained) (id : Nat) : Bool :=
  (system.phase? id).any Phase.limited

def routedTo (env : Env) (system : System maxSessions maxSubs maxInflight maxRetained) :
    Label → List SessionId
  | .outbound publish now =>
      match retain system.broker.retained publish.message with
      | .error _ => []
      | .ok _ => (broadcastAll env.codec system.broker publish.message now).1.offered
  | .conn id (.packet (.publish publish) activityNow now accepts) =>
      match system.phase? id with
      | some (.select slot _) =>
          (publishStep env system.broker slot publish activityNow now accepts).1.offered
      | _ => []
  | _ => []

def willTo (env : Env) (system : System maxSessions maxSubs maxInflight maxRetained) :
    Label → List SessionId
  | .conn id .lock =>
      match system.phase? id with
      | some (.deliverLwt _ lwt deliveries) =>
          (deliveries.filter fun delivery => (encodePublishFromLwt env.codec lwt delivery.2).isSome).map
            Prod.fst
      | _ => []
  | _ => []

-- The step finds the outbox of the session in `slot` full.
def Drops (env : Env) (system : System maxSessions maxSubs maxInflight maxRetained) (label : Label)
    (slot : SessionId) : Prop :=
  (slot ∈ system.routedTo env label ∨ slot ∈ system.willTo env label) ∧
    ∃ session ∈ system.broker.registry.get slot, session.Full

instance (env : Env) (system : System maxSessions maxSubs maxInflight maxRetained) (label : Label)
    (slot : SessionId) : Decidable (system.Drops env label slot) :=
  inferInstanceAs (Decidable (_ ∧ _))

def emptied? (system : System maxSessions maxSubs maxInflight maxRetained) : Label → Option SessionId
  | .conn id .lock =>
      match system.phase? id with
      | some (.flush slot) =>
          if (system.broker.registry.get slot).any fun session => session.outbox.items.isEmpty then some slot
          else none
      | _ => none
  | _ => none

def publisher? (system : System maxSessions maxSubs maxInflight maxRetained) :
    Label → Option (Nat × SessionId × Instant)
  | .conn id (.packet (.publish _) _ now _) =>
      match system.phase? id with
      | some (.select slot _) => some (id, slot, now)
      | _ => none
  | _ => none

def refused? (system : System maxSessions maxSubs maxInflight maxRetained) (label : Label) :
    Option (Nat × Bool) :=
  (system.publisher? label).bind fun publisher =>
    (system.broker.registry.get publisher.2.1).map fun session =>
      (publisher.1, !(session.rate.tryConsume publisher.2.2).1)

end System

-- Drops since the outbox was last found empty, and publishes refused since one was let through.
structure Tally where
  drops : SessionId → Nat
  refusals : Nat → Nat

def Tally.new : Tally := ⟨fun _ => 0, fun _ => 0⟩

def Tally.note (env : Env) (tally : Tally) (system : System maxSessions maxSubs maxInflight maxRetained)
    (label : Label) (new : List Event) : Tally where
  drops slot :=
    if .created slot ∈ new ∨ system.emptied? label = some slot then 0
    else if system.Drops env label slot then tally.drops slot + 1
    else tally.drops slot
  refusals id :=
    if system.refused? label = some (id, true) then tally.refusals id + 1
    else if system.refused? label = some (id, false) then 0
    else tally.refusals id

section

variable {env : Env} {system next : System maxSessions maxSubs maxInflight maxRetained} {label : Label}
  {new : List Event} {id : Nat} {input : Input} {conn : Conn} {slot : SessionId}
  {old session : SessionState maxSubs maxInflight}

theorem System.phase?_of_found (found : system.conns[id]? = some conn) :
    system.phase? id = some conn.phase := by
  simp [System.phase?, found]

theorem Unpublished.routedTo (unpublished : Unpublished input) : system.routedTo env (.conn id input) = [] := by
  unfold System.routedTo
  split
  · next same => cases same
  · next same =>
    cases same
    exact absurd rfl (unpublished _ _ _ _)
  · rfl

theorem Unpublished.publisher? (unpublished : Unpublished input) : system.publisher? (.conn id input) = none := by
  unfold System.publisher?
  split
  · next same =>
    cases same
    exact absurd rfl (unpublished _ _ _ _)
  · rfl

theorem emptied?_of_busy (found : system.conns[id]? = some conn) (busy : ∀ held, conn.phase ≠ .flush held) :
    system.emptied? (.conn id input) = none := by
  unfold System.emptied?
  split
  · next same =>
    cases same
    rw [System.phase?_of_found found]
    split
    · next held waiting => exact absurd (Option.some.inj waiting) (busy held)
    · rfl
  · rfl

def System.charge (system : System maxSessions maxSubs maxInflight maxRetained) (label : Label)
    (slot : SessionId) (session : SessionState maxSubs maxInflight) : SessionState maxSubs maxInflight :=
  match system.publisher? label with
  | some (_, publishing, now) => if slot = publishing then session.charge now else session
  | none => session

theorem charge_of_unpublished (unpublished : system.publisher? label = none)
    (session : SessionState maxSubs maxInflight) : system.charge label slot session = session := by
  simp [System.charge, unpublished]

structure Effect (env : Env) (system : System maxSessions maxSubs maxInflight maxRetained) (label : Label)
    (slot : SessionId) (old session : SessionState maxSubs maxInflight) : Prop where
  rate : session.rate = (system.charge label slot old).rate
  emptied : system.emptied? label = some slot →
    session.outboxDrops = 0 ∧ session.quarantined = old.quarantined
  counted : system.emptied? label ≠ some slot → DropCounted gatomqttConfig.maxOutboxDrops
    (slot ∈ system.routedTo env label ∧ old.Full) (system.charge label slot old) session

theorem Effect.of_steady (steady : Steady old session) (unrouted : system.routedTo env label = [])
    (unpublished : system.publisher? label = none) (unemptied : system.emptied? label ≠ some slot) :
    Effect env system label slot old session := by
  have same : system.charge label slot old = old := charge_of_unpublished unpublished old
  refine ⟨?_, fun emptied => absurd emptied unemptied, fun _ => ?_⟩
  · rw [same, steady.rate]
  · rw [same, unrouted]
    exact steady.counted (by simp)

theorem outbound_effect {publish : MqttPublish} {now : Instant}
    (found : system.broker.registry.get slot = some old)
    (kept : (processOutboundPublish env.codec system.broker publish now).1.registry.get slot = some session) :
    Effect env system (.outbound publish now) slot old session := by
  suffices counted : DropCounted gatomqttConfig.maxOutboxDrops
      (slot ∈ system.routedTo env (.outbound publish now) ∧ old.Full) old session from
    ⟨counted.rate, fun emptied => (by cases emptied), fun _ => counted⟩
  cases retained : retain system.broker.retained publish.message with
  | error error =>
    simp only [processOutboundPublish, retained] at kept
    rw [found] at kept
    cases kept
    simp only [System.routedTo, retained]
    exact (Steady.refl old).counted (by simp)
  | ok store =>
    rw [processOutboundPublish_eq env.codec now retained] at kept
    obtain ⟨after, reached, counted⟩ := broadcastAll_counted found
    rw [kept] at reached
    cases reached
    simp only [System.routedTo, retained]
    exact counted

theorem publish_effect {publish : Publish} {activityNow now : Instant} {accepts : Bool}
    {result : Result maxSessions maxSubs maxInflight maxRetained} (present : system.conns[id]? = some conn)
    (stepped : connStep env system.broker id conn (.packet (.publish publish) activityNow now accepts) =
      some result)
    (found : system.broker.registry.get slot = some old)
    (kept : result.broker.registry.get slot = some session) :
    Effect env system (.conn id (.packet (.publish publish) activityNow now accepts)) slot old session := by
  obtain ⟨held, timer, waiting, reached, _⟩ := connStep_publish stepped
  have phase : system.phase? id = some (.select held timer) := by
    rw [System.phase?_of_found present, waiting]
  have routed : system.routedTo env (.conn id (.packet (.publish publish) activityNow now accepts)) =
      (publishStep env system.broker held publish activityNow now accepts).1.offered := by
    simp [System.routedTo, phase]
  have charged : system.charge (.conn id (.packet (.publish publish) activityNow now accepts)) slot old =
      if slot = held then old.charge now else old := by
    simp [System.charge, System.publisher?, phase]
  suffices counted : DropCounted gatomqttConfig.maxOutboxDrops
      (slot ∈ (publishStep env system.broker held publish activityNow now accepts).1.offered ∧ old.Full)
      (if slot = held then old.charge now else old) session by
    refine ⟨?_, fun emptied => (by cases emptied), fun _ => ?_⟩
    · rw [charged, counted.rate]
    · rwa [charged, routed]
  rw [reached] at kept
  cases owner : system.broker.registry.get held with
  | none =>
    have elsewhere : slot ≠ held := by
      rintro rfl
      rw [found] at owner
      cases owner
    simp only [publishStep, owner] at kept ⊢
    rw [found] at kept
    cases kept
    rw [if_neg elsewhere]
    exact (Steady.refl old).counted (by simp)
  | some sender =>
    obtain ⟨after, stored, counted⟩ := publishStep_counted owner found
    rw [kept] at stored
    cases stored
    exact counted

theorem flush_effect {held : SessionId} {result : Result maxSessions maxSubs maxInflight maxRetained}
    (present : system.conns[id]? = some conn) (waiting : conn.phase = .flush held)
    (stepped : connStep env system.broker id conn input = some result)
    (found : system.broker.registry.get slot = some old)
    (kept : result.broker.registry.get slot = some session) :
    Effect env system (.conn id input) slot old session := by
  obtain ⟨rfl, reached, _⟩ := connStep_flush waiting stepped
  rw [reached] at kept
  have unpublished : Unpublished .lock := by simp [Unpublished]
  have phase : system.phase? id = some (.flush held) := by
    rw [System.phase?_of_found present, waiting]
  cases owner : system.broker.registry.get held with
  | none =>
    have unemptied : system.emptied? (.conn id .lock) ≠ some slot := by
      simp [System.emptied?, phase, owner]
    simp only [flushStep, owner] at kept
    rw [found] at kept
    cases kept
    exact .of_steady (.refl old) unpublished.routedTo unpublished.publisher? unemptied
  | some target =>
    simp only [flushStep, owner] at kept
    split at kept
    · next drained =>
      have empty := Bounded.popFront_eq_none.mp drained
      have emptied : system.emptied? (.conn id .lock) = some held := by
        simp [System.emptied?, phase, owner, empty]
      rw [SessionRegistry.get_put owner] at kept
      split at kept
      · next here =>
        subst here
        rw [owner] at found
        cases found
        cases kept
        refine ⟨?_, fun _ => ⟨rfl, rfl⟩, fun unemptied => absurd emptied unemptied⟩
        rw [charge_of_unpublished unpublished.publisher?]
      · next elsewhere =>
        rw [found] at kept
        cases kept
        refine .of_steady (.refl old) unpublished.routedTo unpublished.publisher? ?_
        rw [emptied]
        simpa using Ne.symm elsewhere
    · next packet outbox front =>
      have filled := Bounded.popFront_eq_some.mp front
      have unemptied : system.emptied? (.conn id .lock) ≠ some slot := by
        simp [System.emptied?, phase, owner, filled]
      refine .of_steady ?_ unpublished.routedTo unpublished.publisher? unemptied
      rw [SessionRegistry.get_put owner] at kept
      split at kept
      · next here =>
        subst here
        rw [owner] at found
        cases found
        cases kept
        exact ⟨rfl, rfl, rfl⟩
      · rw [found] at kept
        cases kept
        exact .refl old

theorem step_effect (taken : System.step env system label = some (next, new)) (unread : ¬ label.Connects)
    (found : system.broker.registry.get slot = some old)
    (kept : next.broker.registry.get slot = some session) : Effect env system label slot old session := by
  cases label with
  | spawn =>
    cases taken
    rw [found] at kept
    cases kept
    exact .of_steady (.refl old) rfl rfl (by simp [System.emptied?])
  | outbound publish now =>
    cases taken
    exact outbound_effect found kept
  | conn id input =>
    by_cases published : Unpublished input
    · have unrouted : system.routedTo env (.conn id input) = [] := published.routedTo
      obtain ⟨conn, result, present, stepped, reached, _⟩ := step_conn taken
      by_cases flushes : ∃ held, conn.phase = .flush held
      · obtain ⟨held, waiting⟩ := flushes
        rw [reached] at kept
        exact flush_effect present waiting stepped found kept
      · have unemptied : system.emptied? (.conn id input) ≠ some slot := by
          simp [emptied?_of_busy present fun held waiting => flushes ⟨held, waiting⟩]
        refine .of_steady ?_ unrouted published.publisher? unemptied
        cases step_transition taken with
        | connected => exact absurd ⟨_, _, _, rfl⟩ unread
        | @removed _ _ _ gone =>
          simp only [removeStep, SessionRegistry.get_remove] at kept
          split at kept
          · cases kept
          · rw [found] at kept
            cases kept
            exact .refl old
        | ordinary stored turn ordinary =>
          rw [present] at stored
          cases stored
          have steady := ordinary.steady turn (fun held waiting => flushes ⟨held, waiting⟩) published
          obtain ⟨after, reached, same⟩ := steady.present slot old found
          rw [kept] at reached
          cases reached
          exact same
    · simp only [Unpublished, not_forall, not_not] at published
      obtain ⟨publish, activityNow, now, accepts, rfl⟩ := published
      obtain ⟨conn, result, present, stepped, rfl, _⟩ := step_conn taken
      exact publish_effect present stepped found kept

end

end PicoBroker
