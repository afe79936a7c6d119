import PicoBroker.Broker.Admission

set_option autoImplicit false

namespace PicoBroker

variable {maxSessions maxSubs maxInflight : Nat}

-- The session in `existing` is the one this CONNECT would build, in the slot it would build it in.
def Rebuilds (registry : SessionRegistry maxSessions maxSubs maxInflight) (packet : Connect)
    (existing : SessionId) (session : SessionState maxSubs maxInflight) : Prop :=
  freshState packet = .ok session ∧ ∀ lower < existing, registry.get lower ≠ none

-- A takeover that fails after the old session is gone.
structure FailedTakeover (registry : SessionRegistry maxSessions maxSubs maxInflight) (packet : Connect)
    (houseToken : HouseToken) (existing : SessionId) (session : SessionState maxSubs maxInflight) : Prop where
  admissible : Admissible packet houseToken
  clean : packet.cleanSession = true
  found : registry.findByClientId packet.clientId = some existing
  present : registry.get existing = some session
  failing : ¬ WillFits packet ∨
    (session.lwt ≠ none ∧ registry.publishedLwts.items.length = maxSessions ∧
      ¬ Rebuilds registry packet existing session)

variable {registry : SessionRegistry maxSessions maxSubs maxInflight}

instance (packet : Connect) (existing : SessionId) (session : SessionState maxSubs maxInflight) :
    Decidable (Rebuilds registry packet existing session) :=
  inferInstanceAs (Decidable (_ ∧ _))

instance (packet : Connect) (houseToken : HouseToken) :
    Decidable (∃ existing session, FailedTakeover registry packet houseToken existing session) :=
  decidable_of_iff (Admissible packet houseToken ∧ packet.cleanSession = true ∧
      ∃ existing ∈ registry.findByClientId packet.clientId, ∃ session ∈ registry.get existing,
        ¬ WillFits packet ∨ (session.lwt ≠ none ∧ registry.publishedLwts.items.length = maxSessions ∧
          ¬ Rebuilds registry packet existing session))
    ⟨fun ⟨admissible, clean, existing, found, session, present, failing⟩ =>
        ⟨existing, session, admissible, clean, found, present, failing⟩,
      fun ⟨existing, session, takeover⟩ => ⟨takeover.admissible, takeover.clean, existing, takeover.found,
        session, takeover.present, takeover.failing⟩⟩

-- The client id fits whenever a session has it already.
theorem freshState_error {packet : Connect} {error : ConnectError}
    {session : SessionState maxSubs maxInflight} (same : session.clientId.items = packet.clientId)
    (invalid : (freshState packet : Except ConnectError (SessionState maxSubs maxInflight)) =
      .error error) : ¬ WillFits packet := by
  intro fits
  obtain ⟨lwt, ok⟩ := toLwt_ok_iff.mpr fits
  have converted : (Bounded.ofList? packet.clientId : Option ClientId) = some session.clientId :=
    Bounded.ofList?_eq_some.mpr same
  simp [freshState, toClientId, converted, ok] at invalid

theorem displace_ne {clientId : Bytes} {existing : SessionId}
    (found : registry.findByClientId clientId = some existing) :
    (displace registry clientId).2 ≠ registry := by
  obtain ⟨session, present, _⟩ := SessionRegistry.findByClientId_eq_some found
  intro same
  have emptied : (displace registry clientId).2.get existing = none := by
    rw [get_displace, if_pos found]
  rw [same, present] at emptied
  cases emptied

theorem displace_firstFree {clientId : Bytes} {existing : SessionId}
    (found : registry.findByClientId clientId = some existing) :
    (displace registry clientId).2.slots.firstFree = some existing ↔
      ∀ lower < existing, registry.get lower ≠ none := by
  obtain ⟨session, present, _⟩ := SessionRegistry.findByClientId_eq_some found
  have kept (lower : SessionId) (below : lower < existing) :
      (displace registry clientId).2.get lower = registry.get lower := by
    rw [get_displace, found, if_neg]
    simpa using Nat.ne_of_gt below
  rw [SessionRegistry.firstFree_eq_some]
  constructor
  · rintro ⟨_, _, taken⟩ lower below
    rw [← kept lower below]
    exact taken lower below
  · intro taken
    refine ⟨Slots.lt_of_get present, by rw [get_displace, if_pos found], ?_⟩
    intro lower below
    rw [kept lower below]
    exact taken lower below

-- A session without in-flight entries can be put back as if it had never been removed.
theorem displace_put_back {clientId : Bytes} {existing : SessionId}
    {session : SessionState maxSubs maxInflight}
    (found : registry.findByClientId clientId = some existing)
    (present : registry.get existing = some session) (idle : session.inflight.items = []) :
    { (displace registry clientId).2 with
        slots := (displace registry clientId).2.slots.set existing (some session) } = registry := by
  have emptied : (displace registry clientId).2 =
      { registry with slots := registry.slots.set existing none } := by
    simp [displace_of_found found present, SessionRegistry.remove, present, idle,
      SessionRegistry.releaseAll]
  rw [emptied]
  refine SessionRegistry.ext_get (fun other => ?_) rfl rfl rfl
  have inside := Slots.lt_of_get present
  by_cases here : other = existing
  · rw [here, present]
    exact Slots.get_set_self _ _ inside
  · exact (Slots.get_set_ne _ _ here).trans (Slots.get_set_ne _ _ here)

theorem unrecorded_unchanged {packet : Connect} {existing id : SessionId}
    {session state : SessionState maxSubs maxInflight}
    (found : registry.findByClientId packet.clientId = some existing)
    (present : registry.get existing = some session) (valid : freshState packet = .ok state)
    (free : (displace registry packet.clientId).2.slots.firstFree = some id) :
    { (displace registry packet.clientId).2 with
        slots := (displace registry packet.clientId).2.slots.set id (some state) } = registry ↔
      Rebuilds registry packet existing session := by
  obtain ⟨inside, empty, _⟩ := SessionRegistry.firstFree_eq_some.mp free
  constructor
  · intro same
    have rebuilt : registry.get id = some state := by
      rw [← same]
      exact Slots.get_set_self _ _ inside
    have sameSlot : existing = id := by
      rw [get_displace, found, rebuilt] at empty
      by_contra different
      simp [different] at empty
    subst sameSlot
    rw [present] at rebuilt
    cases rebuilt
    exact ⟨valid, (displace_firstFree found).mp free⟩
  · rintro ⟨built, below⟩
    rw [valid] at built
    cases built
    rw [(displace_firstFree found).mpr below] at free
    cases free
    obtain ⟨_, _, _, _, rfl⟩ := freshState_ok valid
    exact displace_put_back found present rfl

theorem no_takeover_of_unknown {packet : Connect} {houseToken : HouseToken}
    (unknown : registry.findByClientId packet.clientId = none) :
    ¬ ∃ existing session, FailedTakeover registry packet houseToken existing session := by
  rintro ⟨existing, session, takeover⟩
  have found := takeover.found
  rw [unknown] at found
  cases found

theorem no_takeover_of_resumable {packet : Connect} {houseToken : HouseToken} {existing : SessionId}
    (resumed : resumable registry packet = some existing) :
    ¬ ∃ existing session, FailedTakeover registry packet houseToken existing session := by
  rintro ⟨_, session, takeover⟩
  have clean := takeover.clean
  rw [(resumable_eq_some resumed).1] at clean
  cases clean

-- Only the full queue is left to fail once the new session was built.
theorem takeover_iff_of_built {packet : Connect} {houseToken : HouseToken} {existing : SessionId}
    {session state : SessionState maxSubs maxInflight} (admissible : Admissible packet houseToken)
    (fresh : resumable registry packet = none)
    (found : registry.findByClientId packet.clientId = some existing)
    (present : registry.get existing = some session) (valid : freshState packet = .ok state) :
    (∃ existing session, FailedTakeover registry packet houseToken existing session) ↔
      session.lwt ≠ none ∧ registry.publishedLwts.items.length = maxSessions ∧
        ¬ Rebuilds registry packet existing session := by
  constructor
  · rintro ⟨other, stored, takeover⟩
    have sameSlot := takeover.found
    rw [found] at sameSlot
    cases sameSlot
    have sameSession := takeover.present
    rw [present] at sameSession
    cases sameSession
    exact takeover.failing.resolve_left (not_not.mpr (willFits_of_freshState valid))
  · intro queueFull
    exact ⟨existing, session, admissible, clean_of_fresh fresh found, found, present, .inr queueFull⟩

theorem Admission.atomic_iff {after : SessionRegistry maxSessions maxSubs maxInflight} {packet : Connect}
    {houseToken : HouseToken} {result : Except ConnectError PreparedConnect}
    (admission : Admission registry packet houseToken after result) :
    (Failed result → after = registry) ↔
      ¬ ∃ existing session, FailedTakeover registry packet houseToken existing session := by
  cases admission with
  | refused code inadmissible =>
    exact iff_of_true (fun _ => rfl) fun ⟨_, _, takeover⟩ => inadmissible takeover.admissible
  | badWill _ resumed _ => exact iff_of_true (fun _ => rfl) (no_takeover_of_resumable resumed)
  | resumed _ resumed _ _ => exact iff_of_true False.elim (no_takeover_of_resumable resumed)
  | unavailable _ unknown _ => exact iff_of_true (fun _ => rfl) (no_takeover_of_unknown unknown)
  | invalid admissible fresh _ invalid =>
    cases found : registry.findByClientId packet.clientId with
    | none => exact iff_of_true (fun _ => by rw [displace_of_unknown found]) (no_takeover_of_unknown found)
    | some existing =>
      obtain ⟨session, present, same⟩ := SessionRegistry.findByClientId_eq_some found
      have takeover : FailedTakeover registry packet houseToken existing session :=
        ⟨admissible, clean_of_fresh fresh found, found, present, .inl (freshState_error same invalid)⟩
      exact iff_of_false (fun unchanged => displace_ne found (unchanged trivial))
        (not_not.mpr ⟨existing, session, takeover⟩)
  | unrecorded admissible fresh free valid displaced full =>
    obtain ⟨existing, session, found, present, will⟩ := displaced_of_some displaced
    rw [takeover_iff_of_built admissible fresh found present valid]
    simpa [Failed, will, full] using unrecorded_unchanged found present valid free
  | @created _ _ publishedLwts admissible fresh free valid recorded =>
    refine iff_of_true False.elim ?_
    cases found : registry.findByClientId packet.clientId with
    | none => exact no_takeover_of_unknown found
    | some existing =>
      obtain ⟨session, present, _⟩ := SessionRegistry.findByClientId_eq_some found
      rw [takeover_iff_of_built admissible fresh found present valid]
      rintro ⟨will, full, _⟩
      obtain ⟨lwt, displaced⟩ := Option.ne_none_iff_exists'.mp will
      have room := publishedLwts.fits
      rw [recorded, displace_of_found found present, displaced, List.length_append, full] at room
      simp only [Option.toList_some, List.length_singleton] at room
      omega

theorem prepareConnect_atomic_iff (registry : SessionRegistry maxSessions maxSubs maxInflight)
    (packet : Connect) (houseToken : HouseToken) :
    (Failed (prepareConnect registry packet houseToken).2 →
        (prepareConnect registry packet houseToken).1 = registry) ↔
      ¬ ∃ existing session, FailedTakeover registry packet houseToken existing session :=
  (prepareConnect_spec registry packet houseToken).atomic_iff

-- A takeover with a will topic of 129 bytes is an error, and the old session is gone.
theorem prepareConnect_not_atomic :
    let registry : SessionRegistry 4 4 4 :=
      (prepareConnect .new (houseConnect [97] true none) gatomqttToken).1
    let packet := houseConnect [97] true (some ⟨List.replicate 129 116, [], .atMostOnce, false⟩)
    Failed (prepareConnect registry packet gatomqttToken).2 ∧
      (prepareConnect registry packet gatomqttToken).1 ≠ registry := by
  decide +kernel

end PicoBroker
