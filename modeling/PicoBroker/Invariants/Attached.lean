import PicoBroker.Invariants.ClientIds
import PicoBroker.Invariants.Ownership

set_option autoImplicit false

namespace PicoBroker

open Execution (Run)

variable {maxSessions maxSubs maxInflight maxRetained : Nat} {env : Env}

-- No CONNECT reuses the client id of a connection that is still running.
def Unreused (system : System maxSessions maxSubs maxInflight maxRetained) (label : Label) : Prop :=
  ∀ connect ∈ label.connect?, ∀ conn ∈ system.conns, conn.phase.slot? ≠ none →
    ∀ packet ∈ conn.accepted, packet.clientId ≠ connect.2.clientId

instance (system : System maxSessions maxSubs maxInflight maxRetained) (label : Label) :
    Decidable (Unreused system label) :=
  inferInstanceAs (Decidable (∀ connect ∈ label.connect?, _))

structure Attached (system : System maxSessions maxSubs maxInflight maxRetained) : Prop where
  identified : Identified system.broker.registry
  unique : Unique system.conns
  session : ∀ (id : Nat) (conn : Conn) slot, system.conns[id]? = some conn → conn.phase.slot? = some slot →
    ∃ packet session, conn.accepted = some packet ∧ system.broker.registry.get slot = some session ∧
      session.clientId.items = packet.clientId

-- A CONNECT leaves the sessions of other clients alone, also when it fails.
theorem Admission.get_other {registry after : SessionRegistry maxSessions maxSubs maxInflight}
    {packet : Connect} {houseToken : HouseToken} {result : Except ConnectError PreparedConnect}
    (admission : Admission registry packet houseToken after result) {slot : SessionId}
    {session : SessionState maxSubs maxInflight} (present : registry.get slot = some session)
    (other : session.clientId.items ≠ packet.clientId) : after.get slot = some session := by
  have undisplaced : (displace registry packet.clientId).2.get slot = some session := by
    rw [get_displace, if_neg, present]
    intro found
    obtain ⟨known, stored, same⟩ := SessionRegistry.findByClientId_eq_some found
    rw [present] at stored
    cases stored
    exact other same
  have inserted {id : SessionId} (state : SessionState maxSubs maxInflight)
      (free : (displace registry packet.clientId).2.slots.firstFree = some id) :
      ((displace registry packet.clientId).2.slots.set id (some state)).get slot = some session := by
    obtain ⟨_, empty, _⟩ := SessionRegistry.firstFree_eq_some.mp free
    rw [Slots.get_set_ne]
    · exact undisplaced
    · rintro rfl
      rw [undisplaced] at empty
      cases empty
  cases admission with
  | refused | badWill | unavailable => exact present
  | resumed _ resumed found =>
    rw [SessionRegistry.get_put_ne]
    · exact present
    · rintro rfl
      obtain ⟨known, stored, same⟩ := SessionRegistry.findByClientId_eq_some (resumable_eq_some resumed).2
      rw [present] at stored
      cases stored
      exact other same
  | invalid => exact undisplaced
  | unrecorded _ _ free => exact inserted _ free
  | created _ _ free => exact inserted _ free

section

variable {system next : System maxSessions maxSubs maxInflight maxRetained} {label : Label} {new : List Event}

-- The slot a CONNECT is given is free or holds a session of its client.
theorem claimedSlot_cases {registry : SessionRegistry maxSessions maxSubs maxInflight} {packet : Connect}
    {slot : SessionId} (claimed : claimedSlot registry packet = some slot) :
    registry.get slot = none ∨ registry.findByClientId packet.clientId = some slot := by
  unfold claimedSlot at claimed
  split at claimed
  · exact .inl (SessionRegistry.firstFree_eq_some.mp claimed).2.1
  · next existing found =>
    split at claimed
    · obtain ⟨_, free, _⟩ := Slots.firstFree_eq_some.mp claimed
      by_cases same : slot = existing
      · rw [same]
        exact .inr found
      · rw [Slots.get_set_ne _ _ same] at free
        exact .inl free
    · rw [← claimed]
      exact .inr found

theorem Attached.not_remembered (attached : Attached system) {packet : Connect} {slot : SessionId}
    (unreused : ∀ conn ∈ system.conns, conn.phase.slot? ≠ none →
      ∀ accepted ∈ conn.accepted, accepted.clientId ≠ packet.clientId)
    (claimed : claimedSlot system.broker.registry packet = some slot) : ¬ Remembered system.conns slot := by
  rintro ⟨id, conn, found, holds⟩
  obtain ⟨accepted, session, acceptedAs, present, owner⟩ := attached.session id conn slot found holds
  rcases claimedSlot_cases claimed with free | known
  · rw [present] at free
    cases free
  · obtain ⟨stored, storedAt, same⟩ := SessionRegistry.findByClientId_eq_some known
    rw [present] at storedAt
    cases storedAt
    exact unreused conn (List.mem_of_getElem? found) (by simp [holds]) accepted acceptedAs (owner.symm.trans same)

-- A loop goes on, or ends, and the sessions of all loops that still run stay what they are.
theorem Attached.set (attached : Attached system) {id : Nat} {conn after : Conn}
    {broker : Broker maxSessions maxSubs maxInflight maxRetained} (found : system.conns[id]? = some conn)
    (identified : Identified broker.registry)
    (slots : ∀ held, after.phase.slot? = some held →
      conn.phase.slot? = some held ∨ ¬ Remembered system.conns held)
    (own : ∀ slot, after.phase.slot? = some slot → ∃ packet session, after.accepted = some packet ∧
      broker.registry.get slot = some session ∧ session.clientId.items = packet.clientId)
    (others : ∀ (other : Nat) (owner : Conn) slot packet session, other ≠ id → system.conns[other]? = some owner →
      owner.phase.slot? = some slot → owner.accepted = some packet →
      system.broker.registry.get slot = some session → session.clientId.items = packet.clientId →
      ∃ kept, broker.registry.get slot = some kept ∧ kept.clientId = session.clientId) :
    Attached ⟨broker, system.conns.set id after⟩ where
  identified := identified
  unique := attached.unique.set found slots
  session other owner slot present holds := by
    rcases conn_of_set found present with ⟨rfl, rfl⟩ | ⟨different, old⟩
    · exact own slot holds
    · obtain ⟨packet, session, accepted, stored, named⟩ := attached.session other owner slot old holds
      obtain ⟨kept, keptAt, same⟩ := others other owner slot packet session different old holds accepted stored named
      exact ⟨packet, kept, accepted, keptAt, by rw [same, named]⟩

theorem Attached.connected (attached : Attached system) {id : Nat} {packet : Connect} {now : Instant} {conn : Conn}
    {result : Result maxSessions maxSubs maxInflight maxRetained} (found : system.conns[id]? = some conn)
    (unreused : ∀ conn ∈ system.conns, conn.phase.slot? ≠ none →
      ∀ accepted ∈ conn.accepted, accepted.clientId ≠ packet.clientId)
    (connected : Connected env system.broker id packet now result) :
    Attached ⟨result.broker, system.conns.set id result.conn⟩ := by
  have elsewhere {after : SessionRegistry maxSessions maxSubs maxInflight}
      {result : Except ConnectError PreparedConnect}
      (admission : Admission system.broker.registry packet env.houseToken after result) (other : Nat) (owner : Conn)
      (slot : SessionId) (accepted : Connect) (session : SessionState maxSubs maxInflight)
      (present : system.conns[other]? = some owner) (holds : owner.phase.slot? = some slot)
      (acceptedAs : owner.accepted = some accepted) (stored : system.broker.registry.get slot = some session)
      (named : session.clientId.items = accepted.clientId) : after.get slot = some session := by
    refine admission.get_other stored ?_
    rw [named]
    exact unreused owner (List.mem_of_getElem? present) (by simp [holds]) accepted acceptedAs
  cases connected with
  | @accepted registry outcome session signals admission present =>
    have accepted := admission.accepted
    have fresh := attached.not_remembered unreused accepted.claimed
    refine attached.set found ((attached.identified.admission admission).put present rfl) ?_ ?_ ?_
    · rintro held ⟨⟩
      exact .inr fresh
    · rintro slot ⟨⟩
      obtain ⟨stored, storedAt, named⟩ := accepted.present
      rw [present] at storedAt
      cases storedAt
      exact ⟨packet, _, rfl, SessionRegistry.get_put_self present _, named⟩
    · intro other owner slot theirs old _ present' holds acceptedAs stored named
      have kept := elsewhere admission other owner slot theirs old present' holds acceptedAs stored named
      refine ⟨old, ?_, rfl⟩
      rw [SessionRegistry.get_put_ne]
      · exact kept
      · rintro rfl
        exact fresh ⟨other, owner, present', holds⟩
  | refused admission failed left =>
    refine attached.set found (attached.identified.admission admission) ?_ ?_ ?_
    · intro held holds
      rw [left] at holds
      cases holds
    · intro held holds
      rw [left] at holds
      cases holds
    · intro other owner slot theirs old _ present holds acceptedAs stored named
      exact ⟨old, elsewhere admission other owner slot theirs old present holds acceptedAs stored named, rfl⟩

theorem Attached.removed (attached : Attached system) {id : Nat} {conn : Conn} {slot : SessionId}
    (found : system.conns[id]? = some conn) (waiting : conn.phase = .removeSession slot) :
    Attached ⟨removeStep system.broker slot, system.conns.set id { conn with phase := .closed }⟩ := by
  refine attached.set found (attached.identified.remove slot) (by simp [Phase.slot?]) (by simp [Phase.slot?]) ?_
  intro other owner held packet session different present holds _ stored _
  refine ⟨session, ?_, rfl⟩
  have apart : held ≠ slot := by
    rintro rfl
    exact different (attached.unique other id owner conn held present found holds (by rw [waiting]; rfl))
  rw [removeStep, SessionRegistry.get_remove, if_neg apart, stored]

theorem Attached.ordinary (attached : Attached system) {id : Nat} {input : Input} {conn : Conn}
    {result : Result maxSessions maxSubs maxInflight maxRetained} (found : system.conns[id]? = some conn)
    (ordinary : Ordinary env system.broker id conn input result) :
    Attached ⟨result.broker, system.conns.set id result.conn⟩ := by
  have same (held : SessionId) (holds : result.conn.phase.slot? = some held) : conn.phase.slot? = some held := by
    rcases ordinary.slot with same | ⟨closed, _⟩
    · rw [← same, holds]
    · rw [closed] at holds
      cases holds
  refine attached.set found (attached.identified.of_maps ordinary.keeps) (fun held holds => .inl (same held holds))
    ?_ ?_
  · intro slot holds
    obtain ⟨packet, session, accepted, stored, named⟩ := attached.session id conn slot found (same slot holds)
    obtain ⟨kept, keptAt, keeps⟩ := ordinary.keeps.present slot session stored
    exact ⟨packet, kept, ordinary.accepted.trans accepted, keptAt, by rw [keeps.clientId, named]⟩
  · intro other owner slot packet session _ _ _ _ stored _
    obtain ⟨kept, keptAt, keeps⟩ := ordinary.keeps.present slot session stored
    exact ⟨kept, keptAt, keeps.clientId⟩

theorem Attached.step (attached : Attached system) (unreused : Unreused system label)
    (taken : System.step env system label = some (next, new)) : Attached next := by
  cases step_transition taken with
  | spawned =>
    refine ⟨attached.identified, attached.unique.spawn, ?_⟩
    intro id conn slot present holds
    rcases conn_of_spawn present with old | rfl
    · exact attached.session id conn slot old holds
    · cases holds
  | @outbound publish now broker sent =>
    have maps : Maps Keeps system.broker.registry broker.registry := by
      rw [sent]
      exact (processOutboundPublish_maps ..).mono fun _ _ routed => routed.keepsAll.toKeeps
    refine ⟨attached.identified.of_maps maps, attached.unique, ?_⟩
    intro id conn slot found holds
    obtain ⟨packet, session, accepted, stored, named⟩ := attached.session id conn slot found holds
    obtain ⟨kept, keptAt, keeps⟩ := maps.present slot session stored
    exact ⟨packet, kept, accepted, keptAt, by rw [keeps.clientId, named]⟩
  | connected found waiting connected => exact attached.connected found (unreused _ rfl) connected
  | removed found waiting => exact attached.removed found waiting
  | ordinary found _ ordinary => exact attached.ordinary found ordinary

theorem attached_new : Attached (System.new : System maxSessions maxSubs maxInflight maxRetained) where
  identified := identified_new
  unique := by simp [Unique, System.new]
  session := by simp [System.new]

end

end PicoBroker
