import PicoBroker.Broker.Steps

set_option autoImplicit false

namespace PicoBroker

open Execution (Run)

variable {maxSessions maxSubs maxInflight maxRetained : Nat} {env : Env}

section

variable {conns : List Conn} {id other : Nat} {conn before after : Conn}

theorem conn_of_set (found : conns[id]? = some before) (present : (conns.set id after)[other]? = some conn) :
    other = id ∧ conn = after ∨ other ≠ id ∧ conns[other]? = some conn := by
  by_cases same : other = id
  · subst same
    obtain ⟨inside, _⟩ := List.getElem?_eq_some_iff.mp found
    rw [List.getElem?_set_self inside] at present
    cases present
    exact .inl ⟨rfl, rfl⟩
  · rw [List.getElem?_set_ne (Ne.symm same)] at present
    exact .inr ⟨same, present⟩

theorem conn_of_spawn (present : (conns ++ [after])[other]? = some conn) :
    conns[other]? = some conn ∨ conn = after := by
  by_cases inside : other < conns.length
  · rw [List.getElem?_append_left inside] at present
    exact .inl present
  · rw [List.getElem?_append_right (Nat.le_of_not_lt inside)] at present
    exact .inr (List.mem_singleton.mp (List.mem_of_getElem? present))

end

def Remembered (conns : List Conn) (slot : SessionId) : Prop :=
  ∃ (id : Nat) (conn : Conn), conns[id]? = some conn ∧ conn.phase.slot? = some slot

instance (conns : List Conn) (slot : SessionId) : Decidable (Remembered conns slot) :=
  decidable_of_iff (∃ conn ∈ conns, conn.phase.slot? = some slot) <| by
    simp only [Remembered, List.mem_iff_getElem?]
    tauto

def Unique (conns : List Conn) : Prop :=
  ∀ (left right : Nat) (first second : Conn) slot, conns[left]? = some first →
    conns[right]? = some second → first.phase.slot? = some slot → second.phase.slot? = some slot → left = right

theorem Unique.set {conns : List Conn} {id : Nat} {conn after : Conn} (unique : Unique conns)
    (found : conns[id]? = some conn)
    (slots : ∀ held, after.phase.slot? = some held →
      conn.phase.slot? = some held ∨ ¬ Remembered conns held) : Unique (conns.set id after) := by
  have alone (other : Nat) (owner : Conn) (held : SessionId) (present : conns[other]? = some owner)
      (theirs : owner.phase.slot? = some held) (mine : after.phase.slot? = some held) : other = id := by
    rcases slots held mine with before | fresh
    · exact unique other id owner conn held present found theirs before
    · exact absurd ⟨other, owner, present, theirs⟩ fresh
  intro left right first second slot leftAt rightAt leftHolds rightHolds
  rcases conn_of_set found leftAt with ⟨rfl, rfl⟩ | ⟨_, leftOld⟩
  · rcases conn_of_set found rightAt with ⟨rfl, _⟩ | ⟨_, rightOld⟩
    · rfl
    · exact (alone right second slot rightOld rightHolds leftHolds).symm
  · rcases conn_of_set found rightAt with ⟨rfl, rfl⟩ | ⟨_, rightOld⟩
    · exact alone left first slot leftOld leftHolds rightHolds
    · exact unique left right first second slot leftOld rightOld leftHolds rightHolds

theorem Unique.spawn {conns : List Conn} (unique : Unique conns) : Unique (conns ++ [⟨.awaitConnect, none⟩]) := by
  intro left right first second slot leftAt rightAt leftHolds rightHolds
  rcases conn_of_spawn leftAt with leftOld | rfl
  · rcases conn_of_spawn rightAt with rightOld | rfl
    · exact unique left right first second slot leftOld rightOld leftHolds rightHolds
    · cases rightHolds
  · cases leftHolds

section

variable {system next : System maxSessions maxSubs maxInflight maxRetained} {label : Label} {new : List Event}

-- A slot is shared from the moment a CONNECT is given one that a loop still remembers.
theorem Unique.step (unique : Unique system.conns)
    (unclaimed : ∀ connect ∈ label.connect?, Admissible connect.2 env.houseToken →
      ∀ slot ∈ claimedSlot system.broker.registry connect.2, ¬ Remembered system.conns slot)
    (taken : System.step env system label = some (next, new)) : Unique next.conns := by
  cases step_transition taken with
  | spawned => exact unique.spawn
  | outbound _ => exact unique
  | connected found _ connected =>
    cases connected with
    | accepted admission _ =>
      refine unique.set found fun held owns => .inr ?_
      cases owns
      exact unclaimed _ rfl admission.admissible_of_accepted _ admission.accepted.claimed
    | refused _ _ left =>
      refine unique.set found fun held owns => ?_
      rw [left] at owns
      cases owns
  | removed found _ => exact unique.set found fun held owns => by cases owns
  | ordinary found _ ordinary =>
    refine unique.set found fun held owns => .inl ?_
    rcases ordinary.slot with same | ⟨closed, _⟩
    · rw [← same, owns]
    · rw [closed] at owns
      cases owns

-- A loop in its main part was there before the step, or is accepted in it.
theorem step_serving (taken : System.step env system label = some (next, new)) {id : Nat} {conn : Conn}
    {slot : SessionId} (found : next.conns[id]? = some conn) (serving : conn.phase.serving? = some slot) :
    (∃ before, system.conns[id]? = some before ∧ before.phase.serving? = some slot) ∨
      ∃ before packet now, system.conns[id]? = some before ∧ before.phase = .awaitConnect ∧
        label = .conn id (.firstPacket (.connect packet) now) := by
  cases step_transition taken with
  | spawned =>
    rcases conn_of_spawn found with old | rfl
    · exact .inl ⟨conn, old, serving⟩
    · cases serving
  | outbound _ => exact .inl ⟨conn, found, serving⟩
  | @connected _ _ _ reading _ stepping waiting _ =>
    rcases conn_of_set stepping found with ⟨rfl, _⟩ | ⟨_, old⟩
    · exact .inr ⟨reading, _, _, stepping, waiting, rfl⟩
    · exact .inl ⟨conn, old, serving⟩
  | removed stepping _ =>
    rcases conn_of_set stepping found with ⟨_, rfl⟩ | ⟨_, old⟩
    · cases serving
    · exact .inl ⟨conn, old, serving⟩
  | @ordinary _ _ moving _ stepping _ ordinary =>
    rcases conn_of_set stepping found with ⟨rfl, rfl⟩ | ⟨_, old⟩
    · exact .inl ⟨moving, stepping, ordinary.serving slot serving⟩
    · exact .inl ⟨conn, old, serving⟩

-- A step of another loop, or of none.
theorem conn_before {id : Nat} {conn : Conn} (taken : System.step env system label = some (next, new))
    (other : ∀ input, label ≠ .conn id input) (found : next.conns[id]? = some conn) :
    system.conns[id]? = some conn ∨ conn.phase = .awaitConnect := by
  cases label with
  | spawn =>
    cases taken
    rcases conn_of_spawn found with old | rfl
    · exact .inl old
    · exact .inr rfl
  | outbound publish now =>
    cases taken
    exact .inl found
  | conn moving input =>
    obtain ⟨_, _, stepping, _, rfl, _⟩ := step_conn taken
    rcases conn_of_set stepping found with ⟨rfl, _⟩ | ⟨_, old⟩
    · exact absurd rfl (other input)
    · exact .inl old

theorem conn_after {id : Nat} {conn : Conn} (taken : System.step env system label = some (next, new))
    (other : ∀ input, label ≠ .conn id input) (found : system.conns[id]? = some conn) :
    next.conns[id]? = some conn := by
  cases label with
  | spawn =>
    cases taken
    exact (List.getElem?_append_left (List.getElem?_eq_some_iff.mp found).1).trans found
  | outbound publish now =>
    cases taken
    exact found
  | conn moving input =>
    obtain ⟨_, _, _, _, rfl, _⟩ := step_conn taken
    refine (List.getElem?_set_ne ?_).trans found
    rintro rfl
    exact other input rfl

theorem step_started {id : Nat} {input : Input} (taken : System.step env system (.conn id input) = some (next, new))
    (unread : ¬ (Label.conn id input).Connects) :
    ∃ conn, next.conns[id]? = some conn ∧ conn.phase ≠ .awaitConnect := by
  cases step_transition taken with
  | connected => exact absurd ⟨_, _, _, rfl⟩ unread
  | removed found => exact ⟨_, conns_set_self found _, by simp⟩
  | ordinary found _ ordinary => exact ⟨_, conns_set_self found _, ordinary.started⟩

end

structure Joined (events : List Event) (conns : List Conn) : Prop where
  known : ∀ id slot clientId, .accepted id slot clientId ∈ events → ∃ conn packet,
    conns[id]? = some conn ∧ conn.phase ≠ .awaitConnect ∧ conn.accepted = some packet ∧
      packet.clientId = clientId ∧ ∀ held, conn.phase.slot? = some held → held = slot
  shown : ∀ (id : Nat) (conn : Conn) slot, conns[id]? = some conn → conn.phase.slot? = some slot →
    ∃ packet, conn.accepted = some packet ∧ .accepted id slot packet.clientId ∈ events

theorem not_accepted_of_quiet {new : List Event} (quiet : ∀ event ∈ new, ¬ Bookkeeping event) (id : Nat)
    (slot : SessionId) (clientId : Bytes) : .accepted id slot clientId ∉ new :=
  fun member => quiet _ member trivial

-- A step of one loop that was not accepted in it.
theorem Joined.set {events new : List Event} {conns : List Conn} {id : Nat} {conn after : Conn}
    (joined : Joined events conns) (found : conns[id]? = some conn)
    (continues : conn.phase = .awaitConnect ∨
      after.accepted = conn.accepted ∧ after.phase ≠ .awaitConnect)
    (slots : ∀ held, after.phase.slot? = some held → conn.phase.slot? = some held)
    (quiet : ∀ id slot clientId, .accepted id slot clientId ∉ new) :
    Joined (events ++ new) (conns.set id after) where
  known other slot clientId member := by
    have earlier := (List.mem_append.mp member).resolve_right (quiet other slot clientId)
    obtain ⟨owner, packet, present, started, accepted, same, holds⟩ := joined.known _ _ _ earlier
    by_cases here : other = id
    · subst here
      rw [found] at present
      cases present
      obtain ⟨sameAccepted, startedAfter⟩ := continues.resolve_left started
      obtain ⟨inside, _⟩ := List.getElem?_eq_some_iff.mp found
      exact ⟨after, packet, List.getElem?_set_self inside, startedAfter, sameAccepted.trans accepted, same,
        fun held owns => holds held (slots held owns)⟩
    · exact ⟨owner, packet, by rw [List.getElem?_set_ne (Ne.symm here), present], started, accepted, same,
        holds⟩
  shown other owner slot present owns := by
    rcases conn_of_set found present with ⟨rfl, rfl⟩ | ⟨_, unchanged⟩
    · obtain ⟨packet, accepted, member⟩ := joined.shown other conn slot found (slots slot owns)
      obtain ⟨sameAccepted, _⟩ := continues.resolve_left (started_of_slot? (slots slot owns))
      exact ⟨packet, sameAccepted.trans accepted, List.mem_append_left _ member⟩
    · obtain ⟨packet, accepted, member⟩ := joined.shown other owner slot unchanged owns
      exact ⟨packet, accepted, List.mem_append_left _ member⟩

theorem Joined.accept {events tail : List Event} {conns : List Conn} {id : Nat} {conn : Conn}
    {packet : Connect} {slot : SessionId} {phase : Phase} (joined : Joined events conns)
    (found : conns[id]? = some conn) (waiting : conn.phase = .awaitConnect)
    (holds : phase.slot? = some slot) (quiet : ∀ id slot clientId, .accepted id slot clientId ∉ tail) :
    Joined (events ++ .accepted id slot packet.clientId :: tail) (conns.set id ⟨phase, some packet⟩) where
  known other held clientId member := by
    obtain ⟨inside, _⟩ := List.getElem?_eq_some_iff.mp found
    rcases List.mem_append.mp member with earlier | now
    · obtain ⟨owner, first, present, started, rest⟩ := joined.known _ _ _ earlier
      refine ⟨owner, first, ?_, started, rest⟩
      rw [List.getElem?_set_ne, present]
      rintro rfl
      rw [found] at present
      cases present
      exact started waiting
    · rcases List.mem_cons.mp now with same | later
      · cases same
        refine ⟨⟨phase, some packet⟩, packet, List.getElem?_set_self inside, started_of_slot? holds, rfl, rfl, ?_⟩
        intro other owns
        rw [holds] at owns
        cases owns
        rfl
      · exact absurd later (quiet other held clientId)
  shown other owner held present owns := by
    rcases conn_of_set found present with ⟨rfl, rfl⟩ | ⟨_, unchanged⟩
    · rw [holds] at owns
      cases owns
      exact ⟨packet, rfl, by simp⟩
    · obtain ⟨first, accepted, member⟩ := joined.shown other owner held unchanged owns
      exact ⟨first, accepted, List.mem_append_left _ member⟩

-- What follows the `accepted` event in the step that shows it.
theorem not_accepted_in_tail (outcome : ConnectOutcome) (id : Nat) (slot : SessionId) (clientId : Bytes) :
    .accepted id slot clientId ∉ (if outcome.sessionPresent then [] else [.created outcome.sessionId]) ++
      outcome.displacedLwt.toList.map Event.displaced := by
  intro member
  rcases List.mem_append.mp member with created | displaced
  · split at created
    · cases created
    · simp at created
  · obtain ⟨_, _, same⟩ := List.mem_map.mp displaced
    cases same

theorem step_joined {events new : List Event} {label : Label}
    {system next : System maxSessions maxSubs maxInflight maxRetained} (joined : Joined events system.conns)
    (taken : System.step env system label = some (next, new)) : Joined (events ++ new) next.conns := by
  cases step_transition taken with
  | spawned =>
    rw [List.append_nil]
    refine ⟨fun id slot clientId member => ?_, fun id conn slot present owns => ?_⟩
    · obtain ⟨conn, packet, found, rest⟩ := joined.known id slot clientId member
      obtain ⟨inside, _⟩ := List.getElem?_eq_some_iff.mp found
      exact ⟨conn, packet, by rw [List.getElem?_append_left inside, found], rest⟩
    · rcases conn_of_spawn present with old | rfl
      · exact joined.shown id conn slot old owns
      · cases owns
  | @outbound _ _ broker _ =>
    have quiet : ∀ id slot clientId, .accepted id slot clientId ∉
        routedEvents system.broker.registry broker.registry :=
      not_accepted_of_quiet fun _ member => (routedEvents_routing member).quiet.1
    refine ⟨fun id slot clientId member => ?_, fun id conn slot present owns => ?_⟩
    · exact joined.known id slot clientId ((List.mem_append.mp member).resolve_right (quiet id slot clientId))
    · obtain ⟨packet, accepted, member⟩ := joined.shown id conn slot present owns
      exact ⟨packet, accepted, List.mem_append_left _ member⟩
  | connected found waiting connected =>
    cases connected with
    | accepted admission _ => exact joined.accept found waiting rfl (not_accepted_in_tail _)
    | refused _ _ left =>
      refine joined.set found (.inl waiting) (fun held owns => ?_)
        (fun _ _ _ => not_mem_createdEvents (by simp))
      rw [left] at owns
      cases owns
  | removed found _ =>
    exact joined.set found (.inr ⟨rfl, by simp⟩) (fun held owns => by cases owns) (by simp)
  | ordinary found _ ordinary =>
    refine joined.set found (.inr ⟨ordinary.accepted, ordinary.started⟩) (fun held owns => ?_)
      (not_accepted_of_quiet ordinary.quiet)
    rcases ordinary.slot with same | ⟨closed, _⟩
    · rw [← same, owns]
    · rw [closed] at owns
      cases owns

theorem joined_new : Joined [] [] := ⟨by simp, by simp⟩

end PicoBroker
