import PicoBroker.Broker.Connect

set_option autoImplicit false

namespace PicoBroker

variable {maxSessions maxSubs maxInflight : Nat}

def Admissible (packet : Connect) (houseToken : HouseToken) : Prop :=
  packet.protocol = .mqtt311 ∧ packet.clientId ≠ [] ∧ matchesHouseToken packet houseToken = true

instance (packet : Connect) (houseToken : HouseToken) : Decidable (Admissible packet houseToken) :=
  inferInstanceAs (Decidable (_ ∧ _ ∧ _))

variable {registry : SessionRegistry maxSessions maxSubs maxInflight}

theorem freshState_ok {packet : Connect} {state : SessionState maxSubs maxInflight}
    (ok : freshState packet = .ok state) :
    ∃ clientId lwt, clientId.items = packet.clientId ∧ toLwt packet = .ok lwt ∧
      state = { SessionState.new clientId packet.keepAlive with lwt := lwt } := by
  unfold freshState toClientId at ok
  cases clientOk : (Bounded.ofList? packet.clientId : Option ClientId) with
  | none => simp [clientOk] at ok
  | some clientId =>
    simp only [clientOk] at ok
    split at ok
    · cases ok
    · next lwt lwtOk =>
      cases ok
      exact ⟨clientId, lwt, Bounded.ofList?_eq_some.mp clientOk, lwtOk, rfl⟩

def WillFits (packet : Connect) : Prop :=
  ∀ will, packet.lastWill = some will → will.topic.length ≤ 128 ∧ will.message.length ≤ 512

instance : DecidablePred WillFits := fun packet =>
  inferInstanceAs (Decidable (∀ will, packet.lastWill = some will → _))

theorem toLwt_ok_iff {packet : Connect} : (∃ lwt, toLwt packet = .ok lwt) ↔ WillFits packet := by
  unfold toLwt WillFits
  cases packet.lastWill with
  | none => simp
  | some will =>
    cases topic : (Bounded.ofList? will.topic : Option (Text 128)) with
    | none =>
      have long := Bounded.ofList?_eq_none.mp topic
      simp [topic]
      omega
    | some text =>
      have fits := text.fits
      rw [Bounded.ofList?_eq_some.mp topic] at fits
      cases message : (Bounded.ofList? will.message : Option (Text 512)) with
      | none =>
        have long := Bounded.ofList?_eq_none.mp message
        simp [topic, message]
        omega
      | some payload =>
        have payloadFits := payload.fits
        rw [Bounded.ofList?_eq_some.mp message] at payloadFits
        simpa [topic, message] using ⟨fits, payloadFits⟩

theorem willFits_of_freshState {packet : Connect} {state : SessionState maxSubs maxInflight}
    (valid : freshState packet = .ok state) : WillFits packet := by
  obtain ⟨_, lwt, _, ok, _⟩ := freshState_ok valid
  exact toLwt_ok_iff.mp ⟨lwt, ok⟩

theorem displace_of_unknown {clientId : Bytes} (unknown : registry.findByClientId clientId = none) :
    displace registry clientId = (none, registry) := by
  simp [displace, unknown]

theorem displace_of_found {clientId : Bytes} {existing : SessionId}
    {session : SessionState maxSubs maxInflight}
    (found : registry.findByClientId clientId = some existing)
    (present : registry.get existing = some session) :
    displace registry clientId = (session.lwt, (registry.remove existing).2) := by
  simp [displace, found, SessionRegistry.remove_fst, present]

theorem get_displace (clientId : Bytes) (id : SessionId) :
    (displace registry clientId).2.get id =
      if registry.findByClientId clientId = some id then none else registry.get id := by
  cases found : registry.findByClientId clientId with
  | none => simp [displace_of_unknown found]
  | some existing =>
    obtain ⟨session, present, _⟩ := SessionRegistry.findByClientId_eq_some found
    simp [displace_of_found found present, SessionRegistry.get_remove, eq_comm]

theorem displace_publishedLwts (clientId : Bytes) :
    (displace registry clientId).2.publishedLwts = registry.publishedLwts := by
  cases found : registry.findByClientId clientId with
  | none => simp [displace_of_unknown found]
  | some existing =>
    obtain ⟨session, present, _⟩ := SessionRegistry.findByClientId_eq_some found
    simp [displace_of_found found present, SessionRegistry.remove_publishedLwts]

theorem displaced_of_some {clientId : Bytes} {lwt : LwtMessage}
    (displaced : (displace registry clientId).1 = some lwt) :
    ∃ existing session, registry.findByClientId clientId = some existing ∧
      registry.get existing = some session ∧ session.lwt = some lwt := by
  cases found : registry.findByClientId clientId with
  | none =>
    rw [displace_of_unknown found] at displaced
    cases displaced
  | some existing =>
    obtain ⟨session, present, _⟩ := SessionRegistry.findByClientId_eq_some found
    rw [displace_of_found found present] at displaced
    exact ⟨existing, session, rfl, present, displaced⟩

def existingWill (registry : SessionRegistry maxSessions maxSubs maxInflight) (clientId : Bytes) :
    Option LwtMessage :=
  (registry.findByClientId clientId).bind fun existing => (registry.get existing).bind (·.lwt)

theorem existingWill_eq_some {clientId : Bytes} {lwt : LwtMessage} :
    existingWill registry clientId = some lwt ↔ ∃ existing session,
      registry.findByClientId clientId = some existing ∧ registry.get existing = some session ∧
        session.lwt = some lwt := by
  simp [existingWill, Option.bind_eq_some_iff]

-- The client takes over a session that has a will.
def DisplacesWill (registry : SessionRegistry maxSessions maxSubs maxInflight) (packet : Connect) : Prop :=
  packet.cleanSession = true ∧ existingWill registry packet.clientId ≠ none

instance (packet : Connect) : Decidable (DisplacesWill registry packet) :=
  inferInstanceAs (Decidable (_ ∧ _))

-- Removing a session frees a slot, so a known client never finds the registry full.
theorem displace_full {clientId : Bytes} (full : (displace registry clientId).2.isFull = true) :
    registry.findByClientId clientId = none := by
  cases found : registry.findByClientId clientId with
  | none => rfl
  | some existing =>
    obtain ⟨session, present, _⟩ := SessionRegistry.findByClientId_eq_some found
    have taken := Slots.firstFree_eq_none.mp (SessionRegistry.isFull_iff.mp full) existing
      (Slots.lt_of_get present)
    have free : (displace registry clientId).2.get existing = none := by
      rw [get_displace, if_pos found]
    exact absurd free taken

inductive Admission (registry : SessionRegistry maxSessions maxSubs maxInflight) (packet : Connect)
    (houseToken : HouseToken) : SessionRegistry maxSessions maxSubs maxInflight →
      Except ConnectError PreparedConnect → Prop
  | refused (code : ConnectReturnCode) (inadmissible : ¬ Admissible packet houseToken) :
      Admission registry packet houseToken registry (.ok (.rejected code))
  | badWill {existing : SessionId} {error : ConnectError} (admissible : Admissible packet houseToken)
      (resumed : resumable registry packet = some existing) (invalid : toLwt packet = .error error) :
      Admission registry packet houseToken registry (.error error)
  | resumed {existing : SessionId} {session : SessionState maxSubs maxInflight} {lwt : Option LwtMessage}
      (admissible : Admissible packet houseToken) (resumed : resumable registry packet = some existing)
      (present : registry.get existing = some session) (valid : toLwt packet = .ok lwt) :
      Admission registry packet houseToken
        (registry.put existing { session with
          lwt := lwt, keepaliveSecs := packet.keepAlive, quarantined := false, outboxDrops := 0 })
        (.ok (.accepted ⟨existing, none, true⟩))
  | unavailable (admissible : Admissible packet houseToken)
      (unknown : registry.findByClientId packet.clientId = none) (full : registry.isFull = true) :
      Admission registry packet houseToken registry (.ok (.rejected .serverUnavailable))
  | invalid {error : ConnectError} (admissible : Admissible packet houseToken)
      (fresh : resumable registry packet = none)
      (room : (displace registry packet.clientId).2.isFull = false)
      (invalid : (freshState packet : Except ConnectError (SessionState maxSubs maxInflight)) =
        .error error) :
      Admission registry packet houseToken (displace registry packet.clientId).2 (.error error)
  | unrecorded {state : SessionState maxSubs maxInflight} {id : SessionId} {lwt : LwtMessage}
      (admissible : Admissible packet houseToken) (fresh : resumable registry packet = none)
      (free : (displace registry packet.clientId).2.slots.firstFree = some id)
      (valid : freshState packet = .ok state)
      (displaced : (displace registry packet.clientId).1 = some lwt)
      (full : registry.publishedLwts.items.length = maxSessions) :
      Admission registry packet houseToken
        { (displace registry packet.clientId).2 with
          slots := (displace registry packet.clientId).2.slots.set id (some state) }
        (.error (.registry .lwtQueueFull))
  | created {state : SessionState maxSubs maxInflight} {id : SessionId}
      {publishedLwts : Bounded LwtMessage maxSessions}
      (admissible : Admissible packet houseToken) (fresh : resumable registry packet = none)
      (free : (displace registry packet.clientId).2.slots.firstFree = some id)
      (valid : freshState packet = .ok state)
      (recorded : publishedLwts.items =
        registry.publishedLwts.items ++ (displace registry packet.clientId).1.toList) :
      Admission registry packet houseToken
        { (displace registry packet.clientId).2 with
          slots := (displace registry packet.clientId).2.slots.set id (some state)
          publishedLwts := publishedLwts }
        (.ok (.accepted ⟨id, (displace registry packet.clientId).1, false⟩))

theorem resumable_eq_some {packet : Connect} {existing : SessionId}
    (resumed : resumable registry packet = some existing) :
    packet.cleanSession = false ∧ registry.findByClientId packet.clientId = some existing := by
  unfold resumable at resumed
  split at resumed
  · cases resumed
  · next persistent => exact ⟨by simpa using persistent, resumed⟩

theorem clean_of_fresh {packet : Connect} {existing : SessionId}
    (fresh : resumable registry packet = none)
    (found : registry.findByClientId packet.clientId = some existing) : packet.cleanSession = true := by
  by_contra persistent
  simp [resumable, persistent, found] at fresh

theorem resumeSession_spec {packet : Connect} {houseToken : HouseToken} {existing : SessionId}
    (admissible : Admissible packet houseToken) (resumed : resumable registry packet = some existing) :
    Admission registry packet houseToken (resumeSession registry packet existing).1
      (resumeSession registry packet existing).2 := by
  obtain ⟨session, present, _⟩ :=
    SessionRegistry.findByClientId_eq_some (resumable_eq_some resumed).2
  simp only [resumeSession, present]
  cases will : toLwt packet with
  | error error => exact .badWill admissible resumed will
  | ok lwt => exact .resumed admissible resumed present will

theorem createSession_spec {packet : Connect} {houseToken : HouseToken}
    (admissible : Admissible packet houseToken) (fresh : resumable registry packet = none) :
    Admission registry packet houseToken (createSession registry packet).1
      (createSession registry packet).2 := by
  cases full : (displace registry packet.clientId).2.isFull with
  | true =>
    have unknown := displace_full full
    rw [displace_of_unknown unknown] at full
    simp only [createSession, displace_of_unknown unknown, full, if_true, recordDisplaced]
    exact .unavailable admissible unknown full
  | false =>
    cases valid : (freshState packet : Except ConnectError (SessionState maxSubs maxInflight)) with
    | error error =>
      simp only [createSession, full, valid, Bool.false_eq_true, if_false]
      exact .invalid admissible fresh full valid
    | ok state =>
      obtain ⟨id, inserted, ok⟩ := SessionRegistry.insert_of_not_full full state
      obtain ⟨free, rfl⟩ := SessionRegistry.insert_ok ok
      have queue : (displace registry packet.clientId).2.publishedLwts = registry.publishedLwts :=
        displace_publishedLwts packet.clientId
      cases displaced : (displace registry packet.clientId).1 with
      | none =>
        simp only [createSession, full, valid, ok, Bool.false_eq_true, if_false, displaced, recordDisplaced]
        have recorded : (displace registry packet.clientId).2.publishedLwts.items =
            registry.publishedLwts.items ++ (displace registry packet.clientId).1.toList := by
          simp [displaced, queue]
        have created := Admission.created admissible fresh free valid recorded
        rw [displaced] at created
        exact created
      | some lwt =>
        simp only [createSession, full, valid, ok, Bool.false_eq_true, if_false, displaced, recordDisplaced,
          SessionRegistry.recordPublishedLwt]
        cases pushed : (displace registry packet.clientId).2.publishedLwts.push lwt with
        | none =>
          rw [queue] at pushed
          exact .unrecorded admissible fresh free valid displaced (Bounded.push_eq_none.mp pushed)
        | some publishedLwts =>
          rw [queue] at pushed
          have recorded : publishedLwts.items =
              registry.publishedLwts.items ++ (displace registry packet.clientId).1.toList := by
            simpa [displaced] using (Bounded.push_eq_some.mp pushed).2
          have created := Admission.created admissible fresh free valid recorded
          rw [displaced] at created
          exact created

theorem prepareConnect_spec (registry : SessionRegistry maxSessions maxSubs maxInflight) (packet : Connect)
    (houseToken : HouseToken) :
    Admission registry packet houseToken (prepareConnect registry packet houseToken).1
      (prepareConnect registry packet houseToken).2 := by
  unfold prepareConnect
  split
  · next other => exact .refused _ fun admissible => other admissible.1
  · next protocol =>
    split
    · next empty => exact .refused _ fun admissible => admissible.2.1 (by simpa using empty)
    · next named =>
      split
      · next wrong => exact .refused _ fun admissible => by simp [admissible.2.2] at wrong
      · next credentials =>
        have admissible : Admissible packet houseToken :=
          ⟨by simpa using protocol, by simpa using named, by simpa using credentials⟩
        split
        · next existing resumed => exact resumeSession_spec admissible resumed
        · next fresh => exact createSession_spec admissible fresh

def Failed : Except ConnectError PreparedConnect → Prop
  | .ok (.accepted _) => False
  | .ok (.rejected _) => True
  | .error _ => True

instance : DecidablePred Failed
  | .ok (.accepted _) => inferInstanceAs (Decidable False)
  | .ok (.rejected _) => inferInstanceAs (Decidable True)
  | .error _ => inferInstanceAs (Decidable True)

theorem Admission.publishedLwts_of_failed {after : SessionRegistry maxSessions maxSubs maxInflight}
    {packet : Connect} {houseToken : HouseToken} {result : Except ConnectError PreparedConnect}
    (admission : Admission registry packet houseToken after result) (failed : Failed result) :
    after.publishedLwts = registry.publishedLwts := by
  cases admission with
  | refused => rfl
  | badWill => rfl
  | resumed => exact failed.elim
  | unavailable => rfl
  | invalid => exact displace_publishedLwts packet.clientId
  | unrecorded => exact displace_publishedLwts packet.clientId
  | created => exact failed.elim

-- The slot its session is in, or else the lowest that is free once the client's old session is gone.
def claimedSlot (registry : SessionRegistry maxSessions maxSubs maxInflight) (packet : Connect) :
    Option SessionId :=
  match registry.findByClientId packet.clientId with
  | none => registry.slots.firstFree
  | some existing =>
      if packet.cleanSession then (registry.slots.set existing none).firstFree else some existing

theorem displace_slots (clientId : Bytes) :
    (displace registry clientId).2.slots =
      match registry.findByClientId clientId with
      | none => registry.slots
      | some existing => registry.slots.set existing none := by
  cases found : registry.findByClientId clientId with
  | none => rw [displace_of_unknown found]
  | some existing =>
    obtain ⟨session, present, _⟩ := SessionRegistry.findByClientId_eq_some found
    rw [displace_of_found found present]
    simp only [SessionRegistry.remove, present]
    exact (SessionRegistry.releaseAll_same _).slots

theorem claimedSlot_of_free {packet : Connect} {id : SessionId} (fresh : resumable registry packet = none)
    (free : (displace registry packet.clientId).2.slots.firstFree = some id) :
    claimedSlot registry packet = some id := by
  rw [displace_slots] at free
  unfold claimedSlot
  cases found : registry.findByClientId packet.clientId with
  | none => simpa [found] using free
  | some existing => simpa [found, clean_of_fresh fresh found] using free

theorem claimedSlot_of_resumable {packet : Connect} {existing : SessionId}
    (resumed : resumable registry packet = some existing) : claimedSlot registry packet = some existing := by
  obtain ⟨persistent, found⟩ := resumable_eq_some resumed
  simp [claimedSlot, found, persistent]

structure Accepted (registry after : SessionRegistry maxSessions maxSubs maxInflight) (packet : Connect)
    (outcome : ConnectOutcome) : Prop where
  claimed : claimedSlot registry packet = some outcome.sessionId
  present : ∃ session, after.get outcome.sessionId = some session ∧
    session.clientId.items = packet.clientId
  others : ∀ slot, slot ≠ outcome.sessionId → after.get slot =
    if registry.findByClientId packet.clientId = some slot then none else registry.get slot
  resumed : outcome.sessionPresent = true → ∃ session lwt, registry.get outcome.sessionId = some session ∧
    after.get outcome.sessionId = some { session with
      lwt := lwt, keepaliveSecs := packet.keepAlive, quarantined := false, outboxDrops := 0 }
  fresh : outcome.sessionPresent = false → ∃ clientId lwt, clientId.items = packet.clientId ∧
    after.get outcome.sessionId = some { SessionState.new clientId packet.keepAlive with lwt := lwt }
  publishedLwts : after.publishedLwts.items = registry.publishedLwts.items ++ outcome.displacedLwt.toList

theorem Admission.accepted {after : SessionRegistry maxSessions maxSubs maxInflight} {packet : Connect}
    {houseToken : HouseToken} {outcome : ConnectOutcome}
    (admission : Admission registry packet houseToken after (.ok (.accepted outcome))) :
    Accepted registry after packet outcome := by
  cases admission with
  | @resumed existing session lwt admissible resumed present valid =>
    have found := (resumable_eq_some resumed).2
    obtain ⟨known, stored, same⟩ := SessionRegistry.findByClientId_eq_some found
    rw [present] at stored
    cases stored
    have kept := SessionRegistry.get_put_self present { session with
      lwt := lwt, keepaliveSecs := packet.keepAlive, quarantined := false, outboxDrops := 0 }
    refine ⟨claimedSlot_of_resumable resumed, ⟨_, kept, same⟩, ?_, fun _ => ⟨session, lwt, present, kept⟩,
      by simp, by simp⟩
    intro slot different
    rw [SessionRegistry.get_put_ne _ different, if_neg]
    rw [found]
    simpa using Ne.symm different
  | @created state id publishedLwts admissible fresh free valid recorded =>
    obtain ⟨inside, _, _⟩ := Slots.firstFree_eq_some.mp free
    obtain ⟨clientId, lwt, same, _, rfl⟩ := freshState_ok valid
    have stored := Slots.get_set_self (displace registry packet.clientId).2.slots
      (some { SessionState.new clientId packet.keepAlive with lwt := lwt }) inside
    refine ⟨claimedSlot_of_free fresh free, ⟨_, stored, same⟩, ?_, by simp,
      fun _ => ⟨clientId, lwt, same, stored⟩, recorded⟩
    intro slot different
    rw [← get_displace]
    exact Slots.get_set_ne _ _ different

theorem Admission.admissible_of_accepted {after : SessionRegistry maxSessions maxSubs maxInflight}
    {packet : Connect} {houseToken : HouseToken} {outcome : ConnectOutcome}
    (admission : Admission registry packet houseToken after (.ok (.accepted outcome))) :
    Admissible packet houseToken := by
  cases admission with
  | resumed admissible => exact admissible
  | created admissible => exact admissible

structure Claimed (registry : SessionRegistry maxSessions maxSubs maxInflight) (packet : Connect)
    (slot : SessionId) (session : SessionState maxSubs maxInflight) : Prop where
  claimed : claimedSlot registry packet = some slot
  owner : session.clientId.items = packet.clientId
  state : (∃ clientId lwt, session = { SessionState.new clientId packet.keepAlive with lwt := lwt }) ∨
    ∃ old lwt, registry.get slot = some old ∧ session = { old with
      lwt := lwt, keepaliveSecs := packet.keepAlive, quarantined := false, outboxDrops := 0 }

theorem get_of_displace {clientId : Bytes} {slot : SessionId} {session : SessionState maxSubs maxInflight}
    (occupied : (displace registry clientId).2.get slot = some session) :
    registry.get slot = some session := by
  rw [get_displace] at occupied
  split at occupied
  · cases occupied
  · exact occupied

theorem claimed_of_inserted {packet : Connect} {id slot : SessionId}
    {state session : SessionState maxSubs maxInflight} (fresh : resumable registry packet = none)
    (free : (displace registry packet.clientId).2.slots.firstFree = some id)
    (valid : freshState packet = .ok state)
    (occupied : ((displace registry packet.clientId).2.slots.set id (some state)).get slot = some session) :
    registry.get slot = some session ∨ Claimed registry packet slot session := by
  obtain ⟨inside, _, _⟩ := Slots.firstFree_eq_some.mp free
  by_cases here : slot = id
  · subst here
    rw [Slots.get_set_self _ _ inside] at occupied
    cases occupied
    obtain ⟨clientId, lwt, same, _, rfl⟩ := freshState_ok valid
    exact .inr ⟨claimedSlot_of_free fresh free, same, .inl ⟨clientId, lwt, rfl⟩⟩
  · rw [Slots.get_set_ne _ _ here] at occupied
    exact .inl (get_of_displace occupied)

theorem Admission.get_cases {after : SessionRegistry maxSessions maxSubs maxInflight} {packet : Connect}
    {houseToken : HouseToken} {result : Except ConnectError PreparedConnect}
    (admission : Admission registry packet houseToken after result) {slot : SessionId}
    {session : SessionState maxSubs maxInflight} (occupied : after.get slot = some session) :
    registry.get slot = some session ∨ Admissible packet houseToken ∧ Claimed registry packet slot session := by
  cases admission with
  | refused => exact .inl occupied
  | badWill => exact .inl occupied
  | resumed admissible resumed present _ =>
    obtain ⟨_, stored, same⟩ := SessionRegistry.findByClientId_eq_some (resumable_eq_some resumed).2
    rw [present] at stored
    cases stored
    rw [SessionRegistry.get_put present] at occupied
    split at occupied
    · next here =>
      subst here
      cases occupied
      exact .inr ⟨admissible, claimedSlot_of_resumable resumed, same, .inr ⟨_, _, present, rfl⟩⟩
    · exact .inl occupied
  | unavailable => exact .inl occupied
  | invalid => exact .inl (get_of_displace occupied)
  | unrecorded admissible fresh free valid =>
    exact (claimed_of_inserted fresh free valid occupied).imp_right fun claimed => ⟨admissible, claimed⟩
  | created admissible fresh free valid =>
    exact (claimed_of_inserted fresh free valid occupied).imp_right fun claimed => ⟨admissible, claimed⟩

theorem Admission.resumable_of_present {after : SessionRegistry maxSessions maxSubs maxInflight} {packet : Connect}
    {houseToken : HouseToken} {outcome : ConnectOutcome}
    (admission : Admission registry packet houseToken after (.ok (.accepted outcome)))
    (present : outcome.sessionPresent = true) : resumable registry packet = some outcome.sessionId := by
  cases admission with
  | resumed _ resumed _ _ => exact resumed
  | created => cases present

theorem Admission.fresh_of_absent {after : SessionRegistry maxSessions maxSubs maxInflight} {packet : Connect}
    {houseToken : HouseToken} {outcome : ConnectOutcome}
    (admission : Admission registry packet houseToken after (.ok (.accepted outcome)))
    (absent : outcome.sessionPresent = false) : resumable registry packet = none := by
  cases admission with
  | resumed => cases absent
  | created _ fresh => exact fresh

theorem Admission.fresh_of_failed {after : SessionRegistry maxSessions maxSubs maxInflight} {packet : Connect}
    {houseToken : HouseToken} {result : Except ConnectError PreparedConnect}
    (admission : Admission registry packet houseToken after result) (failed : Failed result) {slot : SessionId}
    {session : SessionState maxSubs maxInflight} (present : after.get slot = some session)
    (changed : after.get slot ≠ registry.get slot) :
    Admissible packet houseToken ∧ resumable registry packet = none ∧ claimedSlot registry packet = some slot ∧
      ∃ clientId lwt, clientId.items = packet.clientId ∧
        session = { SessionState.new clientId packet.keepAlive with lwt := lwt } := by
  cases admission with
  | refused | badWill | unavailable => exact absurd rfl changed
  | resumed | created => exact failed.elim
  | invalid => exact absurd (present.trans (get_of_displace present).symm) changed
  | @unrecorded state id lwt admissible fresh free valid _ _ =>
    obtain ⟨inside, _, _⟩ := Slots.firstFree_eq_some.mp free
    by_cases here : slot = id
    · subst here
      have stored := present.symm.trans (Slots.get_set_self _ _ inside)
      cases stored
      obtain ⟨clientId, lwt, owner, _, rfl⟩ := freshState_ok valid
      exact ⟨admissible, fresh, claimedSlot_of_free fresh free, clientId, lwt, owner, rfl⟩
    · have kept := present.symm.trans (Slots.get_set_ne _ _ here)
      exact absurd (present.trans (get_of_displace kept.symm).symm) changed

end PicoBroker
