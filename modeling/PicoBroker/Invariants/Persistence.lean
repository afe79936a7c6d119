import PicoBroker.Invariants.Attached

set_option autoImplicit false

namespace PicoBroker

open Execution (Run)

variable {maxSessions maxSubs maxInflight maxRetained : Nat} {env : Env}

def Holding (id : Nat) (slot : SessionId) (conns : List Conn) : Prop :=
  ∃ conn, conns[id]? = some conn ∧ conn.phase.slot? = some slot

-- The step with which a loop leaves its main part.
structure Ends (env : Env) (system ended : System maxSessions maxSubs maxInflight maxRetained) (id : Nat)
    (slot : SessionId) (packet : Connect) : Prop where
  serving : ∃ conn, system.conns[id]? = some conn ∧ conn.phase.serving? = some slot ∧ conn.accepted = some packet
  step : ∃ label new, Unreused system label ∧ System.step env system label = some (ended, new)
  left : ∃ conn, ended.conns[id]? = some conn ∧ conn.phase.serving? = none

-- The client does not come back yet.
def Meanwhile (clientId : Bytes) (system : System maxSessions maxSubs maxInflight maxRetained) (label : Label) :
    Prop :=
  Unreused system label ∧ ∀ connect ∈ label.connect?, connect.2.clientId ≠ clientId

instance (clientId : Bytes) (system : System maxSessions maxSubs maxInflight maxRetained) (label : Label) :
    Decidable (Meanwhile clientId system label) :=
  inferInstanceAs (Decidable (_ ∧ ∀ connect ∈ label.connect?, _))

def SessionResumed (next : System maxSessions maxSubs maxInflight maxRetained) (reader : Nat) (packet : Connect)
    (subscriptions : Bounded Subscription maxSubs) : Prop :=
  ∃ slot session, next.conns[reader]? = some ⟨.connack slot true, some packet⟩ ∧
    next.broker.registry.get slot = some session ∧ session.subscriptions = subscriptions

structure Surviving (clientId : Bytes) (subscriptions : Bounded Subscription maxSubs) (id : Nat) (slot : SessionId)
    (system : System maxSessions maxSubs maxInflight maxRetained) : Prop where
  session : ∃ session, system.broker.registry.get slot = some session ∧ session.clientId.items = clientId ∧
    session.subscriptions = subscriptions
  left : ∀ (other : Nat) (owner : Conn), system.conns[other]? = some owner → owner.phase.slot? = some slot →
    other = id ∧ owner.phase.serving? = none

def Gone (clientId : Bytes) (registry : SessionRegistry maxSessions maxSubs maxInflight) : Prop :=
  ∀ slot session, registry.get slot = some session → session.clientId.items ≠ clientId

def Finished (id : Nat) (conns : List Conn) : Prop :=
  ∃ conn, conns[id]? = some conn ∧ conn.phase.slot? = none ∧ conn.phase ≠ .awaitConnect

section

variable {system next : System maxSessions maxSubs maxInflight maxRetained} {label : Label} {new : List Event}
  {clientId : Bytes} {subscriptions : Bounded Subscription maxSubs} {id : Nat} {slot : SessionId}

theorem holding_set {conns : List Conn} {actor : Nat} {conn after : Conn} (found : conns[actor]? = some conn)
    (same : after.phase.slot? = some slot ↔ conn.phase.slot? = some slot) :
    Holding id slot (conns.set actor after) ↔ Holding id slot conns := by
  obtain ⟨inside, _⟩ := List.getElem?_eq_some_iff.mp found
  by_cases here : id = actor
  · subst here
    simp [Holding, List.getElem?_set_self inside, found, same]
  · simp [Holding, List.getElem?_set_ne (Ne.symm here)]

theorem holding_spawn {conns : List Conn} :
    Holding id slot (conns ++ [⟨.awaitConnect, none⟩]) ↔ Holding id slot conns := by
  constructor
  · rintro ⟨conn, found, holds⟩
    rcases conn_of_spawn found with old | rfl
    · exact ⟨conn, old, holds⟩
    · cases holds
  · rintro ⟨conn, found, holds⟩
    obtain ⟨inside, _⟩ := List.getElem?_eq_some_iff.mp found
    exact ⟨conn, by rw [List.getElem?_append_left inside, found], holds⟩

-- A loop goes on and neither takes the slot nor gives it up.
theorem Surviving.set {broker : Broker maxSessions maxSubs maxInflight maxRetained} {actor : Nat} {conn after : Conn}
    (kept : Surviving clientId subscriptions id slot system) (found : system.conns[actor]? = some conn)
    (same : after.phase.slot? = some slot ↔ conn.phase.slot? = some slot)
    (leaving : conn.phase.slot? = some slot → conn.phase.serving? = none → after.phase.serving? = none)
    (session : ∃ session, broker.registry.get slot = some session ∧ session.clientId.items = clientId ∧
      session.subscriptions = subscriptions) :
    Surviving clientId subscriptions id slot ⟨broker, system.conns.set actor after⟩ ∧
      (Holding id slot (system.conns.set actor after) ↔ Holding id slot system.conns) := by
  refine ⟨⟨session, fun other owner present holds => ?_⟩, holding_set found same⟩
  rcases conn_of_set found present with ⟨rfl, rfl⟩ | ⟨_, old⟩
  · obtain ⟨own, left⟩ := kept.left _ conn found (same.mp holds)
    exact ⟨own, leaving (same.mp holds) left⟩
  · exact kept.left other owner old holds

theorem Surviving.connected {packet : Connect} {now : Instant} {actor : Nat} {conn : Conn}
    {result : Result maxSessions maxSubs maxInflight maxRetained}
    (kept : Surviving clientId subscriptions id slot system) (found : system.conns[actor]? = some conn)
    (waiting : conn.phase = .awaitConnect) (other : packet.clientId ≠ clientId)
    (connected : Connected env system.broker actor packet now result) :
    Surviving clientId subscriptions id slot ⟨result.broker, system.conns.set actor result.conn⟩ ∧
      (Holding id slot (system.conns.set actor result.conn) ↔ Holding id slot system.conns) := by
  obtain ⟨session, present, owned, subscribed⟩ := kept.session
  have foreign : session.clientId.items ≠ packet.clientId := by
    rw [owned]
    exact Ne.symm other
  have unheld : conn.phase.slot? ≠ some slot := by simp [waiting, Phase.slot?]
  cases connected with
  | @accepted registry outcome _ _ admission _ =>
    have elsewhere : slot ≠ outcome.sessionId := by
      rintro rfl
      rcases claimedSlot_cases admission.accepted.claimed with free | known
      · rw [present] at free
        cases free
      · obtain ⟨stored, storedAt, theirs⟩ := SessionRegistry.findByClientId_eq_some known
        rw [present] at storedAt
        cases storedAt
        exact foreign theirs
    refine kept.set found ?_ (absurd · unheld) ⟨session, ?_, owned, subscribed⟩
    · refine iff_of_false ?_ unheld
      rintro ⟨⟩
      exact elsewhere rfl
    · rw [SessionRegistry.get_put_ne _ elsewhere]
      exact admission.get_other present foreign
  | refused admission _ left =>
    refine kept.set found ?_ (absurd · unheld) ⟨session, ?_, owned, subscribed⟩
    · exact iff_of_false (by simp [left]) unheld
    · exact admission.get_other present foreign

theorem Surviving.ordinary {actor : Nat} {conn : Conn} {input : Input}
    {result : Result maxSessions maxSubs maxInflight maxRetained}
    (kept : Surviving clientId subscriptions id slot system) (found : system.conns[actor]? = some conn)
    (ordinary : Ordinary env system.broker actor conn input result) :
    Surviving clientId subscriptions id slot ⟨result.broker, system.conns.set actor result.conn⟩ ∧
      (Holding id slot (system.conns.set actor result.conn) ↔ Holding id slot system.conns) := by
  have cleaning (holds : conn.phase.slot? = some slot) : conn.phase.serving? = none :=
    (kept.left actor conn found holds).2
  refine kept.set found ⟨fun holds => ?_, fun holds => ?_⟩ (fun _ left => ?_) ?_
  · rcases ordinary.slot with same | ⟨closed, _⟩
    · rw [← same, holds]
    · rw [closed] at holds
      cases holds
  · rcases ordinary.slot with same | ⟨_, free | ⟨_, _, _, answering, _⟩⟩
    · rw [same, holds]
    · rw [holds] at free
      cases free
    · have left := cleaning holds
      rw [answering] at left
      cases left
  · cases serving : result.conn.phase.serving? with
    | none => rfl
    | some held =>
      rw [ordinary.serving held serving] at left
      cases left
  · obtain ⟨session, present, owned, subscribed⟩ := kept.session
    obtain ⟨after, stored, keeps⟩ := ordinary.subscriptions slot session present fun serving => by
      rw [cleaning (slot?_of_serving? serving)] at serving
      cases serving
    exact ⟨after, stored, by rw [keeps.clientId, owned], by rw [keeps.subscriptions, subscribed]⟩

theorem Gone.of_maps {before after : SessionRegistry maxSessions maxSubs maxInflight} (gone : Gone clientId before)
    (maps : Maps Keeps before after) : Gone clientId after := by
  intro slot session present
  obtain ⟨old, found, keeps⟩ := maps.of_present present
  rw [keeps.clientId]
  exact gone slot old found

theorem Gone.step (gone : Gone clientId system.broker.registry)
    (absent : ∀ connect ∈ label.connect?, connect.2.clientId ≠ clientId)
    (taken : System.step env system label = some (next, new)) : Gone clientId next.broker.registry := by
  cases step_transition taken with
  | spawned => exact gone
  | outbound sent =>
    rw [sent]
    exact gone.of_maps ((processOutboundPublish_maps ..).mono fun _ _ routed => routed.keepsAll.toKeeps)
  | @connected _ packet _ _ _ _ _ connected =>
    intro slot session present
    cases connected.seated present with
    | untouched same => exact gone slot session same
    | @resumed old _ _ _ _ _ found same =>
      subst same
      exact gone slot old found
    | created _ _ _ owner same =>
      subst same
      exact owner ▸ absent _ rfl
  | @removed _ _ _ removed _ _ =>
    intro slot session present
    rw [removeStep, SessionRegistry.get_remove] at present
    split at present
    · cases present
    · exact gone slot session present
  | ordinary _ _ ordinary => exact gone.of_maps ordinary.keeps

theorem Finished.set {conns : List Conn} {actor : Nat} {conn after : Conn} (finished : Finished id conns)
    (found : conns[actor]? = some conn)
    (own : conn.phase.slot? = none → conn.phase ≠ .awaitConnect →
      after.phase.slot? = none ∧ after.phase ≠ .awaitConnect) : Finished id (conns.set actor after) := by
  obtain ⟨owner, present, free, started⟩ := finished
  obtain ⟨inside, _⟩ := List.getElem?_eq_some_iff.mp found
  by_cases here : actor = id
  · subst here
    rw [found] at present
    cases present
    exact ⟨after, List.getElem?_set_self inside, own free started⟩
  · exact ⟨owner, by rw [List.getElem?_set_ne here, present], free, started⟩

theorem Finished.step (finished : Finished id system.conns)
    (taken : System.step env system label = some (next, new)) : Finished id next.conns := by
  cases step_transition taken with
  | spawned =>
    obtain ⟨conn, found, rest⟩ := finished
    obtain ⟨inside, _⟩ := List.getElem?_eq_some_iff.mp found
    exact ⟨conn, by rw [List.getElem?_append_left inside, found], rest⟩
  | outbound => exact finished
  | connected found waiting => exact finished.set found fun _ started => absurd waiting started
  | removed found => exact finished.set found fun _ _ => ⟨rfl, by simp⟩
  | ordinary found _ ordinary =>
    refine finished.set found fun free _ => ⟨?_, ordinary.started⟩
    rcases ordinary.slot with same | ⟨closed, _⟩
    · rw [same, free]
    · rw [closed]
      rfl

-- The session goes with the last step of the loop that had it.
theorem Surviving.removed {actor : Nat} {conn : Conn} {held : SessionId}
    (kept : Surviving clientId subscriptions id slot system) (attached : Attached system)
    (found : system.conns[actor]? = some conn) (waiting : conn.phase = .removeSession held) :
    let after : System maxSessions maxSubs maxInflight maxRetained :=
      ⟨removeStep system.broker held, system.conns.set actor { conn with phase := .closed }⟩
    (Surviving clientId subscriptions id slot after ∧ (Holding id slot after.conns ↔ Holding id slot system.conns)) ∨
      Holding id slot system.conns ∧ Finished id after.conns ∧ Gone clientId after.broker.registry := by
  obtain ⟨session, present, owned, subscribed⟩ := kept.session
  have holds : conn.phase.slot? = some held := by rw [waiting]; rfl
  by_cases here : held = slot
  · subst here
    obtain ⟨rfl, _⟩ := kept.left actor conn found holds
    obtain ⟨inside, _⟩ := List.getElem?_eq_some_iff.mp found
    refine .inr ⟨⟨conn, found, holds⟩, ⟨_, List.getElem?_set_self inside, rfl, by simp⟩, ?_⟩
    intro other theirs stored same
    rw [removeStep, SessionRegistry.get_remove] at stored
    split at stored
    · cases stored
    · next different =>
      exact different (attached.identified.distinct other held theirs session stored present
        (Bounded.ext (same.trans owned.symm)))
  · have unheld : conn.phase.slot? ≠ some slot := by
      rw [holds]
      simpa using here
    refine .inl (kept.set found (iff_of_false (by simp [Phase.slot?]) unheld) (absurd · unheld) ?_)
    exact ⟨session, by rw [removeStep, SessionRegistry.get_remove, if_neg (Ne.symm here), present], owned, subscribed⟩

theorem Surviving.step (kept : Surviving clientId subscriptions id slot system) (attached : Attached system)
    (absent : ∀ connect ∈ label.connect?, connect.2.clientId ≠ clientId)
    (taken : System.step env system label = some (next, new)) :
    (Surviving clientId subscriptions id slot next ∧ (Holding id slot next.conns ↔ Holding id slot system.conns)) ∨
      Holding id slot system.conns ∧ Finished id next.conns ∧ Gone clientId next.broker.registry := by
  cases step_transition taken with
  | spawned =>
    refine .inl ⟨⟨kept.session, fun other owner present holds => ?_⟩, holding_spawn⟩
    rcases conn_of_spawn present with old | rfl
    · exact kept.left other owner old holds
    · cases holds
  | @outbound publish now broker sent =>
    refine .inl ⟨⟨?_, kept.left⟩, Iff.rfl⟩
    obtain ⟨session, present, owned, subscribed⟩ := kept.session
    obtain ⟨after, stored, routed⟩ :=
      (processOutboundPublish_maps env.codec system.broker publish now).present slot session present
    rw [sent]
    exact ⟨after, stored, by rw [routed.keepsAll.clientId, owned], by rw [routed.keepsAll.subscriptions, subscribed]⟩
  | connected found waiting connected => exact .inl (kept.connected found waiting (absent _ rfl) connected)
  | removed found waiting => exact kept.removed attached found waiting
  | ordinary found _ ordinary => exact .inl (kept.ordinary found ordinary)

-- Only an ordinary step of the loop itself ends its main part.
theorem Ends.kept {ended : System maxSessions maxSubs maxInflight maxRetained} {packet : Connect}
    (ends : Ends env system ended id slot packet) (attached : Attached system) :
    ∃ session, ended.broker.registry.get slot = some session ∧
      Surviving packet.clientId session.subscriptions id slot ended := by
  obtain ⟨conn, found, serving, accepted⟩ := ends.serving
  obtain ⟨label, new, _, taken⟩ := ends.step
  obtain ⟨after, afterwards, left⟩ := ends.left
  have holds := slot?_of_serving? serving
  obtain ⟨first, session, acceptedAs, present, owned⟩ := attached.session id conn slot found holds
  rw [accepted] at acceptedAs
  cases acceptedAs
  have goesOn (remains : ended.conns[id]? = some conn) : False := by
    rw [afterwards] at remains
    cases remains
    rw [serving] at left
    cases left
  have acts {actor : Nat} {changed : Conn} (set : ended.conns = system.conns.set actor changed) : actor = id := by
    by_contra different
    exact goesOn (by rw [set, List.getElem?_set_ne different, found])
  cases step_transition taken with
  | spawned =>
    obtain ⟨inside, _⟩ := List.getElem?_eq_some_iff.mp found
    exact (goesOn (by rw [List.getElem?_append_left inside, found])).elim
  | outbound => exact (goesOn found).elim
  | connected waits waiting =>
    cases acts rfl
    rw [found] at waits
    cases waits
    rw [waiting] at serving
    cases serving
  | removed waits waiting =>
    cases acts rfl
    rw [found] at waits
    cases waits
    rw [waiting] at serving
    cases serving
  | @ordinary actor input conn' result present' turn ordinary =>
    cases acts rfl
    rw [found] at present'
    cases present'
    obtain ⟨kept, stored, keeps⟩ := ordinary.keeps.present slot session present
    refine ⟨kept, stored, ⟨kept, stored, by rw [keeps.clientId, owned], rfl⟩, fun other owner listed theirs => ?_⟩
    rcases conn_of_set found listed with ⟨rfl, rfl⟩ | ⟨different, old⟩
    · rw [afterwards] at listed
      cases listed
      exact ⟨rfl, left⟩
    · exact absurd (attached.unique other id owner conn slot old found theirs holds) different

structure Settled (held : Prop) (clientId : Bytes) (subscriptions : Bounded Subscription maxSubs) (id : Nat)
    (slot : SessionId) (system : System maxSessions maxSubs maxInflight maxRetained) : Prop where
  attached : Attached system
  session : (Surviving clientId subscriptions id slot system ∧ (Holding id slot system.conns ↔ held)) ∨
    held ∧ Finished id system.conns ∧ Gone clientId system.broker.registry

theorem Settled.step {held : Prop} (settled : Settled held clientId subscriptions id slot system)
    (meanwhile : Meanwhile clientId system label) (taken : System.step env system label = some (next, new)) :
    Settled held clientId subscriptions id slot next := by
  refine ⟨settled.attached.step meanwhile.1 taken, ?_⟩
  rcases settled.session with ⟨kept, holding⟩ | ⟨wasHeld, finished, gone⟩
  · rcases kept.step settled.attached meanwhile.2 taken with ⟨still, same⟩ | ⟨holds, finished, gone⟩
    · exact .inl ⟨still, same.trans holding⟩
    · exact .inr ⟨holding.mp holds, finished, gone⟩
  · exact .inr ⟨wasHeld, finished.step taken, gone.step meanwhile.2 taken⟩

theorem connect_step {reader : Nat} {packet : Connect} {now : Instant}
    (taken : System.step env system (.conn reader (.firstPacket (.connect packet) now)) = some (next, new)) :
    ∃ result conn, system.conns[reader]? = some conn ∧ Connected env system.broker reader packet now result ∧
      next = ⟨result.broker, system.conns.set reader result.conn⟩ := by
  simp only [System.step] at taken
  split at taken
  · cases taken
  · next conn found =>
    obtain ⟨result, stepped, same⟩ := Option.map_eq_some_iff.mp taken
    obtain ⟨rfl, rfl⟩ := Prod.mk.inj same
    obtain ⟨phase, accepted⟩ := conn
    cases phase with
    | awaitConnect =>
      cases stepped
      exact ⟨_, _, found, connectStep_connected .., rfl⟩
    | _ => cases stepped

-- What a CONNECT must be for the session in `slot` to be resumed.
theorem resumed_of_surviving {reader : Nat} {packet : Connect} {now : Instant}
    (kept : Surviving packet.clientId subscriptions id slot system) (attached : Attached system)
    (persistent : packet.cleanSession = false)
    (taken : System.step env system (.conn reader (.firstPacket (.connect packet) now)) = some (next, new))
    (admissible : Admissible packet env.houseToken) (fits : WillFits packet) :
    SessionResumed next reader packet subscriptions := by
  obtain ⟨session, present, owned, subscribed⟩ := kept.session
  obtain ⟨result, conn, found, connected, rfl⟩ := connect_step taken
  obtain ⟨inside, _⟩ := List.getElem?_eq_some_iff.mp found
  have known : system.broker.registry.findByClientId packet.clientId = some slot := by
    rw [← owned]
    exact attached.identified.findByClientId present
  have resumable : resumable system.broker.registry packet = some slot := by simp [resumable, persistent, known]
  obtain ⟨lwt, valid⟩ := toLwt_ok_iff.mpr fits
  cases connected with
  | @accepted registry outcome stored signals admission kept =>
    cases admission with
    | resumed _ resumed before _ =>
      rw [resumable] at resumed
      cases resumed
      rw [present] at before
      cases before
      refine ⟨slot, _, List.getElem?_set_self inside, SessionRegistry.get_put_self kept _, ?_⟩
      rw [SessionRegistry.get_put_self present] at kept
      cases kept
      exact subscribed
    | created _ fresh =>
      rw [resumable] at fresh
      cases fresh
  | refused admission failed =>
    cases admission with
    | refused _ inadmissible => exact absurd admissible inadmissible
    | badWill _ _ invalid =>
      rw [valid] at invalid
      cases invalid
    | resumed | created => exact failed.elim
    | unavailable _ unknown =>
      rw [known] at unknown
      cases unknown
    | invalid _ fresh | unrecorded _ fresh =>
      rw [resumable] at fresh
      cases fresh

theorem known_of_resumed {reader : Nat} {packet : Connect} {now : Instant}
    (taken : System.step env system (.conn reader (.firstPacket (.connect packet) now)) = some (next, new))
    (resumes : SessionResumed next reader packet subscriptions) :
    Admissible packet env.houseToken ∧ WillFits packet ∧ ¬ Gone packet.clientId system.broker.registry := by
  obtain ⟨slot, session, answered, _⟩ := resumes
  obtain ⟨result, conn, found, connected, rfl⟩ := connect_step taken
  obtain ⟨inside, _⟩ := List.getElem?_eq_some_iff.mp found
  rw [List.getElem?_set_self inside, Option.some.injEq] at answered
  cases connected with
  | accepted admission =>
    cases admission with
    | resumed admissible resumed before valid =>
      obtain ⟨stored, storedAt, owned⟩ := SessionRegistry.findByClientId_eq_some (resumable_eq_some resumed).2
      exact ⟨admissible, toLwt_ok_iff.mp ⟨_, valid⟩, fun gone => gone _ stored storedAt owned⟩
    | created => cases answered
  | refused => cases answered

end

theorem persistent_session_resumed_iff {labels later : List Label} {events shown new : List Event}
    {system ended final next : System maxSessions maxSubs maxInflight maxRetained} {id reader : Nat}
    {slot : SessionId} {first packet : Connect} {now : Instant}
    (run : Run (System.step env) Unreused .new labels events system)
    (ends : Ends env system ended id slot first)
    (meanwhile : Run (System.step env) (Meanwhile first.clientId) ended later shown final)
    (same : packet.clientId = first.clientId) (persistent : packet.cleanSession = false)
    (taken : System.step env final (.conn reader (.firstPacket (.connect packet) now)) = some (next, new)) :
    ∃ session, ended.broker.registry.get slot = some session ∧
      (SessionResumed next reader packet session.subscriptions ↔
        Admissible packet env.houseToken ∧ WillFits packet ∧
          (Holding id slot ended.conns → Holding id slot final.conns)) := by
  have attached : Attached system := run.invariant (P := fun _ system => Attached system) attached_new
    fun _ _ _ _ _ attached unreused taken => attached.step unreused taken
  obtain ⟨session, present, kept⟩ := ends.kept attached
  obtain ⟨label, events, unreused, ending⟩ := ends.step
  have settled : Settled (Holding id slot ended.conns) first.clientId session.subscriptions id slot final :=
    meanwhile.invariant
      (P := fun _ system => Settled (Holding id slot ended.conns) first.clientId session.subscriptions id slot system)
      ⟨attached.step unreused ending, .inl ⟨kept, Iff.rfl⟩⟩
      fun _ _ _ _ _ settled meanwhile taken => settled.step meanwhile taken
  refine ⟨session, present, ?_⟩
  constructor
  · intro resumes
    obtain ⟨admissible, fits, known⟩ := known_of_resumed taken resumes
    rcases settled.session with ⟨_, holding⟩ | ⟨_, _, gone⟩
    · exact ⟨admissible, fits, holding.mpr⟩
    · rw [same] at known
      exact absurd gone known
  · rintro ⟨admissible, fits, survived⟩
    rcases settled.session with ⟨still, _⟩ | ⟨held, ⟨conn, found, free, _⟩, _⟩
    · rw [← same] at still
      exact resumed_of_surviving still settled.attached persistent taken admissible fits
    · obtain ⟨owner, listed, holds⟩ := survived held
      rw [found] at listed
      cases listed
      rw [free] at holds
      cases holds

def persistentClient : Connect := houseConnect [97] false none

def persistentLabels : List Label :=
  [.spawn, .spawn, .connect 0 persistentClient, .conn 0 (.write true)] ++ Label.resume 0 ++
    Label.subscribe 0 (Bounded.truncate [116]) .atMostOnce ++ Label.resume 0

def returns (later : List Label) (P : System 2 1 1 1 → System 2 1 1 1 → System 2 1 1 1 → Prop)
    [∀ ended final next, Decidable (P ended final next)] (system : System 2 1 1 1) : Bool :=
  (system.conns[0]?.any fun conn : Conn =>
    decide (conn.phase.serving? = some 0 ∧ conn.accepted = some persistentClient)) &&
  (System.step gatomqttEnv system (.conn 0 (.readFailed true))).any fun ended =>
    (ended.1.conns[0]?.any fun conn : Conn => decide (conn.phase.serving? = none)) &&
    (Execution.exec (System.step gatomqttEnv) (Meanwhile [97]) ended.1 later).any fun final =>
      (System.step gatomqttEnv final.1 (.connect 1 persistentClient)).any fun next =>
        decide (P ended.1 final.1 next.1)

theorem exists_return (later : List Label) (P : System 2 1 1 1 → System 2 1 1 1 → System 2 1 1 1 → Prop)
    [∀ ended final next, Decidable (P ended final next)]
    (passed : (Execution.exec (System.step gatomqttEnv) Unreused .new persistentLabels).any
      (fun start => returns later P start.1) = true) :
    ∃ (system ended final next : System 2 1 1 1) (events shown new : List Event),
      Run (System.step gatomqttEnv) Unreused .new persistentLabels events system ∧
      Ends gatomqttEnv system ended 0 0 persistentClient ∧
      Run (System.step gatomqttEnv) (Meanwhile [97]) ended later shown final ∧
      System.step gatomqttEnv final (.connect 1 persistentClient) = some (next, new) ∧ P ended final next := by
  obtain ⟨⟨system, events⟩, executed, tested⟩ := (Option.any_eq_true _ _).mp passed
  obtain ⟨served, goesOn⟩ := Bool.and_eq_true_iff.mp tested
  obtain ⟨conn, found, serving⟩ := (Option.any_eq_true _ _).mp served
  obtain ⟨⟨ended, _⟩, closed, goesOn⟩ := (Option.any_eq_true _ _).mp goesOn
  obtain ⟨cleaning, goesOn⟩ := Bool.and_eq_true_iff.mp goesOn
  obtain ⟨after, left, stopped⟩ := (Option.any_eq_true _ _).mp cleaning
  obtain ⟨⟨final, shown⟩, waited, goesOn⟩ := (Option.any_eq_true _ _).mp goesOn
  obtain ⟨⟨next, new⟩, taken, holds⟩ := (Option.any_eq_true _ _).mp goesOn
  refine ⟨system, ended, final, next, events, shown, new, Execution.run_of_exec executed, ?_,
    Execution.run_of_exec waited, taken, of_decide_eq_true holds⟩
  exact ⟨⟨conn, found, of_decide_eq_true serving⟩,
    ⟨.conn 0 (.readFailed true), _, by simp [Unreused, Label.connect?], closed⟩,
    ⟨after, left, of_decide_eq_true stopped⟩⟩

-- The client is back before the cleanup of its old connection is over.
theorem persistent_session_resumed_in_time : ∃ (system ended final next : System 2 1 1 1)
    (events shown new : List Event) (session : SessionState 1 1),
    Run (System.step gatomqttEnv) Unreused .new persistentLabels events system ∧
    Ends gatomqttEnv system ended 0 0 persistentClient ∧
    Run (System.step gatomqttEnv) (Meanwhile [97]) ended [.conn 0 .lock] shown final ∧
    System.step gatomqttEnv final (.connect 1 persistentClient) = some (next, new) ∧
    ended.broker.registry.get 0 = some session ∧ SessionResumed next 1 persistentClient session.subscriptions := by
  obtain ⟨system, ended, final, next, events, shown, new, run, ends, meanwhile, taken, conn, found, holds⟩ :=
    exists_return [.conn 0 .lock]
      (fun _ final _ => ∃ conn ∈ final.conns[0]?, conn.phase.slot? = some 0) (by decide +kernel)
  obtain ⟨session, present, resumed⟩ := persistent_session_resumed_iff run ends meanwhile rfl rfl taken
  exact ⟨system, ended, final, next, events, shown, new, session, run, ends, meanwhile, taken, present,
    resumed.mpr ⟨by decide, by decide, fun _ => ⟨conn, found, holds⟩⟩⟩

-- The cleanup was faster.
theorem persistent_session_lost : ∃ (system ended final next : System 2 1 1 1)
    (events shown new : List Event) (session : SessionState 1 1),
    Run (System.step gatomqttEnv) Unreused .new persistentLabels events system ∧
    Ends gatomqttEnv system ended 0 0 persistentClient ∧
    Run (System.step gatomqttEnv) (Meanwhile [97]) ended [.conn 0 .lock, .conn 0 .lock] shown final ∧
    System.step gatomqttEnv final (.connect 1 persistentClient) = some (next, new) ∧
    ended.broker.registry.get 0 = some session ∧ session.subscriptions.items.length = 1 ∧
    next.conns[1]? = some ⟨.connack 0 false, some persistentClient⟩ ∧
    ¬ SessionResumed next 1 persistentClient session.subscriptions := by
  obtain ⟨system, ended, final, next, events, shown, new, run, ends, meanwhile, taken,
      ⟨session, present, subscribed⟩, answered⟩ :=
    exists_return [.conn 0 .lock, .conn 0 .lock]
      (fun ended _ next =>
        (∃ session ∈ ended.broker.registry.get 0, session.subscriptions.items.length = 1) ∧
          next.conns[1]? = some ⟨.connack 0 false, some persistentClient⟩) (by decide +kernel)
  refine ⟨system, ended, final, next, events, shown, new, session, run, ends, meanwhile, taken, present, subscribed,
    answered, ?_⟩
  rintro ⟨slot, _, resumed, _⟩
  rw [answered] at resumed
  cases resumed

end PicoBroker
