import PicoBroker.Broker.PublishFormat
import PicoBroker.Broker.Steps
import PicoBroker.Contracts.RetainedMap

set_option autoImplicit false

namespace PicoBroker

open Execution (Run Anything)

variable {maxSessions maxSubs maxInflight maxRetained : Nat}

def ProperName (topic : Bytes) : Prop := topic ≠ [] ∧ plus ∉ topic ∧ hash ∉ topic

instance : DecidablePred ProperName := fun topic => inferInstanceAs (Decidable (topic ≠ [] ∧ _ ∧ _))

def frameTopic (frame : Bytes) : Option Bytes :=
  (Mqtt311.splitText (frame.tail.dropWhile fun byte => decide (128 ≤ byte.toNat)).tail).map Prod.fst

theorem frameTopic_frame {publish : Publish} {frame : Bytes} (framed : Mqtt311.frame (.publish publish) = some frame)
    (short : frame.length < 65536) : frameTopic frame = some publish.topicName := by
  cases framed
  simp only [List.length_cons, List.length_append] at short
  have length := publishBody_length publish
  have body := Mqtt311.dropWhile_lengthField (show (Mqtt311.publishBody publish).length < 268435456 by omega)
    (Mqtt311.publishBody publish)
  rw [frameTopic, List.tail_cons, body, Mqtt311.publishBody, List.append_assoc,
    Mqtt311.splitText_word _ _ (by omega)]
  rfl

-- The topic that comes in with an input.
def Label.topic? : Label → Option Bytes
  | .outbound publish _ => some publish.topic.items
  | .conn _ (.firstPacket (.connect packet) _) => packet.lastWill.map LastWill.topic
  | .conn _ (.packet (.publish publish) _ _ _) => some publish.topicName
  | _ => none

def Label.NamesProper (label : Label) : Prop := ∀ topic ∈ label.topic?, ProperName topic

instance : DecidablePred Label.NamesProper := fun label => inferInstanceAs (Decidable (∀ topic ∈ label.topic?, _))

def CarriesName (codec : Codec) (packet : OutboundPacket) : Prop :=
  ∃ publish, ProperName publish.topicName ∧
    codec.encodeSlice (.publish publish) maxOutboundFrameSize = some packet.bytes.items

structure CleanSession (codec : Codec) (session : SessionState maxSubs maxInflight) : Prop where
  frames : ∀ packet ∈ session.outbox.items, CarriesName codec packet
  will : ∀ lwt, session.lwt = some lwt → ProperName lwt.topic.items

def CleanRegistry (codec : Codec) (registry : SessionRegistry maxSessions maxSubs maxInflight) : Prop :=
  ∀ slot session, registry.get slot = some session → CleanSession codec session

def CleanStore (store : RetainedStore maxRetained) : Prop :=
  ∀ entry ∈ store.entries.items, ProperName entry.topic.items

def CleanPhase (phase : Phase) : Prop :=
  ∀ slot lwt deliveries, phase = .deliverLwt slot lwt deliveries → ProperName lwt.topic.items

structure CleanSystem (codec : Codec) (system : System maxSessions maxSubs maxInflight maxRetained) : Prop where
  registry : CleanRegistry codec system.broker.registry
  retained : CleanStore system.broker.retained
  leaving : ∀ conn ∈ system.conns, CleanPhase conn.phase

theorem CleanStore.set {store after : RetainedStore maxRetained} {topic payload : Bytes} {qos : QoS}
    (clean : CleanStore store) (named : ProperName topic) (done : store.set topic payload qos = .ok after) :
    CleanStore after := by
  intro entry stored
  by_cases here : RetainedStore.topicOf entry = topic
  · have same : entry.topic.items = topic := here
    rwa [same]
  · have other : entry ∈ after.otherEntries topic := List.mem_filter.mpr ⟨stored, by simpa using here⟩
    rw [RetainedStore.set_others done] at other
    exact clean entry (List.mem_filter.mp other).1

theorem CleanStore.retain {store after : RetainedStore maxRetained} {message : Message} (clean : CleanStore store)
    (named : ProperName message.topic) (done : retain store message = .ok after) : CleanStore after := by
  unfold PicoBroker.retain at done
  split at done
  · exact clean.set named done
  · cases done
    exact clean

section

variable {codec : Codec} {registry before after : SessionRegistry maxSessions maxSubs maxInflight}
  {session old new : SessionState maxSubs maxInflight}

-- A step that touches neither the outboxes nor the wills, or takes frames out.
theorem CleanSession.fewer (clean : CleanSession codec old)
    (frames : ∀ packet ∈ new.outbox.items, packet ∈ old.outbox.items) (will : new.lwt = old.lwt) :
    CleanSession codec new :=
  ⟨fun packet member => clean.frames packet (frames packet member), fun lwt same => clean.will lwt (will ▸ same)⟩

theorem CleanSession.same (clean : CleanSession codec old) (frames : new.outbox = old.outbox)
    (will : new.lwt = old.lwt) : CleanSession codec new :=
  clean.fewer (fun _ member => frames ▸ member) will

theorem CleanRegistry.maps (clean : CleanRegistry codec before)
    (maps : Maps (fun old new => CleanSession codec old → CleanSession codec new) before after) :
    CleanRegistry codec after := by
  intro slot new present
  obtain ⟨old, found, kept⟩ := maps.of_present present
  exact kept (clean slot old found)

theorem CleanRegistry.put (clean : CleanRegistry codec registry) {slot : SessionId}
    (present : registry.get slot = some old) (kept : CleanSession codec new) :
    CleanRegistry codec (registry.put slot new) :=
  clean.maps (.put (fun _ kept => kept) present fun _ => kept)

theorem CleanRegistry.remove (clean : CleanRegistry codec registry) (slot : SessionId) :
    CleanRegistry codec (registry.remove slot).2 := by
  intro other session present
  rw [SessionRegistry.get_remove] at present
  split at present
  · cases present
  · exact clean other session present

theorem CleanSession.push {packet : OutboundPacket} {outbox : Bounded OutboundPacket maxOutboxDepth}
    (clean : CleanSession codec old) (carries : CarriesName codec packet)
    (pushed : old.outbox.push packet = some outbox) (frames : new.outbox = outbox) (will : new.lwt = old.lwt) :
    CleanSession codec new := by
  refine ⟨fun queued member => ?_, fun lwt same => clean.will lwt (will ▸ same)⟩
  rw [frames, (Bounded.push_eq_some.mp pushed).2, List.mem_append, List.mem_singleton] at member
  rcases member with earlier | rfl
  · exact clean.frames queued earlier
  · exact carries

theorem encodePublish_carries {topic payload : Bytes} {qos : QoS} {retain : Bool} {packetId : Nat}
    {bytes : Text maxOutboundFrameSize} (named : ProperName topic)
    (encoded : encodePublish codec topic payload qos retain packetId = .ok bytes) : CarriesName codec ⟨bytes⟩ := by
  unfold encodePublish at encoded
  split at encoded
  · cases encoded
  · next qospid _ =>
    split at encoded
    · cases encoded
    · next frame written =>
      split at encoded
      · cases encoded
      · next fits =>
        cases encoded
        exact ⟨⟨false, qospid, retain, topic, payload⟩, named, by rw [written, Bounded.ofList?_eq_some.mp fits]⟩

theorem Received.clean {message : Message} {now : Instant} {maxOutboxDrops : Nat} {qos : QoS}
    (received : Received codec message now maxOutboxDrops old qos new) (named : ProperName message.topic)
    (clean : CleanSession codec old) : CleanSession codec new := by
  cases received with
  | failed =>
    rw [numbered_eq]
    exact clean.same rfl rfl
  | dropped =>
    rw [droppedSession, numbered_eq]
    exact clean.same rfl rfl
  | queued encoded pushed =>
    refine clean.push (encodePublish_carries named encoded) pushed ?_ ?_ <;> rw [queuedSession, numbered_eq]
  | tracked _ encoded pushed =>
    refine clean.push (encodePublish_carries named encoded) pushed ?_ ?_ <;> rw [queuedSession, numbered_eq]

theorem encodePublishFromLwt_carries {lwt : LwtMessage} {qos : QoS} {bytes : Text maxOutboundFrameSize}
    (named : ProperName lwt.topic.items) (encoded : encodePublishFromLwt codec lwt qos = some bytes) :
    CarriesName codec ⟨bytes⟩ := by
  obtain ⟨frame, written, fits⟩ := Option.bind_eq_some_iff.mp encoded
  exact ⟨⟨false, _, lwt.retain, lwt.topic.items, lwt.payload.items⟩, named,
    by rw [written, Bounded.ofList?_eq_some.mp fits]⟩

theorem deliverLwt_clean {lwt : LwtMessage} (named : ProperName lwt.topic.items)
    {state : SessionRegistry maxSessions maxSubs maxInflight × SessionSignals maxSessions}
    (clean : CleanRegistry codec state.1) (delivery : SessionId × QoS) :
    CleanRegistry codec (deliverLwt codec lwt state delivery).1 := by
  unfold deliverLwt
  split
  · exact clean
  · next target found =>
    split
    · exact clean
    · next bytes encoded =>
      split
      · exact clean
      · next outbox pushed =>
        exact clean.put found ((clean _ _ found).push (encodePublishFromLwt_carries named encoded) pushed rfl rfl)

theorem deliverLwts_clean {lwt : LwtMessage} (named : ProperName lwt.topic.items) (deliveries : List (SessionId × QoS))
    {state : SessionRegistry maxSessions maxSubs maxInflight × SessionSignals maxSessions}
    (clean : CleanRegistry codec state.1) : CleanRegistry codec (deliverLwts codec lwt state deliveries).1 := by
  induction deliveries generalizing state with
  | nil => exact clean
  | cons delivery rest ih => exact ih (deliverLwt_clean named clean delivery)

theorem toLwt_proper {packet : Connect} {lwt : LwtMessage} (converted : toLwt packet = .ok (some lwt))
    (named : ∀ will, packet.lastWill = some will → ProperName will.topic) : ProperName lwt.topic.items := by
  unfold toLwt at converted
  split at converted
  · cases converted
  · next will present =>
    split at converted
    · cases converted
    · next topic fits =>
      split at converted
      · cases converted
      · cases converted
        rw [Bounded.ofList?_eq_some.mp fits]
        exact named will present

theorem Admission.clean {packet : Connect} {houseToken : HouseToken} {result : Except ConnectError PreparedConnect}
    (admission : Admission registry packet houseToken after result) (clean : CleanRegistry codec registry)
    (named : ∀ will, packet.lastWill = some will → ProperName will.topic) : CleanRegistry codec after := by
  have displaced : CleanRegistry codec (displace registry packet.clientId).2 :=
    fun slot session present => clean slot session (get_of_displace present)
  have created {state : SessionState maxSubs maxInflight} (valid : freshState packet = .ok state) :
      CleanSession codec state := by
    obtain ⟨clientId, lwt, _, converted, rfl⟩ := freshState_ok valid
    refine ⟨by simp [SessionState.new], fun will same => ?_⟩
    obtain rfl : lwt = some will := same
    exact toLwt_proper converted named
  have inserted {state : SessionState maxSubs maxInflight} {id : SessionId}
      (free : (displace registry packet.clientId).2.slots.firstFree = some id)
      (valid : freshState packet = .ok state) (slot : SessionId) (session : SessionState maxSubs maxInflight)
      (present : ((displace registry packet.clientId).2.slots.set id (some state)).get slot = some session) :
      CleanSession codec session := by
    by_cases here : slot = id
    · subst here
      rw [Slots.get_set_self _ _ (Slots.firstFree_eq_some.mp free).1] at present
      cases present
      exact created valid
    · rw [Slots.get_set_ne _ _ here] at present
      exact displaced slot session present
  cases admission with
  | refused | badWill | unavailable => exact clean
  | invalid => exact displaced
  | resumed _ _ present converted =>
    refine clean.put present ⟨(clean _ _ present).frames, ?_⟩
    rintro will rfl
    exact toLwt_proper converted named
  | unrecorded _ _ free valid => exact inserted free valid
  | created _ _ free valid => exact inserted free valid

end

-- What a step leaves behind: the three places a topic gets to, and a will on its way there.
structure CleanResult (codec : Codec) (result : Result maxSessions maxSubs maxInflight maxRetained) : Prop where
  registry : CleanRegistry codec result.broker.registry
  retained : CleanStore result.broker.retained
  leaving : CleanPhase result.conn.phase
  intents : ∀ conn intent, .intent conn intent ∈ result.events → ProperName intent.topic.items

theorem Continues.clean {slot : SessionId} {phase : Phase} (continues : Continues slot phase) : CleanPhase phase :=
  fun other lwt deliveries announced => absurd announced (continues.unsearched other lwt deliveries)

theorem CleanPhase.of_slot? {phase : Phase} (left : phase.slot? = none) : CleanPhase phase := by
  rintro slot lwt deliveries rfl
  cases left

section

variable {env : Env} {broker : Broker maxSessions maxSubs maxInflight maxRetained} {id : Nat} {conn : Conn}
  {codec : Codec}

theorem Connected.clean {packet : Connect} {now : Instant}
    {result : Result maxSessions maxSubs maxInflight maxRetained}
    (connected : Connected env broker id packet now result) (clean : CleanRegistry codec broker.registry)
    (kept : CleanStore broker.retained) (named : ∀ will, packet.lastWill = some will → ProperName will.topic) :
    CleanResult codec result := by
  have intents (other : Nat) (intent : MqttIntent) (member : .intent other intent ∈ result.events) :
      ProperName intent.topic.items := by
    cases connected.bookkeeping member
  cases connected with
  | accepted admission present =>
    have admitted := admission.clean clean named
    exact ⟨admitted.put present ((admitted _ _ present).same rfl rfl), kept, by rintro _ _ _ ⟨⟩, intents⟩
  | refused admission _ left => exact ⟨admission.clean clean named, kept, .of_slot? left, intents⟩

theorem Reached.clean {message : Message} {now : Instant} {maxOutboxDrops : Nat}
    {old new : SessionState maxSubs maxInflight} (reached : Reached codec message now maxOutboxDrops old new)
    (named : ProperName message.topic) (clean : CleanSession codec old) : CleanSession codec new := by
  obtain ⟨granted, _, received⟩ := reached
  exact received.clean named clean

theorem forwardCommand_topic {accepts : MqttIntent → Bool} {message : Message} {intent : MqttIntent}
    (handed : (forwardCommand accepts message).1 = some intent) : intent.topic.items = message.topic := by
  unfold forwardCommand at handed
  split at handed
  · split at handed
    · cases handed
    · next topic fits =>
      split at handed
      · cases handed
      · next payload _ =>
        -- Whether the handler takes the intent shows in the result only.
        have same : some (⟨topic, payload, message.qos⟩ : MqttIntent) = some intent := by
          rw [← handed]
          dsimp only
          split
          · rfl
          · split <;> rfl
        cases same
        exact Bounded.ofList?_eq_some.mp fits
  · cases handed

-- The retained store is written before the delivery loop, the intent is handed over after it.
theorem Handling.clean {accepts : MqttIntent → Bool} {senderId : SessionId} {packet : Publish} {now : Instant}
    {maxViolations maxOutboxDrops : Nat} {outcome : PublishOutcome maxSessions maxSubs maxInflight maxRetained}
    (handling : Handling codec accepts senderId broker packet now maxViolations maxOutboxDrops outcome)
    (kept : CleanStore broker.retained) (named : ProperName packet.topicName) :
    CleanStore outcome.broker.retained ∧
      ∀ intent, outcome.intent = some intent → ProperName intent.topic.items := by
  cases handling with
  | absent | limited | unretained => exact ⟨kept, by simp⟩
  | aborted _ _ stored => exact ⟨kept.retain named stored, by simp⟩
  | completed _ _ stored =>
    refine ⟨kept.retain named stored, fun intent handed => ?_⟩
    rwa [forwardCommand_topic handed]

theorem published_clean {accepts : Bool} {slot : SessionId} {session : SessionState maxSubs maxInflight}
    {packet : Publish} {activityNow now : Instant} {phase : Phase}
    {outcome : PublishOutcome maxSessions maxSubs maxInflight maxRetained}
    (handled : outcome = handlePublish codec (fun _ => accepts) slot
      (touchedBroker broker slot session activityNow) packet now)
    (clean : CleanRegistry codec broker.registry) (kept : CleanStore broker.retained)
    (present : broker.registry.get slot = some session) (leaving : CleanPhase phase)
    (named : ProperName packet.topicName) :
    CleanResult codec ⟨outcome.broker, { conn with phase := phase },
      routedEvents broker.registry outcome.broker.registry ++ outcome.intent.toList.map (.intent id)⟩ := by
  have handling : Handling codec (fun _ => accepts) slot (touchedBroker broker slot session activityNow) packet now
      gatomqttConfig.maxViolations gatomqttConfig.maxOutboxDrops outcome := by
    rw [handled]
    exact handlePublishAt_spec ..
  obtain ⟨stored, handed⟩ := handling.clean kept named
  refine ⟨?_, stored, leaving, fun other intent member => ?_⟩
  · have touched : CleanRegistry codec (touchedBroker broker slot session activityNow).registry :=
      clean.put present ((clean slot session present).same rfl rfl)
    rw [handled]
    refine touched.maps ((handlePublishAt_maps ..).mono ?_)
    rintro old new ⟨rate, rfl | reached⟩ clean
    · exact clean.same rfl rfl
    · exact reached.clean named (clean.same rfl rfl)
  · rcases List.mem_append.mp member with routed | forwarded
    · exact False.elim (routedEvents_routing routed)
    · simp only [List.mem_map, Option.mem_toList, Event.intent.injEq] at forwarded
      obtain ⟨_, taken, _, rfl⟩ := forwarded
      exact handed _ taken

theorem publishLwtMessageIfNeeded_clean {clientId : Bytes} {lwt : LwtMessage}
    {registry : SessionRegistry maxSessions maxSubs maxInflight} {store : RetainedStore maxRetained}
    {reason : DisconnectReason} (kept : CleanStore store) (named : ProperName lwt.topic.items) :
    CleanStore (publishLwtMessageIfNeeded clientId lwt registry store reason).1 := by
  unfold publishLwtMessageIfNeeded
  split
  · exact kept
  · dsimp only
    split
    · exact kept
    · next retained updated =>
      have stored : CleanStore retained := by
        split at updated
        · exact kept.set named updated
        · cases updated
          exact kept
      split <;> exact stored

theorem lwtStep_clean (clean : CleanRegistry codec broker.registry) (kept : CleanStore broker.retained)
    (slot : SessionId) (reason : DisconnectReason) :
    CleanStore (lwtStep broker slot reason).1.retained ∧ CleanPhase (lwtStep broker slot reason).2.1 := by
  unfold lwtStep
  split
  · exact ⟨kept, by rintro _ _ _ ⟨⟩⟩
  · next session lwt found =>
    obtain ⟨holder, present, carried⟩ := Option.bind_eq_some_iff.mp found
    obtain ⟨will, left, same⟩ := Option.map_eq_some_iff.mp carried
    obtain ⟨rfl, rfl⟩ := Prod.mk.inj same
    have named := (clean slot holder present).will will left
    refine ⟨publishLwtMessageIfNeeded_clean kept named, ?_⟩
    dsimp only
    split
    · rintro _ _ _ ⟨⟩
      exact named
    · rintro _ _ _ ⟨⟩

theorem connStep_publishLwt {slot : SessionId} {reason : DisconnectReason}
    (waiting : conn.phase = .publishLwt slot reason) :
    connStep env broker id conn .lock =
      some ⟨(lwtStep broker slot reason).1, { conn with phase := (lwtStep broker slot reason).2.1 },
        (lwtStep broker slot reason).2.2.toList.map (.willPublished id slot)⟩ := by
  obtain ⟨phase, accepted⟩ := conn
  obtain rfl : phase = .publishLwt slot reason := waiting
  rfl

theorem connStep_clean {input : Input} {result : Result maxSessions maxSubs maxInflight maxRetained}
    (taken : connStep env broker id conn input = some result) (clean : CleanRegistry env.codec broker.registry)
    (kept : CleanStore broker.retained) (leaving : CleanPhase conn.phase)
    (named : (Label.conn id input).NamesProper) : CleanResult env.codec result := by
  cases connStep_turn taken with
  | connect =>
    refine (connectStep_connected ..).clean clean kept fun will present => named will.topic ?_
    exact Option.mem_map_of_mem LastWill.topic present
  | abandoned _ quiet | unanswered _ _ quiet =>
    refine ⟨clean, kept, by rintro _ _ _ ⟨⟩, fun other intent member => ?_⟩
    obtain ⟨_, ⟨⟩⟩ := quiet _ member
  | moved _ continues quiet =>
    refine ⟨clean, kept, continues.clean, fun other intent member => ?_⟩
    obtain ⟨_, ⟨⟩⟩ := quiet _ member
  | flushed _ continues => exact ⟨clean, kept, continues.clean, by simp⟩
  | wrote _ continues =>
    refine ⟨clean, kept, continues.clean, fun other intent member => ?_⟩
    unfold writeEvents at member
    split at member <;> simp at member
  | popped _ present front =>
    refine ⟨clean.put present ((clean _ _ present).fewer (fun packet member => ?_) rfl), kept,
      by rintro _ _ _ ⟨⟩, by simp⟩
    rw [Bounded.popFront_eq_some.mp front]
    exact List.mem_cons_of_mem _ member
  | drained _ present =>
    exact ⟨clean.put present ((clean _ _ present).same rfl rfl), kept, by rintro _ _ _ ⟨⟩, by simp⟩
  | served _ retries continues =>
    refine ⟨clean.maps (retries.retried.maps.mono ?_), kept, continues.clean, by simp⟩
    rintro old new ⟨inflight, rfl, _⟩ clean
    exact clean.same rfl rfl
  | published _ present handled continues =>
    exact published_clean handled clean kept present continues.clean (named _ rfl)
  | acknowledged _ present =>
    refine ⟨clean.maps ((acknowledged_maps present _ _).mono ?_), kept, by rintro _ _ _ ⟨⟩, by simp⟩
    rintro old new ⟨_, _, rfl, _⟩ clean
    exact clean.same rfl rfl
  | handled _ present continues =>
    exact ⟨clean.put present ((clean _ _ present).same rfl rfl), kept, continues.clean, by simp⟩
  | @announced slot reason _ _ _ waiting _ _ shown =>
    -- The turn forgets which will was stored, the step does not.
    obtain ⟨stored, named⟩ := lwtStep_clean clean kept slot reason
    rw [connStep_publishLwt waiting] at taken
    simp only [Option.some.injEq, Result.mk.injEq, Conn.mk.injEq] at taken
    obtain ⟨retained, ⟨phase, _⟩, _⟩ := taken
    rw [retained] at stored
    rw [phase] at named
    refine ⟨clean, stored, named, fun other intent member => ?_⟩
    obtain ⟨_, ⟨⟩⟩ := shown _ member
  | delivered waiting sent =>
    subst sent
    exact ⟨deliverLwts_clean (leaving _ _ _ waiting) _ clean, kept, by rintro _ _ _ ⟨⟩,
      fun other intent member => False.elim (willEvents_routing member)⟩
  | removed => exact ⟨clean.remove _, kept, by rintro _ _ _ ⟨⟩, by simp⟩

end

theorem processOutboundPublish_clean {codec : Codec}
    {broker : Broker maxSessions maxSubs maxInflight maxRetained} {publish : MqttPublish} {now : Instant}
    (clean : CleanRegistry codec broker.registry) (kept : CleanStore broker.retained)
    (named : ProperName publish.topic.items) :
    CleanRegistry codec (processOutboundPublish codec broker publish now).1.registry ∧
      CleanStore (processOutboundPublish codec broker publish now).1.retained := by
  constructor
  · refine clean.maps ((processOutboundPublish_reached ..).mono ?_)
    rintro old new (rfl | reached) clean
    · exact clean
    · exact reached.clean named clean
  · unfold processOutboundPublish
    split
    · exact kept
    · next retained stored => exact kept.retain named stored

def NamedIntents (events : List Event) : Prop :=
  ∀ conn intent, .intent conn intent ∈ events → ProperName intent.topic.items

theorem NamedIntents.append {events new : List Event} (named : NamedIntents events) (added : NamedIntents new) :
    NamedIntents (events ++ new) := by
  intro conn intent member
  rcases List.mem_append.mp member with earlier | later
  · exact named conn intent earlier
  · exact added conn intent later

theorem CleanSystem.step {env : Env} {system next : System maxSessions maxSubs maxInflight maxRetained}
    {label : Label} {new : List Event} (clean : CleanSystem env.codec system) (named : label.NamesProper)
    (taken : System.step env system label = some (next, new)) : CleanSystem env.codec next ∧ NamedIntents new := by
  cases label with
  | spawn =>
    cases taken
    refine ⟨⟨clean.registry, clean.retained, fun conn member => ?_⟩, by simp [NamedIntents]⟩
    rcases List.mem_append.mp member with earlier | later
    · exact clean.leaving conn earlier
    · rw [List.mem_singleton.mp later]
      rintro _ _ _ ⟨⟩
  | outbound publish now =>
    cases taken
    obtain ⟨registry, retained⟩ := processOutboundPublish_clean clean.registry clean.retained (named _ rfl)
    exact ⟨⟨registry, retained, clean.leaving⟩, fun _ _ member => False.elim (routedEvents_routing member)⟩
  | conn id input =>
    obtain ⟨conn, result, found, stepped, rfl, rfl⟩ := step_conn taken
    have result := connStep_clean stepped clean.registry clean.retained
      (clean.leaving conn (List.mem_of_getElem? found)) named
    refine ⟨⟨result.registry, result.retained, fun other member => ?_⟩, result.intents⟩
    rcases List.mem_or_eq_of_mem_set member with earlier | rfl
    · exact clean.leaving other earlier
    · exact result.leaving

theorem CleanSystem.new (codec : Codec) :
    CleanSystem codec (System.new : System maxSessions maxSubs maxInflight maxRetained) := by
  refine ⟨fun slot session present => ?_, by simp [CleanStore, System.new, Broker.new, RetainedStore.new],
    by simp [System.new]⟩
  simp [System.new, Broker.new] at present

structure NamesOnly (events : List Event) (system : System maxSessions maxSubs maxInflight maxRetained) : Prop where
  retained : ∀ entry ∈ system.broker.retained.entries.items, ProperName entry.topic.items
  outboxes : ∀ slot session packet, system.broker.registry.get slot = some session →
    packet ∈ session.outbox.items → ∃ topic, frameTopic packet.bytes.items = some topic ∧ ProperName topic
  intents : ∀ conn intent, .intent conn intent ∈ events → ProperName intent.topic.items

theorem CarriesName.frameTopic {codec : Codec} {packet : OutboundPacket} (lawful : FollowsMqtt311 codec)
    (carries : CarriesName codec packet) :
    ∃ topic, PicoBroker.frameTopic packet.bytes.items = some topic ∧ ProperName topic := by
  obtain ⟨publish, named, written⟩ := carries
  obtain ⟨framed, short⟩ := (lawful.encodes_iff (by decide)).mp written
  exact ⟨publish.topicName, frameTopic_frame framed (short.trans_lt (by decide)), named⟩

theorem names_only {env : Env} (lawful : FollowsMqtt311 env.codec) {labels : List Label} {events : List Event}
    {system : System maxSessions maxSubs maxInflight maxRetained}
    (run : Run (System.step env) (fun _ label => label.NamesProper) System.new labels events system) :
    NamesOnly events system := by
  have reached : CleanSystem env.codec system ∧ NamedIntents events := by
    -- The state carries the wills that are still to be published, the events only what was handed out.
    refine run.invariant (P := fun events system => CleanSystem env.codec system ∧ NamedIntents events)
      ⟨CleanSystem.new env.codec, by simp [NamedIntents]⟩ ?_
    intro events system label next new held named taken
    have stepped := held.1.step named taken
    exact ⟨stepped.1, held.2.append stepped.2⟩
  refine ⟨reached.1.retained, fun slot session packet present queued => ?_, reached.2⟩
  exact ((reached.1.registry slot session present).frames packet queued).frameTopic lawful

-- A retained PUBLISH while another client is subscribed to everything.
def retainedOn (topic : Bytes) : List Label :=
  .spawn :: Label.admit 0 [97] ++ .spawn :: Label.admit 1 [98] ++ Label.subscribe 1 (.truncate [hash]) .atMostOnce ++
    [.publish 0 ⟨false, .atMostOnce, true, topic, [120]⟩]

-- "sb/1/device/2/set"
def commandTopic : Bytes :=
  [115, 98, 47, 49, 47, 100, 101, 118, 105, 99, 101, 47, 50, 47, 115, 101, 116]

theorem names_only_of_command :
    ∃ (system : System 2 1 1 1) (events : List Event),
      Run (System.step gatomqttEnv) (fun _ label => label.NamesProper) .new (retainedOn commandTopic) events system ∧
      system.broker.retained.entries.items ≠ [] ∧
      ((system.broker.registry.get 1).any fun session => !session.outbox.items.isEmpty) = true ∧
      (∃ conn intent, .intent conn intent ∈ events) ∧ NamesOnly events system := by
  obtain ⟨system, events, run, tested⟩ : ∃ (system : System 2 1 1 1) (events : List Event),
      Run (System.step gatomqttEnv) (fun _ label => label.NamesProper) .new (retainedOn commandTopic) events system ∧
      decide (system.broker.retained.entries.items ≠ [] ∧
        ((system.broker.registry.get 1).any fun session => !session.outbox.items.isEmpty) = true ∧
        .intent 0 ⟨.truncate commandTopic, .truncate [120], .atMostOnce⟩ ∈ events) = true :=
    Execution.exists_run (by decide +kernel)
  obtain ⟨stored, queued, handed⟩ := of_decide_eq_true tested
  exact ⟨system, events, run, stored, queued, ⟨_, _, handed⟩, names_only mqtt311_followsMqtt311 run⟩

-- The filter of the command topics is itself taken for a command topic: it gets into all three places.
theorem filter_taken_for_name :
    ∃ (system : System 2 1 1 1) (events : List Event),
      Run (System.step gatomqttEnv) Anything .new (retainedOn commandFilter) events system ∧
      ¬ ProperName commandFilter ∧
      system.broker.retained.entries.items.map (fun entry => entry.topic.items) = [commandFilter] ∧
      (system.broker.registry.get 1).map (fun session =>
        session.outbox.items.map fun packet => frameTopic packet.bytes.items) = some [some commandFilter] ∧
      .intent 0 ⟨.truncate commandFilter, .truncate [120], .atMostOnce⟩ ∈ events := by
  obtain ⟨system, events, run, tested⟩ : ∃ (system : System 2 1 1 1) (events : List Event),
      Run (System.step gatomqttEnv) Anything .new (retainedOn commandFilter) events system ∧
      decide (¬ ProperName commandFilter ∧
        system.broker.retained.entries.items.map (fun entry => entry.topic.items) = [commandFilter] ∧
        (system.broker.registry.get 1).map (fun session =>
          session.outbox.items.map fun packet => frameTopic packet.bytes.items) = some [some commandFilter] ∧
        .intent 0 ⟨.truncate commandFilter, .truncate [120], .atMostOnce⟩ ∈ events) = true :=
    Execution.exists_run (by decide +kernel)
  exact ⟨system, events, run, of_decide_eq_true tested⟩

end PicoBroker
