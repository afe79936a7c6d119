import PicoBroker.Broker.Connect
import PicoBroker.Broker.Disconnect
import PicoBroker.Broker.Subscribe
import PicoBroker.Shared.Execution

set_option autoImplicit false

namespace PicoBroker

variable {maxSessions maxSubs maxInflight maxRetained : Nat}

structure Env where
  codec : Codec
  config : BrokerConfig
  maxPacketSize : Nat

def Env.houseToken (env : Env) : HouseToken :=
  ⟨env.config.houseTokenUsername, env.config.houseTokenPassword⟩

def gatomqttEnv : Env := ⟨Mqtt311.codec, gatomqttConfig, 1024⟩

-- Where a loop is suspended. After `write` it is in `cleanup_connection`.
inductive Phase where
  | awaitConnect
  | reject (code : ConnectReturnCode)
  | connack (slot : SessionId) (sessionPresent : Bool)
  | flush (slot : SessionId)
  | flushing (slot : SessionId) (packet : OutboundPacket)
  | service (slot : SessionId)
  | select (slot : SessionId) (timerAfter : Duration)
  | write (slot : SessionId) (packet : Packet) (rest : List Packet)
  | publishLwt (slot : SessionId) (reason : DisconnectReason)
  | deliverLwt (slot : SessionId) (lwt : LwtMessage) (deliveries : List (SessionId × QoS))
  | removeSession (slot : SessionId)
  | closed
deriving DecidableEq

-- `accepted` is the CONNECT this loop was accepted with; the code itself keeps only the slot.
structure Conn where
  phase : Phase
  accepted : Option Connect
deriving DecidableEq

inductive Input where
  | firstPacket (packet : Packet) (now : Instant)
  | firstFailed
  | write (accepted : Bool)
  | lock
  | service (retryNow now : Instant) (answers : List Bool)
  | packet (packet : Packet) (activityNow now : Instant) (accepts : Bool)
  | readFailed (eof : Bool)
  | timer
  | signal
deriving DecidableEq

inductive Label where
  | spawn
  | outbound (publish : MqttPublish) (now : Instant)
  | conn (id : Nat) (input : Input)
deriving DecidableEq

def Label.connect (id : Nat) (packet : Connect) : Label := .conn id (.firstPacket (.connect packet) 0)

-- From CONNECT to the first wait for a packet.
def Label.admit (id : Nat) (clientId : Bytes) : List Label :=
  [.connect id (houseConnect clientId true none), .conn id (.write true), .conn id .lock,
    .conn id (.service 0 0 [])]

def Label.subscribe (id : Nat) (topicPath : Text 256) (qos : QoS) : List Label :=
  [.conn id (.packet (.subscribe ⟨.new, ⟨[⟨topicPath, qos⟩], by simp⟩⟩) 0 0 true), .conn id (.write true)]

def Label.publish (id : Nat) (publish : Publish) : Label := .conn id (.packet (.publish publish) 0 0 true)

-- From the end of a packet to the next wait.
def Label.resume (id : Nat) : List Label := [.conn id .lock, .conn id (.service 0 0 [])]

def Label.connect? : Label → Option (Nat × Connect)
  | .conn id (.firstPacket (.connect packet) _) => some (id, packet)
  | _ => none

def Label.write? : Label → Option (Nat × Bool)
  | .conn id (.write accepted) => some (id, accepted)
  | _ => none

inductive Event where
  | accepted (conn : Nat) (slot : SessionId) (clientId : Bytes)
  | created (slot : SessionId)
  | displaced (lwt : LwtMessage)
  | queued (slot : SessionId) (clientId : ClientId) (packet : OutboundPacket)
  | untracked (slot : SessionId) (packetId : Nat)
  | acknowledged (slot : SessionId) (packetId : Nat)
  | intent (conn : Nat) (intent : MqttIntent)
  | flushed (conn : Nat) (slot : SessionId) (packet : OutboundPacket)
  | retried (conn : Nat) (slot : SessionId) (publish : Publish)
  | wrote (conn : Nat) (packet : Packet)
  | willPublished (conn : Nat) (slot : SessionId) (lwt : LwtMessage)
deriving DecidableEq

structure System (maxSessions maxSubs maxInflight maxRetained : Nat) where
  broker : Broker maxSessions maxSubs maxInflight maxRetained
  conns : List Conn
deriving DecidableEq

def System.new : System maxSessions maxSubs maxInflight maxRetained := ⟨.new, []⟩

def queuedAt (before after : SessionRegistry maxSessions maxSubs maxInflight) (slot : SessionId) :
    List Event :=
  match before.get slot, after.get slot with
  | some old, some new =>
      (new.outbox.items.drop old.outbox.items.length).map (.queued slot new.clientId)
  | _, _ => []

def untrackedAt (before after : SessionRegistry maxSessions maxSubs maxInflight) (slot : SessionId) :
    List Event :=
  match before.get slot, after.get slot with
  | some old, some new =>
      if new.outbox ≠ old.outbox ∧ new.packetIdCounter ≠ old.packetIdCounter ∧
          new.inflight = old.inflight then
        [.untracked slot new.packetIdCounter]
      else []
  | _, _ => []

def routedEvents (before after : SessionRegistry maxSessions maxSubs maxInflight) : List Event :=
  (List.range maxSessions).flatMap fun slot => queuedAt before after slot ++ untrackedAt before after slot

def willEvents (before after : SessionRegistry maxSessions maxSubs maxInflight)
    (deliveries : List (SessionId × QoS)) : List Event :=
  (List.range maxSessions).flatMap fun slot =>
    match queuedAt before after slot with
    | [] => []
    | queued =>
        if deliveries.any fun delivery => delivery.1 = slot ∧ delivery.2 ≠ .atMostOnce then
          queued ++ [.untracked slot Pid.new.value]
        else queued

-- A CONNECT that fails may leave a session behind.
def createdEvents (before after : SessionRegistry maxSessions maxSubs maxInflight) : List Event :=
  (List.range maxSessions).flatMap fun slot =>
    if (after.get slot).isSome ∧ after.get slot ≠ before.get slot then [.created slot] else []

def resetEmptySessionSignals (registry : SessionRegistry maxSessions maxSubs maxInflight)
    (signals : SessionSignals maxSessions) : SessionSignals maxSessions :=
  (List.range maxSessions).foldl (fun signals id =>
    if (registry.get id).isNone then resetSessionSignal signals id else signals) signals

def beginCleanup (slot : SessionId) (reason : DisconnectReason) : Phase :=
  if reason.isClean then .removeSession slot else .publishLwt slot reason

def afterAccept (env : Env) (broker : Broker maxSessions maxSubs maxInflight maxRetained)
    (slot : SessionId) (now : Instant) : Broker maxSessions maxSubs maxInflight maxRetained :=
  let registry := match broker.registry.get slot with
    | none => broker.registry
    | some session => broker.registry.put slot { session with
        rate := .new env.config.rateCapacity env.config.ratePerSec
        lastActivity := now }
  { broker with
    registry := registry
    signals := resetSessionSignal (resetEmptySessionSignals registry broker.signals) slot }

structure Result (maxSessions maxSubs maxInflight maxRetained : Nat) where
  broker : Broker maxSessions maxSubs maxInflight maxRetained
  conn : Conn
  events : List Event

def connectStep (env : Env) (broker : Broker maxSessions maxSubs maxInflight maxRetained) (id : Nat)
    (connect : Connect) (now : Instant) : Result maxSessions maxSubs maxInflight maxRetained :=
  match prepareConnect broker.registry connect env.houseToken with
  | (registry, .ok (.accepted outcome)) =>
      ⟨afterAccept env { broker with registry := registry } outcome.sessionId now,
        ⟨.connack outcome.sessionId outcome.sessionPresent, some connect⟩,
        .accepted id outcome.sessionId connect.clientId ::
          (if outcome.sessionPresent then [] else [.created outcome.sessionId]) ++
            outcome.displacedLwt.toList.map .displaced⟩
  | (registry, .ok (.rejected code)) =>
      ⟨{ broker with
          registry := registry
          signals := resetEmptySessionSignals registry broker.signals }, ⟨.reject code, none⟩,
        createdEvents broker.registry registry⟩
  | (registry, .error _) =>
      ⟨{ broker with
          registry := registry
          signals := resetEmptySessionSignals registry broker.signals }, ⟨.closed, none⟩,
        createdEvents broker.registry registry⟩

def flushStep (broker : Broker maxSessions maxSubs maxInflight maxRetained) (slot : SessionId) :
    Broker maxSessions maxSubs maxInflight maxRetained × Phase :=
  match broker.registry.get slot with
  | none => (broker, .service slot)
  | some session =>
      match session.outbox.popFront with
      | none =>
          ({ broker with registry := broker.registry.put slot { session with outboxDrops := 0 } },
            .service slot)
      | some (packet, outbox) =>
          ({ broker with registry := broker.registry.put slot { session with outbox := outbox } },
            .flushing slot packet)

def maxWait : Duration := fromSecs 3600

def serviceStep (env : Env) (broker : Broker maxSessions maxSubs maxInflight maxRetained)
    (slot : SessionId) (retryNow now : Instant) (answers : List Bool) :
    Broker maxSessions maxSubs maxInflight maxRetained × Phase × List Publish :=
  match broker.registry.get slot with
  | none => (broker, beginCleanup slot .connectionClosed, [])
  | some session =>
      if session.quarantined then (broker, beginCleanup slot .outboxQuarantine, [])
      else
        let outcome := processInflightRetriesAt env.codec env.maxPacketSize slot broker.registry
          env.config.qos1RetryMs env.config.qos1MaxRetries retryNow answers
        let broker := { broker with registry := outcome.registry }
        match outcome.result with
        | .error _ => (broker, beginCleanup slot .retryLimitExceeded, outcome.written)
        | .ok _ =>
            match broker.registry.get slot with
            | none => (broker, beginCleanup slot .connectionClosed, outcome.written)
            | some session =>
                if session.isKeepaliveExpired now then
                  (broker, beginCleanup slot .keepaliveTimeout, outcome.written)
                else
                  (broker, .select slot (session.nextWakeupAfter now env.config.qos1RetryMs maxWait),
                    outcome.written)

-- Only two of the errors end the connection.
def afterPublish (slot : SessionId) (publish : Publish) (result : Except PublishError Unit) : Phase :=
  match result with
  | .error .rateLimitDisconnect => beginCleanup slot .rateLimitExceeded
  | .error .commandHandlerOverloaded => beginCleanup slot .commandHandlerOverloaded
  | _ =>
      match publish.qospid with
      | .atLeastOnce pid => .write slot (.puback pid) []
      | _ => .flush slot

def publishStep (env : Env) (broker : Broker maxSessions maxSubs maxInflight maxRetained)
    (slot : SessionId) (publish : Publish) (activityNow now : Instant) (accepts : Bool) :
    PublishOutcome maxSessions maxSubs maxInflight maxRetained × Phase :=
  match broker.registry.get slot with
  | none => (⟨broker, [], none, .error (.senderNotFound slot)⟩, beginCleanup slot .connectionClosed)
  | some session =>
      let touched := { broker with
        registry := broker.registry.put slot (session.updateActivityAt activityNow) }
      let outcome := handlePublish env.codec (fun _ => accepts) slot touched publish now
      (outcome, afterPublish slot publish outcome.result)

def sessionStep (broker : Broker maxSessions maxSubs maxInflight maxRetained) (slot : SessionId)
    (packet : Packet) (now : Instant) :
    Broker maxSessions maxSubs maxInflight maxRetained × Phase × List Event :=
  match broker.registry.get slot with
  | none => (broker, beginCleanup slot .connectionClosed, [])
  | some session =>
      let session := session.updateActivityAt now
      match packet with
      | .puback pid =>
          ({ broker with registry := acknowledge (broker.registry.put slot session) slot pid.value },
            .flush slot, [.acknowledged slot pid.value])
      | .subscribe subscribe =>
          let (session, prepared) := prepareSubscribe session subscribe broker.retained
          ({ broker with registry := broker.registry.put slot session },
            match subscribePackets prepared with
            | [] => .flush slot
            | packet :: rest => .write slot packet rest, [])
      | .unsubscribe unsubscribe =>
          ({ broker with registry := broker.registry.put slot (applyUnsubscribe session unsubscribe) },
            .write slot (.unsuback unsubscribe.pid) [], [])
      | .pingreq =>
          ({ broker with registry := broker.registry.put slot session }, .write slot .pingresp [], [])
      | _ => ({ broker with registry := broker.registry.put slot session }, .flush slot, [])

def lwtStep (broker : Broker maxSessions maxSubs maxInflight maxRetained) (slot : SessionId)
    (reason : DisconnectReason) :
    Broker maxSessions maxSubs maxInflight maxRetained × Phase × Option LwtMessage :=
  match (broker.registry.get slot).bind fun session => session.lwt.map fun lwt => (session, lwt) with
  | none => (broker, .removeSession slot, none)
  | some (session, lwt) =>
      let (retained, deliveries) := publishLwtMessageIfNeeded session.clientId.items lwt
        broker.registry broker.retained reason
      ({ broker with retained := retained },
        match deliveries with
        | some deliveries => .deliverLwt slot lwt deliveries
        | none => .removeSession slot, some lwt)

def removeStep (broker : Broker maxSessions maxSubs maxInflight maxRetained) (slot : SessionId) :
    Broker maxSessions maxSubs maxInflight maxRetained :=
  { broker with
    registry := (broker.registry.remove slot).2
    signals := resetSessionSignal broker.signals slot }

def connStep (env : Env) (broker : Broker maxSessions maxSubs maxInflight maxRetained) (id : Nat)
    (conn : Conn) (input : Input) : Option (Result maxSessions maxSubs maxInflight maxRetained) :=
  match conn.phase, input with
  | .awaitConnect, .firstPacket (.connect connect) now => some (connectStep env broker id connect now)
  | .awaitConnect, .firstPacket _ _ => some ⟨broker, { conn with phase := .closed }, []⟩
  | .awaitConnect, .firstFailed => some ⟨broker, { conn with phase := .closed }, []⟩
  | .reject code, .write _ =>
      let packet := Packet.connack ⟨false, code⟩
      some ⟨broker, { conn with phase := .closed },
        (env.codec.encodeSlice packet env.maxPacketSize).toList.map fun _ => .wrote id packet⟩
  | .connack slot sessionPresent, .write accepted =>
      let packet := Packet.connack ⟨sessionPresent, .accepted⟩
      match env.codec.encodeSlice packet env.maxPacketSize with
      | none => some ⟨broker, { conn with phase := .closed }, []⟩
      | some _ =>
          some ⟨broker, { conn with phase := if accepted then .flush slot else .closed },
            [.wrote id packet]⟩
  | .flush slot, .lock =>
      let (broker, phase) := flushStep broker slot
      some ⟨broker, { conn with phase := phase }, []⟩
  | .flushing slot packet, .write accepted =>
      some ⟨broker, { conn with
          phase := if accepted then .flush slot else beginCleanup slot .transportError },
        [.flushed id slot packet]⟩
  | .service slot, .service retryNow now answers =>
      let (broker, phase, written) := serviceStep env broker slot retryNow now answers
      some ⟨broker, { conn with phase := phase }, written.map (.retried id slot)⟩
  | .select slot _, .packet (.publish publish) activityNow now accepts =>
      let (outcome, phase) := publishStep env broker slot publish activityNow now accepts
      some ⟨outcome.broker, { conn with phase := phase },
        routedEvents broker.registry outcome.broker.registry ++ outcome.intent.toList.map (.intent id)⟩
  | .select slot _, .packet .disconnect _ _ _ =>
      some ⟨broker, { conn with phase := beginCleanup slot .clientDisconnect }, []⟩
  | .select slot _, .packet packet activityNow _ _ =>
      let (after, phase, events) := sessionStep broker slot packet activityNow
      some ⟨after, { conn with phase := phase }, events⟩
  | .select slot _, .readFailed eof =>
      some ⟨broker, { conn with
        phase := beginCleanup slot (if eof then .connectionClosed else .transportError) }, []⟩
  | .select slot _, .timer => some ⟨broker, { conn with phase := .flush slot }, []⟩
  | .select slot _, .signal =>
      if (broker.signals.get slot).isSome then
        some ⟨{ broker with signals := resetSessionSignal broker.signals slot },
          { conn with phase := .flush slot }, []⟩
      else none
  | .write slot packet rest, .write accepted =>
      match env.codec.encodeSlice packet env.maxPacketSize with
      | none => some ⟨broker, { conn with phase := beginCleanup slot .transportError }, []⟩
      | some _ =>
          some ⟨broker, { conn with
              phase := if accepted then
                  match rest with
                  | [] => .flush slot
                  | next :: later => .write slot next later
                else beginCleanup slot .transportError },
            .wrote id packet ::
              match packet with
              | .publish publish => publish.qospid.pid.toList.map fun pid => .untracked slot pid.value
              | _ => []⟩
  | .publishLwt slot reason, .lock =>
      let (after, phase, lwt) := lwtStep broker slot reason
      some ⟨after, { conn with phase := phase }, lwt.toList.map (.willPublished id slot)⟩
  | .deliverLwt slot lwt deliveries, .lock =>
      let (registry, signals) := deliverLwts env.codec lwt (broker.registry, broker.signals) deliveries
      some ⟨{ broker with registry := registry, signals := signals },
        { conn with phase := .removeSession slot }, willEvents broker.registry registry deliveries⟩
  | .removeSession slot, .lock => some ⟨removeStep broker slot, { conn with phase := .closed }, []⟩
  | _, _ => none

def System.step (env : Env) : Execution.Step (System maxSessions maxSubs maxInflight maxRetained) Label Event
  | system, .spawn => some ({ system with conns := system.conns ++ [⟨.awaitConnect, none⟩] }, [])
  | system, .outbound publish now =>
      let (broker, _) := processOutboundPublish env.codec system.broker publish now
      some ({ system with broker := broker },
        routedEvents system.broker.registry broker.registry)
  | system, .conn id input =>
      match system.conns[id]? with
      | none => none
      | some conn =>
          (connStep env system.broker id conn input).map fun result =>
            (⟨result.broker, system.conns.set id result.conn⟩, result.events)

theorem conns_set_self {conns : List Conn} {id : Nat} {conn : Conn} (found : conns[id]? = some conn)
    (after : Conn) : (conns.set id after)[id]? = some after :=
  List.getElem?_set_self (List.getElem?_eq_some_iff.mp found).1

theorem step_conn {env : Env} {system next : System maxSessions maxSubs maxInflight maxRetained} {id : Nat}
    {input : Input} {new : List Event}
    (taken : System.step env system (.conn id input) = some (next, new)) :
    ∃ conn result, system.conns[id]? = some conn ∧ connStep env system.broker id conn input = some result ∧
      next = ⟨result.broker, system.conns.set id result.conn⟩ ∧ new = result.events := by
  simp only [System.step] at taken
  split at taken
  · cases taken
  · next conn found =>
    obtain ⟨result, stepped, same⟩ := Option.map_eq_some_iff.mp taken
    obtain ⟨reached, shown⟩ := Prod.mk.inj same
    exact ⟨conn, result, found, stepped, reached.symm, shown.symm⟩

end PicoBroker
