import PicoBroker.Broker.Registry
import PicoBroker.Broker.Retained

set_option autoImplicit false

namespace PicoBroker

variable {maxSessions maxSubs maxInflight maxRetained : Nat}

-- An occupied cell is a signal not yet waited for.
abbrev SessionSignals (maxSessions : Nat) := Slots Unit maxSessions

def signalSession (signals : SessionSignals maxSessions) (id : SessionId) : SessionSignals maxSessions :=
  signals.set id (some ())

def resetSessionSignal (signals : SessionSignals maxSessions) (id : SessionId) :
    SessionSignals maxSessions :=
  signals.set id none

def matchedQos (subscriptions : List Subscription) (topic : Bytes) : Option QoS :=
  subscriptions.foldl (fun matched subscription =>
    if topicMatches subscription.filter.items topic then
      some (match matched with
        | some current => maxQos current subscription.qos
        | none => subscription.qos)
    else matched) none

-- The loop the three searches share; they differ in the sessions they pass over.
def collectSubscribers (registry : SessionRegistry maxSessions maxSubs maxInflight) (topic : Bytes)
    (skipped : SessionId → SessionState maxSubs maxInflight → Bool) :
    Bounded (SessionId × QoS) maxSessions :=
  Bounded.empty.pushAll (registry.iter.filterMap fun entry =>
    if skipped entry.1 entry.2 then none
    else (matchedQos entry.2.subscriptions.items topic).map fun qos => (entry.1, qos))

def findSubscribers (registry : SessionRegistry maxSessions maxSubs maxInflight) (topic : Bytes)
    (senderId : SessionId) : Bounded (SessionId × QoS) maxSessions :=
  collectSubscribers registry topic fun id _ => id == senderId

def findAllSubscribers (registry : SessionRegistry maxSessions maxSubs maxInflight) (topic : Bytes) :
    Bounded (SessionId × QoS) maxSessions :=
  collectSubscribers registry topic fun _ _ => false

structure MqttIntent where
  topic : Text 128
  payload : Text 512
  qos : QoS
deriving DecidableEq

structure MqttPublish where
  topic : Text 128
  payload : Text 512
  qos : QoS
  retain : Bool
deriving DecidableEq

inductive PublishError where
  | retainedTopicTooLong
  | retainedPayloadTooLarge
  | retainedFull
  | rateLimitDisconnect
  | commandHandlerOverloaded
  | senderNotFound (id : SessionId)
  | topicTooLong
  | payloadTooLarge
deriving DecidableEq

def mapRetainedError : RetainedError → PublishError
  | .topicTooLong => .retainedTopicTooLong
  | .payloadTooLarge => .retainedPayloadTooLarge
  | .full => .retainedFull

structure Message where
  topic : Bytes
  payload : Bytes
  qos : QoS
  retain : Bool
deriving DecidableEq

def Publish.message (packet : Publish) : Message :=
  ⟨packet.topicName, packet.payload, packet.qospid.qos, packet.retain⟩

def MqttPublish.message (publish : MqttPublish) : Message :=
  ⟨publish.topic.items, publish.payload.items, publish.qos, publish.retain⟩

def qospidFor (qos : QoS) (packetId : Nat) : Option QosPid :=
  match qos with
  | .atMostOnce => some .atMostOnce
  | .atLeastOnce => (Pid.tryFrom packetId).map .atLeastOnce
  | .exactlyOnce => (Pid.tryFrom packetId).map .exactlyOnce

def encodePublish (codec : Codec) (topic payload : Bytes) (qos : QoS) (retain : Bool) (packetId : Nat) :
    Except PublishError (Text maxOutboundFrameSize) :=
  match qospidFor qos packetId with
  | none => .error .payloadTooLarge
  | some qospid =>
      match codec.encodeSlice (.publish ⟨false, qospid, retain, topic, payload⟩) maxOutboundFrameSize with
      | none => .error .payloadTooLarge
      | some frame =>
          match Bounded.ofList? frame with
          | none => .error .payloadTooLarge
          | some bytes => .ok bytes

def acquireSharedPublish (registry : SessionRegistry maxSessions maxSubs maxInflight)
    (sharedPublish : Option StoredPublishHandle) (message : Message) :
    SessionRegistry maxSessions maxSubs maxInflight × Option StoredPublishHandle ×
      Option StoredPublishHandle :=
  match sharedPublish with
  | some handle =>
      match registry.acquireStoredPublish handle with
      | .ok acquired => (acquired, sharedPublish, some handle)
      | .error _ => (registry, sharedPublish, none)
  | none =>
      match registry.storePublishRef message.topic message.payload message.retain with
      | (stored, .ok handle) => (stored, some handle, some handle)
      | (stored, .error _) => (stored, none, none)

inductive Offer (maxSubs maxInflight : Nat) where
  | failed (session : SessionState maxSubs maxInflight) (error : PublishError)
  | dropped (session : SessionState maxSubs maxInflight)
  | queued (session : SessionState maxSubs maxInflight) (packetId : Nat)

def packetIdFor (session : SessionState maxSubs maxInflight) (effectiveQos : QoS) :
    Nat × SessionState maxSubs maxInflight :=
  if effectiveQos ≠ .atMostOnce then session.nextPacketId else (0, session)

def offer (codec : Codec) (message : Message) (effectiveQos : QoS) (maxOutboxDrops : Nat)
    (session : SessionState maxSubs maxInflight) : Offer maxSubs maxInflight :=
  let (packetId, session) := packetIdFor session effectiveQos
  match encodePublish codec message.topic message.payload effectiveQos message.retain packetId with
  | .error error => .failed session error
  | .ok bytes =>
      match session.outbox.push ⟨bytes⟩ with
      | none =>
          let outboxDrops := saturatingAddU8 session.outboxDrops 1
          .dropped { session with
            outboxDrops := outboxDrops
            quarantined := session.quarantined || decide (outboxDrops ≥ maxOutboxDrops) }
      | some outbox => .queued { session with outbox := outbox } packetId

-- `offered` keeps the sessions whose outbox was tried; the code has no such list.
structure Fanout (maxSessions maxSubs maxInflight : Nat) where
  registry : SessionRegistry maxSessions maxSubs maxInflight
  signals : SessionSignals maxSessions
  sharedPublish : Option StoredPublishHandle
  offered : List SessionId

def track (message : Message) (now : Instant) (fanout : Fanout maxSessions maxSubs maxInflight)
    (id : SessionId) (packetId : Nat) : Fanout maxSessions maxSubs maxInflight :=
  match fanout.registry.get id with
  | none => fanout
  | some session =>
      if session.inflight.items.length < maxInflight then
        match acquireSharedPublish fanout.registry fanout.sharedPublish message with
        | (registry, sharedPublish, none) =>
            { fanout with registry := registry, sharedPublish := sharedPublish }
        | (registry, sharedPublish, some handle) =>
            let added := (registry.get id).bind fun session =>
              session.inflightAdd ⟨packetId, handle, .atLeastOnce, now, 0⟩
            { fanout with
              registry := match added with
                | some session => registry.put id session
                | none => registry.releaseStoredPublish handle
              sharedPublish := sharedPublish }
      else fanout

def deliver (codec : Codec) (message : Message) (now : Instant) (maxOutboxDrops : Nat)
    (fanout : Fanout maxSessions maxSubs maxInflight) (subscriber : SessionId × QoS) :
    Fanout maxSessions maxSubs maxInflight × Option PublishError :=
  let effectiveQos := minQos message.qos subscriber.2
  match fanout.registry.get subscriber.1 with
  | none => (fanout, none)
  | some session =>
      match offer codec message effectiveQos maxOutboxDrops session with
      | .failed session error =>
          ({ fanout with registry := fanout.registry.put subscriber.1 session }, some error)
      | .dropped session =>
          ({ fanout with
            registry := fanout.registry.put subscriber.1 session
            offered := fanout.offered ++ [subscriber.1] }, none)
      | .queued session packetId =>
          let fanout := { fanout with
            registry := fanout.registry.put subscriber.1 session
            signals := signalSession fanout.signals subscriber.1
            offered := fanout.offered ++ [subscriber.1] }
          if effectiveQos = .atLeastOnce then (track message now fanout subscriber.1 packetId, none)
          else (fanout, none)

-- An error leaves the loop at once, with everything done so far in place.
def fanOut (codec : Codec) (message : Message) (now : Instant) (maxOutboxDrops : Nat) :
    Fanout maxSessions maxSubs maxInflight → List (SessionId × QoS) →
      Fanout maxSessions maxSubs maxInflight × Option PublishError
  | fanout, [] => (fanout, none)
  | fanout, subscriber :: rest =>
      match deliver codec message now maxOutboxDrops fanout subscriber with
      | (next, some error) => (next, some error)
      | (next, none) => fanOut codec message now maxOutboxDrops next rest

structure Broker (maxSessions maxSubs maxInflight maxRetained : Nat) where
  registry : SessionRegistry maxSessions maxSubs maxInflight
  retained : RetainedStore maxRetained
  signals : SessionSignals maxSessions
deriving DecidableEq

def Broker.new : Broker maxSessions maxSubs maxInflight maxRetained := ⟨.new, .new, .empty⟩

-- `offered` is the list of the delivery loop, `intent` what `CommandHandler::handle` was called with.
structure PublishOutcome (maxSessions maxSubs maxInflight maxRetained : Nat) where
  broker : Broker maxSessions maxSubs maxInflight maxRetained
  offered : List SessionId
  intent : Option MqttIntent
  result : Except PublishError Unit

def retain (store : RetainedStore maxRetained) (message : Message) :
    Except RetainedError (RetainedStore maxRetained) :=
  if message.retain then store.set message.topic message.payload message.qos else .ok store

def forwardCommand (accepts : MqttIntent → Bool) (message : Message) :
    Option MqttIntent × Except PublishError Unit :=
  if isCommandTopic message.topic then
    match Bounded.ofList? message.topic with
    | none => (none, .error .topicTooLong)
    | some topic =>
        match Bounded.ofList? message.payload with
        | none => (none, .error .payloadTooLarge)
        | some payload =>
            let intent : MqttIntent := ⟨topic, payload, message.qos⟩
            if accepts intent then (some intent, .ok ())
            else if message.qos ≠ .atMostOnce then (some intent, .error .commandHandlerOverloaded)
            else (some intent, .ok ())
  else (none, .ok ())

def handlePublishAt (codec : Codec) (accepts : MqttIntent → Bool) (senderId : SessionId)
    (broker : Broker maxSessions maxSubs maxInflight maxRetained) (packet : Publish) (now : Instant)
    (maxViolations maxOutboxDrops : Nat) : PublishOutcome maxSessions maxSubs maxInflight maxRetained :=
  let message := packet.message
  match broker.registry.get senderId with
  | none => ⟨broker, [], none, .error (.senderNotFound senderId)⟩
  | some sender =>
      let (admitted, rate) := sender.rate.tryConsume now
      let broker := { broker with registry := broker.registry.put senderId { sender with rate := rate } }
      if !admitted then
        if rate.violations ≥ maxViolations then ⟨broker, [], none, .error .rateLimitDisconnect⟩
        else if message.qos ≠ .atMostOnce then ⟨broker, [], none, .error .rateLimitDisconnect⟩
        else ⟨broker, [], none, .ok ()⟩
      else
        match retain broker.retained message with
        | .error error => ⟨broker, [], none, .error (mapRetainedError error)⟩
        | .ok retained =>
            let subscribers := findSubscribers broker.registry message.topic senderId
            let (fanout, failure) := fanOut codec message now maxOutboxDrops
              ⟨broker.registry, broker.signals, none, []⟩ subscribers.items
            let broker := ⟨fanout.registry, retained, fanout.signals⟩
            match failure with
            | some error => ⟨broker, fanout.offered, none, .error error⟩
            | none =>
                let (intent, result) := forwardCommand accepts message
                ⟨broker, fanout.offered, intent, result⟩

def handlePublish (codec : Codec) (accepts : MqttIntent → Bool) (senderId : SessionId)
    (broker : Broker maxSessions maxSubs maxInflight maxRetained) (packet : Publish) (now : Instant) :
    PublishOutcome maxSessions maxSubs maxInflight maxRetained :=
  handlePublishAt codec accepts senderId broker packet now gatomqttConfig.maxViolations
    gatomqttConfig.maxOutboxDrops

def processOutboundPublish (codec : Codec) (broker : Broker maxSessions maxSubs maxInflight maxRetained)
    (publish : MqttPublish) (now : Instant) :
    Broker maxSessions maxSubs maxInflight maxRetained × Except PublishError Unit :=
  match retain broker.retained publish.message with
  | .error error => (broker, .error (mapRetainedError error))
  | .ok retained =>
      let subscribers := findAllSubscribers broker.registry publish.topic.items
      let (fanout, failure) := fanOut codec publish.message now gatomqttConfig.maxOutboxDrops
        ⟨broker.registry, broker.signals, none, []⟩ subscribers.items
      (⟨fanout.registry, retained, fanout.signals⟩,
        match failure with
        | some error => .error error
        | none => .ok ())

def handlePuback (session : SessionState maxSubs maxInflight) (packetId : Nat) :
    Option (StoredPublishHandle × SessionState maxSubs maxInflight) :=
  (session.inflightRemove packetId).map fun removed => (removed.1.publish, removed.2)

-- PUBACK handling as the connection loop does it: the entry goes first, then its reference.
def acknowledge (registry : SessionRegistry maxSessions maxSubs maxInflight) (id : SessionId)
    (packetId : Nat) : SessionRegistry maxSessions maxSubs maxInflight :=
  match registry.get id with
  | none => registry
  | some session =>
      match handlePuback session packetId with
      | none => registry
      | some (handle, session) => (registry.put id session).releaseStoredPublish handle

inductive RetryDisconnect where
  | maxRetriesExceeded (packetId retries : Nat)
  | invalidPacketId (packetId : Nat)
  | missingStoredPublish (packetId : Nat)
  | write
deriving DecidableEq

-- The transport answers the writes of one call in order; a missing answer is a success.
structure RetryOutcome (maxSessions maxSubs maxInflight : Nat) where
  registry : SessionRegistry maxSessions maxSubs maxInflight
  written : List Publish
  result : Except RetryDisconnect Unit

def modifyEntry (registry : SessionRegistry maxSessions maxSubs maxInflight) (id : SessionId) (index : Nat)
    (f : InflightEntry → InflightEntry) : SessionRegistry maxSessions maxSubs maxInflight :=
  match registry.get id with
  | none => registry
  | some session => registry.put id { session with inflight := session.inflight.modify index f }

def isExpired (now : Instant) (timeout : Duration) (entry : InflightEntry) : Bool :=
  match checkedDurationSince now entry.sentAt with
  | some elapsed => decide (elapsed ≥ timeout)
  | none => false

def retryPacket (pid : Pid) (stored : StoredPublish) : Publish :=
  ⟨true, .atLeastOnce pid, stored.retain, stored.topic.items, stored.payload.items⟩

def retransmit (codec : Codec) (maxPacketSize : Nat) (registry : SessionRegistry maxSessions maxSubs maxInflight)
    (id : SessionId) (index : Nat) (entry : InflightEntry) (maxRetries : Nat) (now : Instant)
    (accepted : Bool) : RetryOutcome maxSessions maxSubs maxInflight :=
  let retries := saturatingAddU8 entry.retries 1
  let registry := modifyEntry registry id index fun entry => { entry with retries := retries }
  if retries > maxRetries then ⟨registry, [], .error (.maxRetriesExceeded entry.packetId retries)⟩
  else
    match Pid.tryFrom entry.packetId with
    | none => ⟨registry, [], .error (.invalidPacketId entry.packetId)⟩
    | some pid =>
        match registry.storedPublish entry.publish with
        | none => ⟨registry, [], .error (.missingStoredPublish entry.packetId)⟩
        | some stored =>
            match codec.encodeSlice (.publish (retryPacket pid stored)) maxPacketSize with
            | none => ⟨registry, [], .error .write⟩
            | some _ =>
                if accepted then
                  ⟨modifyEntry registry id index fun other =>
                      if other.packetId = entry.packetId then
                        { other with sentAt := now, retries := retries }
                      else other,
                    [retryPacket pid stored], .ok ()⟩
                else ⟨registry, [retryPacket pid stored], .error .write⟩

def retryLoop (codec : Codec) (maxPacketSize : Nat) (id : SessionId) (timeout : Duration)
    (maxRetries : Nat) (now : Instant) :
    SessionRegistry maxSessions maxSubs maxInflight → List Bool → List Nat →
      RetryOutcome maxSessions maxSubs maxInflight
  | registry, _, [] => ⟨registry, [], .ok ()⟩
  | registry, answers, index :: rest =>
      match (registry.get id).bind fun session => session.inflight.items[index]? with
      | none => retryLoop codec maxPacketSize id timeout maxRetries now registry answers rest
      | some entry =>
          if isExpired now timeout entry then
            let outcome := retransmit codec maxPacketSize registry id index entry maxRetries now
              (answers.headD true)
            match outcome.result with
            | .error _ => outcome
            | .ok _ =>
                let later := retryLoop codec maxPacketSize id timeout maxRetries now outcome.registry
                  answers.tail rest
                { later with written := outcome.written ++ later.written }
          else retryLoop codec maxPacketSize id timeout maxRetries now registry answers rest

def processInflightRetriesAt (codec : Codec) (maxPacketSize : Nat) (id : SessionId)
    (registry : SessionRegistry maxSessions maxSubs maxInflight) (retryMs maxRetries : Nat)
    (now : Instant) (answers : List Bool) : RetryOutcome maxSessions maxSubs maxInflight :=
  let inflightLen := ((registry.get id).map fun session => session.inflight.items.length).getD 0
  retryLoop codec maxPacketSize id (fromMillis retryMs) maxRetries now registry answers
    (List.range inflightLen)

end PicoBroker
