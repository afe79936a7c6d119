import PicoBroker.Broker.Connect
import PicoBroker.Broker.Subscribe

set_option autoImplicit false

namespace PicoBroker

variable {maxSessions maxSubs maxInflight maxRetained : Nat}

inductive Operation (maxSessions maxRetained : Nat) where
  | connect (packet : Connect) (houseToken : HouseToken)
  | publish (senderId : SessionId) (retained : RetainedStore maxRetained)
      (signals : SessionSignals maxSessions) (accepts : MqttIntent → Bool) (packet : Publish) (now : Instant)
  | outbound (retained : RetainedStore maxRetained) (signals : SessionSignals maxSessions)
      (message : MqttPublish) (now : Instant)
  | puback (id : SessionId) (packetId : Nat)
  | retries (id : SessionId) (maxPacketSize retryMs maxRetries : Nat) (now : Instant) (answers : List Bool)
  | remove (id : SessionId)
  | subscribe (id : SessionId) (packet : Subscribe) (retained : RetainedStore maxRetained)
  | unsubscribe (id : SessionId) (packet : Unsubscribe)
  | flush (id : SessionId)

def updateSession (registry : SessionRegistry maxSessions maxSubs maxInflight) (id : SessionId)
    (f : SessionState maxSubs maxInflight → SessionState maxSubs maxInflight) :
    SessionRegistry maxSessions maxSubs maxInflight :=
  match registry.get id with
  | none => registry
  | some session => registry.put id (f session)

def Operation.apply (codec : Codec) (registry : SessionRegistry maxSessions maxSubs maxInflight) :
    Operation maxSessions maxRetained → SessionRegistry maxSessions maxSubs maxInflight
  | .connect packet houseToken => (prepareConnect registry packet houseToken).1
  | .publish senderId retained signals accepts packet now =>
      (handlePublish codec accepts senderId ⟨registry, retained, signals⟩ packet now).broker.registry
  | .outbound retained signals message now =>
      (processOutboundPublish codec ⟨registry, retained, signals⟩ message now).1.registry
  | .puback id packetId => acknowledge registry id packetId
  | .retries id maxPacketSize retryMs maxRetries now answers =>
      (processInflightRetriesAt codec maxPacketSize id registry retryMs maxRetries now answers).registry
  | .remove id => (registry.remove id).2
  | .subscribe id packet retained =>
      updateSession registry id fun session => (prepareSubscribe session packet retained).1
  | .unsubscribe id packet => updateSession registry id (applyUnsubscribe · packet)
  | .flush id => updateSession registry id fun session => { session with outbox := .empty, outboxDrops := 0 }

def Operation.applyAll (codec : Codec) (operations : List (Operation maxSessions maxRetained)) :
    SessionRegistry maxSessions maxSubs maxInflight :=
  operations.foldl (Operation.apply codec) .new

inductive Reply (maxSessions maxSubs maxInflight maxRetained : Nat) where
  | connected (result : Except ConnectError PreparedConnect)
  | published (retained : RetainedStore maxRetained) (signals : SessionSignals maxSessions)
      (intent : Option MqttIntent) (result : Except PublishError Unit)
  | routed (retained : RetainedStore maxRetained) (signals : SessionSignals maxSessions)
      (result : Except PublishError Unit)
  | acknowledged (publish : Option StoredPublishHandle)
  | retried (written : List Publish) (result : Except RetryDisconnect Unit)
  | removed (session : Option (SessionState maxSubs maxInflight))
  | subscribed (prepared : Option (PreparedSubscribe maxRetained))
  | updated

def Operation.reply (codec : Codec) (registry : SessionRegistry maxSessions maxSubs maxInflight) :
    Operation maxSessions maxRetained → Reply maxSessions maxSubs maxInflight maxRetained
  | .connect packet houseToken => .connected (prepareConnect registry packet houseToken).2
  | .publish senderId retained signals accepts packet now =>
      let outcome := handlePublish codec accepts senderId ⟨registry, retained, signals⟩ packet now
      .published outcome.broker.retained outcome.broker.signals outcome.intent outcome.result
  | .outbound retained signals message now =>
      let (broker, result) := processOutboundPublish codec ⟨registry, retained, signals⟩ message now
      .routed broker.retained broker.signals result
  | .puback id packetId =>
      .acknowledged ((registry.get id).bind fun session => (handlePuback session packetId).map Prod.fst)
  | .retries id maxPacketSize retryMs maxRetries now answers =>
      let outcome := processInflightRetriesAt codec maxPacketSize id registry retryMs maxRetries now answers
      .retried outcome.written outcome.result
  | .remove id => .removed (registry.remove id).1
  | .subscribe id packet retained =>
      .subscribed ((registry.get id).map fun session => (prepareSubscribe session packet retained).2)
  | .unsubscribe _ _ | .flush _ => .updated

def Operation.trace (codec : Codec) : SessionRegistry maxSessions maxSubs maxInflight →
    List (Operation maxSessions maxRetained) →
      List (Reply maxSessions maxSubs maxInflight maxRetained × SessionRegistry maxSessions maxSubs maxInflight)
  | _, [] => []
  | registry, operation :: rest =>
      (operation.reply codec registry, operation.apply codec registry) ::
        Operation.trace codec (operation.apply codec registry) rest

end PicoBroker
