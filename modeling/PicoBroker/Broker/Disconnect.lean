import PicoBroker.Broker.Publish

set_option autoImplicit false

namespace PicoBroker

variable {maxSessions maxSubs maxInflight maxRetained : Nat}

inductive DisconnectReason where
  | clientDisconnect
  | connectionClosed
  | transportError
  | keepaliveTimeout
  | rateLimitExceeded
  | commandHandlerOverloaded
  | retryLimitExceeded
  | outboxQuarantine
deriving DecidableEq

def DisconnectReason.isClean (reason : DisconnectReason) : Bool := reason == .clientDisconnect

def findLwtSubscribers (registry : SessionRegistry maxSessions maxSubs maxInflight)
    (disconnectingClientId : Bytes) (lwt : LwtMessage) : Bounded (SessionId × QoS) maxSessions :=
  collectSubscribers registry lwt.topic.items fun _ session => session.clientId.items == disconnectingClientId

-- `publish_lwt_message_if_needed` with the recording broadcaster of the connection loop, which
-- accepts every delivery list; it is not called for an empty one.
def publishLwtMessageIfNeeded (disconnectingClientId : Bytes) (lwt : LwtMessage)
    (registry : SessionRegistry maxSessions maxSubs maxInflight) (retained : RetainedStore maxRetained)
    (reason : DisconnectReason) : RetainedStore maxRetained × Option (List (SessionId × QoS)) :=
  if reason.isClean then (retained, none)
  else
    let updated := if lwt.retain then retained.set lwt.topic.items lwt.payload.items lwt.qos
      else .ok retained
    match updated with
    | .error _ => (retained, none)
    | .ok retained =>
        let deliveries := findLwtSubscribers registry disconnectingClientId lwt
        if deliveries.items.isEmpty then (retained, none) else (retained, some deliveries.items)

theorem publishLwtMessageIfNeeded_deliveries {disconnectingClientId : Bytes} {lwt : LwtMessage}
    {registry : SessionRegistry maxSessions maxSubs maxInflight} {retained : RetainedStore maxRetained}
    {reason : DisconnectReason} {deliveries : List (SessionId × QoS)}
    (announced : (publishLwtMessageIfNeeded disconnectingClientId lwt registry retained reason).2 =
      some deliveries) :
    deliveries = (findLwtSubscribers registry disconnectingClientId lwt).items := by
  unfold publishLwtMessageIfNeeded at announced
  split at announced
  · cases announced
  · dsimp only at announced
    split at announced
    · cases announced
    · split at announced
      · cases announced
      · cases announced
        rfl

def encodePublishFromLwt (codec : Codec) (lwt : LwtMessage) (qos : QoS) :
    Option (Text maxOutboundFrameSize) :=
  let qospid := match qos with
    | .atMostOnce => QosPid.atMostOnce
    | .atLeastOnce => QosPid.atLeastOnce .new
    | .exactlyOnce => QosPid.exactlyOnce .new
  (codec.encodeSlice (.publish ⟨false, qospid, lwt.retain, lwt.topic.items, lwt.payload.items⟩)
    maxOutboundFrameSize).bind Bounded.ofList?

def deliverLwt (codec : Codec) (lwt : LwtMessage)
    (state : SessionRegistry maxSessions maxSubs maxInflight × SessionSignals maxSessions)
    (delivery : SessionId × QoS) :
    SessionRegistry maxSessions maxSubs maxInflight × SessionSignals maxSessions :=
  match state.1.get delivery.1 with
  | none => state
  | some target =>
      match encodePublishFromLwt codec lwt delivery.2 with
      | none => state
      | some bytes =>
          match target.outbox.push ⟨bytes⟩ with
          | none => state
          | some outbox =>
              (state.1.put delivery.1 { target with outbox := outbox },
                signalSession state.2 delivery.1)

def deliverLwts (codec : Codec) (lwt : LwtMessage)
    (state : SessionRegistry maxSessions maxSubs maxInflight × SessionSignals maxSessions)
    (deliveries : List (SessionId × QoS)) :
    SessionRegistry maxSessions maxSubs maxInflight × SessionSignals maxSessions :=
  deliveries.foldl (deliverLwt codec lwt) state

end PicoBroker
