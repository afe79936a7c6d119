import PicoBroker.Broker.Publish

set_option autoImplicit false

namespace PicoBroker

variable {maxSessions maxSubs maxInflight maxRetained : Nat}

def maxSubscribeTopics : Nat := 5

structure RetainedDelivery where
  topic : Text 128
  payload : Text 512
  qos : QoS
deriving DecidableEq

structure PreparedSubscribe (maxRetained : Nat) where
  pid : Pid
  returnCodes : Bounded SubscribeReturnCodes maxSubscribeTopics
  retainedDeliveries : Bounded RetainedDelivery maxRetained
deriving DecidableEq

def isValidFilter (filter : Bytes) : Bool :=
  if filter.isEmpty || decide (filter.length > 128) then false
  else
    let hashOk := match filter.findIdx? fun byte => byte == hash with
      | none => true
      | some hashPos =>
          decide (hashPos = filter.length - 1) &&
            (decide (hashPos = 0) || filter[hashPos - 1]? == some slash)
    hashOk && (levels filter).all fun level => !(level.contains plus && level != [plus])

def upsertSubscription (subscriptions : Bounded Subscription maxSubs) (filter : Bytes) (qos : QoS) :
    Bounded Subscription maxSubs × SubscribeReturnCodes × Bool :=
  if !isValidFilter filter then (subscriptions, .failure, false)
  else
    match subscriptions.items.findIdx? fun subscription => subscription.filter.items == filter with
    | some index =>
        (subscriptions.modify index fun existing => { existing with qos := qos }, .success qos, false)
    | none =>
        match Bounded.ofList? filter with
        | none => (subscriptions, .failure, false)
        | some filter =>
            match subscriptions.push ⟨filter, qos⟩ with
            | some pushed => (pushed, .success qos, true)
            | none => (subscriptions, .failure, false)

structure SubscribeLoop (maxSubs : Nat) where
  subscriptions : Bounded Subscription maxSubs
  returnCodes : Bounded SubscribeReturnCodes maxSubscribeTopics
  newFilters : Bounded (Text 128) maxSubscribeTopics

def subscribeTopic (loop : SubscribeLoop maxSubs) (topic : SubscribeTopic) : SubscribeLoop maxSubs :=
  let (subscriptions, code, inserted) :=
    upsertSubscription loop.subscriptions topic.topicPath.items topic.qos
  let returnCodes := loop.returnCodes.pushAll [code]
  -- A new filter passed `isValidFilter`, so the `unwrap` of its conversion succeeds.
  let newFilters := if inserted then
      match Bounded.ofList? topic.topicPath.items with
      | some filter => loop.newFilters.pushAll [filter]
      | none => loop.newFilters
    else loop.newFilters
  ⟨subscriptions, returnCodes, newFilters⟩

def prepareSubscribe (session : SessionState maxSubs maxInflight) (packet : Subscribe)
    (retained : RetainedStore maxRetained) :
    SessionState maxSubs maxInflight × PreparedSubscribe maxRetained :=
  let loop := packet.topics.items.foldl subscribeTopic ⟨session.subscriptions, .empty, .empty⟩
  let replayed := loop.newFilters.items.flatMap fun filter =>
    (retained.matching filter.items).map fun entry =>
      (⟨entry.topic, entry.payload, entry.qos⟩ : RetainedDelivery)
  ({ session with subscriptions := loop.subscriptions },
    ⟨packet.pid, loop.returnCodes, Bounded.empty.pushAll replayed⟩)

-- The packet ids of a replay start from `Pid::new()`.
def replayPackets : Pid → List RetainedDelivery → List Publish
  | _, [] => []
  | nextPid, delivery :: rest =>
      let (qospid, nextPid) := match delivery.qos with
        | .atMostOnce => (QosPid.atMostOnce, nextPid)
        | .atLeastOnce => (QosPid.atLeastOnce nextPid, nextPid.next)
        | .exactlyOnce => (QosPid.exactlyOnce nextPid, nextPid.next)
      ⟨false, qospid, true, delivery.topic.items, delivery.payload.items⟩ :: replayPackets nextPid rest

def subscribePackets (prepared : PreparedSubscribe maxRetained) : List Packet :=
  .suback ⟨prepared.pid, prepared.returnCodes⟩ ::
    (replayPackets .new prepared.retainedDeliveries.items).map .publish

def unsubscribeFilter (subscriptions : Bounded Subscription maxSubs) (filter : Text 256) :
    Bounded Subscription maxSubs :=
  match subscriptions.items.findIdx? fun subscription => subscription.filter.items == filter.items with
  | some index => subscriptions.eraseIdx index
  | none => subscriptions

def applyUnsubscribe (session : SessionState maxSubs maxInflight) (packet : Unsubscribe) :
    SessionState maxSubs maxInflight :=
  { session with subscriptions := packet.topics.items.foldl unsubscribeFilter session.subscriptions }

-- `bytes[hash_pos - 1]` is read for a `#` at the end.
def isValidFilter? (filter : Bytes) : Option Bool :=
  match filter.findIdx? fun byte => byte == hash with
  | none => some (isValidFilter filter)
  | some hashPos =>
      if filter.length ≤ 128 ∧ hashPos = filter.length - 1 ∧ 0 < hashPos ∧ filter.length ≤ hashPos - 1 then none
      else some (isValidFilter filter)

-- The conversion of a new filter is unwrapped.
def subscribeTopic? (loop : SubscribeLoop maxSubs) (topic : SubscribeTopic) : Option (SubscribeLoop maxSubs) :=
  (isValidFilter? topic.topicPath.items).bind fun _ =>
    let (_, code, inserted) := upsertSubscription loop.subscriptions topic.topicPath.items topic.qos
    let converted : Option (Text 128) := Bounded.ofList? topic.topicPath.items
    if inserted && code != .failure && converted.isNone then none else some (subscribeTopic loop topic)

def prepareSubscribe? (session : SessionState maxSubs maxInflight) (packet : Subscribe)
    (retained : RetainedStore maxRetained) :
    Option (SessionState maxSubs maxInflight × PreparedSubscribe maxRetained) :=
  (packet.topics.items.foldlM subscribeTopic? ⟨session.subscriptions, .empty, .empty⟩).map fun _ =>
    prepareSubscribe session packet retained

end PicoBroker
