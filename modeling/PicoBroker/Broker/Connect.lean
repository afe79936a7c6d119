import PicoBroker.Broker.Registry

set_option autoImplicit false

namespace PicoBroker

variable {maxSessions maxSubs maxInflight : Nat}

structure HouseToken where
  username : Bytes
  password : Bytes
deriving DecidableEq

structure ConnectOutcome where
  sessionId : SessionId
  displacedLwt : Option LwtMessage
  sessionPresent : Bool
deriving DecidableEq

inductive PreparedConnect where
  | accepted (outcome : ConnectOutcome)
  | rejected (code : ConnectReturnCode)
deriving DecidableEq

-- `unwrapped` stands for the panic of an `unwrap` that never fails.
inductive ConnectError where
  | registry (error : RegistryError)
  | clientIdTooLong
  | willTopicTooLong
  | willPayloadTooLarge
  | unwrapped
deriving DecidableEq

def gatomqttToken : HouseToken :=
  ⟨gatomqttConfig.houseTokenUsername, gatomqttConfig.houseTokenPassword⟩

-- A CONNECT with the credentials of the default configuration and no keep-alive.
def houseConnect (clientId : Bytes) (cleanSession : Bool) (lastWill : Option LastWill) : Connect :=
  ⟨.mqtt311, 0, clientId, cleanSession, lastWill, some gatomqttToken.username,
    some gatomqttToken.password⟩

def ctEq (lhs rhs : Bytes) : Bool :=
  let diff := (List.range (max lhs.length rhs.length)).foldl
    (fun diff idx => diff ||| (lhs.getD idx 0 ^^^ rhs.getD idx 0).toNat) (lhs.length ^^^ rhs.length)
  diff == 0

def matchesHouseToken (packet : Connect) (houseToken : HouseToken) : Bool :=
  match packet.username, packet.password with
  | some username, some password =>
      ctEq username houseToken.username && ctEq password houseToken.password
  | _, _ => false

def toClientId (clientId : Bytes) : Except ConnectError ClientId :=
  match Bounded.ofList? clientId with
  | none => .error .clientIdTooLong
  | some clientId => .ok clientId

def toLwt (packet : Connect) : Except ConnectError (Option LwtMessage) :=
  match packet.lastWill with
  | none => .ok none
  | some lastWill =>
      match Bounded.ofList? lastWill.topic with
      | none => .error .willTopicTooLong
      | some topic =>
          match Bounded.ofList? lastWill.message with
          | none => .error .willPayloadTooLarge
          | some payload => .ok (some ⟨topic, payload, lastWill.qos, lastWill.retain⟩)

abbrev Prepared (maxSessions maxSubs maxInflight : Nat) :=
  SessionRegistry maxSessions maxSubs maxInflight × Except ConnectError PreparedConnect

-- clean_session = false with an existing session
def resumeSession (registry : SessionRegistry maxSessions maxSubs maxInflight) (packet : Connect)
    (existing : SessionId) : Prepared maxSessions maxSubs maxInflight :=
  match registry.get existing with
  | none => (registry, .error .unwrapped)
  | some session =>
      match toLwt packet with
      | .error error => (registry, .error error)
      | .ok lwt =>
          (registry.put existing { session with
              lwt := lwt
              keepaliveSecs := packet.keepAlive
              quarantined := false
              outboxDrops := 0 },
            .ok (.accepted ⟨existing, none, true⟩))

def displace (registry : SessionRegistry maxSessions maxSubs maxInflight) (clientId : Bytes) :
    Option LwtMessage × SessionRegistry maxSessions maxSubs maxInflight :=
  match registry.findByClientId clientId with
  | none => (none, registry)
  | some existing =>
      let (previous, registry) := registry.remove existing
      (previous.bind fun previous => previous.lwt, registry)

def recordDisplaced (registry : SessionRegistry maxSessions maxSubs maxInflight)
    (displacedLwt : Option LwtMessage) (prepared : PreparedConnect) :
    Prepared maxSessions maxSubs maxInflight :=
  match displacedLwt with
  | none => (registry, .ok prepared)
  | some lwt =>
      match registry.recordPublishedLwt lwt with
      | .error error => (registry, .error (.registry error))
      | .ok recorded => (recorded, .ok prepared)

def freshState (packet : Connect) : Except ConnectError (SessionState maxSubs maxInflight) :=
  match toClientId packet.clientId with
  | .error error => .error error
  | .ok clientId =>
      match toLwt packet with
      | .error error => .error error
      | .ok lwt => .ok { SessionState.new clientId packet.keepAlive with lwt := lwt }

-- clean_session = true, or no existing session
def createSession (registry : SessionRegistry maxSessions maxSubs maxInflight) (packet : Connect) :
    Prepared maxSessions maxSubs maxInflight :=
  let (displacedLwt, registry) := displace registry packet.clientId
  if registry.isFull then recordDisplaced registry displacedLwt (.rejected .serverUnavailable)
  else
    match freshState packet with
    | .error error => (registry, .error error)
    | .ok state =>
        match registry.insert state with
        | .error error => (registry, .error (.registry error))
        | .ok (sessionId, registry) =>
            recordDisplaced registry displacedLwt (.accepted ⟨sessionId, displacedLwt, false⟩)

def resumable (registry : SessionRegistry maxSessions maxSubs maxInflight) (packet : Connect) :
    Option SessionId :=
  if packet.cleanSession then none else registry.findByClientId packet.clientId

def prepareConnect (registry : SessionRegistry maxSessions maxSubs maxInflight) (packet : Connect)
    (houseToken : HouseToken) : Prepared maxSessions maxSubs maxInflight :=
  if packet.protocol ≠ .mqtt311 then (registry, .ok (.rejected .refusedProtocolVersion))
  else if packet.clientId.isEmpty then (registry, .ok (.rejected .refusedIdentifierRejected))
  else if !matchesHouseToken packet houseToken then (registry, .ok (.rejected .badUsernamePassword))
  else
    match resumable registry packet with
    | some existing => resumeSession registry packet existing
    | none => createSession registry packet

end PicoBroker
