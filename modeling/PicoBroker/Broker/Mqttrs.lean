import PicoBroker.Shared.Bounded

set_option autoImplicit false

namespace PicoBroker

abbrev Bytes := List UInt8

-- heapless `String<capacity>` and `Vec<u8, capacity>`
abbrev Text (capacity : Nat) := Bounded UInt8 capacity

inductive QoS where
  | atMostOnce
  | atLeastOnce
  | exactlyOnce
deriving DecidableEq

structure Pid where
  value : Nat
  positive : 0 < value
  bounded : value < 65536
deriving DecidableEq

namespace Pid

def new : Pid := ⟨1, by decide, by decide⟩

def tryFrom (value : Nat) : Option Pid :=
  if h : 0 < value ∧ value < 65536 then some ⟨value, h.1, h.2⟩ else none

-- `pid + 1` wraps around and avoids zero.
def next (pid : Pid) : Pid :=
  if h : pid.value + 1 < 65536 then ⟨pid.value + 1, Nat.succ_pos _, h⟩ else new

theorem tryFrom_eq_some {value : Nat} {pid : Pid} (converted : tryFrom value = some pid) :
    pid.value = value := by
  unfold tryFrom at converted
  split at converted
  · cases converted
    rfl
  · cases converted

theorem tryFrom_eq_none {value : Nat} (bounded : value < 65536) :
    tryFrom value = none ↔ value = 0 := by
  unfold tryFrom
  split <;> simp <;> omega

end Pid

inductive QosPid where
  | atMostOnce
  | atLeastOnce (pid : Pid)
  | exactlyOnce (pid : Pid)
deriving DecidableEq

def QosPid.qos : QosPid → QoS
  | .atMostOnce => .atMostOnce
  | .atLeastOnce _ => .atLeastOnce
  | .exactlyOnce _ => .exactlyOnce

def QosPid.pid : QosPid → Option Pid
  | .atMostOnce => none
  | .atLeastOnce pid => some pid
  | .exactlyOnce pid => some pid

structure Publish where
  dup : Bool
  qospid : QosPid
  retain : Bool
  topicName : Bytes
  payload : Bytes
deriving DecidableEq

inductive Protocol where
  | mqtt311
  | mqisdp
deriving DecidableEq

structure LastWill where
  topic : Bytes
  message : Bytes
  qos : QoS
  retain : Bool
deriving DecidableEq

structure Connect where
  protocol : Protocol
  keepAlive : Nat
  clientId : Bytes
  cleanSession : Bool
  lastWill : Option LastWill
  username : Option Bytes
  password : Option Bytes
deriving DecidableEq

inductive ConnectReturnCode where
  | accepted
  | refusedProtocolVersion
  | refusedIdentifierRejected
  | serverUnavailable
  | badUsernamePassword
  | notAuthorized
deriving DecidableEq

structure Connack where
  sessionPresent : Bool
  code : ConnectReturnCode
deriving DecidableEq

structure SubscribeTopic where
  topicPath : Text 256
  qos : QoS
deriving DecidableEq

structure Subscribe where
  pid : Pid
  topics : Bounded SubscribeTopic 5
deriving DecidableEq

inductive SubscribeReturnCodes where
  | success (qos : QoS)
  | failure
deriving DecidableEq

structure Suback where
  pid : Pid
  returnCodes : Bounded SubscribeReturnCodes 5
deriving DecidableEq

structure Unsubscribe where
  pid : Pid
  topics : Bounded (Text 256) 5
deriving DecidableEq

inductive Packet where
  | connect (connect : Connect)
  | connack (connack : Connack)
  | publish (publish : Publish)
  | puback (pid : Pid)
  | pubrec (pid : Pid)
  | pubrel (pid : Pid)
  | pubcomp (pid : Pid)
  | subscribe (subscribe : Subscribe)
  | suback (suback : Suback)
  | unsubscribe (unsubscribe : Unsubscribe)
  | unsuback (pid : Pid)
  | pingreq
  | pingresp
  | disconnect
deriving DecidableEq

inductive MqttrsError where
  | invalidHeader
  | invalidLength
  | other
deriving DecidableEq

structure Codec where
  encodeSlice : Packet → Nat → Option Bytes
  decodeSlice : Bytes → Except MqttrsError (Option Packet)

namespace Mqtt311

-- The packets a server sends, laid out as MQTT 3.1.1 prescribes. This is the codec at which the
-- development is evaluated on concrete runs.

def lengthField (length : Nat) : Bytes :=
  if length < 128 then [UInt8.ofNat length]
  else if length < 16384 then [UInt8.ofNat (length % 128 + 128), UInt8.ofNat (length / 128)]
  else if length < 2097152 then
    [UInt8.ofNat (length % 128 + 128), UInt8.ofNat (length / 128 % 128 + 128),
      UInt8.ofNat (length / 16384)]
  else
    [UInt8.ofNat (length % 128 + 128), UInt8.ofNat (length / 128 % 128 + 128),
      UInt8.ofNat (length / 16384 % 128 + 128), UInt8.ofNat (length / 2097152)]

def word (value : Nat) : Bytes := [UInt8.ofNat (value / 256), UInt8.ofNat (value % 256)]

def publishHeader (publish : Publish) : Nat :=
  48 + (if publish.dup then 8 else 0) + (if publish.retain then 1 else 0) +
    match publish.qospid with
    | .atMostOnce => 0
    | .atLeastOnce _ => 2
    | .exactlyOnce _ => 4

def publishBody (publish : Publish) : Bytes :=
  word publish.topicName.length ++ publish.topicName ++
    (publish.qospid.pid.elim [] fun pid => word pid.value) ++ publish.payload

def returnCode : ConnectReturnCode → UInt8
  | .accepted => 0
  | .refusedProtocolVersion => 1
  | .refusedIdentifierRejected => 2
  | .serverUnavailable => 3
  | .badUsernamePassword => 4
  | .notAuthorized => 5

def subscribeCode : SubscribeReturnCodes → UInt8
  | .success .atMostOnce => 0
  | .success .atLeastOnce => 1
  | .success .exactlyOnce => 2
  | .failure => 128

def frame : Packet → Option Bytes
  | .connack connack => some [32, 2, if connack.sessionPresent then 1 else 0, returnCode connack.code]
  | .publish publish =>
      some (UInt8.ofNat (publishHeader publish) ::
        (lengthField (publishBody publish).length ++ publishBody publish))
  | .puback pid => some (64 :: 2 :: word pid.value)
  | .pubrec pid => some (80 :: 2 :: word pid.value)
  | .pubrel pid => some (98 :: 2 :: word pid.value)
  | .pubcomp pid => some (112 :: 2 :: word pid.value)
  | .suback suback =>
      some (144 :: UInt8.ofNat (suback.returnCodes.items.length + 2) ::
        (word suback.pid.value ++ suback.returnCodes.items.map subscribeCode))
  | .unsuback pid => some (176 :: 2 :: word pid.value)
  | .pingresp => some [208, 0]
  | .connect _ | .subscribe _ | .unsubscribe _ | .pingreq | .disconnect => none

def encodeSlice (packet : Packet) (room : Nat) : Option Bytes :=
  (frame packet).filter fun bytes => bytes.length ≤ room

-- The packets a client sends first or most: the concrete runs read no others as bytes.

def number (high low : UInt8) : Nat := high.toNat * 256 + low.toNat

-- A text after its length, and what follows it.
def splitText : Bytes → Option (Bytes × Bytes)
  | high :: low :: bytes =>
      if number high low ≤ bytes.length then
        some (bytes.take (number high low), bytes.drop (number high low))
      else none
  | _ => none

def splitOptional (present : Bool) (bytes : Bytes) : Option (Option Bytes × Bytes) :=
  if present then (splitText bytes).map fun (text, rest) => (some text, rest) else some (none, bytes)

def splitPid : Bytes → Option (Pid × Bytes)
  | high :: low :: bytes => (Pid.tryFrom (number high low)).map fun pid => (pid, bytes)
  | _ => none

def decodeQos : Nat → Option QoS
  | 0 => some .atMostOnce
  | 1 => some .atLeastOnce
  | 2 => some .exactlyOnce
  | _ => none

def decodeProtocol (name : Bytes) (level : UInt8) : Option Protocol :=
  if name = [77, 81, 84, 84] ∧ level = 4 then some .mqtt311
  else if name = [77, 81, 73, 115, 100, 112] ∧ level = 3 then some .mqisdp
  else none

def decodeConnect (body : Bytes) : Option Connect := do
  let (name, rest) ← splitText body
  match rest with
  | level :: flags :: high :: low :: rest =>
      let protocol ← decodeProtocol name level
      let flag := fun bit => flags.toNat.testBit bit
      let (clientId, rest) ← splitText rest
      let (topic, rest) ← splitOptional (flag 2) rest
      let (message, rest) ← splitOptional (flag 2) rest
      let (username, rest) ← splitOptional (flag 7) rest
      let (password, _) ← splitOptional (flag 6) rest
      let qos ← decodeQos (flags.toNat / 8 % 4)
      let lastWill := do some ⟨← topic, ← message, qos, flag 5⟩
      some ⟨protocol, number high low, clientId, flag 1, lastWill, username, password⟩
  | _ => none

def decodePublish (flags : Nat) (body : Bytes) : Option Publish := do
  let (topicName, rest) ← splitText body
  let qos ← decodeQos (flags / 2 % 4)
  match qos with
  | .atMostOnce => some ⟨flags.testBit 3, .atMostOnce, flags.testBit 0, topicName, rest⟩
  | .atLeastOnce => do
      let (pid, payload) ← splitPid rest
      some ⟨flags.testBit 3, .atLeastOnce pid, flags.testBit 0, topicName, payload⟩
  | .exactlyOnce => do
      let (pid, payload) ← splitPid rest
      some ⟨flags.testBit 3, .exactlyOnce pid, flags.testBit 0, topicName, payload⟩

-- Every topic takes at least one byte, so `body.length` rounds are enough.
def decodeTopics : Nat → Bytes → Option (List SubscribeTopic)
  | _, [] => some []
  | 0, _ => none
  | rounds + 1, bytes => do
      let (path, rest) ← splitText bytes
      let (qos, rest) ← rest.head?.map fun qos => (qos, rest.tail)
      let topics ← decodeTopics rounds rest
      some (⟨← Bounded.ofList? path, ← decodeQos qos.toNat⟩ :: topics)

def decodeSubscribe (body : Bytes) : Option Subscribe := do
  let (pid, rest) ← splitPid body
  let topics ← decodeTopics body.length rest
  some ⟨pid, ← Bounded.ofList? topics⟩

def decodeSlice : Bytes → Except MqttrsError (Option Packet)
  | [] => .ok none
  | header :: rest =>
      let body := (rest.dropWhile fun byte => 128 ≤ byte.toNat).tail
      let packet := match header.toNat / 16 with
        | 1 => (decodeConnect body).map .connect
        | 3 => (decodePublish (header.toNat % 16) body).map .publish
        | 8 => (decodeSubscribe body).map .subscribe
        | 12 => some .pingreq
        | 14 => some .disconnect
        | _ => none
      match packet with
      | none => .error .other
      | some packet => .ok (some packet)

def codec : Codec := ⟨encodeSlice, decodeSlice⟩

end Mqtt311

end PicoBroker
