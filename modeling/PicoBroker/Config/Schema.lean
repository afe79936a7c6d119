import PicoBroker.Shared.Bounded

set_option autoImplicit false

namespace SmartboxConfig

def supportedSchemaVersion : UInt16 := 1

structure HouseId where
  value : UInt32
deriving DecidableEq

structure BoardId where
  value : UInt32
deriving DecidableEq

structure ControllerId where
  value : UInt8
deriving DecidableEq

structure DeviceId where
  value : UInt32
deriving DecidableEq

structure RuleId where
  value : UInt32
deriving DecidableEq

def HouseId.isValid (id : HouseId) : Bool := id.value != 0

def BoardId.isValid (id : BoardId) : Bool := id.value != 0

def DeviceId.isValid (id : DeviceId) : Bool := id.value != 0

def RuleId.isValid (id : RuleId) : Bool := id.value != 0

inductive BoardRole where
  | coordinator
  | standby
  | zone
deriving DecidableEq

inductive ControllerFamily where
  | xController
  | irGate
  | dimmer
  | pwm
  | smartBox
deriving DecidableEq

inductive DeviceKind where
  | relay
  | discreteInput
  | adc
  | dht
  | ds18B20
  | daliLight
  | daliGroup
  | pwm
  | triacDimmer
  | iButton
  | irGate
  | tuyaRelay
  | tasmotaIrGate
  | aquaProtect
  | climateControl
  | curtains
  | fan
  | gateValve
deriving DecidableEq

inductive PropertyKind where
  | state
  | brightness
  | value
  | temperature
  | humidity
  | counter
  | lastKey
  | position
  | mode
deriving DecidableEq

inductive Value where
  | bool (value : Bool)
  | u8 (value : UInt8)
  | i16 (value : Int16)
  | u16 (value : UInt16)
  | i32 (value : Int32)
  | u32 (value : UInt32)
deriving DecidableEq

structure DeviceProperty where
  deviceId : DeviceId
  property : PropertyKind
deriving DecidableEq

structure PortRef where
  controllerId : ControllerId
  port : UInt8
deriving DecidableEq

structure BoardConfig where
  boardId : BoardId
  role : BoardRole
deriving DecidableEq

structure ControllerConfig where
  controllerId : ControllerId
  ownerBoardId : BoardId
  family : ControllerFamily
deriving DecidableEq

structure DeviceConfig where
  deviceId : DeviceId
  ownerBoardId : BoardId
  kind : DeviceKind
  port : Option PortRef
deriving DecidableEq

inductive RuleScope where
  | boardLocal (boardId : BoardId)
  | houseLevel
deriving DecidableEq

inductive Trigger where
  | deviceChanged (property : DeviceProperty)
  | schedule (scheduleId : UInt32)
  | boardEvent (boardId : BoardId) (eventCode : UInt16)
deriving DecidableEq

inductive CompareOp where
  | eq
  | notEq
  | greater
  | greaterOrEq
  | less
  | lessOrEq
deriving DecidableEq

inductive Condition where
  | deviceProperty (property : DeviceProperty) (op : CompareOp) (value : Value)
deriving DecidableEq

inductive Action where
  | setDevice (deviceId : DeviceId) (property : PropertyKind) (value : Value)
  | sendBoardCommand (boardId : BoardId) (actionCode : UInt16)
  | publishEvent (eventCode : UInt16)
deriving DecidableEq

structure Step (maxActions : Nat) where
  delayMs : UInt32
  actions : Bounded Action maxActions
  precondition : Option Condition
deriving DecidableEq

inductive RuleBody (maxActions maxSteps : Nat) where
  | act (actions : Bounded Action maxActions)
  | steps (steps : Bounded (Step maxActions) maxSteps)
deriving DecidableEq

structure RuleConfig (maxActions maxSteps : Nat) where
  ruleId : RuleId
  scope : RuleScope
  enabled : Bool
  trigger : Option Trigger
  condition : Option Condition
  body : RuleBody maxActions maxSteps
  cooldownMs : UInt32
  version : UInt16
deriving DecidableEq

inductive DependencySourceCode where
  | deviceProperty
  | controllerEvent
deriving DecidableEq

inductive DependencyDestinationCode where
  | setDeviceProperty
  | disableDevice
  | enableDevice
deriving DecidableEq

inductive DependencyTagType where
  | generic
  | aquaProtect
  | climateControl
  | curtains
  | fan
  | gateValve
deriving DecidableEq

structure Stm32DependencyConfig where
  ownerBoardId : BoardId
  source : DeviceProperty
  sourceCode : DependencySourceCode
  destination : DeviceProperty
  destinationCode : DependencyDestinationCode
  tag : DependencyTagType
deriving DecidableEq

structure BrokerConfig where
  hostName : Bounded UInt8 32
  tlsRequired : Bool
deriving DecidableEq

structure NetworkConfig where
  dhcp : Bool
  staticIpv4 : Option (Vector UInt8 4)
deriving DecidableEq

structure CanonicalConfig
    (maxBoards maxControllers maxDevices maxDependencies maxRules maxActions maxSteps : Nat) where
  schemaVersion : UInt16
  configVersion : UInt32
  houseId : HouseId
  boards : Bounded BoardConfig maxBoards
  controllers : Bounded ControllerConfig maxControllers
  devices : Bounded DeviceConfig maxDevices
  dependencies : Bounded Stm32DependencyConfig maxDependencies
  rules : Bounded (RuleConfig maxActions maxSteps) maxRules
  broker : BrokerConfig
  network : NetworkConfig
deriving DecidableEq

end SmartboxConfig
