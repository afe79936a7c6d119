import PicoBroker.Config.Schema
import PicoBroker.Shared.Checks

set_option autoImplicit false

namespace SmartboxConfig

open Checks

inductive CompileError where
  | unsupportedSchemaVersion (found supported : UInt16)
  | emptyHouseId
  | emptyBoardId
  | emptyDeviceId
  | emptyRuleId
  | missingBoard (boardId : BoardId)
  | missingTargetBoard (boardId : BoardId)
  | missingCoordinator
  | multipleCoordinators
  | duplicateBoardId (boardId : BoardId)
  | duplicateDeviceId (deviceId : DeviceId)
  | duplicateRuleId (ruleId : RuleId)
  | controllerBoardMissing (boardId : BoardId)
  | deviceBoardMissing (boardId : BoardId)
  | deviceControllerMissing
  | dependencyBoardMissing (boardId : BoardId)
  | dependencyCrossesBoards
  | unknownDevice (deviceId : DeviceId)
  | ruleScopeBoardMissing (boardId : BoardId)
  | boardLocalRuleTargetsRemoteDevice (ruleBoardId : BoardId) (deviceId : DeviceId)
  | houseLevelRuleOnZoneBoard
  | emptyRuleBody
  | capacityExceeded
deriving DecidableEq

structure LocalBoardInventory (maxDevices maxControllers : Nat) where
  board : BoardConfig
  controllers : Bounded ControllerConfig maxControllers
  devices : Bounded DeviceConfig maxDevices
deriving DecidableEq

structure Stm32DependencyLayout (maxDependencies : Nat) where
  records : Bounded Stm32DependencyConfig maxDependencies
deriving DecidableEq

structure CompiledRule (maxActions maxSteps : Nat) where
  rule : RuleConfig maxActions maxSteps
deriving DecidableEq

structure TopologyEntry where
  deviceId : DeviceId
  ownerBoardId : BoardId
deriving DecidableEq

structure TopologyCatalog (maxDevices : Nat) where
  entries : Bounded TopologyEntry maxDevices
deriving DecidableEq

structure CompiledConfig
    (maxDevices maxControllers maxDependencies maxRules maxActions maxSteps : Nat) where
  configVersion : UInt32
  localInventory : LocalBoardInventory maxDevices maxControllers
  stm32Dependencies : Stm32DependencyLayout maxDependencies
  rules : Bounded (CompiledRule maxActions maxSteps) maxRules
  topology : TopologyCatalog maxDevices
deriving DecidableEq

section

variable {maxBoards maxControllers maxDevices maxDependencies maxRules maxActions maxSteps : Nat}
  (config : CanonicalConfig maxBoards maxControllers maxDevices maxDependencies maxRules maxActions maxSteps)

def findBoard (boardId : BoardId) : Option BoardConfig :=
  config.boards.items.find? fun board => board.boardId == boardId

def ownerOf (deviceId : DeviceId) : Except CompileError BoardId :=
  match config.devices.items.find? fun device => device.deviceId == deviceId with
  | some device => .ok device.ownerBoardId
  | none => .error (.unknownDevice deviceId)

-- The boards after `board` in the list are those that `skip(index + 1)` leaves.
def countCoordinators (coordinatorCount : Nat) : List BoardConfig → Except CompileError Nat
  | [] => .ok coordinatorCount
  | board :: later => do
      require (board.boardId.isValid = true) .emptyBoardId
      require (later.any (fun other => other.boardId == board.boardId) = false)
        (.duplicateBoardId board.boardId)
      countCoordinators
        (if board.role = .coordinator then coordinatorCount + 1 else coordinatorCount) later

def oneCoordinator : Nat → Except CompileError Unit
  | 0 => .error .missingCoordinator
  | 1 => .ok ()
  | _ => .error .multipleCoordinators

def validateBoards : Except CompileError Unit := do
  let coordinatorCount ← countCoordinators 0 config.boards.items
  oneCoordinator coordinatorCount

def validateControllers : Except CompileError Unit :=
  forM config.controllers.items fun controller =>
    require ((findBoard config controller.ownerBoardId).isSome = true)
      (.controllerBoardMissing controller.ownerBoardId)

def validatePort (device : DeviceConfig) : Except CompileError Unit :=
  match device.port with
  | none => .ok ()
  | some port =>
      require
        (config.controllers.items.all (fun controller =>
          controller.controllerId != port.controllerId ||
            controller.ownerBoardId != device.ownerBoardId) = false)
        .deviceControllerMissing

def validateDevices : Except CompileError Unit :=
  config.devices.items |> forTails fun device later => do
    require (device.deviceId.isValid = true) .emptyDeviceId
    require (later.any (fun other => other.deviceId == device.deviceId) = false)
      (.duplicateDeviceId device.deviceId)
    require ((findBoard config device.ownerBoardId).isSome = true)
      (.deviceBoardMissing device.ownerBoardId)
    validatePort config device

def validateDependencies : Except CompileError Unit :=
  forM config.dependencies.items fun dependency => do
    require ((findBoard config dependency.ownerBoardId).isSome = true)
      (.dependencyBoardMissing dependency.ownerBoardId)
    let sourceOwner ← ownerOf config dependency.source.deviceId
    let destinationOwner ← ownerOf config dependency.destination.deviceId
    require (¬(sourceOwner ≠ dependency.ownerBoardId ∨ destinationOwner ≠ dependency.ownerBoardId))
      .dependencyCrossesBoards

def validateProperty (property : DeviceProperty) : Except CompileError Unit := do
  let _ ← ownerOf config property.deviceId
  .ok ()

def validateCondition : Condition → Except CompileError Unit
  | .deviceProperty property _ _ => validateProperty config property

def validateTrigger : Option Trigger → Except CompileError Unit
  | some (.deviceChanged property) => validateProperty config property
  | some (.boardEvent boardId _) => require ((findBoard config boardId).isSome = true) (.missingBoard boardId)
  | some (.schedule _) | none => .ok ()

def validateTarget (scope : RuleScope) (ownerBoardId : BoardId) (deviceId : DeviceId) :
    Except CompileError Unit :=
  match scope with
  | .boardLocal boardId =>
      require (ownerBoardId = boardId) (.boardLocalRuleTargetsRemoteDevice boardId deviceId)
  | .houseLevel => .ok ()

def validateAction (scope : RuleScope) : Action → Except CompileError Unit
  | .setDevice deviceId _ _ => do
      let ownerBoardId ← ownerOf config deviceId
      validateTarget scope ownerBoardId deviceId
  | .sendBoardCommand boardId _ =>
      require ((findBoard config boardId).isSome = true) (.missingBoard boardId)
  | .publishEvent _ => .ok ()

def validateActions (scope : RuleScope) (actions : Bounded Action maxActions) : Except CompileError Unit :=
  forM actions.items (validateAction config scope)

def validateOptional : Option Condition → Except CompileError Unit
  | some condition => validateCondition config condition
  | none => .ok ()

def validateRuleBody (rule : RuleConfig maxActions maxSteps) : Except CompileError Unit :=
  match rule.body with
  | .act actions => do
      require (actions.items ≠ []) .emptyRuleBody
      validateActions config rule.scope actions
  | .steps steps => do
      require (steps.items ≠ []) .emptyRuleBody
      forM steps.items fun step => do
        require (step.actions.items ≠ []) .emptyRuleBody
        validateOptional config step.precondition
        validateActions config rule.scope step.actions

def validateScope : RuleScope → Except CompileError Unit
  | .boardLocal boardId =>
      require ((findBoard config boardId).isSome = true) (.ruleScopeBoardMissing boardId)
  | .houseLevel => .ok ()

def validateRules : Except CompileError Unit :=
  config.rules.items |> forTails fun rule later => do
    require (rule.ruleId.isValid = true) .emptyRuleId
    require (later.any (fun other => other.ruleId == rule.ruleId) = false) (.duplicateRuleId rule.ruleId)
    validateScope config rule.scope
    validateTrigger config rule.trigger
    validateOptional config rule.condition
    validateRuleBody config rule

def validateConfig : Except CompileError Unit := do
  require (config.schemaVersion = supportedSchemaVersion)
    (.unsupportedSchemaVersion config.schemaVersion supportedSchemaVersion)
  require (config.houseId.isValid = true) .emptyHouseId
  validateBoards config
  validateControllers config
  validateDevices config
  validateDependencies config
  validateRules config

def ruleAppliesToBoard (rule : RuleConfig maxActions maxSteps) (board : BoardConfig) : Bool :=
  match rule.scope with
  | .boardLocal boardId => boardId == board.boardId
  | .houseLevel => board.role == .coordinator

def collect {α : Type} {capacity : Nat} (items : List α) : Except CompileError (Bounded α capacity) :=
  match Bounded.empty.extend? items with
  | some collected => .ok collected
  | none => .error .capacityExceeded

def compileConfig (targetBoardId : BoardId) : Except CompileError
    (CompiledConfig maxDevices maxControllers maxDependencies maxRules maxActions maxSteps) := do
  validateConfig config
  match findBoard config targetBoardId with
  | none => .error (.missingTargetBoard targetBoardId)
  | some board => do
      let localControllers ← collect <|
        config.controllers.items.filter fun controller => controller.ownerBoardId == targetBoardId
      let localDevices ← collect <|
        config.devices.items.filter fun device => device.ownerBoardId == targetBoardId
      let stm32Dependencies ← collect <|
        config.dependencies.items.filter fun dependency => dependency.ownerBoardId == targetBoardId
      let rules ← collect <|
        (config.rules.items.filter fun rule => ruleAppliesToBoard rule board).map CompiledRule.mk
      let topologyEntries ← collect <|
        config.devices.items.map fun device => ⟨device.deviceId, device.ownerBoardId⟩
      .ok
        { configVersion := config.configVersion
          localInventory := ⟨board, localControllers, localDevices⟩
          stm32Dependencies := ⟨stm32Dependencies⟩
          rules := rules
          topology := ⟨topologyEntries⟩ }

end

end SmartboxConfig
