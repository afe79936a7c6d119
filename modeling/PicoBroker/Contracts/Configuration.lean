import PicoBroker.Config.Compiler

set_option autoImplicit false

namespace SmartboxConfig

open Checks

section

variable {maxBoards maxControllers maxDevices maxDependencies maxRules maxActions maxSteps : Nat}

section

variable
  (config : CanonicalConfig maxBoards maxControllers maxDevices maxDependencies maxRules maxActions maxSteps)

def BoardExists (boardId : BoardId) : Prop := ∃ board ∈ config.boards.items, board.boardId = boardId

def Owns (boardId : BoardId) (deviceId : DeviceId) : Prop :=
  ∃ device ∈ config.devices.items, device.deviceId = deviceId ∧ device.ownerBoardId = boardId

def DeviceExists (deviceId : DeviceId) : Prop :=
  ∃ device ∈ config.devices.items, device.deviceId = deviceId

end

def RuleBody.actions : RuleBody maxActions maxSteps → List Action
  | .act actions => actions.items
  | .steps sequence => sequence.items.flatMap fun step => step.actions.items

def RuleBody.preconditions : RuleBody maxActions maxSteps → List Condition
  | .act _ => []
  | .steps sequence => sequence.items.filterMap fun step => step.precondition

def RuleBody.Nonempty : RuleBody maxActions maxSteps → Prop
  | .act actions => actions.items ≠ []
  | .steps sequence => sequence.items ≠ [] ∧ ∀ step ∈ sequence.items, step.actions.items ≠ []

def Trigger.NamesDevice : Trigger → DeviceId → Prop
  | .deviceChanged property, deviceId => property.deviceId = deviceId
  | .schedule _, _ | .boardEvent _ _, _ => False

def Trigger.NamesBoard : Trigger → BoardId → Prop
  | .boardEvent named _, boardId => named = boardId
  | .schedule _, _ | .deviceChanged _, _ => False

def Condition.NamesDevice : Condition → DeviceId → Prop
  | .deviceProperty property _ _, deviceId => property.deviceId = deviceId

def Action.NamesDevice : Action → DeviceId → Prop
  | .setDevice named _ _, deviceId => named = deviceId
  | .sendBoardCommand _ _, _ | .publishEvent _, _ => False

def Action.NamesBoard : Action → BoardId → Prop
  | .sendBoardCommand named _, boardId => named = boardId
  | .setDevice _ _ _, _ | .publishEvent _, _ => False

def RuleConfig.NamesDevice (rule : RuleConfig maxActions maxSteps) (deviceId : DeviceId) : Prop :=
  (∃ trigger ∈ rule.trigger, trigger.NamesDevice deviceId) ∨
    (∃ condition ∈ rule.condition, condition.NamesDevice deviceId) ∨
    (∃ condition ∈ rule.body.preconditions, condition.NamesDevice deviceId) ∨
    ∃ action ∈ rule.body.actions, action.NamesDevice deviceId

def RuleConfig.NamesBoard (rule : RuleConfig maxActions maxSteps) (boardId : BoardId) : Prop :=
  (∃ trigger ∈ rule.trigger, trigger.NamesBoard boardId) ∨
    ∃ action ∈ rule.body.actions, action.NamesBoard boardId

section

variable
  (config : CanonicalConfig maxBoards maxControllers maxDevices maxDependencies maxRules maxActions maxSteps)

structure WellFormedBoards : Prop where
  nonzero : ∀ board ∈ config.boards.items, board.boardId.value ≠ 0
  distinct : (config.boards.items.map BoardConfig.boardId).Nodup
  coordinator : (config.boards.items.countP fun board => board.role = .coordinator) = 1

structure WellFormedDevice (device : DeviceConfig) : Prop where
  nonzero : device.deviceId.value ≠ 0
  owner : BoardExists config device.ownerBoardId
  port : ∀ port ∈ device.port, ∃ controller ∈ config.controllers.items,
    controller.controllerId = port.controllerId ∧ controller.ownerBoardId = device.ownerBoardId

structure WellFormedDependency (dependency : Stm32DependencyConfig) : Prop where
  board : BoardExists config dependency.ownerBoardId
  source : Owns config dependency.ownerBoardId dependency.source.deviceId
  destination : Owns config dependency.ownerBoardId dependency.destination.deviceId

structure WellFormedRule (rule : RuleConfig maxActions maxSteps) : Prop where
  nonzero : rule.ruleId.value ≠ 0
  scope : ∀ boardId, rule.scope = .boardLocal boardId → BoardExists config boardId
  devices : ∀ deviceId, rule.NamesDevice deviceId → DeviceExists config deviceId
  boards : ∀ boardId, rule.NamesBoard boardId → BoardExists config boardId
  nonempty : rule.body.Nonempty
  targets : ∀ boardId, rule.scope = .boardLocal boardId → ∀ deviceId property value,
    .setDevice deviceId property value ∈ rule.body.actions → Owns config boardId deviceId

structure WellFormed : Prop where
  version : config.schemaVersion = supportedSchemaVersion
  house : config.houseId.value ≠ 0
  boards : WellFormedBoards config
  controllers : ∀ controller ∈ config.controllers.items, BoardExists config controller.ownerBoardId
  distinctDevices : (config.devices.items.map DeviceConfig.deviceId).Nodup
  devices : ∀ device ∈ config.devices.items, WellFormedDevice config device
  dependencies : ∀ dependency ∈ config.dependencies.items, WellFormedDependency config dependency
  distinctRules : (config.rules.items.map RuleConfig.ruleId).Nodup
  rules : ∀ rule ∈ config.rules.items, WellFormedRule config rule

end

variable
  {config : CanonicalConfig maxBoards maxControllers maxDevices maxDependencies maxRules maxActions maxSteps}

@[simp] theorem findBoard_isSome {boardId : BoardId} :
    (findBoard config boardId).isSome = true ↔ BoardExists config boardId := by
  simp [findBoard, BoardExists]

theorem ownerOf_passes {deviceId : DeviceId} :
    (∃ owner, ownerOf config deviceId = .ok owner) ↔ DeviceExists config deviceId := by
  unfold ownerOf DeviceExists
  split
  · next device found =>
    have member := List.mem_of_find?_eq_some found
    have same := List.find?_some found
    exact ⟨fun _ => ⟨device, member, by simpa using same⟩, fun _ => ⟨_, rfl⟩⟩
  · next missing =>
    rw [List.find?_eq_none] at missing
    simpa using missing

theorem ownerOf_owns {deviceId : DeviceId} {owner : BoardId} (found : ownerOf config deviceId = .ok owner) :
    Owns config owner deviceId := by
  unfold ownerOf at found
  split at found
  · next device first =>
    cases found
    exact ⟨device, List.mem_of_find?_eq_some first, by simpa using List.find?_some first, rfl⟩
  · cases found

-- With distinct ids the first device is the only one, so an owner is an owner by the validator's
-- search.
theorem Owns.unique (distinct : (config.devices.items.map DeviceConfig.deviceId).Nodup) {deviceId : DeviceId}
    {owner other : BoardId} (owns : Owns config owner deviceId) (otherOwns : Owns config other deviceId) :
    owner = other := by
  obtain ⟨device, member, rfl, rfl⟩ := owns
  obtain ⟨second, secondMember, same, rfl⟩ := otherOwns
  rw [List.inj_on_of_nodup_map distinct secondMember member same]

theorem Owns.deviceExists {deviceId : DeviceId} {owner : BoardId} (owns : Owns config owner deviceId) :
    DeviceExists config deviceId := by
  obtain ⟨device, member, same, _⟩ := owns
  exact ⟨device, member, same⟩

theorem ownerOf_eq_ok (distinct : (config.devices.items.map DeviceConfig.deviceId).Nodup)
    {deviceId : DeviceId} {owner : BoardId} :
    ownerOf config deviceId = .ok owner ↔ Owns config owner deviceId := by
  constructor
  · exact ownerOf_owns
  · intro owns
    obtain ⟨found, passed⟩ := ownerOf_passes.mpr owns.deviceExists
    rw [passed, (ownerOf_owns passed).unique distinct owns]

theorem countCoordinators_eq_ok {boards : List BoardConfig} {start total : Nat} :
    countCoordinators start boards = .ok total ↔
      (∀ board ∈ boards, board.boardId.value ≠ 0) ∧ (boards.map BoardConfig.boardId).Nodup ∧
        total = start + boards.countP fun board => board.role = .coordinator := by
  induction boards generalizing start with
  | nil => simp [countCoordinators, eq_comm]
  | cons board later ih =>
    have counted : (if board.role = .coordinator then start + 1 else start) +
        later.countP (fun board => board.role = .coordinator) =
          start + (board :: later).countP fun board => board.role = .coordinator := by
      rw [List.countP_cons]
      split <;> simp_all
      omega
    simp only [countCoordinators, seq_eq_ok, require_eq_ok, ih, counted, List.any_eq_false, beq_iff_eq,
      BoardId.isValid, bne_iff_ne, List.forall_mem_cons, List.map_cons, List.nodup_cons, List.mem_map,
      not_exists, not_and]
    constructor
    · rintro ⟨valid, distinct, laterValid, laterDistinct, total⟩
      exact ⟨⟨valid, laterValid⟩, ⟨distinct, laterDistinct⟩, total⟩
    · rintro ⟨⟨valid, laterValid⟩, ⟨distinct, laterDistinct⟩, total⟩
      exact ⟨valid, distinct, laterValid, laterDistinct, total⟩

theorem oneCoordinator_eq_ok {count : Nat} : oneCoordinator count = .ok () ↔ count = 1 := by
  match count with
  | 0 | 1 | _ + 2 => simp [oneCoordinator]

theorem validateBoards_eq_ok : validateBoards config = .ok () ↔ WellFormedBoards config := by
  simp only [validateBoards, bind_eq_ok, countCoordinators_eq_ok, oneCoordinator_eq_ok]
  constructor
  · rintro ⟨_, ⟨nonzero, distinct, counted⟩, rfl⟩
    exact ⟨nonzero, distinct, by simpa using counted.symm⟩
  · rintro ⟨nonzero, distinct, coordinator⟩
    exact ⟨1, ⟨nonzero, distinct, by simp [coordinator]⟩, rfl⟩

theorem validateControllers_eq_ok : validateControllers config = .ok () ↔
    ∀ controller ∈ config.controllers.items, BoardExists config controller.ownerBoardId := by
  simp [validateControllers]

theorem validatePort_eq_ok {device : DeviceConfig} : validatePort config device = .ok () ↔
    ∀ port ∈ device.port, ∃ controller ∈ config.controllers.items,
      controller.controllerId = port.controllerId ∧ controller.ownerBoardId = device.ownerBoardId := by
  unfold validatePort
  split
  · next portless => simp [portless]
  · next port found => simp [found]

theorem validateDevices_eq_ok : validateDevices config = .ok () ↔
    (config.devices.items.map DeviceConfig.deviceId).Nodup ∧
      ∀ device ∈ config.devices.items, WellFormedDevice config device := by
  apply forTails_nodup
  intro device later
  simp only [seq_eq_ok, require_eq_ok, List.any_eq_false, beq_iff_eq, DeviceId.isValid, bne_iff_ne,
    findBoard_isSome, validatePort_eq_ok]
  constructor
  · rintro ⟨nonzero, distinct, owner, port⟩
    exact ⟨distinct, nonzero, owner, port⟩
  · rintro ⟨distinct, nonzero, owner, port⟩
    exact ⟨nonzero, distinct, owner, port⟩

theorem validateDependencies_eq_ok (distinct : (config.devices.items.map DeviceConfig.deviceId).Nodup) :
    validateDependencies config = .ok () ↔
      ∀ dependency ∈ config.dependencies.items, WellFormedDependency config dependency := by
  simp only [validateDependencies, forM_eq_ok, seq_eq_ok, require_eq_ok, findBoard_isSome]
  simp only [bind_eq_ok, require_eq_ok, ownerOf_eq_ok distinct, not_or, not_not]
  apply forall₂_congr
  intro dependency _
  constructor
  · rintro ⟨board, _, source, _, destination, rfl, same⟩
    exact ⟨board, source, same ▸ destination⟩
  · rintro ⟨board, source, destination⟩
    exact ⟨board, _, source, _, destination, rfl, rfl⟩

theorem validateProperty_eq_ok {property : DeviceProperty} :
    validateProperty config property = .ok () ↔ DeviceExists config property.deviceId := by
  simp [validateProperty, bind_eq_ok, ownerOf_passes]

theorem validateOptional_eq_ok {condition : Option Condition} : validateOptional config condition = .ok () ↔
    ∀ named ∈ condition, ∀ deviceId, named.NamesDevice deviceId → DeviceExists config deviceId := by
  rcases condition with _ | ⟨property, op, value⟩
  · simp [validateOptional]
  · simp [validateOptional, validateCondition, validateProperty_eq_ok, Condition.NamesDevice]

theorem validateTrigger_eq_ok {trigger : Option Trigger} : validateTrigger config trigger = .ok () ↔
    (∀ named ∈ trigger, ∀ deviceId, named.NamesDevice deviceId → DeviceExists config deviceId) ∧
      ∀ named ∈ trigger, ∀ boardId, named.NamesBoard boardId → BoardExists config boardId := by
  rcases trigger with _ | (property | schedule | ⟨board, event⟩)
  · simp [validateTrigger]
  · simp [validateTrigger, validateProperty_eq_ok, Trigger.NamesDevice, Trigger.NamesBoard]
  · simp [validateTrigger, Trigger.NamesDevice, Trigger.NamesBoard]
  · simp [validateTrigger, Trigger.NamesDevice, Trigger.NamesBoard]

theorem validateScope_eq_ok {scope : RuleScope} : validateScope config scope = .ok () ↔
    ∀ boardId, scope = .boardLocal boardId → BoardExists config boardId := by
  cases scope with
  | boardLocal board => simp [validateScope]
  | houseLevel => simp [validateScope]

structure WellFormedAction
    (config : CanonicalConfig maxBoards maxControllers maxDevices maxDependencies maxRules maxActions maxSteps)
    (scope : RuleScope) (action : Action) : Prop where
  devices : ∀ deviceId, action.NamesDevice deviceId → DeviceExists config deviceId
  boards : ∀ boardId, action.NamesBoard boardId → BoardExists config boardId
  targets : ∀ boardId, scope = .boardLocal boardId → ∀ deviceId property value,
    action = .setDevice deviceId property value → Owns config boardId deviceId

theorem validateTarget_eq_ok {scope : RuleScope} {owner : BoardId} {deviceId : DeviceId} :
    validateTarget scope owner deviceId = .ok () ↔ ∀ boardId, scope = .boardLocal boardId → owner = boardId := by
  cases scope with
  | boardLocal board => simp [validateTarget]
  | houseLevel => simp [validateTarget]

theorem validateAction_eq_ok (distinct : (config.devices.items.map DeviceConfig.deviceId).Nodup)
    {scope : RuleScope} {action : Action} :
    validateAction config scope action = .ok () ↔ WellFormedAction config scope action := by
  cases action with
  | setDevice device property value =>
    simp only [validateAction, bind_eq_ok, validateTarget_eq_ok, ownerOf_eq_ok distinct]
    constructor
    · rintro ⟨owner, owns, same⟩
      refine ⟨?_, by simp [Action.NamesBoard], ?_⟩
      · rintro _ rfl
        exact owns.deviceExists
      · rintro board bound _ _ _ ⟨⟩
        exact same board bound ▸ owns
    · rintro ⟨devices, -, targets⟩
      obtain ⟨known, member, same⟩ := devices device rfl
      have owns : Owns config known.ownerBoardId device := ⟨known, member, same, rfl⟩
      exact ⟨_, owns, fun board bound => owns.unique distinct (targets board bound _ _ _ rfl)⟩
  | sendBoardCommand board code =>
    simp only [validateAction, require_eq_ok, findBoard_isSome]
    constructor
    · intro found
      refine ⟨by simp [Action.NamesDevice], ?_, by simp⟩
      rintro _ rfl
      exact found
    · intro wellFormed
      exact wellFormed.boards board rfl
  | publishEvent code =>
    simp only [validateAction, true_iff]
    exact ⟨by simp [Action.NamesDevice], by simp [Action.NamesBoard], by simp⟩

theorem validateActions_eq_ok (distinct : (config.devices.items.map DeviceConfig.deviceId).Nodup)
    {scope : RuleScope} {actions : Bounded Action maxActions} :
    validateActions config scope actions = .ok () ↔
      ∀ action ∈ actions.items, WellFormedAction config scope action := by
  simp only [validateActions, forM_eq_ok, validateAction_eq_ok distinct]

theorem validateRuleBody_eq_ok (distinct : (config.devices.items.map DeviceConfig.deviceId).Nodup)
    {rule : RuleConfig maxActions maxSteps} :
    validateRuleBody config rule = .ok () ↔
      rule.body.Nonempty ∧
        (∀ condition ∈ rule.body.preconditions, ∀ deviceId, condition.NamesDevice deviceId →
          DeviceExists config deviceId) ∧
        ∀ action ∈ rule.body.actions, WellFormedAction config rule.scope action := by
  unfold validateRuleBody
  split
  · next actions body =>
    simp [body, RuleBody.Nonempty, RuleBody.preconditions, RuleBody.actions, validateActions_eq_ok distinct]
  · next sequence body =>
    simp only [body, RuleBody.Nonempty, RuleBody.preconditions, RuleBody.actions, seq_eq_ok, require_eq_ok,
      forM_eq_ok, validateOptional_eq_ok, validateActions_eq_ok distinct, List.mem_flatMap,
      List.mem_filterMap]
    constructor
    · rintro ⟨nonempty, steps⟩
      refine ⟨⟨nonempty, fun step member => (steps step member).1⟩, ?_, ?_⟩
      · rintro condition ⟨step, member, found⟩
        exact (steps step member).2.1 condition found
      · rintro action ⟨step, member, found⟩
        exact (steps step member).2.2 action found
    · rintro ⟨⟨nonempty, steps⟩, preconditions, actions⟩
      refine ⟨nonempty, fun step member => ⟨steps step member, ?_, ?_⟩⟩
      · exact fun condition found => preconditions condition ⟨step, member, found⟩
      · exact fun action found => actions action ⟨step, member, found⟩

theorem validateRules_eq_ok (distinct : (config.devices.items.map DeviceConfig.deviceId).Nodup) :
    validateRules config = .ok () ↔
      (config.rules.items.map RuleConfig.ruleId).Nodup ∧
        ∀ rule ∈ config.rules.items, WellFormedRule config rule := by
  apply forTails_nodup
  intro rule later
  simp only [seq_eq_ok, require_eq_ok, List.any_eq_false, beq_iff_eq, RuleId.isValid, bne_iff_ne,
    validateScope_eq_ok, validateTrigger_eq_ok, validateOptional_eq_ok, validateRuleBody_eq_ok distinct]
  constructor
  · rintro ⟨nonzero, distinct, scope, ⟨triggered, events⟩, condition, nonempty, preconditions, actions⟩
    refine ⟨distinct, nonzero, scope, ?_, ?_, nonempty, ?_⟩
    · rintro device (⟨named, found, names⟩ | ⟨named, found, names⟩ | ⟨named, found, names⟩ |
        ⟨named, found, names⟩)
      · exact triggered named found device names
      · exact condition named found device names
      · exact preconditions named found device names
      · exact (actions named found).devices device names
    · rintro board (⟨named, found, names⟩ | ⟨named, found, names⟩)
      · exact events named found board names
      · exact (actions named found).boards board names
    · intro board bound device property value found
      exact (actions _ found).targets board bound device property value rfl
  · rintro ⟨distinct, nonzero, scope, devices, boards, nonempty, targets⟩
    refine ⟨nonzero, distinct, scope, ⟨?_, ?_⟩, ?_, nonempty, ?_, ?_⟩
    · exact fun named found device names => devices device (.inl ⟨named, found, names⟩)
    · exact fun named found board names => boards board (.inl ⟨named, found, names⟩)
    · exact fun named found device names => devices device (.inr (.inl ⟨named, found, names⟩))
    · exact fun named found device names => devices device (.inr (.inr (.inl ⟨named, found, names⟩)))
    · intro action found
      refine ⟨?_, ?_, ?_⟩
      · exact fun device names => devices device (.inr (.inr (.inr ⟨action, found, names⟩)))
      · exact fun board names => boards board (.inr ⟨action, found, names⟩)
      · rintro board bound device property value rfl
        exact targets board bound device property value found

theorem validateConfig_eq_ok : validateConfig config = .ok () ↔
    config.schemaVersion = supportedSchemaVersion ∧ config.houseId.value ≠ 0 ∧ WellFormedBoards config ∧
      (∀ controller ∈ config.controllers.items, BoardExists config controller.ownerBoardId) ∧
      ((config.devices.items.map DeviceConfig.deviceId).Nodup ∧
        ∀ device ∈ config.devices.items, WellFormedDevice config device) ∧
      (∀ dependency ∈ config.dependencies.items, WellFormedDependency config dependency) ∧
      (config.rules.items.map RuleConfig.ruleId).Nodup ∧
        ∀ rule ∈ config.rules.items, WellFormedRule config rule := by
  simp only [validateConfig, seq_eq_ok, require_eq_ok, HouseId.isValid, bne_iff_ne, validateBoards_eq_ok,
    validateControllers_eq_ok, validateDevices_eq_ok]
  -- The last two passes read owners off the devices, whose ids are distinct by then.
  refine and_congr_right fun _ => and_congr_right fun _ => and_congr_right fun _ =>
    and_congr_right fun _ => and_congr_right fun devices => ?_
  rw [validateDependencies_eq_ok devices.1, validateRules_eq_ok devices.1]

end

theorem validateConfig_accepts_iff
    {maxBoards maxControllers maxDevices maxDependencies maxRules maxActions maxSteps : Nat}
    (config : CanonicalConfig maxBoards maxControllers maxDevices maxDependencies maxRules maxActions maxSteps) :
    validateConfig config = .ok () ↔ WellFormed config := by
  rw [validateConfig_eq_ok]
  constructor
  · rintro ⟨version, house, boards, controllers, ⟨distinct, devices⟩, dependencies, distinctRules, rules⟩
    exact ⟨version, house, boards, controllers, distinct, devices, dependencies, distinctRules, rules⟩
  · rintro ⟨version, house, boards, controllers, distinct, devices, dependencies, distinctRules, rules⟩
    exact ⟨version, house, boards, controllers, ⟨distinct, devices⟩, dependencies, distinctRules, rules⟩

end SmartboxConfig
