import PicoBroker.Contracts.Compilation
import PicoBroker.Shared.Keyed

set_option autoImplicit false

namespace SmartboxConfig

section

variable {maxBoards maxControllers maxDevices maxDependencies maxRules maxActions maxSteps : Nat}

def CompiledConfig.HasDevice
    (compiled : CompiledConfig maxDevices maxControllers maxDependencies maxRules maxActions maxSteps)
    (deviceId : DeviceId) : Prop :=
  ∃ device ∈ compiled.localInventory.devices.items, device.deviceId = deviceId

structure SelfContained
    (compiled : CompiledConfig maxDevices maxControllers maxDependencies maxRules maxActions maxSteps) : Prop where
  ports : ∀ device ∈ compiled.localInventory.devices.items, ∀ port ∈ device.port,
    ∃ controller ∈ compiled.localInventory.controllers.items, controller.controllerId = port.controllerId
  dependencies : ∀ record ∈ compiled.stm32Dependencies.records.items,
    compiled.HasDevice record.source.deviceId ∧ compiled.HasDevice record.destination.deviceId
  targets : ∀ kept ∈ compiled.rules.items, ∀ boardId, kept.rule.scope = .boardLocal boardId →
    ∀ deviceId property value, .setDevice deviceId property value ∈ kept.rule.body.actions →
      compiled.HasDevice deviceId
  catalog : ∀ kept ∈ compiled.rules.items, ∀ deviceId, kept.rule.NamesDevice deviceId →
    ∃ entry ∈ compiled.topology.entries.items, entry.deviceId = deviceId

variable
  {config : CanonicalConfig maxBoards maxControllers maxDevices maxDependencies maxRules maxActions maxSteps}
  {board : BoardConfig}
  {compiled : CompiledConfig maxDevices maxControllers maxDependencies maxRules maxActions maxSteps}

namespace CompiledFor

theorem mem_controllers (kept : CompiledFor config board compiled) {controller : ControllerConfig} :
    controller ∈ compiled.localInventory.controllers.items ↔
      controller ∈ config.controllers.items ∧ controller.ownerBoardId = board.boardId := by
  simp [kept.controllers]

theorem mem_devices (kept : CompiledFor config board compiled) {device : DeviceConfig} :
    device ∈ compiled.localInventory.devices.items ↔
      device ∈ config.devices.items ∧ device.ownerBoardId = board.boardId := by
  simp [kept.devices]

theorem mem_dependencies (kept : CompiledFor config board compiled) {record : Stm32DependencyConfig} :
    record ∈ compiled.stm32Dependencies.records.items ↔
      record ∈ config.dependencies.items ∧ record.ownerBoardId = board.boardId := by
  simp [kept.dependencies]

theorem mem_rules (kept : CompiledFor config board compiled) {rule : CompiledRule maxActions maxSteps} :
    rule ∈ compiled.rules.items ↔ rule.rule ∈ config.rules.items ∧ ruleAppliesToBoard rule.rule board = true := by
  obtain ⟨rule⟩ := rule
  simp [kept.rules]

-- What a board owns in the house is local to it.
theorem hasDevice_iff (kept : CompiledFor config board compiled) {deviceId : DeviceId} :
    compiled.HasDevice deviceId ↔ Owns config board.boardId deviceId := by
  simp only [CompiledConfig.HasDevice, Owns, kept.mem_devices]
  grind

theorem mem_catalog (kept : CompiledFor config board compiled) {deviceId : DeviceId} :
    (∃ entry ∈ compiled.topology.entries.items, entry.deviceId = deviceId) ↔ DeviceExists config deviceId := by
  simp [kept.topology, DeviceExists]

theorem selfContained (kept : CompiledFor config board compiled) (valid : validateConfig config = .ok ()) :
    SelfContained compiled := by
  obtain ⟨_, _, _, _, ⟨_, devices⟩, dependencies, _, rules⟩ := validateConfig_eq_ok.mp valid
  refine ⟨?_, ?_, ?_, ?_⟩
  · intro device member port found
    obtain ⟨known, own⟩ := kept.mem_devices.mp member
    obtain ⟨controller, listed, named, owner⟩ := (devices device known).port port found
    exact ⟨controller, kept.mem_controllers.mpr ⟨listed, owner.trans own⟩, named⟩
  · intro record member
    obtain ⟨known, own⟩ := kept.mem_dependencies.mp member
    have dependency := dependencies record known
    rw [kept.hasDevice_iff, kept.hasDevice_iff, ← own]
    exact ⟨dependency.source, dependency.destination⟩
  · intro rule member boardId scope deviceId property value found
    obtain ⟨known, applies⟩ := kept.mem_rules.mp member
    -- A rule of one board is only kept for that board.
    have own : boardId = board.boardId := by simpa [ruleAppliesToBoard, scope] using applies
    rw [kept.hasDevice_iff, ← own]
    exact (rules rule.rule known).targets boardId scope deviceId property value found
  · intro rule member deviceId named
    obtain ⟨known, _⟩ := kept.mem_rules.mp member
    exact kept.mem_catalog.mpr ((rules rule.rule known).devices deviceId named)

end CompiledFor

end

theorem compileConfig_selfContained
    {maxBoards maxControllers maxDevices maxDependencies maxRules maxActions maxSteps : Nat}
    (config : CanonicalConfig maxBoards maxControllers maxDevices maxDependencies maxRules maxActions maxSteps)
    (valid : validateConfig config = .ok ()) (boardId : BoardId) (known : BoardExists config boardId) :
    ∃ compiled, compileConfig config boardId = .ok compiled ∧ SelfContained compiled := by
  obtain ⟨board, compiled, _, returned, kept⟩ := compileConfig_of_exists valid known
  exact ⟨compiled, returned, kept.selfContained valid⟩

theorem compileConfig_selfContained_zone : validateConfig twoBoardHouse = .ok () ∧
    ∃ compiled, compileConfig twoBoardHouse ⟨2⟩ = .ok compiled ∧ SelfContained compiled :=
  have valid : validateConfig twoBoardHouse = .ok () := rfl
  ⟨valid, compileConfig_selfContained twoBoardHouse valid ⟨2⟩ ⟨⟨⟨2⟩, .zone⟩, by decide, rfl⟩⟩

section

variable {maxBoards maxControllers maxDevices maxDependencies maxRules maxActions maxSteps : Nat}

structure Unambiguous
    (compiled : CompiledConfig maxDevices maxControllers maxDependencies maxRules maxActions maxSteps) : Prop where
  ports : ∀ device ∈ compiled.localInventory.devices.items, ∀ port ∈ device.port,
    (compiled.localInventory.controllers.items.countP fun controller =>
      controller.controllerId = port.controllerId) = 1
  distinct : (compiled.localInventory.controllers.items.map ControllerConfig.controllerId).Nodup

variable
  {config : CanonicalConfig maxBoards maxControllers maxDevices maxDependencies maxRules maxActions maxSteps}

theorem CompiledFor.unambiguous_iff (valid : validateConfig config = .ok ()) {board : BoardConfig}
    {compiled : CompiledConfig maxDevices maxControllers maxDependencies maxRules maxActions maxSteps}
    (kept : CompiledFor config board compiled) :
    Unambiguous compiled ↔
      ((config.controllers.items.filter fun controller => controller.ownerBoardId == board.boardId).map
        ControllerConfig.controllerId).Nodup := by
  rw [← kept.controllers]
  refine ⟨Unambiguous.distinct, fun distinct => ⟨?_, distinct⟩⟩
  intro device member port found
  obtain ⟨controller, listed, named⟩ := (kept.selfContained valid).ports device member port found
  have counted := List.count_eq_one_of_mem distinct (List.mem_map_of_mem listed)
  rw [List.count, List.countP_map] at counted
  simpa [Function.comp_def, named, ← Bool.beq_eq_decide_eq] using counted

end

theorem compileConfig_unambiguous_iff
    {maxBoards maxControllers maxDevices maxDependencies maxRules maxActions maxSteps : Nat}
    (config : CanonicalConfig maxBoards maxControllers maxDevices maxDependencies maxRules maxActions maxSteps)
    (valid : validateConfig config = .ok ()) :
    (∀ boardId, BoardExists config boardId →
      ∃ compiled, compileConfig config boardId = .ok compiled ∧ Unambiguous compiled) ↔
      (config.controllers.items.map fun controller => (controller.ownerBoardId, controller.controllerId)).Nodup := by
  obtain ⟨_, _, _, owners, _⟩ := validateConfig_eq_ok.mp valid
  rw [Keyed.nodup_map_pair owners]
  refine forall₂_congr fun boardId known => ?_
  obtain ⟨board, compiled, found, returned, kept⟩ := compileConfig_of_exists valid known
  rw [← (findBoard_eq_some found).2, ← kept.unambiguous_iff valid, (findBoard_eq_some found).2, returned]
  simp

theorem compileConfig_unambiguous_twoBoardHouse : validateConfig twoBoardHouse = .ok () ∧
    ∀ boardId, BoardExists twoBoardHouse boardId →
      ∃ compiled, compileConfig twoBoardHouse boardId = .ok compiled ∧ Unambiguous compiled :=
  have valid : validateConfig twoBoardHouse = .ok () := rfl
  ⟨valid, (compileConfig_unambiguous_iff twoBoardHouse valid).mpr (by decide)⟩

def doubledHouse : CanonicalConfig 1 2 1 0 0 0 0 where
  schemaVersion := supportedSchemaVersion
  configVersion := 9
  houseId := ⟨100⟩
  boards := .truncate [⟨⟨1⟩, .coordinator⟩]
  controllers := .truncate [⟨⟨1⟩, ⟨1⟩, .smartBox⟩, ⟨⟨1⟩, ⟨1⟩, .dimmer⟩]
  devices := .truncate [⟨⟨10⟩, ⟨1⟩, .relay, some ⟨⟨1⟩, 1⟩⟩]
  dependencies := .empty
  rules := .empty
  broker := ⟨.empty, true⟩
  network := ⟨true, none⟩

theorem compileConfig_ambiguous : validateConfig doubledHouse = .ok () ∧
    ∃ compiled, compileConfig doubledHouse ⟨1⟩ = .ok compiled ∧ ¬Unambiguous compiled ∧
      compiled.localInventory.devices.items = [⟨⟨10⟩, ⟨1⟩, .relay, some ⟨⟨1⟩, 1⟩⟩] ∧
      compiled.localInventory.controllers.items = [⟨⟨1⟩, ⟨1⟩, .smartBox⟩, ⟨⟨1⟩, ⟨1⟩, .dimmer⟩] := by
  refine ⟨rfl, _, rfl, ?_, rfl, rfl⟩
  rintro ⟨_, distinct⟩
  revert distinct
  decide

end SmartboxConfig
