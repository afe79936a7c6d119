import PicoBroker.Contracts.Configuration

set_option autoImplicit false

namespace SmartboxConfig

open Checks

-- Each part keeps the order of `source`, and an item is in the part of exactly one board.
structure SharedOut {α κ : Type} [DecidableEq α] (boards : List κ) (source : List α) (part : κ → List α) :
    Prop where
  inOrder : ∀ board ∈ boards, (part board).Sublist source
  once : ∀ item ∈ source, ∃! board, board ∈ boards ∧ item ∈ part board
  counted : ∀ board ∈ boards, ∀ item ∈ part board, (part board).count item = source.count item

theorem SharedOut.of_filter {α κ : Type} [DecidableEq α] [DecidableEq κ] {boards : List κ} {source : List α}
    {part : κ → List α} (home : α → κ) (settled : ∀ item ∈ source, home item ∈ boards)
    (filtered : ∀ board ∈ boards, part board = source.filter fun item => home item == board) :
    SharedOut boards source part := by
  have mem_part : ∀ board ∈ boards, ∀ item, item ∈ part board ↔ item ∈ source ∧ home item = board := by
    intro board known item
    simp [filtered board known]
  refine ⟨fun board known => filtered board known ▸ List.filter_sublist, ?_, ?_⟩
  · intro item member
    have own := settled item member
    refine ⟨home item, ⟨own, (mem_part _ own item).mpr ⟨member, rfl⟩⟩, ?_⟩
    rintro board ⟨known, found⟩
    exact ((mem_part board known item).mp found).2.symm
  · intro board known item found
    have own := ((mem_part board known item).mp found).2
    rw [filtered board known]
    exact List.count_filter (by simp [own])

section

variable {maxBoards maxControllers maxDevices maxDependencies maxRules maxActions maxSteps : Nat}
  {config : CanonicalConfig maxBoards maxControllers maxDevices maxDependencies maxRules maxActions maxSteps}

theorem collect_eq_ok {α : Type} {capacity : Nat} {items : List α} {collected : Bounded α capacity} :
    collect items = .ok collected ↔ collected.items = items := by
  have extended : Bounded.empty.extend? items = some collected ↔ collected.items = items := by
    rw [Bounded.extend?_eq_some, Bounded.empty_items, List.nil_append]
  unfold collect
  split
  · next found => simpa [found] using extended
  · next found => simpa [found] using extended

structure CompiledFor
    (config : CanonicalConfig maxBoards maxControllers maxDevices maxDependencies maxRules maxActions maxSteps)
    (board : BoardConfig)
    (compiled : CompiledConfig maxDevices maxControllers maxDependencies maxRules maxActions maxSteps) :
    Prop where
  version : compiled.configVersion = config.configVersion
  inventory : compiled.localInventory.board = board
  controllers : compiled.localInventory.controllers.items =
    config.controllers.items.filter fun controller => controller.ownerBoardId == board.boardId
  devices : compiled.localInventory.devices.items =
    config.devices.items.filter fun device => device.ownerBoardId == board.boardId
  dependencies : compiled.stm32Dependencies.records.items =
    config.dependencies.items.filter fun dependency => dependency.ownerBoardId == board.boardId
  rules : compiled.rules.items =
    (config.rules.items.filter fun rule => ruleAppliesToBoard rule board).map CompiledRule.mk
  topology : compiled.topology.entries.items =
    config.devices.items.map fun device => ⟨device.deviceId, device.ownerBoardId⟩

theorem findBoard_eq_some {boardId : BoardId} {board : BoardConfig} (found : findBoard config boardId = some board) :
    board ∈ config.boards.items ∧ board.boardId = boardId :=
  ⟨List.mem_of_find?_eq_some found, by simpa using List.find?_some found⟩

theorem compileConfig_eq_ok {target : BoardId}
    {compiled : CompiledConfig maxDevices maxControllers maxDependencies maxRules maxActions maxSteps} :
    compileConfig config target = .ok compiled ↔
      validateConfig config = .ok () ∧ ∃ board, findBoard config target = some board ∧
        CompiledFor config board compiled := by
  unfold compileConfig
  rw [seq_eq_ok]
  refine and_congr_right fun _ => ?_
  split
  · next missing => simp [missing]
  · next board found =>
    obtain ⟨-, rfl⟩ := findBoard_eq_some found
    simp only [found, bind_eq_ok, collect_eq_ok, Option.some.injEq, exists_eq_left']
    constructor
    · rintro ⟨controllers, ownControllers, devices, ownDevices, dependencies, ownDependencies, rules, ownRules,
        topology, everywhere, built⟩
      cases built
      exact ⟨rfl, rfl, ownControllers, ownDevices, ownDependencies, ownRules, everywhere⟩
    · obtain ⟨version, ⟨named, controllers, devices⟩, ⟨dependencies⟩, rules, ⟨topology⟩⟩ := compiled
      rintro ⟨rfl, rfl, ownControllers, ownDevices, ownDependencies, ownRules, everywhere⟩
      exact ⟨_, ownControllers, _, ownDevices, _, ownDependencies, _, ownRules, _, everywhere, rfl⟩

-- Every part of the output is at most as long as what it is taken from, so nothing exceeds a capacity.
theorem exists_compiledFor
    (config : CanonicalConfig maxBoards maxControllers maxDevices maxDependencies maxRules maxActions maxSteps)
    (board : BoardConfig) : ∃ compiled, CompiledFor config board compiled := by
  refine ⟨
    { configVersion := config.configVersion
      localInventory := ⟨board,
        ⟨config.controllers.items.filter fun controller => controller.ownerBoardId == board.boardId, ?_⟩,
        ⟨config.devices.items.filter fun device => device.ownerBoardId == board.boardId, ?_⟩⟩
      stm32Dependencies :=
        ⟨⟨config.dependencies.items.filter fun dependency => dependency.ownerBoardId == board.boardId, ?_⟩⟩
      rules := ⟨(config.rules.items.filter fun rule => ruleAppliesToBoard rule board).map CompiledRule.mk, ?_⟩
      topology := ⟨⟨config.devices.items.map fun device => ⟨device.deviceId, device.ownerBoardId⟩, ?_⟩⟩ },
    rfl, rfl, rfl, rfl, rfl, rfl, rfl⟩
  · exact Nat.le_trans (List.length_filter_le ..) config.controllers.fits
  · exact Nat.le_trans (List.length_filter_le ..) config.devices.fits
  · exact Nat.le_trans (List.length_filter_le ..) config.dependencies.fits
  · rw [List.length_map]
    exact Nat.le_trans (List.length_filter_le ..) config.rules.fits
  · rw [List.length_map]
    exact config.devices.fits

theorem compileConfig_of_exists (valid : validateConfig config = .ok ()) {target : BoardId}
    (known : BoardExists config target) : ∃ board compiled, findBoard config target = some board ∧
      compileConfig config target = .ok compiled ∧ CompiledFor config board compiled := by
  obtain ⟨board, found⟩ := Option.isSome_iff_exists.mp (findBoard_isSome.mpr known)
  obtain ⟨compiled, kept⟩ := exists_compiledFor config board
  exact ⟨board, compiled, found, compileConfig_eq_ok.mpr ⟨valid, board, found, kept⟩, kept⟩

theorem compileConfig_missing (valid : validateConfig config = .ok ()) {target : BoardId}
    (unknown : ¬BoardExists config target) :
    compileConfig config target = .error (.missingTargetBoard target) := by
  have missing : findBoard config target = none := by
    rw [← findBoard_isSome, Bool.not_eq_true, Option.isSome_eq_false_iff, Option.isNone_iff_eq_none] at unknown
    exact unknown
  simp [compileConfig, valid, missing, bind, Except.bind]

def compiledPart {α : Type}
    (config : CanonicalConfig maxBoards maxControllers maxDevices maxDependencies maxRules maxActions maxSteps)
    (read : CompiledConfig maxDevices maxControllers maxDependencies maxRules maxActions maxSteps → List α)
    (boardId : BoardId) : List α :=
  match compileConfig config boardId with
  | .ok compiled => read compiled
  | .error _ => []

theorem mem_boardIds {boardId : BoardId} :
    boardId ∈ config.boards.items.map BoardConfig.boardId ↔ BoardExists config boardId := by
  simp [BoardExists]

-- The filters of a list by the board an item belongs to.
theorem sharedOut_compiledPart {α : Type} [DecidableEq α] (valid : validateConfig config = .ok ())
    {source : List α}
    {read : CompiledConfig maxDevices maxControllers maxDependencies maxRules maxActions maxSteps → List α}
    (home : α → BoardId) (settled : ∀ item ∈ source, BoardExists config (home item))
    (filtered : ∀ board ∈ config.boards.items, ∀ compiled, CompiledFor config board compiled →
      read compiled = source.filter fun item => home item == board.boardId) :
    SharedOut (config.boards.items.map BoardConfig.boardId) source (compiledPart config read) := by
  refine .of_filter home (fun item member => mem_boardIds.mpr (settled item member)) ?_
  intro boardId known
  obtain ⟨board, compiled, found, returned, kept⟩ := compileConfig_of_exists valid (mem_boardIds.mp known)
  obtain ⟨member, rfl⟩ := findBoard_eq_some found
  simp only [compiledPart, returned]
  exact filtered board member compiled kept

theorem WellFormedBoards.exists_coordinator (boards : WellFormedBoards config) :
    ∃ coordinator ∈ config.boards.items, coordinator.role = .coordinator ∧
      ∀ other ∈ config.boards.items, other.role = .coordinator → other = coordinator := by
  have one : (config.boards.items.filter fun board => decide (board.role = .coordinator)).length = 1 := by
    rw [← List.countP_eq_length_filter]
    exact boards.coordinator
  obtain ⟨coordinator, only⟩ := List.length_eq_one_iff.mp one
  have mem_only : ∀ board, board ∈ config.boards.items ∧ board.role = .coordinator ↔ board = coordinator := by
    intro board
    have := congrArg (board ∈ ·) only
    simpa using this
  obtain ⟨member, role⟩ := (mem_only coordinator).mpr rfl
  exact ⟨coordinator, member, role, fun other known leads => (mem_only other).mp ⟨known, leads⟩⟩

def ruleHome (coordinator : BoardConfig) (rule : RuleConfig maxActions maxSteps) : BoardId :=
  match rule.scope with
  | .boardLocal boardId => boardId
  | .houseLevel => coordinator.boardId

theorem ruleAppliesToBoard_iff (boards : WellFormedBoards config) {coordinator board : BoardConfig}
    (leads : coordinator ∈ config.boards.items ∧ coordinator.role = .coordinator)
    (only : ∀ other ∈ config.boards.items, other.role = .coordinator → other = coordinator)
    (known : board ∈ config.boards.items) (rule : RuleConfig maxActions maxSteps) :
    ruleAppliesToBoard rule board = true ↔ ruleHome coordinator rule = board.boardId := by
  cases scope : rule.scope with
  | boardLocal boardId => simp [ruleAppliesToBoard, ruleHome, scope]
  | houseLevel =>
    simp only [ruleAppliesToBoard, ruleHome, scope, beq_iff_eq]
    constructor
    · intro role
      rw [only board known role]
    · intro same
      rw [← List.inj_on_of_nodup_map boards.distinct leads.1 known same]
      exact leads.2

end

structure PartitionsHouse
    {maxBoards maxControllers maxDevices maxDependencies maxRules maxActions maxSteps : Nat}
    (config : CanonicalConfig maxBoards maxControllers maxDevices maxDependencies maxRules maxActions maxSteps) :
    Prop where
  compiles : ∀ boardId, BoardExists config boardId → ∃ compiled, compileConfig config boardId = .ok compiled
  missing : ∀ boardId, ¬BoardExists config boardId →
    compileConfig config boardId = .error (.missingTargetBoard boardId)
  controllers : SharedOut (config.boards.items.map BoardConfig.boardId) config.controllers.items <|
    compiledPart config fun compiled => compiled.localInventory.controllers.items
  devices : SharedOut (config.boards.items.map BoardConfig.boardId) config.devices.items <|
    compiledPart config fun compiled => compiled.localInventory.devices.items
  dependencies : SharedOut (config.boards.items.map BoardConfig.boardId) config.dependencies.items <|
    compiledPart config fun compiled => compiled.stm32Dependencies.records.items
  rules : SharedOut (config.boards.items.map BoardConfig.boardId) config.rules.items <|
    compiledPart config fun compiled => compiled.rules.items.map CompiledRule.rule
  houseLevel : ∃ coordinator ∈ config.boards.items, coordinator.role = .coordinator ∧
    (∀ other ∈ config.boards.items, other.role = .coordinator → other = coordinator) ∧
    ∀ rule ∈ config.rules.items, rule.scope = .houseLevel →
      rule ∈ compiledPart config (fun compiled => compiled.rules.items.map CompiledRule.rule) coordinator.boardId
  topology : ∀ boardId compiled, compileConfig config boardId = .ok compiled →
    (compiled.topology.entries.items.map TopologyEntry.deviceId).Nodup ∧
    ∀ entry, entry ∈ compiled.topology.entries.items ↔
      ∃ device ∈ config.devices.items, entry = ⟨device.deviceId, device.ownerBoardId⟩

theorem compileConfig_partitions
    {maxBoards maxControllers maxDevices maxDependencies maxRules maxActions maxSteps : Nat}
    (config : CanonicalConfig maxBoards maxControllers maxDevices maxDependencies maxRules maxActions maxSteps)
    (valid : validateConfig config = .ok ()) : PartitionsHouse config := by
  obtain ⟨_, _, boards, controllers, ⟨distinct, devices⟩, dependencies, _, rules⟩ :=
    validateConfig_eq_ok.mp valid
  obtain ⟨coordinator, member, role, only⟩ := boards.exists_coordinator
  have rulesShared : SharedOut (config.boards.items.map BoardConfig.boardId) config.rules.items <|
      compiledPart config fun compiled => compiled.rules.items.map CompiledRule.rule := by
    refine sharedOut_compiledPart valid (ruleHome coordinator) ?_ ?_
    · intro rule known
      unfold ruleHome
      split
      · next boardId scope => exact (rules rule known).scope boardId scope
      · exact ⟨coordinator, member, rfl⟩
    · intro board known compiled kept
      rw [kept.rules, List.map_map]
      have applies := ruleAppliesToBoard_iff boards ⟨member, role⟩ only known
      have same : ∀ rule : RuleConfig maxActions maxSteps,
          ruleAppliesToBoard rule board = (ruleHome coordinator rule == board.boardId) := by
        intro rule
        rw [Bool.eq_iff_iff, applies, beq_iff_eq]
      simp [Function.comp_def, same]
  refine ⟨?_, ?_, ?_, ?_, ?_, rulesShared, ?_, ?_⟩
  · intro boardId known
    obtain ⟨_, compiled, _, returned, _⟩ := compileConfig_of_exists valid known
    exact ⟨compiled, returned⟩
  · exact fun boardId unknown => compileConfig_missing valid unknown
  · exact sharedOut_compiledPart valid ControllerConfig.ownerBoardId controllers
      fun _ _ _ kept => kept.controllers
  · exact sharedOut_compiledPart valid DeviceConfig.ownerBoardId (fun device known => (devices device known).owner)
      fun _ _ _ kept => kept.devices
  · exact sharedOut_compiledPart valid Stm32DependencyConfig.ownerBoardId
      (fun dependency known => (dependencies dependency known).board) fun _ _ _ kept => kept.dependencies
  · refine ⟨coordinator, member, role, only, ?_⟩
    intro rule known scope
    obtain ⟨board, compiled, found, returned, kept⟩ :=
      compileConfig_of_exists valid (⟨coordinator, member, rfl⟩ : BoardExists config coordinator.boardId)
    obtain ⟨own, same⟩ := findBoard_eq_some found
    obtain rfl := List.inj_on_of_nodup_map boards.distinct own member same
    simp [compiledPart, returned, kept.rules, ruleAppliesToBoard, known, scope, role]
  · intro boardId compiled returned
    obtain ⟨_, board, _, kept⟩ := compileConfig_eq_ok.mp returned
    rw [kept.topology, List.map_map]
    exact ⟨distinct, fun entry => by simp [eq_comm]⟩

def twoBoardHouse : CanonicalConfig 2 1 1 1 2 1 1 where
  schemaVersion := supportedSchemaVersion
  configVersion := 9
  houseId := ⟨100⟩
  boards := .truncate [⟨⟨1⟩, .coordinator⟩, ⟨⟨2⟩, .zone⟩]
  controllers := .truncate [⟨⟨1⟩, ⟨2⟩, .smartBox⟩]
  devices := .truncate [⟨⟨10⟩, ⟨2⟩, .relay, some ⟨⟨1⟩, 1⟩⟩]
  dependencies := .truncate
    [⟨⟨2⟩, ⟨⟨10⟩, .state⟩, .deviceProperty, ⟨⟨10⟩, .state⟩, .disableDevice, .generic⟩]
  rules := .truncate
    [⟨⟨1⟩, .boardLocal ⟨2⟩, true, none, none, .act (.truncate [.setDevice ⟨10⟩ .state (.bool true)]), 0, 1⟩,
      ⟨⟨2⟩, .houseLevel, true, none, none, .act (.truncate [.setDevice ⟨10⟩ .state (.bool false)]), 0, 1⟩]
  broker := ⟨.empty, true⟩
  network := ⟨true, none⟩

theorem compileConfig_partitions_twoBoardHouse :
    validateConfig twoBoardHouse = .ok () ∧ PartitionsHouse twoBoardHouse :=
  have valid : validateConfig twoBoardHouse = .ok () := rfl
  ⟨valid, compileConfig_partitions twoBoardHouse valid⟩

end SmartboxConfig
