import Rxu01.CanCommandRouter
import Rxu01.KeyedTable

set_option autoImplicit false

/- What `is_valid_config` decides about the two tables, and that nothing depends
on the order of their entries. -/
namespace CanCommandRouter

open RemoteProtocol (Message)

def Config.registry (config : Config) : List EcuDefinition := config.ecuRegistry.getD []

/-- An ECU entry that the registry loop accepts. -/
structure EcuDefinition.Valid (ecu : EcuDefinition) : Prop where
  id : ecu.ecuId ≠ invalidEcuId
  identifier : ecu.commandCanIdentifier.toNat ≤
    if ecu.extendedIdentifier then 0x1FFFFFFF else 0x7FF

/-- A route that the route loop accepts. -/
structure CommandRoute.Valid (config : Config) (route : CommandRoute) : Prop where
  messageId : route.remoteMessageId ≠ 0
  ecuId : route.destinationEcu ≠ invalidEcuId
  destination : route.destinationEcu.toNat = route.remoteMessageId.toNat / 256
  length : route.expectedPayloadLength.toNat ≤ maxCommandPayloadLength
  validator : route.validatePayload.isSome = true
  ecu : ∃ ecu ∈ config.registry, ecu.ecuId = route.destinationEcu

theorem namespaceEcu_toNat (messageId : UInt16) :
    (namespaceEcu messageId).toNat = messageId.toNat / 256 :=
  Bytes.high_toNat messageId

theorem namespaceEcu_iff (ecuId : EcuId) (messageId : UInt16) :
    ecuId = namespaceEcu messageId ↔ ecuId.toNat = messageId.toNat / 256 := by
  rw [← namespaceEcu_toNat, UInt8.toNat_inj]

/-- The checks of one turn of the registry loop. -/
def acceptsEcu (ecu : EcuDefinition) : Bool :=
  !(ecu.ecuId == invalidEcuId || !isValidCanIdentifier ecu)

/-- The checks of one turn of the route loop. -/
def acceptsRoute (config : Config) (route : CommandRoute) : Bool :=
  !(route.remoteMessageId == 0 || route.destinationEcu == invalidEcuId ||
    route.destinationEcu != namespaceEcu route.remoteMessageId ||
    decide (maxCommandPayloadLength < route.expectedPayloadLength.toNat) ||
    route.validatePayload.isNone || (findEcu config route.destinationEcu).isNone)

theorem acceptsEcu_iff (ecu : EcuDefinition) : acceptsEcu ecu = true ↔ ecu.Valid := by
  unfold acceptsEcu isValidCanIdentifier
  constructor
  · intro accepted
    simp only [Bool.not_eq_true', Bool.or_eq_false_iff, beq_eq_false_iff_ne, Bool.not_eq_false']
      at accepted
    obtain ⟨id, identifier⟩ := accepted
    refine ⟨id, ?_⟩
    cases extended : ecu.extendedIdentifier <;> simpa [extended, UInt32.le_iff_toNat_le] using identifier
  · rintro ⟨id, identifier⟩
    simp only [Bool.not_eq_true', Bool.or_eq_false_iff, beq_eq_false_iff_ne, Bool.not_eq_false']
    refine ⟨id, ?_⟩
    cases extended : ecu.extendedIdentifier <;> simpa [extended, UInt32.le_iff_toNat_le] using identifier

theorem findEcu_isSome_iff (config : Config) (ecuId : EcuId) :
    (findEcu config ecuId).isSome = true ↔ ∃ ecu ∈ config.registry, ecu.ecuId = ecuId := by
  unfold findEcu Config.registry
  rw [List.find?_isSome]
  simp only [beq_iff_eq]

theorem acceptsRoute_iff (config : Config) (route : CommandRoute) :
    acceptsRoute config route = true ↔ route.Valid config := by
  unfold acceptsRoute
  rw [Bool.not_eq_true']
  simp only [Bool.or_eq_false_iff, beq_eq_false_iff_ne, bne_eq_false_iff_eq, decide_eq_false_iff_not,
    Nat.not_lt, Option.isNone_eq_false_iff, findEcu_isSome_iff, namespaceEcu_iff]
  constructor
  · rintro ⟨⟨⟨⟨⟨messageId, ecuId⟩, destination⟩, length⟩, validator⟩, ecu⟩
    exact ⟨messageId, ecuId, destination, length, validator, ecu⟩
  · rintro ⟨messageId, ecuId, destination, length, validator, ecu⟩
    exact ⟨⟨⟨⟨⟨messageId, ecuId⟩, destination⟩, length⟩, validator⟩, ecu⟩

theorem validRegistry_eq (registry : List EcuDefinition) :
    validRegistry registry = KeyedTable.check EcuDefinition.ecuId acceptsEcu registry := by
  induction registry with
  | nil => rfl
  | cons ecu others ih =>
      unfold validRegistry KeyedTable.check acceptsEcu
      rw [Bool.not_not, ih]
      rfl

theorem validRoutes_eq (config : Config) (routes : List CommandRoute) :
    validRoutes config routes =
      KeyedTable.check CommandRoute.remoteMessageId (acceptsRoute config) routes := by
  induction routes with
  | nil => rfl
  | cons route others ih =>
      unfold validRoutes KeyedTable.check acceptsRoute
      rw [Bool.not_not, ih]
      rfl

/-- What a valid configuration says about its two tables. A null table counts as
an empty one. -/
structure Config.Valid (config : Config) : Prop where
  registryPresent : config.registry ≠ []
  routesPresent : config.routes ≠ []
  ecus : ∀ ecu ∈ config.registry, ecu.Valid
  ecusDistinct : KeyedTable.Distinct EcuDefinition.ecuId config.registry
  commands : ∀ route ∈ config.routes, route.Valid config
  commandsDistinct : KeyedTable.Distinct CommandRoute.remoteMessageId config.routes

theorem isValidConfig_eq (config : Config) :
    isValidConfig config = (!config.registry.isEmpty && !config.routes.isEmpty &&
      KeyedTable.check EcuDefinition.ecuId acceptsEcu config.registry &&
      KeyedTable.check CommandRoute.remoteMessageId (acceptsRoute config) config.routes) := by
  rcases config with ⟨registry | registry, routes | routes⟩
  · rfl
  · rfl
  · simp [isValidConfig, Config.routes]
  · simp only [isValidConfig, Config.registry, Config.routes, Option.getD_some, validRegistry_eq,
      validRoutes_eq]
    cases registry with
    | nil => rfl
    | cons ecu others =>
        cases routes with
        | nil => rfl
        | cons route others' => simp

theorem isValidConfig_valid (config : Config) : isValidConfig config = true ↔ config.Valid := by
  rw [isValidConfig_eq]
  simp only [Bool.and_eq_true, Bool.not_eq_true', List.isEmpty_eq_false_iff, KeyedTable.check_iff,
    acceptsEcu_iff, acceptsRoute_iff]
  constructor
  · rintro ⟨⟨⟨registry, routes⟩, ecusDistinct, ecus⟩, commandsDistinct, commands⟩
    exact ⟨registry, routes, ecus, ecusDistinct, commands, commandsDistinct⟩
  · rintro ⟨registry, routes, ecus, ecusDistinct, commands, commandsDistinct⟩
    exact ⟨⟨⟨registry, routes⟩, ecusDistinct, ecus⟩, commandsDistinct, commands⟩

/-- The greatest identifiers are those of 29 and of 11 bits. -/
theorem identifier_bits (extended : Bool) (identifier : Nat) :
    (identifier ≤ if extended then 0x1FFFFFFF else 0x7FF) ↔
      identifier < if extended then 2 ^ 29 else 2 ^ 11 := by
  cases extended with
  | false => exact Nat.lt_succ_iff.symm
  | true => exact Nat.lt_succ_iff.symm

/-- Null tables are no tables, so a table with entries is present. -/
theorem table_present {α : Type} {table : Option (List α)} (entries : table.getD [] ≠ []) :
    table = some (table.getD []) := by
  cases table with
  | none => exact absurd rfl entries
  | some _ => rfl

/-- `is_valid_config` in the words of the two tables alone. -/
theorem isValidConfig_iff (config : Config) :
    isValidConfig config = true ↔
      ∃ registry routes, config.ecuRegistry = some registry ∧ config.commandRoutes = some routes ∧
        registry ≠ [] ∧ routes ≠ [] ∧
        (∀ ecu ∈ registry, ecu.ecuId ≠ 0 ∧ ecu.commandCanIdentifier.toNat <
          if ecu.extendedIdentifier then 2 ^ 29 else 2 ^ 11) ∧
        registry.Pairwise (fun first second => first.ecuId ≠ second.ecuId) ∧
        (∀ route ∈ routes, route.remoteMessageId ≠ 0 ∧
          route.destinationEcu.toNat = route.remoteMessageId.toNat / 256 ∧
          (∃ ecu ∈ registry, ecu.ecuId = route.destinationEcu) ∧
          route.expectedPayloadLength.toNat ≤ 7 ∧ route.validatePayload.isSome = true) ∧
        routes.Pairwise (fun first second => first.remoteMessageId ≠ second.remoteMessageId) := by
  rw [isValidConfig_valid]
  constructor
  · intro valid
    refine ⟨config.registry, config.routes, table_present valid.registryPresent,
      table_present valid.routesPresent, valid.registryPresent, valid.routesPresent, ?_,
      valid.ecusDistinct, ?_, valid.commandsDistinct⟩
    · intro ecu member
      have accepted := valid.ecus ecu member
      exact ⟨accepted.id, (identifier_bits _ _).mp accepted.identifier⟩
    · intro route member
      have accepted := valid.commands route member
      exact ⟨accepted.messageId, accepted.destination, accepted.ecu, accepted.length,
        accepted.validator⟩
  · rintro ⟨registry, routes, registryTable, routesTable, someEcu, someRoute, ecus, ecusDistinct,
      commands, commandsDistinct⟩
    have registryIs : config.registry = registry := by
      rw [Config.registry, registryTable, Option.getD_some]
    have routesIs : config.routes = routes := by
      rw [Config.routes, routesTable, Option.getD_some]
    rw [← registryIs] at someEcu ecus ecusDistinct commands
    rw [← routesIs] at someRoute commands commandsDistinct
    refine ⟨someEcu, someRoute, ?_, ecusDistinct, ?_, commandsDistinct⟩
    · intro ecu member
      obtain ⟨id, identifier⟩ := ecus ecu member
      exact ⟨id, (identifier_bits _ _).mpr identifier⟩
    · intro route member
      obtain ⟨messageId, destination, ⟨ecu, registered, same⟩, length, validator⟩ :=
        commands route member
      -- the ECU found has a valid id, so the check for id 0 adds nothing
      have ecuId : route.destinationEcu ≠ invalidEcuId := by
        rw [← same]
        exact (ecus ecu registered).1
      exact ⟨messageId, ecuId, destination, length, validator, ecu, registered, same⟩

/-- The search for the ECU of a valid route never fails. -/
theorem Config.Valid.destination {config : Config} (tables : config.Valid) {route : CommandRoute}
    (present : route ∈ config.routes) : ∃ ecu, findEcu config route.destinationEcu = some ecu :=
  Option.isSome_iff_exists.mp
    ((findEcu_isSome_iff config _).mpr (tables.commands route present).ecu)

/-- What is said of some route with the identifier is said of the one found. -/
theorem findRoute_only {config : Config} {messageId : UInt16} {route : CommandRoute}
    (valid : isValidConfig config = true) (found : findRoute config messageId = some route)
    (Property : CommandRoute → Prop) :
    (∃ other ∈ config.routes, other.remoteMessageId = messageId ∧ Property other) ↔
      Property route := by
  have tables := (isValidConfig_valid config).mp valid
  obtain ⟨present, same⟩ := findRoute_some found
  constructor
  · rintro ⟨other, present', same', holds⟩
    rw [tables.commandsDistinct.unique present present' (same.trans same'.symm)]
    exact holds
  · intro holds
    exact ⟨route, present, same, holds⟩

theorem buildFrame_built {message : Message} {config : Config} (valid : isValidConfig config = true)
    (request : message.flags &&& RemoteProtocol.flagIsResponse = 0) :
    Built message config (buildFrame message config) := by
  by_cases type : message.type = .command
  · cases found : findRoute config message.messageId with
    | none =>
        have shape : buildFrame message config = (.unknownCommand, {}) := by
          simp [buildFrame, valid, type, request, found]
        rw [shape]
        exact Built.unknown type found
    | some route =>
        by_cases same : message.payloadLength = route.expectedPayloadLength
        · cases accepted : route.accepts message with
          | false =>
              have shape : buildFrame message config = (.invalidPayloadValue, {}) := by
                simp [buildFrame, valid, type, request, found, same, accepted]
              rw [shape]
              exact Built.value route type found same accepted
          | true =>
              have tables := (isValidConfig_valid config).mp valid
              obtain ⟨ecu, destination⟩ := tables.destination (findRoute_some found).1
              have routed : Routed message config route ecu :=
                ⟨valid, type, request, found, same, accepted, destination⟩
              rw [buildFrame_routed routed]
              exact Built.frame route ecu routed
        · have shape : buildFrame message config = (.invalidPayloadLength, {}) := by
            simp [buildFrame, valid, type, request, found, same]
          rw [shape]
          exact Built.length route type found same
  · have shape : buildFrame message config = (.invalidMessageType, {}) := by
      simp [buildFrame, valid, type]
    rw [shape]
    exact Built.notCommand type

/-- Two configurations whose tables hold the same entries, each in its own order. -/
structure Reordered (config config' : Config) : Prop where
  registry : Option.Rel List.Perm config.ecuRegistry config'.ecuRegistry
  routes : Option.Rel List.Perm config.commandRoutes config'.commandRoutes

section Reordered

variable {config config' : Config}

theorem Reordered.registry_perm (reordered : Reordered config config') :
    config.registry.Perm config'.registry := by
  have rel := reordered.registry
  unfold Config.registry
  generalize config.ecuRegistry = table, config'.ecuRegistry = table' at rel
  cases rel with
  | none => exact List.Perm.refl []
  | some perm => exact perm

theorem Reordered.routes_perm (reordered : Reordered config config') :
    config.routes.Perm config'.routes := by
  have rel := reordered.routes
  unfold Config.routes
  generalize config.commandRoutes = table, config'.commandRoutes = table' at rel
  cases rel with
  | none => exact List.Perm.refl []
  | some perm => exact perm

theorem Reordered.acceptsRoute_eq (reordered : Reordered config config') :
    acceptsRoute config = acceptsRoute config' := by
  funext route
  have found : (findEcu config route.destinationEcu).isNone =
      (findEcu config' route.destinationEcu).isNone := by
    rw [← Option.not_isSome, ← Option.not_isSome]
    apply congrArg not
    apply Bool.eq_iff_iff.mpr
    rw [findEcu_isSome_iff, findEcu_isSome_iff]
    simp only [reordered.registry_perm.mem_iff]
  unfold acceptsRoute
  rw [found]

theorem Reordered.isValidConfig_eq (reordered : Reordered config config') :
    isValidConfig config = isValidConfig config' := by
  have ecus := reordered.registry_perm
  have commands := reordered.routes_perm
  rw [CanCommandRouter.isValidConfig_eq, CanCommandRouter.isValidConfig_eq, ecus.isEmpty_eq,
    commands.isEmpty_eq, KeyedTable.check_perm _ _ ecus, KeyedTable.check_perm _ _ commands,
    reordered.acceptsRoute_eq]

theorem Reordered.findEcu_eq (reordered : Reordered config config') (valid : config.Valid)
    (ecuId : EcuId) : findEcu config ecuId = findEcu config' ecuId :=
  valid.ecusDistinct.find_perm reordered.registry_perm ecuId

theorem Reordered.findRoute_eq (reordered : Reordered config config') (valid : config.Valid)
    (messageId : UInt16) : findRoute config messageId = findRoute config' messageId :=
  valid.commandsDistinct.find_perm reordered.routes_perm messageId

end Reordered

/-- Routing does not depend on the order of either table. -/
theorem reordered_routing {config config' : Config} (reordered : Reordered config config') :
    isValidConfig config = isValidConfig config' ∧
      ∀ message, buildFrame message config = buildFrame message config' := by
  have same := reordered.isValidConfig_eq
  refine ⟨same, ?_⟩
  intro message
  cases valid : isValidConfig config with
  | false =>
      unfold buildFrame
      rw [← same, valid]
      rfl
  | true =>
      have tables := (isValidConfig_valid config).mp valid
      unfold buildFrame
      rw [← same, reordered.findRoute_eq tables]
      simp only [reordered.findEcu_eq tables]

/-- Two commands for one ECU. Nothing keeps them from sharing a command byte. -/
def twinRoute (remoteMessageId : UInt16) : CommandRoute :=
  { remoteMessageId := remoteMessageId
    destinationEcu := 1
    ecuCommandId := 1
    validatePayload := some (fun _ _ => true) }

def twinConfig : Config :=
  { ecuRegistry := some [{ ecuId := 1, commandCanIdentifier := 0x101 }]
    commandRoutes := some [twinRoute 0x0101, twinRoute 0x0102] }

theorem reordered_routing_twin :
    isValidConfig { twinConfig with commandRoutes := some [twinRoute 0x0102, twinRoute 0x0101] } =
      isValidConfig twinConfig := by
  have reordered : Reordered
      { twinConfig with commandRoutes := some [twinRoute 0x0102, twinRoute 0x0101] } twinConfig :=
    ⟨Option.Rel.some (List.Perm.refl _), Option.Rel.some (List.Perm.swap _ _ _)⟩
  exact (reordered_routing reordered).1

end CanCommandRouter
