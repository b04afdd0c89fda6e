import Rxu01.RemoteProtocol

set_option autoImplicit false

/- The command router of `can_command_router.cpp`. A table is its pointer and
its count together: `none` is a null pointer, and the count is the list's length. -/
namespace CanCommandRouter

open RemoteProtocol (Message Payload)

abbrev classicCanMaxDataLength : Nat := 8
abbrev maxCommandPayloadLength : Nat := classicCanMaxDataLength - 1

abbrev EcuId : Type := UInt8
abbrev invalidEcuId : EcuId := 0

structure CanFrame where
  identifier : UInt32 := 0
  extendedIdentifier : Bool := false
  dataLength : UInt8 := 0
  data : Vector UInt8 classicCanMaxDataLength := Vector.replicate classicCanMaxDataLength 0
  deriving DecidableEq, Repr

/-- The first `data_length` bytes of the data field. -/
def CanFrame.bytes (frame : CanFrame) : List UInt8 :=
  frame.data.toList.take frame.dataLength.toNat

structure EcuDefinition where
  ecuId : EcuId := invalidEcuId
  commandCanIdentifier : UInt32 := 0
  extendedIdentifier : Bool := false
  deriving DecidableEq, Repr

/-- A payload pointer that may be null, and a length. -/
abbrev PayloadValidator : Type := Option Payload → UInt8 → Bool

structure CommandRoute where
  remoteMessageId : UInt16 := 0
  destinationEcu : EcuId := invalidEcuId
  ecuCommandId : UInt8 := 0
  expectedPayloadLength : UInt8 := 0
  validatePayload : Option PayloadValidator := none

structure Config where
  ecuRegistry : Option (List EcuDefinition) := none
  commandRoutes : Option (List CommandRoute) := none

inductive RouteResult where
  | ok
  | invalidConfiguration
  | invalidMessageType
  | unknownCommand
  | invalidPayloadLength
  | invalidPayloadValue
  deriving DecidableEq, Repr

def isValidCanIdentifier (ecu : EcuDefinition) : Bool :=
  if ecu.extendedIdentifier then ecu.commandCanIdentifier ≤ 0x1FFFFFFF
  else ecu.commandCanIdentifier ≤ 0x7FF

def findEcu (config : Config) (ecuId : EcuId) : Option EcuDefinition :=
  (config.ecuRegistry.getD []).find? (fun ecu => ecu.ecuId == ecuId)

def findRoute (config : Config) (remoteMessageId : UInt16) : Option CommandRoute :=
  (config.commandRoutes.getD []).find? (fun route => route.remoteMessageId == remoteMessageId)

/-- The ECU loop of `is_valid_config`; the inner loop looks at later entries only. -/
def validRegistry : List EcuDefinition → Bool
  | [] => true
  | ecu :: others =>
      if ecu.ecuId == invalidEcuId || !isValidCanIdentifier ecu then false
      else if others.any (fun other => other.ecuId == ecu.ecuId) then false
      else validRegistry others

/-- The upper byte of a logical command identifier. -/
def namespaceEcu (remoteMessageId : UInt16) : EcuId :=
  ((remoteMessageId >>> 8) &&& 0xFF).toUInt8

/-- The route loop of `is_valid_config`. -/
def validRoutes (config : Config) : List CommandRoute → Bool
  | [] => true
  | route :: others =>
      if route.remoteMessageId == 0 || route.destinationEcu == invalidEcuId ||
          route.destinationEcu != namespaceEcu route.remoteMessageId ||
          decide (maxCommandPayloadLength < route.expectedPayloadLength.toNat) ||
          route.validatePayload.isNone || (findEcu config route.destinationEcu).isNone then false
      else if others.any (fun other => other.remoteMessageId == route.remoteMessageId) then false
      else validRoutes config others

def isValidConfig (config : Config) : Bool :=
  match config.ecuRegistry, config.commandRoutes with
  | some registry, some routes =>
      if registry.length == 0 || routes.length == 0 then false
      else if !validRegistry registry then false
      else validRoutes config routes
  | _, _ => false

/-- The call through the route's function pointer. Calling a null pointer is
undefined; `isValidConfig` has excluded it before `buildFrame` gets here. -/
def CommandRoute.accepts (route : CommandRoute) (message : Message) : Bool :=
  match route.validatePayload with
  | some validate => validate (some message.payload) message.payloadLength
  | none => false

/-- `data[0]` and the payload copied behind it, in a zero-initialised field. -/
def commandData (ecuCommandId : UInt8) (payload : List UInt8) :
    Vector UInt8 classicCanMaxDataLength :=
  Vector.ofFn (fun index => (ecuCommandId :: payload).getD index.val 0)

def buildFrame (message : Message) (config : Config) : RouteResult × CanFrame :=
  if !isValidConfig config then (.invalidConfiguration, {})
  else if message.type ≠ .command ∨ message.flags &&& RemoteProtocol.flagIsResponse ≠ 0 then
    (.invalidMessageType, {})
  else
    match findRoute config message.messageId with
    | none => (.unknownCommand, {})
    | some route =>
        if message.payloadLength ≠ route.expectedPayloadLength then (.invalidPayloadLength, {})
        else if !route.accepts message then (.invalidPayloadValue, {})
        else
          match findEcu config route.destinationEcu with
          | none => (.invalidConfiguration, {})
          | some ecu =>
              (.ok,
                { identifier := ecu.commandCanIdentifier
                  extendedIdentifier := ecu.extendedIdentifier
                  dataLength := message.payloadLength + 1
                  data := commandData route.ecuCommandId message.payloadBytes })

/-- The frame of a route that has accepted the message. -/
def commandFrame (route : CommandRoute) (ecu : EcuDefinition) (message : Message) : CanFrame :=
  { identifier := ecu.commandCanIdentifier
    extendedIdentifier := ecu.extendedIdentifier
    dataLength := message.payloadLength + 1
    data := commandData route.ecuCommandId message.payloadBytes }

/-- What a message has to satisfy for `build_frame` to build the frame it builds. -/
structure Routed (message : Message) (config : Config) (route : CommandRoute)
    (ecu : EcuDefinition) : Prop where
  valid : isValidConfig config = true
  type : message.type = .command
  request : message.flags &&& RemoteProtocol.flagIsResponse = 0
  found : findRoute config message.messageId = some route
  length : message.payloadLength = route.expectedPayloadLength
  accepted : route.accepts message = true
  destination : findEcu config route.destinationEcu = some ecu

theorem buildFrame_routed {message : Message} {config : Config} {route : CommandRoute}
    {ecu : EcuDefinition} (routed : Routed message config route ecu) :
    buildFrame message config = (.ok, commandFrame route ecu message) := by
  have accepted : ¬ (message.type ≠ .command ∨
      message.flags &&& RemoteProtocol.flagIsResponse ≠ 0) := by
    rw [not_or, Decidable.not_not, Decidable.not_not]
    exact ⟨routed.type, routed.request⟩
  simp only [buildFrame, routed.valid, Bool.not_true, Bool.false_eq_true, ↓reduceIte, accepted,
    routed.found, routed.length, ne_eq, not_true_eq_false, routed.accepted, routed.destination,
    commandFrame]

theorem buildFrame_ok_iff (message : Message) (config : Config) (frame : CanFrame) :
    buildFrame message config = (.ok, frame) ↔
      ∃ route ecu, Routed message config route ecu ∧ frame = commandFrame route ecu message := by
  constructor
  · intro success
    unfold buildFrame at success
    split at success
    · cases success
    rename_i config
    split at success
    · cases success
    rename_i accepted
    rw [not_or, Decidable.not_not, Decidable.not_not] at accepted
    split at success
    · cases success
    rename_i route found
    split at success
    · cases success
    rename_i length
    rw [ne_eq, Decidable.not_not] at length
    split at success
    · cases success
    rename_i valid
    split at success
    · cases success
    rename_i ecu present
    cases success
    exact ⟨route, ecu, ⟨by simpa using config, accepted.1, accepted.2, found, length,
      by simpa using valid, present⟩, rfl⟩
  · rintro ⟨route, ecu, routed, rfl⟩
    exact buildFrame_routed routed

def Config.routes (config : Config) : List CommandRoute := config.commandRoutes.getD []

section Routes

variable {config : Config} {messageId : UInt16}

theorem findRoute_none (absent : findRoute config messageId = none) (route : CommandRoute)
    (member : route ∈ config.routes) : route.remoteMessageId ≠ messageId := by
  intro same
  have other := List.find?_eq_none.mp absent route member
  exact other (beq_iff_eq.mpr same)

theorem findRoute_some {route : CommandRoute} (found : findRoute config messageId = some route) :
    route ∈ config.routes ∧ route.remoteMessageId = messageId := by
  unfold findRoute at found
  have matched := List.find?_some found
  exact ⟨List.mem_of_find?_eq_some found, beq_iff_eq.mp matched⟩

end Routes

/-- The ways `build_frame` goes for a request under a valid configuration. -/
inductive Built (message : Message) (config : Config) : RouteResult × CanFrame → Prop where
  | notCommand (type : message.type ≠ .command) : Built message config (.invalidMessageType, {})
  | unknown (type : message.type = .command) (absent : findRoute config message.messageId = none) :
      Built message config (.unknownCommand, {})
  | length (route : CommandRoute) (type : message.type = .command)
      (found : findRoute config message.messageId = some route)
      (differs : message.payloadLength ≠ route.expectedPayloadLength) :
      Built message config (.invalidPayloadLength, {})
  | value (route : CommandRoute) (type : message.type = .command)
      (found : findRoute config message.messageId = some route)
      (same : message.payloadLength = route.expectedPayloadLength)
      (rejected : route.accepts message = false) : Built message config (.invalidPayloadValue, {})
  | frame (route : CommandRoute) (ecu : EcuDefinition) (routed : Routed message config route ecu) :
      Built message config (.ok, commandFrame route ecu message)

theorem Built.configured {message : Message} {config : Config} {result : RouteResult × CanFrame}
    (built : Built message config result) : result.1 ≠ .invalidConfiguration := by
  cases built <;> exact nofun

end CanCommandRouter
