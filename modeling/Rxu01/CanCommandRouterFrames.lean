import Rxu01.CanCommandRouterTables
import Rxu01.RemoteProtocolCodec

set_option autoImplicit false

/- `build_frame` with its output parameter, and which frames it builds. -/
namespace CanCommandRouter

open RemoteProtocol (Message)

/-- The assignment `frame = {}`. -/
def CanFrame.clear (frame : CanFrame) : CanFrame :=
  { frame with
    identifier := 0
    extendedIdentifier := false
    dataLength := 0
    data := Vector.replicate classicCanMaxDataLength 0 }

/-- The bytes a `memcpy` of `payload_length` bytes reads from the payload, if it
has as many. -/
def readPayload (message : Message) : Option (List UInt8) :=
  if message.payloadLength.toNat ≤ RemoteProtocol.maxPayloadSize then some message.payloadBytes
  else none

/-- A `memcpy` into the data field, if it stays inside. -/
def copyData (data : Vector UInt8 classicCanMaxDataLength) (offset : Nat) (bytes : List UInt8) :
    Option (Vector UInt8 classicCanMaxDataLength) :=
  if offset + bytes.length ≤ classicCanMaxDataLength then
    some (Vector.ofFn (fun index =>
      if index.val < offset then data[index]
      else if index.val < offset + bytes.length then bytes.getD (index.val - offset) 0
      else data[index]))
  else none

/-- `build_frame` as it writes to its output parameter. `none` is undefined
behaviour: a call through a null validator or a copy out of bounds. -/
def buildFrameInto (message : Message) (config : Config) (frame : CanFrame) :
    Option (RouteResult × CanFrame) :=
  let frame := frame.clear
  if !isValidConfig config then some (.invalidConfiguration, frame)
  else if message.type ≠ .command ∨ message.flags &&& RemoteProtocol.flagIsResponse ≠ 0 then
    some (.invalidMessageType, frame)
  else
    match findRoute config message.messageId with
    | none => some (.unknownCommand, frame)
    | some route =>
        if message.payloadLength ≠ route.expectedPayloadLength then
          some (.invalidPayloadLength, frame)
        else
          match route.validatePayload with
          | none => none
          | some validate =>
              if !validate (some message.payload) message.payloadLength then
                some (.invalidPayloadValue, frame)
              else
                match findEcu config route.destinationEcu with
                | none => some (.invalidConfiguration, frame)
                | some ecu =>
                    let frame := { frame with identifier := ecu.commandCanIdentifier }
                    let frame := { frame with extendedIdentifier := ecu.extendedIdentifier }
                    let frame := { frame with data := frame.data.set 0 route.ecuCommandId }
                    let frame := { frame with dataLength := message.payloadLength + 1 }
                    if 0 < message.payloadLength then do
                      let payload ← readPayload message
                      let data ← copyData frame.data 1 payload
                      some (.ok, { frame with data := data })
                    else some (.ok, frame)

theorem copyData_payload (ecuCommandId : UInt8) (payload : List UInt8)
    (fits : payload.length ≤ maxCommandPayloadLength) :
    copyData ((Vector.replicate classicCanMaxDataLength 0).set 0 ecuCommandId) 1 payload =
      some (commandData ecuCommandId payload) := by
  have inside : 1 + payload.length ≤ classicCanMaxDataLength := by
    change payload.length ≤ 7 at fits
    change 1 + payload.length ≤ 8
    omega
  unfold copyData commandData
  rw [if_pos inside]
  apply congrArg some
  ext index below
  simp only [Vector.getElem_ofFn]
  cases index with
  | zero => simp
  | succ index =>
      by_cases written : index < payload.length
      · simp [written, Nat.add_comm 1]
      · simp [written, Nat.add_comm 1]

theorem commandData_nil (ecuCommandId : UInt8) :
    commandData ecuCommandId [] =
      (Vector.replicate classicCanMaxDataLength 0).set 0 ecuCommandId := by
  unfold commandData
  ext index below
  cases index with
  | zero => simp
  | succ index => simp

theorem payloadBytes_empty (message : Message) (empty : ¬ 0 < message.payloadLength) :
    message.payloadBytes = [] := by
  have zero : message.payloadLength.toNat = 0 := by
    rw [UInt8.lt_iff_toNat_lt] at empty
    exact Nat.eq_zero_of_not_pos empty
  rw [Message.payloadBytes, zero, List.take_zero]

/-- No call is undefined, and the previous content of the frame does not matter. -/
theorem buildFrameInto_eq (message : Message) (config : Config) (frame : CanFrame) :
    buildFrameInto message config frame = some (buildFrame message config) := by
  have cleared : frame.clear = {} := rfl
  unfold buildFrameInto buildFrame
  rw [cleared]
  cases valid : isValidConfig config with
  | false => rfl
  | true =>
      have tables := (isValidConfig_valid config).mp valid
      dsimp only
      rw [Bool.not_true, if_neg Bool.false_ne_true, if_neg Bool.false_ne_true]
      split
      · rfl
      cases found : findRoute config message.messageId with
      | none => rfl
      | some route =>
          have routeValid := tables.commands route (findRoute_some found).1
          obtain ⟨validate, present⟩ := Option.isSome_iff_exists.mp routeValid.validator
          dsimp only
          split
          · rfl
          rename_i length
          have fits : message.payloadLength.toNat ≤ maxCommandPayloadLength := by
            rw [Decidable.not_not.mp length]
            exact routeValid.length
          rw [present, show route.accepts message = validate (some message.payload)
            message.payloadLength by unfold CommandRoute.accepts; rw [present]]
          dsimp only
          split
          · rfl
          cases findEcu config route.destinationEcu with
          | none => rfl
          | some ecu =>
              have room : message.payloadLength.toNat ≤ RemoteProtocol.maxPayloadSize :=
                Nat.le_trans fits (by decide)
              have count := RemoteProtocol.payloadBytes_length message room
              dsimp only
              split
              · rw [readPayload, if_pos room, Option.bind_eq_bind, Option.bind_some,
                  copyData_payload route.ecuCommandId message.payloadBytes (by omega)]
                rfl
              · rename_i empty
                rw [payloadBytes_empty message empty, commandData_nil]

/-- A frame that carries the command of a message. -/
structure Carries (message : Message) (config : Config) (ecu : EcuDefinition) (route : CommandRoute)
    (frame : CanFrame) : Prop where
  oneEcu : config.registry.filter (fun other => other.ecuId.toNat == message.messageId.toNat / 256) =
    [ecu]
  oneRoute : config.routes.filter (fun other => other.remoteMessageId == message.messageId) = [route]
  identifier : frame.identifier = ecu.commandCanIdentifier
  extended : frame.extendedIdentifier = ecu.extendedIdentifier
  bound : frame.identifier.toNat ≤ if frame.extendedIdentifier then 0x1FFFFFFF else 0x7FF
  length : frame.dataLength.toNat = message.payloadLength.toNat + 1
  fits : frame.dataLength.toNat ≤ classicCanMaxDataLength
  data : frame.data.toList = route.ecuCommandId :: message.payloadBytes ++
    List.replicate (classicCanMaxDataLength - frame.dataLength.toNat) 0

theorem commandData_toList (ecuCommandId : UInt8) (payload : List UInt8)
    (fits : payload.length ≤ maxCommandPayloadLength) :
    (commandData ecuCommandId payload).toList = ecuCommandId :: payload ++
      List.replicate (classicCanMaxDataLength - (payload.length + 1)) 0 := by
  have room : payload.length + 1 ≤ classicCanMaxDataLength := Nat.succ_le_succ fits
  apply List.ext_getElem
  · rw [Vector.length_toList, List.length_append, List.length_cons, List.length_replicate]
    omega
  · intro index below below'
    have entry : (commandData ecuCommandId payload).toList[index] =
        (ecuCommandId :: payload).getD index 0 := by
      simp [commandData]
    rw [entry]
    by_cases written : index < (ecuCommandId :: payload).length
    · rw [List.getElem_append_left written, List.getD_eq_getElem _ _ written]
    · rw [List.getElem_append_right (Nat.le_of_not_lt written), List.getElem_replicate]
      exact List.getD_eq_default _ _ (Nat.le_of_not_lt written)

section Routed

variable {message : Message} {config : Config} {route : CommandRoute} {ecu : EcuDefinition}

theorem Routed.fits (routed : Routed message config route ecu) :
    message.payloadLength.toNat ≤ maxCommandPayloadLength := by
  have tables := (isValidConfig_valid config).mp routed.valid
  rw [routed.length]
  exact (tables.commands route (findRoute_some routed.found).1).length

theorem Routed.payload (routed : Routed message config route ecu) :
    message.payloadBytes.length = message.payloadLength.toNat :=
  RemoteProtocol.payloadBytes_length message (Nat.le_trans routed.fits (by decide))

theorem Routed.dataLength (routed : Routed message config route ecu) :
    (message.payloadLength + 1).toNat = message.payloadLength.toNat + 1 := by
  have fits := routed.fits
  change message.payloadLength.toNat ≤ 7 at fits
  rw [UInt8.toNat_add]
  change (message.payloadLength.toNat + 1) % 256 = _
  omega

theorem Routed.registered (routed : Routed message config route ecu) :
    ecu ∈ config.registry ∧ ecu.ecuId = route.destinationEcu := by
  have found := routed.destination
  unfold findEcu at found
  have matched := List.find?_some found
  exact ⟨List.mem_of_find?_eq_some found, beq_iff_eq.mp matched⟩

theorem Routed.carries (routed : Routed message config route ecu) :
    Carries message config ecu route (commandFrame route ecu message) := by
  have tables := (isValidConfig_valid config).mp routed.valid
  obtain ⟨present, same⟩ := findRoute_some routed.found
  obtain ⟨registered, destination⟩ := routed.registered
  have length := routed.dataLength
  have fits := routed.fits
  refine ⟨?_, ?_, rfl, rfl, (tables.ecus ecu registered).identifier, length, ?_, ?_⟩
  · have target : message.messageId.toNat / 256 = ecu.ecuId.toNat := by
      rw [destination, (tables.commands route present).destination, same]
    rw [target, ← tables.ecusDistinct.filter_eq registered]
    apply List.filter_congr
    intro other _
    rw [Bool.eq_iff_iff, beq_iff_eq, beq_iff_eq, UInt8.toNat_inj]
  · rw [← same]
    exact tables.commandsDistinct.filter_eq present
  · change (message.payloadLength + 1).toNat ≤ 8
    change message.payloadLength.toNat ≤ 7 at fits
    omega
  · change (commandData route.ecuCommandId message.payloadBytes).toList = _
    rw [commandData_toList _ _ (by rw [routed.payload]; exact fits), routed.payload]
    change _ = _ ++ List.replicate (8 - (message.payloadLength + 1).toNat) 0
    rw [length]

end Routed

theorem buildFrame_failed (message : Message) (config : Config) :
    (buildFrame message config).1 ≠ .ok → (buildFrame message config).2 = {} := by
  unfold buildFrame
  split
  · exact fun _ => rfl
  split
  · exact fun _ => rfl
  split
  · exact fun _ => rfl
  split
  · exact fun _ => rfl
  split
  · exact fun _ => rfl
  split
  · exact fun _ => rfl
  · intro failed
    exact absurd rfl failed

/-- The result is `InvalidConfiguration` for no other reason: the ECU of a valid
route is always found. -/
theorem buildFrame_invalid (message : Message) (config : Config) :
    (buildFrame message config).1 = .invalidConfiguration ↔ isValidConfig config = false := by
  cases valid : isValidConfig config with
  | false =>
      unfold buildFrame
      rw [valid]
      simp
  | true =>
      simp only [reduceCtorEq, iff_false]
      by_cases request : message.flags &&& RemoteProtocol.flagIsResponse = 0
      · exact (buildFrame_built valid request).configured
      · unfold buildFrame
        rw [valid, if_neg (by decide), if_pos (Or.inr request)]
        exact nofun

theorem buildFrame_ok (message : Message) (config : Config) :
    (buildFrame message config).1 = .ok ↔
      isValidConfig config = true ∧ message.type = .command ∧
        message.flags &&& RemoteProtocol.flagIsResponse = 0 ∧
        ∃ route ∈ config.routes, route.remoteMessageId = message.messageId ∧
          message.payloadLength = route.expectedPayloadLength ∧ route.accepts message = true := by
  constructor
  · intro success
    obtain ⟨route, ecu, routed, _⟩ := (buildFrame_ok_iff message config _).mp (Prod.ext success rfl)
    obtain ⟨present, same⟩ := findRoute_some routed.found
    exact ⟨routed.valid, routed.type, routed.request, route, present, same, routed.length,
      routed.accepted⟩
  · rintro ⟨valid, type, request, route, present, same, length, accepted⟩
    have tables := (isValidConfig_valid config).mp valid
    have found : findRoute config message.messageId = some route :=
      (tables.commandsDistinct.find_iff _).mpr ⟨present, same⟩
    obtain ⟨ecu, destination⟩ := tables.destination present
    rw [buildFrame_routed ⟨valid, type, request, found, length, accepted, destination⟩]

/-- The whole of `build_frame`, whatever the frame held before. -/
theorem buildFrame_specification (message : Message) (config : Config) (previous : CanFrame) :
    ∃ result frame, buildFrameInto message config previous = some (result, frame) ∧
      (result ≠ .ok → frame = {}) ∧
      (result = .ok ↔ isValidConfig config = true ∧ message.type = .command ∧
        message.flags &&& RemoteProtocol.flagIsResponse = 0 ∧
        ∃ route ∈ config.routes, route.remoteMessageId = message.messageId ∧
          message.payloadLength = route.expectedPayloadLength ∧ route.accepts message = true) ∧
      (result = .invalidConfiguration ↔ isValidConfig config = false) ∧
      (result = .ok → ∃ ecu route, Carries message config ecu route frame) := by
  refine ⟨(buildFrame message config).1, (buildFrame message config).2,
    buildFrameInto_eq message config previous, buildFrame_failed message config,
    buildFrame_ok message config, buildFrame_invalid message config, ?_⟩
  intro success
  obtain ⟨route, ecu, routed, built⟩ :=
    (buildFrame_ok_iff message config _).mp (Prod.ext success rfl)
  have carries := routed.carries
  rw [← built] at carries
  exact ⟨ecu, route, carries⟩

/-- Two routes whose commands look the same on the bus: the same command byte and
length, for ECUs that share their identifier, and a payload that both accept. -/
structure Alias (config : Config) (first second : CommandRoute) : Prop where
  apart : first.remoteMessageId ≠ second.remoteMessageId
  command : first.ecuCommandId = second.ecuCommandId
  length : first.expectedPayloadLength = second.expectedPayloadLength
  endpoint : ∃ ecu ecu', findEcu config first.destinationEcu = some ecu ∧
    findEcu config second.destinationEcu = some ecu' ∧
    ecu.commandCanIdentifier = ecu'.commandCanIdentifier ∧
    ecu.extendedIdentifier = ecu'.extendedIdentifier
  payload : ∃ message message' : Message, message.payloadBytes = message'.payloadBytes ∧
    message.payloadLength = first.expectedPayloadLength ∧
    message'.payloadLength = second.expectedPayloadLength ∧
    first.accepts message = true ∧ second.accepts message' = true

/-- The command with the payload of a message that selects a route. -/
def commandFor (route : CommandRoute) (message : Message) : Message :=
  { message with
    type := .command
    flags := RemoteProtocol.flagNone
    messageId := route.remoteMessageId }

theorem commandFor_routed {config : Config} {route : CommandRoute} {ecu : EcuDefinition}
    {message : Message} (valid : isValidConfig config = true) (present : route ∈ config.routes)
    (destination : findEcu config route.destinationEcu = some ecu)
    (length : message.payloadLength = route.expectedPayloadLength)
    (accepted : route.accepts message = true) :
    Routed (commandFor route message) config route ecu := by
  have tables := (isValidConfig_valid config).mp valid
  have request : RemoteProtocol.flagNone &&& RemoteProtocol.flagIsResponse = 0 := by decide
  exact ⟨valid, rfl, request, (tables.commandsDistinct.find_iff _).mpr ⟨present, rfl⟩, length,
    accepted, destination⟩

theorem commandData_injective {ecuCommandId ecuCommandId' : UInt8} {payload payload' : List UInt8}
    (fits : payload.length ≤ maxCommandPayloadLength) (length : payload.length = payload'.length)
    (same : commandData ecuCommandId payload = commandData ecuCommandId' payload') :
    ecuCommandId = ecuCommandId' ∧ payload = payload' := by
  have bytes := congrArg Vector.toList same
  rw [commandData_toList _ _ fits, commandData_toList _ _ (length ▸ fits), length] at bytes
  have front := List.append_cancel_right bytes
  exact List.cons.inj front

theorem commandFrame_eq_iff {message message' : Message} {config : Config}
    {route route' : CommandRoute} {ecu ecu' : EcuDefinition}
    (routed : Routed message config route ecu) (routed' : Routed message' config route' ecu') :
    commandFrame route ecu message = commandFrame route' ecu' message' ↔
      ecu.commandCanIdentifier = ecu'.commandCanIdentifier ∧
      ecu.extendedIdentifier = ecu'.extendedIdentifier ∧
      message.payloadLength = message'.payloadLength ∧
      route.ecuCommandId = route'.ecuCommandId ∧ message.payloadBytes = message'.payloadBytes := by
  unfold commandFrame
  rw [CanFrame.mk.injEq]
  refine and_congr_right (fun _ => and_congr_right (fun _ => ?_))
  constructor
  · rintro ⟨length, data⟩
    have count : message.payloadLength = message'.payloadLength := by
      have numbers := congrArg UInt8.toNat length
      rw [routed.dataLength, routed'.dataLength] at numbers
      exact UInt8.toNat_inj.mp (Nat.succ.inj numbers)
    have lengths : message.payloadBytes.length = message'.payloadBytes.length := by
      rw [routed.payload, routed'.payload, count]
    exact ⟨count, commandData_injective (by rw [routed.payload]; exact routed.fits) lengths data⟩
  · rintro ⟨length, command, payload⟩
    rw [length, command, payload]
    exact ⟨rfl, rfl⟩

/-- Commands with different message ids can give one frame exactly when two routes
of the tables are aliases of each other. -/
theorem aliased_iff {config : Config} (valid : isValidConfig config = true) :
    (∃ message message' frame, message.messageId ≠ message'.messageId ∧
      buildFrame message config = (.ok, frame) ∧ buildFrame message' config = (.ok, frame)) ↔
      ∃ first ∈ config.routes, ∃ second ∈ config.routes, Alias config first second := by
  constructor
  · rintro ⟨message, message', frame, apart, built, built'⟩
    obtain ⟨route, ecu, routed, rfl⟩ := (buildFrame_ok_iff _ _ _).mp built
    obtain ⟨route', ecu', routed', same⟩ := (buildFrame_ok_iff _ _ _).mp built'
    obtain ⟨present, id⟩ := findRoute_some routed.found
    obtain ⟨present', id'⟩ := findRoute_some routed'.found
    obtain ⟨identifier, extended, length, command, payload⟩ :=
      (commandFrame_eq_iff routed routed').mp same
    refine ⟨route, present, route', present', ?_, command, ?_, ?_, ?_⟩
    · rw [id, id']
      exact apart
    · rw [← routed.length, ← routed'.length, length]
    · exact ⟨ecu, ecu', routed.destination, routed'.destination, identifier, extended⟩
    · exact ⟨message, message', payload, routed.length, routed'.length, routed.accepted,
        routed'.accepted⟩
  · rintro ⟨first, present, second, present', twins⟩
    obtain ⟨ecu, ecu', destination, destination', identifier, extended⟩ := twins.endpoint
    obtain ⟨message, message', payload, length, length', accepted, accepted'⟩ := twins.payload
    have routed := commandFor_routed valid present destination length accepted
    have routed' := commandFor_routed valid present' destination' length' accepted'
    have same := (commandFrame_eq_iff routed routed').mpr ⟨identifier, extended,
      length.trans (twins.length.trans length'.symm), twins.command, payload⟩
    refine ⟨commandFor first message, commandFor second message', _, twins.apart,
      buildFrame_routed routed, ?_⟩
    rw [same]
    exact buildFrame_routed routed'

/-- The two commands of `twinConfig` are one frame. -/
theorem twin_frames : ¬ ∀ (config : Config) (message message' : Message) (frame frame' : CanFrame),
    isValidConfig config = true → message.messageId ≠ message'.messageId →
      buildFrame message config = (.ok, frame) → buildFrame message' config = (.ok, frame') →
        frame ≠ frame' := by
  intro apart
  exact apart twinConfig { messageId := 0x0101 } { messageId := 0x0102 } _ _ rfl (by decide) rfl rfl
    rfl

theorem aliased_iff_twin :
    ∃ first ∈ twinConfig.routes, ∃ second ∈ twinConfig.routes, Alias twinConfig first second := by
  apply (@aliased_iff twinConfig rfl).mp
  exact ⟨{ messageId := 0x0101 }, { messageId := 0x0102 }, _, by decide, rfl, rfl⟩

end CanCommandRouter
