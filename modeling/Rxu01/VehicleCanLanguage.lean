import Rxu01.ApplicationRun

set_option autoImplicit false

/- The commands the shipped tables let onto the bus. -/
namespace VehicleCanProtocol

open RemoteProtocol (Message Payload)
open CanCommandRouter (CanFrame CommandRoute EcuDefinition Routed buildFrame buildFrame_ok_iff
  findEcu findRoute isValidConfig)
open Application (Arrival Call State processReceivedPacket)
open Reactive (history)

/-- A byte that means off or on. -/
def Binary (value : UInt8) : Prop := value = 0 ∨ value = 1

/-- The data fields of LMCU100 commands: get software version, set indicators,
set exterior lights, set brake, set reverse light. -/
inductive CommandData : List UInt8 → Prop where
  | softwareVersion : CommandData [0x01]
  | indicators (warning left right : UInt8) (warningBinary : Binary warning)
      (leftBinary : Binary left) (rightBinary : Binary right)
      (onlyOne : ¬ (left = 1 ∧ right = 1)) : CommandData [0x03, warning, left, right]
  | exteriorLights (mode projectors fog beam : UInt8) (known : mode ≤ 3)
      (projectorsBinary : Binary projectors) (fogBinary : Binary fog) (beamBinary : Binary beam) :
      CommandData [0x04, mode, projectors, fog, beam]
  | brake (on : UInt8) (binary : Binary on) : CommandData [0x05, on]
  | reverseLight (on : UInt8) (binary : Binary on) : CommandData [0x06, on]

/-- The frame to LMCU100 with the given data bytes. -/
def lmcu100Frame (bytes : List UInt8) : CanFrame :=
  { identifier := 0x101
    extendedIdentifier := false
    dataLength := UInt8.ofNat bytes.length
    data := Vector.ofFn (fun index => bytes.getD index.val 0) }

theorem isBinaryState_iff (value : UInt8) : isBinaryState value = true ↔ Binary value := by
  simp [isBinaryState, Binary, binaryStateOff, binaryStateOn]

theorem CommandData.short {bytes : List UInt8} (command : CommandData bytes) :
    bytes.length ≤ CanCommandRouter.classicCanMaxDataLength := by
  cases command <;> exact Nat.le_of_ble_eq_true rfl

theorem lmcu100Frame_bytes (bytes : List UInt8)
    (short : bytes.length ≤ CanCommandRouter.classicCanMaxDataLength) :
    (lmcu100Frame bytes).bytes = bytes := by
  have count : (UInt8.ofNat bytes.length).toNat = bytes.length := by
    change bytes.length ≤ 8 at short
    exact UInt8.toNat_ofNat_of_lt' (show bytes.length < 256 by omega)
  unfold CanFrame.bytes lmcu100Frame
  dsimp only
  rw [count]
  exact Bytes.padded_take CanCommandRouter.classicCanMaxDataLength bytes 0 short

theorem payload_take_succ (payload : Payload) (count : Nat)
    (inside : count < RemoteProtocol.maxPayloadSize) :
    payload.toList.take (count + 1) = payload.toList.take count ++ [payload[count]] := by
  rw [List.take_succ_eq_append_getElem (by rw [Vector.length_toList]; exact inside),
    Vector.getElem_toList]

theorem payload_take_one (payload : Payload) : payload.toList.take 1 = [payload[0]] := by
  rw [payload_take_succ payload 0 (by decide)]
  rfl

theorem payload_take_three (payload : Payload) :
    payload.toList.take 3 = [payload[0], payload[1], payload[2]] := by
  rw [payload_take_succ payload 2 (by decide), payload_take_succ payload 1 (by decide),
    payload_take_one]
  rfl

theorem payload_take_four (payload : Payload) :
    payload.toList.take 4 = [payload[0], payload[1], payload[2], payload[3]] := by
  rw [payload_take_succ payload 3 (by decide), payload_take_three]
  rfl

theorem validateIndicatorState_iff (payload : Payload) (payloadLength : UInt8) :
    validateIndicatorState (some payload) payloadLength = true ↔
      payloadLength = 3 ∧ Binary payload[0] ∧ Binary payload[1] ∧ Binary payload[2] ∧
        ¬ (payload[1] = 1 ∧ payload[2] = 1) := by
  unfold validateIndicatorState
  dsimp only
  by_cases length : payloadLength = indicatorStatePayloadLength
  · rw [if_neg (not_not_intro length), ← isBinaryState_iff, ← isBinaryState_iff,
      ← isBinaryState_iff]
    cases warning : isBinaryState payload[0] <;> cases left : isBinaryState payload[1] <;>
      cases right : isBinaryState payload[2] <;> simp [length]
    exact imp_iff_not_or.symm
  · simp [length]

theorem validateExteriorLightState_iff (payload : Payload) (payloadLength : UInt8) :
    validateExteriorLightState (some payload) payloadLength = true ↔
      payloadLength = 4 ∧ payload[0] ≤ 3 ∧ Binary payload[1] ∧ Binary payload[2] ∧
        Binary payload[3] := by
  unfold validateExteriorLightState
  dsimp only
  by_cases length : payloadLength = exteriorLightStatePayloadLength
  · rw [if_neg (not_not_intro length), ← isBinaryState_iff, ← isBinaryState_iff,
      ← isBinaryState_iff]
    by_cases known : exteriorLightModeLowBeam < payload[0]
    · have high : ¬ payload[0] ≤ 3 := UInt8.not_le.mpr known
      simp [known, high]
    · have low : payload[0] ≤ 3 := UInt8.not_lt.mp known
      simp [known, low, length, and_assoc]
  · simp [length]

theorem validateBinaryState_iff (payload : Payload) (payloadLength : UInt8) :
    validateBinaryState (some payload) payloadLength = true ↔
      payloadLength = 1 ∧ Binary payload[0] := by
  simp [validateBinaryState, isBinaryState_iff]

theorem makeCommandRouterConfig_valid : isValidConfig makeCommandRouterConfig = true := by
  decide

theorem routed_ecu {message : Message} {route : CommandRoute} {ecu : EcuDefinition}
    (routed : Routed message makeCommandRouterConfig route ecu) :
    ecu.commandCanIdentifier = 0x101 ∧ ecu.extendedIdentifier = false := by
  have found := routed.destination
  have member := List.mem_of_find?_eq_some found
  obtain rfl := List.mem_singleton.mp member
  exact ⟨rfl, rfl⟩

theorem routed_route {message : Message} {route : CommandRoute} {ecu : EcuDefinition}
    (routed : Routed message makeCommandRouterConfig route ecu) :
    route ∈ commandRoutes ∧ route.remoteMessageId = message.messageId := by
  have found := routed.found
  refine ⟨List.mem_of_find?_eq_some found, ?_⟩
  have matched := List.find?_some found
  exact beq_iff_eq.mp matched

/-- The data field built for a route is its command id and the payload. -/
theorem routed_frame {message : Message} {route : CommandRoute} {ecu : EcuDefinition}
    (routed : Routed message makeCommandRouterConfig route ecu) :
    CanCommandRouter.commandFrame route ecu message =
      lmcu100Frame (route.ecuCommandId :: message.payloadBytes) := by
  obtain ⟨identifier, extended⟩ := routed_ecu routed
  have fits : message.payloadLength.toNat ≤ 7 := by
    rw [routed.length]
    rcases List.mem_cons.mp (routed_route routed).1 with rfl | others
    · decide
    revert others
    simp only [List.mem_cons, List.not_mem_nil, or_false]
    rintro (rfl | rfl | rfl | rfl) <;> decide
  have length : message.payloadBytes.length = message.payloadLength.toNat :=
    RemoteProtocol.payloadBytes_length message (Nat.le_trans fits (by decide))
  have count : UInt8.ofNat (message.payloadBytes.length + 1) = message.payloadLength + 1 := by
    rw [length, UInt8.ofNat_add, UInt8.ofNat_toNat]
    rfl
  unfold CanCommandRouter.commandFrame lmcu100Frame
  rw [identifier, extended, List.length_cons, count]
  rfl

/-- What each route's validator lets through. -/
theorem routed_data {message : Message} {route : CommandRoute} {ecu : EcuDefinition}
    (routed : Routed message makeCommandRouterConfig route ecu) :
    CommandData (route.ecuCommandId :: message.payloadBytes) := by
  have accepted := routed.accepted
  have length := routed.length
  have member := (routed_route routed).1
  simp only [commandRoutes, List.mem_cons, List.not_mem_nil, or_false] at member
  unfold Message.payloadBytes
  rw [length]
  rcases member with rfl | rfl | rfl | rfl | rfl
  · exact CommandData.softwareVersion
  · obtain ⟨_, warning, left, right, onlyOne⟩ :=
      (validateIndicatorState_iff message.payload message.payloadLength).mp accepted
    have bytes := payload_take_three message.payload
    exact bytes ▸ CommandData.indicators _ _ _ warning left right onlyOne
  · obtain ⟨_, known, projectors, fog, beam⟩ :=
      (validateExteriorLightState_iff message.payload message.payloadLength).mp accepted
    have bytes := payload_take_four message.payload
    exact bytes ▸ CommandData.exteriorLights _ _ _ _ known projectors fog beam
  · obtain ⟨_, on⟩ := (validateBinaryState_iff message.payload message.payloadLength).mp accepted
    have bytes := payload_take_one message.payload
    exact bytes ▸ CommandData.brake _ on
  · obtain ⟨_, on⟩ := (validateBinaryState_iff message.payload message.payloadLength).mp accepted
    have bytes := payload_take_one message.payload
    exact bytes ▸ CommandData.reverseLight _ on

/-- No two routes share a command id. -/
theorem route_of_command {first second : CommandRoute} (present : first ∈ commandRoutes)
    (present' : second ∈ commandRoutes) (same : first.ecuCommandId = second.ecuCommandId) :
    first.remoteMessageId = second.remoteMessageId := by
  simp only [commandRoutes, List.mem_cons, List.not_mem_nil, or_false] at present present'
  rcases present with rfl | rfl | rfl | rfl | rfl <;>
    rcases present' with rfl | rfl | rfl | rfl | rfl <;>
    first
      | rfl
      | exact absurd same (by decide)

/-- A frame tells the message id and the payload it was built from. -/
theorem buildFrame_injective {first second : Message} {frame : CanFrame}
    (built : buildFrame first makeCommandRouterConfig = (.ok, frame))
    (built' : buildFrame second makeCommandRouterConfig = (.ok, frame)) :
    first.messageId = second.messageId ∧ first.payloadBytes = second.payloadBytes := by
  obtain ⟨route, ecu, routed, rfl⟩ := (buildFrame_ok_iff _ _ _).mp built
  obtain ⟨route', ecu', routed', same⟩ := (buildFrame_ok_iff _ _ _).mp built'
  rw [routed_frame routed, routed_frame routed'] at same
  have bytes := congrArg CanFrame.bytes same
  rw [lmcu100Frame_bytes _ (routed_data routed).short,
    lmcu100Frame_bytes _ (routed_data routed').short] at bytes
  obtain ⟨command, payload⟩ := List.cons.inj bytes
  obtain ⟨present, messageId⟩ := routed_route routed
  obtain ⟨present', messageId'⟩ := routed_route routed'
  exact ⟨messageId.symm.trans ((route_of_command present present' command).trans messageId'),
    payload⟩

theorem buildFrame_command {message : Message} {frame : CanFrame}
    (built : buildFrame message makeCommandRouterConfig = (.ok, frame)) :
    ∃ bytes, CommandData bytes ∧ frame = lmcu100Frame bytes := by
  obtain ⟨route, ecu, routed, rfl⟩ := (buildFrame_ok_iff _ _ _).mp built
  exact ⟨_, routed_data routed, routed_frame routed⟩

/-- The command with this message id and payload. -/
def commandMessage (messageId : RemoteCommandId) (payload : List UInt8) : Message :=
  { messageId := messageId.value
    payloadLength := UInt8.ofNat payload.length
    payload := RemoteProtocol.copyPayload payload }

theorem commandMessage_payloadBytes (messageId : RemoteCommandId) (payload : List UInt8)
    (fits : payload.length ≤ RemoteProtocol.maxPayloadSize) :
    (commandMessage messageId payload).payloadBytes = payload := by
  have count : (UInt8.ofNat payload.length).toNat = payload.length := by
    change payload.length ≤ 64 at fits
    exact UInt8.toNat_ofNat_of_lt' (show payload.length < 256 by omega)
  unfold Message.payloadBytes commandMessage
  dsimp only
  rw [count]
  exact RemoteProtocol.copyPayload_take payload fits

theorem commandMessage_valid (messageId : RemoteCommandId) (payload : List UInt8)
    (fits : payload.length ≤ RemoteProtocol.maxPayloadSize) :
    (commandMessage messageId payload).Valid ∧
      (commandMessage messageId payload).trimmed = commandMessage messageId payload := by
  have count : (UInt8.ofNat payload.length).toNat = payload.length := by
    change payload.length ≤ 64 at fits
    exact UInt8.toNat_ofNat_of_lt' (show payload.length < 256 by omega)
  refine ⟨⟨?_, ?_, ?_⟩, ?_⟩
  · change RemoteProtocol.isValidMessageType .command = true
    decide
  · change RemoteProtocol.areValidFlags RemoteProtocol.flagNone = true
    decide
  · exact Nat.le_trans (Nat.le_of_eq count) fits
  · rw [Message.trimmed, commandMessage_payloadBytes messageId payload fits]
    rfl

/-- A route that accepts the message of its command gives the frame of it. -/
theorem commandMessage_built (messageId : RemoteCommandId) (payload : List UInt8)
    (route : CommandRoute) (ecu : EcuDefinition)
    (fits : payload.length ≤ RemoteProtocol.maxPayloadSize)
    (found : findRoute makeCommandRouterConfig messageId.value = some route)
    (destination : findEcu makeCommandRouterConfig route.destinationEcu = some ecu)
    (length : UInt8.ofNat payload.length = route.expectedPayloadLength)
    (accepted : route.accepts (commandMessage messageId payload) = true) :
    buildFrame (commandMessage messageId payload) makeCommandRouterConfig =
      (.ok, lmcu100Frame (route.ecuCommandId :: payload)) := by
  have request : RemoteProtocol.flagNone &&& RemoteProtocol.flagIsResponse = 0 := by decide
  have routed : Routed (commandMessage messageId payload) makeCommandRouterConfig route ecu :=
    { valid := makeCommandRouterConfig_valid
      type := rfl
      request := request
      found := found
      length := length
      accepted := accepted
      destination := destination }
  rw [CanCommandRouter.buildFrame_routed routed, routed_frame routed,
    commandMessage_payloadBytes messageId payload fits]

/-- Every frame of the language is the frame of a command. -/
theorem command_built {bytes : List UInt8} (command : CommandData bytes) :
    ∃ messageId payload, payload.length ≤ RemoteProtocol.maxPayloadSize ∧
      buildFrame (commandMessage messageId payload) makeCommandRouterConfig =
        (.ok, lmcu100Frame bytes) := by
  have fits : ∀ count : Nat, count ≤ 4 → count ≤ RemoteProtocol.maxPayloadSize :=
    fun count small => Nat.le_trans small (by decide)
  cases command with
  | softwareVersion =>
      exact ⟨.lightingGetSoftwareVersion, [], fits 0 (by decide),
        commandMessage_built .lightingGetSoftwareVersion [] commandRoutes[0] ecuRegistry[0]
          (fits 0 (by decide)) rfl rfl rfl rfl⟩
  | indicators warning left right warningBinary leftBinary rightBinary onlyOne =>
      have accepted := (validateIndicatorState_iff
        (RemoteProtocol.copyPayload [warning, left, right]) 3).mpr
        ⟨rfl, by simpa [RemoteProtocol.copyPayload] using
          ⟨warningBinary, leftBinary, rightBinary, not_and.mp onlyOne⟩⟩
      exact ⟨.lightingSetIndicatorState, [warning, left, right], fits 3 (by decide),
        commandMessage_built .lightingSetIndicatorState [warning, left, right] commandRoutes[1]
          ecuRegistry[0] (fits 3 (by decide)) rfl rfl rfl accepted⟩
  | exteriorLights mode projectors fog beam known projectorsBinary fogBinary beamBinary =>
      have accepted := (validateExteriorLightState_iff
        (RemoteProtocol.copyPayload [mode, projectors, fog, beam]) 4).mpr
        ⟨rfl, by simpa [RemoteProtocol.copyPayload] using
          ⟨known, projectorsBinary, fogBinary, beamBinary⟩⟩
      exact ⟨.lightingSetExteriorLightsState, [mode, projectors, fog, beam], fits 4 (by decide),
        commandMessage_built .lightingSetExteriorLightsState [mode, projectors, fog, beam]
          commandRoutes[2] ecuRegistry[0] (fits 4 (by decide)) rfl rfl rfl accepted⟩
  | brake on binary =>
      have accepted := (validateBinaryState_iff (RemoteProtocol.copyPayload [on]) 1).mpr
        ⟨rfl, by simpa [RemoteProtocol.copyPayload] using binary⟩
      exact ⟨.lightingSetBrakeState, [on], fits 1 (by decide),
        commandMessage_built .lightingSetBrakeState [on] commandRoutes[3] ecuRegistry[0]
          (fits 1 (by decide)) rfl rfl rfl accepted⟩
  | reverseLight on binary =>
      have accepted := (validateBinaryState_iff (RemoteProtocol.copyPayload [on]) 1).mpr
        ⟨rfl, by simpa [RemoteProtocol.copyPayload] using binary⟩
      exact ⟨.lightingSetReverseLightState, [on], fits 1 (by decide),
        commandMessage_built .lightingSetReverseLightState [on] commandRoutes[4] ecuRegistry[0]
          (fits 1 (by decide)) rfl rfl rfl accepted⟩

/-- An initialised gateway with the shipped tables can be made to transmit any
command. -/
theorem command_reachable {σ : Type} (state : State σ)
    (shipped : state.gateway.config.commandRouter = makeCommandRouterConfig)
    (initialized : state.gateway.initialized = true)
    (connected : state.gateway.config.transmit.isSome = true) {bytes : List UInt8}
    (command : CommandData bytes) :
    ∃ arrival result,
      Call.transmit (lmcu100Frame bytes) result ∈ (processReceivedPacket state arrival).2 := by
  obtain ⟨messageId, payload, fits, built⟩ := command_built command
  obtain ⟨valid, trimmed⟩ := commandMessage_valid messageId payload fits
  let arrival : Arrival :=
    ⟨EspNowDriver.ReceivedPacket.carrying state.txu01Mac (commandMessage messageId payload).wire,
      ⟨fun _ => 0, 0⟩⟩
  have received : Application.receivedMessage state.txu01Mac arrival =
      some (commandMessage messageId payload) := by
    rw [Application.received_carrying state.txu01Mac _ _ valid, trimmed]
  rw [← shipped] at built
  obtain ⟨transmit, present⟩ := Option.isSome_iff_exists.mp connected
  have plain : Application.acknowledgementRequested (commandMessage messageId payload) = false := by
    change (RemoteProtocol.flagNone &&& RemoteProtocol.flagAckRequested != 0 &&
      RemoteProtocol.flagNone &&& RemoteProtocol.flagIsResponse == 0) = false
    decide
  refine ⟨arrival, (transmit (lmcu100Frame bytes) state.context).1, ?_⟩
  rw [Application.process_plain received plain]
  exact Application.executeMessage_transmits arrival valid initialized present built

/-- The frames that reach the callback are those of the language, each of them
can be reached, and each comes from one message id and payload only. -/
theorem command_language :
    (∀ (σ : Type) (start : State σ) (log : List Arrival),
      start.gateway.config.commandRouter = makeCommandRouterConfig →
      ∀ entry ∈ history processReceivedPacket start log, ∀ frame result,
        Call.transmit frame result ∈ entry.2 →
          ∃ bytes, CommandData bytes ∧ frame = lmcu100Frame bytes) ∧
    (∀ bytes, CommandData bytes → ∃! command : UInt16 × List UInt8, ∃ message : Message,
      message.Valid ∧ message.messageId = command.1 ∧ message.payloadBytes = command.2 ∧
        buildFrame message makeCommandRouterConfig = (.ok, lmcu100Frame bytes)) ∧
    (∀ first second frame, buildFrame first makeCommandRouterConfig = (.ok, frame) →
      buildFrame second makeCommandRouterConfig = (.ok, frame) →
        first.messageId = second.messageId ∧ first.payloadBytes = second.payloadBytes) ∧
    (∀ (σ : Type) (state : State σ),
      state.gateway.config.commandRouter = makeCommandRouterConfig →
      state.gateway.initialized = true → state.gateway.config.transmit.isSome = true →
      ∀ bytes, CommandData bytes → ∃ arrival result,
        Call.transmit (lmcu100Frame bytes) result ∈ (processReceivedPacket state arrival).2) := by
  refine ⟨?_, ?_, ?_, ?_⟩
  · intro σ start log shipped entry member frame result sent
    obtain ⟨before, after, _, output⟩ := Reactive.mem_history _ _ _ _ member
    rw [output] at sent
    obtain ⟨message, _, built⟩ := Application.process_transmit sent
    rw [(Application.run_fixed start before).2, shipped] at built
    exact buildFrame_command built
  · intro bytes command
    obtain ⟨messageId, payload, fits, built⟩ := command_built command
    obtain ⟨valid, _⟩ := commandMessage_valid messageId payload fits
    refine ⟨(messageId.value, payload), ⟨_, valid, rfl,
      commandMessage_payloadBytes messageId payload fits, built⟩, ?_⟩
    rintro ⟨otherId, otherPayload⟩ ⟨message, _, sameId, samePayload, other⟩
    obtain ⟨ids, payloads⟩ := buildFrame_injective other built
    rw [commandMessage_payloadBytes messageId payload fits] at payloads
    dsimp only at sameId samePayload
    rw [← sameId, ← samePayload, ids, payloads]
    rfl
  · intro first second frame built built'
    exact buildFrame_injective built built'
  · intro σ state shipped initialized connected bytes command
    exact command_reachable state shipped initialized connected command

end VehicleCanProtocol
