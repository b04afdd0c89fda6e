import Rxu01.CanCommandRouter

set_option autoImplicit false

/- The shipped tables of `vehicle_can_protocol.cpp`. -/
namespace VehicleCanProtocol

open RemoteProtocol (Payload)
open CanCommandRouter (CommandRoute Config EcuDefinition)

/-- `EcuRole::Lighting`. -/
abbrev ecuRoleLighting : UInt8 := 0x01

def makeRemoteMessageId (destination : UInt8) (command : UInt8) : UInt16 :=
  (destination.toUInt16 <<< 8) ||| command.toUInt16

inductive RemoteCommandId where
  | lightingGetSoftwareVersion
  | lightingSetIndicatorState
  | lightingSetExteriorLightsState
  | lightingSetBrakeState
  | lightingSetReverseLightState
  deriving DecidableEq, Repr

def RemoteCommandId.value : RemoteCommandId → UInt16
  | .lightingGetSoftwareVersion => makeRemoteMessageId ecuRoleLighting 0x01
  | .lightingSetIndicatorState => makeRemoteMessageId ecuRoleLighting 0x03
  | .lightingSetExteriorLightsState => makeRemoteMessageId ecuRoleLighting 0x04
  | .lightingSetBrakeState => makeRemoteMessageId ecuRoleLighting 0x05
  | .lightingSetReverseLightState => makeRemoteMessageId ecuRoleLighting 0x06

abbrev lmcu100CommandCanId : UInt16 := 0x101

inductive Lmcu100CommandId where
  | getSoftwareVersion
  | reserved
  | setIndicatorState
  | setExteriorLightsState
  | setBrakeState
  | setReverseLightState
  deriving DecidableEq, Repr

def Lmcu100CommandId.value : Lmcu100CommandId → UInt8
  | .getSoftwareVersion => 0x01
  | .reserved => 0x02
  | .setIndicatorState => 0x03
  | .setExteriorLightsState => 0x04
  | .setBrakeState => 0x05
  | .setReverseLightState => 0x06

abbrev binaryStateOff : UInt8 := 0x00
abbrev binaryStateOn : UInt8 := 0x01
abbrev exteriorLightModeLowBeam : UInt8 := 3

abbrev indicatorStatePayloadLength : UInt8 := 3
abbrev exteriorLightStatePayloadLength : UInt8 := 4
abbrev brakeStatePayloadLength : UInt8 := 1
abbrev reverseLightStatePayloadLength : UInt8 := 1

def validateAnyPayload (_payload : Option Payload) (_payloadLength : UInt8) : Bool := true

def isBinaryState (state : UInt8) : Bool :=
  state == binaryStateOff || state == binaryStateOn

def validateIndicatorState (payload : Option Payload) (payloadLength : UInt8) : Bool :=
  match payload with
  | none => false
  | some payload =>
      if payloadLength ≠ indicatorStatePayloadLength then false
      else
        let warning := payload[0]
        let left := payload[1]
        let right := payload[2]
        if !isBinaryState warning || !isBinaryState left || !isBinaryState right then false
        else !(left == binaryStateOn && right == binaryStateOn)

def validateExteriorLightState (payload : Option Payload) (payloadLength : UInt8) : Bool :=
  match payload with
  | none => false
  | some payload =>
      if payloadLength ≠ exteriorLightStatePayloadLength then false
      else if exteriorLightModeLowBeam < payload[0] then false
      else isBinaryState payload[1] && isBinaryState payload[2] && isBinaryState payload[3]

def validateBinaryState (payload : Option Payload) (payloadLength : UInt8) : Bool :=
  match payload with
  | none => false
  | some payload => payloadLength == 1 && isBinaryState payload[0]

def ecuRegistry : List EcuDefinition :=
  [{ ecuId := ecuRoleLighting
     commandCanIdentifier := lmcu100CommandCanId.toUInt32
     extendedIdentifier := false }]

def commandRoutes : List CommandRoute :=
  [{ remoteMessageId := RemoteCommandId.lightingGetSoftwareVersion.value
     destinationEcu := ecuRoleLighting
     ecuCommandId := Lmcu100CommandId.getSoftwareVersion.value
     expectedPayloadLength := 0
     validatePayload := some validateAnyPayload },
   { remoteMessageId := RemoteCommandId.lightingSetIndicatorState.value
     destinationEcu := ecuRoleLighting
     ecuCommandId := Lmcu100CommandId.setIndicatorState.value
     expectedPayloadLength := indicatorStatePayloadLength
     validatePayload := some validateIndicatorState },
   { remoteMessageId := RemoteCommandId.lightingSetExteriorLightsState.value
     destinationEcu := ecuRoleLighting
     ecuCommandId := Lmcu100CommandId.setExteriorLightsState.value
     expectedPayloadLength := exteriorLightStatePayloadLength
     validatePayload := some validateExteriorLightState },
   { remoteMessageId := RemoteCommandId.lightingSetBrakeState.value
     destinationEcu := ecuRoleLighting
     ecuCommandId := Lmcu100CommandId.setBrakeState.value
     expectedPayloadLength := brakeStatePayloadLength
     validatePayload := some validateBinaryState },
   { remoteMessageId := RemoteCommandId.lightingSetReverseLightState.value
     destinationEcu := ecuRoleLighting
     ecuCommandId := Lmcu100CommandId.setReverseLightState.value
     expectedPayloadLength := reverseLightStatePayloadLength
     validatePayload := some validateBinaryState }]

def makeCommandRouterConfig : Config :=
  { ecuRegistry := some ecuRegistry
    commandRoutes := some commandRoutes }

end VehicleCanProtocol
