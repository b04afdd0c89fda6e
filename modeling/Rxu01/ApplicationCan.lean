import Rxu01.CanManager
import Rxu01.EspNowCanGateway

set_option autoImplicit false

/- The way from the gateway to the CAN manager in `application.cpp`. -/
namespace Application

open CanManager (Manager)
open EspNowCanGateway (TransmitResult)
open Peripheral (Environment)

variable {δ : Type}

/-- The `can_frame` filled in by `transmit_can_frame`. -/
def destinationFrame (source : CanCommandRouter.CanFrame) : Mcp2515.CanFrame :=
  { canId :=
      if source.extendedIdentifier then source.identifier ||| Mcp2515.canEffFlag
      else source.identifier
    canDlc := source.dataLength
    data := Vector.ofFn (fun index => source.bytes.getD index.val 0) }

def mapSendResult : CanManager.TransmitResult → TransmitResult
  | .ok => .ok
  | .busy => .busy
  | .timeout => .timeout
  | _ => .failed

/-- The context is the pointer to the manager; `none` as for `CanManager.send`. -/
def transmitCanFrame (env : Environment δ) (fuel : Nat) (source : CanCommandRouter.CanFrame)
    (context : Option (Manager δ)) : Option TransmitResult × Option (Manager δ) :=
  match context with
  | none => (some .failed, none)
  | some manager =>
      if Mcp2515.canMaxDlen < source.dataLength.toNat then (some .failed, some manager)
      else
        let sent := CanManager.send env fuel (destinationFrame source) manager
        (sent.1.map mapSendResult, some sent.2)

end Application
