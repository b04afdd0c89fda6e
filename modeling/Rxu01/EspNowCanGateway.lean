import Rxu01.CanCommandRouter
import Rxu01.EspErr

set_option autoImplicit false

/- The gateway of `esp_now_can_gateway.cpp`. The transmit callback works on
whatever its `transmit_context` points to: a value of type `σ`, threaded
through every call. -/
namespace EspNowCanGateway

open CanCommandRouter (CanFrame RouteResult buildFrame isValidConfig)
open EspIdf (EspErr espErrInvalidArg espOk)
open RemoteProtocol (Message)

inductive TransmitResult where
  | ok
  | busy
  | failed
  | timeout
  deriving DecidableEq, Repr

inductive ProcessResult where
  | ok
  | invalidMessage
  | unsupportedMessage
  | unknownCommand
  | invalidPayloadLength
  | invalidPayloadValue
  | canBusy
  | canTransmitFailed
  | canTimeout
  deriving DecidableEq, Repr

variable {σ : Type}

abbrev TransmitCallback (σ : Type) : Type := CanFrame → σ → TransmitResult × σ

structure Config (σ : Type) where
  transmit : Option (TransmitCallback σ) := none
  commandRouter : CanCommandRouter.Config := {}

structure Statistics where
  commandsRouted : UInt32 := 0
  framesSent : UInt32 := 0
  validationErrors : UInt32 := 0
  transmitErrors : UInt32 := 0
  deriving DecidableEq, Repr

/-- The component's file-scope variables. -/
structure Gateway (σ : Type) where
  config : Config σ := {}
  statistics : Statistics := {}
  initialized : Bool := false

def mapRouteResult : RouteResult → ProcessResult
  | .ok => .ok
  | .invalidConfiguration => .canTransmitFailed
  | .invalidMessageType => .unsupportedMessage
  | .unknownCommand => .unknownCommand
  | .invalidPayloadLength => .invalidPayloadLength
  | .invalidPayloadValue => .invalidPayloadValue

def mapTransmitResult : TransmitResult → ProcessResult
  | .ok => .ok
  | .busy => .canBusy
  | .timeout => .canTimeout
  | .failed => .canTransmitFailed

theorem mapTransmitResult_ok (result : TransmitResult) :
    mapTransmitResult result = .ok ↔ result = .ok := by
  cases result <;> decide

def resetStatistics (gateway : Gateway σ) : Gateway σ :=
  { gateway with statistics := {} }

def init (config : Config σ) (gateway : Gateway σ) : EspErr × Gateway σ :=
  if gateway.initialized then (espOk, gateway)
  else if config.transmit.isNone || !isValidConfig config.commandRouter then
    (espErrInvalidArg, gateway)
  else
    let gateway := { gateway with config := config }
    let gateway := resetStatistics gateway
    (espOk, { gateway with initialized := true })

def deinit (gateway : Gateway σ) : EspErr × Gateway σ :=
  let gateway := { gateway with initialized := false }
  let gateway := { gateway with config := {} }
  (espOk, resetStatistics gateway)

/-- A successful first `init` stores a configuration that has a callback and valid
tables. -/
theorem init_ok {config : Config σ} {prior gateway : Gateway σ}
    (fresh : prior.initialized = false) (initialised : init config prior = (espOk, gateway)) :
    gateway.initialized = true ∧ gateway.config = config ∧
      isValidConfig config.commandRouter = true := by
  unfold init at initialised
  rw [fresh, if_neg Bool.false_ne_true] at initialised
  split at initialised
  · exact absurd (congrArg Prod.fst initialised) (show espErrInvalidArg ≠ espOk by decide)
  · rename_i accepted
    cases initialised
    simp only [Bool.or_eq_true, not_or, Bool.not_eq_true', Bool.not_eq_false] at accepted
    exact ⟨rfl, rfl, accepted.2⟩

/-- What one call of `process_message` leaves behind: the value returned, the
component, the callback's context, and the callback's invocations. -/
structure Processed (σ : Type) where
  result : ProcessResult
  gateway : Gateway σ
  context : σ
  transmitted : List (CanFrame × TransmitResult)

def countValidationError (gateway : Gateway σ) : Gateway σ :=
  { gateway with statistics :=
      { gateway.statistics with validationErrors := gateway.statistics.validationErrors + 1 } }

def countCommandRouted (gateway : Gateway σ) : Gateway σ :=
  { gateway with statistics :=
      { gateway.statistics with commandsRouted := gateway.statistics.commandsRouted + 1 } }

def countTransmit (result : TransmitResult) (gateway : Gateway σ) : Gateway σ :=
  { gateway with statistics :=
      if result = .ok then
        { gateway.statistics with framesSent := gateway.statistics.framesSent + 1 }
      else
        { gateway.statistics with transmitErrors := gateway.statistics.transmitErrors + 1 } }

/-- The condition of the first rejection in `process_message`. -/
def rejectsMessage (message : Message) : Bool :=
  !RemoteProtocol.isValidMessageType message.type || !RemoteProtocol.areValidFlags message.flags ||
    message.flags &&& RemoteProtocol.flagIsResponse != 0 ||
    decide (RemoteProtocol.maxPayloadSize < message.payloadLength.toNat)

def processMessage (message : Message) (gateway : Gateway σ) (context : σ) : Processed σ :=
  if !gateway.initialized then ⟨.canTransmitFailed, gateway, context, []⟩
  else if rejectsMessage message then
    ⟨.invalidMessage, countValidationError gateway, context, []⟩
  else
    match buildFrame message gateway.config.commandRouter with
    | (.ok, frame) =>
        let gateway := countCommandRouted gateway
        match gateway.config.transmit with
        -- A call through a null pointer; `init` never stores one.
        | none => ⟨.canTransmitFailed, gateway, context, []⟩
        | some transmit =>
            let (result, context) := transmit frame context
            ⟨mapTransmitResult result, countTransmit result gateway, context,
              [(frame, result)]⟩
    | (routeResult, _) =>
        ⟨mapRouteResult routeResult, countValidationError gateway, context, []⟩

/-- The two ways a call of `process_message` goes: a callback invocation on the
frame the router built, or none at all. -/
theorem processMessage_cases (message : Message) (gateway : Gateway σ) (context : σ) :
    (∃ frame transmit,
      gateway.initialized = true ∧ rejectsMessage message = false ∧
      buildFrame message gateway.config.commandRouter = (.ok, frame) ∧
      gateway.config.transmit = some transmit ∧
      processMessage message gateway context =
        ⟨mapTransmitResult (transmit frame context).1,
          countTransmit (transmit frame context).1 (countCommandRouted gateway),
          (transmit frame context).2, [(frame, (transmit frame context).1)]⟩) ∨
    (∃ result gateway', result ≠ .ok ∧ gateway'.config = gateway.config ∧
      gateway'.initialized = gateway.initialized ∧
      processMessage message gateway context = ⟨result, gateway', context, []⟩) := by
  unfold processMessage
  split
  · exact Or.inr ⟨_, gateway, by decide, rfl, rfl, rfl⟩
  · rename_i initialized
    split
    · exact Or.inr ⟨_, countValidationError gateway, by decide, rfl, rfl, rfl⟩
    · rename_i accepted
      split
      · rename_i frame routed
        dsimp only
        split
        · exact Or.inr ⟨_, countCommandRouted gateway, by decide, rfl, rfl, rfl⟩
        · rename_i transmit present
          exact Or.inl ⟨frame, transmit, by simpa using initialized, by simpa using accepted,
            routed, present, rfl⟩
      · rename_i routeResult frame failed routed
        refine Or.inr ⟨_, countValidationError gateway, ?_, rfl, rfl, rfl⟩
        cases routeResult <;> simp_all [mapRouteResult]

/-- A message that routes is passed to the callback. -/
theorem processMessage_routed {message : Message} {gateway : Gateway σ} {frame : CanFrame}
    {transmit : TransmitCallback σ} (context : σ) (initialized : gateway.initialized = true)
    (accepted : rejectsMessage message = false)
    (built : buildFrame message gateway.config.commandRouter = (.ok, frame))
    (connected : gateway.config.transmit = some transmit) :
    processMessage message gateway context =
      ⟨mapTransmitResult (transmit frame context).1,
        countTransmit (transmit frame context).1 (countCommandRouted gateway),
        (transmit frame context).2, [(frame, (transmit frame context).1)]⟩ := by
  have kept : (countCommandRouted gateway).config.transmit = some transmit := connected
  simp only [processMessage, initialized, accepted, Bool.not_true, Bool.false_eq_true, ↓reduceIte,
    built, kept]

/-- A message that does not route is answered with the router's reason. -/
theorem processMessage_refused {message : Message} {gateway : Gateway σ} {frame : CanFrame}
    {reason : RouteResult} (context : σ) (initialized : gateway.initialized = true)
    (accepted : rejectsMessage message = false)
    (built : buildFrame message gateway.config.commandRouter = (reason, frame))
    (failed : reason ≠ .ok) :
    processMessage message gateway context =
      ⟨mapRouteResult reason, countValidationError gateway, context, []⟩ := by
  unfold processMessage
  rw [initialized, if_neg (by decide), accepted, if_neg Bool.false_ne_true, built]
  cases reason with
  | ok => exact absurd rfl failed
  | _ => rfl

/-- What the callback keeps, a call of `process_message` keeps. -/
theorem processMessage_context (Inv : σ → Prop) (message : Message) (gateway : Gateway σ)
    (kept : ∀ transmit, gateway.config.transmit = some transmit →
      ∀ frame context, Inv context → Inv (transmit frame context).2)
    {context : σ} (start : Inv context) : Inv (processMessage message gateway context).context := by
  rcases processMessage_cases message gateway context with
    ⟨frame, transmit, _, _, _, connected, processed⟩ | ⟨_, _, _, _, _, processed⟩
  · rw [processed]
    exact kept transmit connected frame context start
  · rw [processed]
    exact start

end EspNowCanGateway
