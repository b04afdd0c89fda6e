import Rxu01.ApplicationWindow
import Rxu01.CanSession
import Rxu01.FrameDelivery
import Rxu01.Mcp2515Poll
import Rxu01.VehicleCanLanguage

set_option autoImplicit false

/- The gateway with the CAN manager behind it, and what its acknowledgements say. -/
namespace Application

open CanManager (Manager)
open EspIdf (espOk)
open EspNowCanGateway (Gateway ProcessResult TransmitCallback TransmitResult)
open Mcp2515 (Advancing)
open Peripheral (Environment)
open Reactive (history run)
open RemoteProtocol (AcknowledgementStatus Message decode)

variable {δ : Type} (env : Environment δ)

section Callback

/-- The callback on a started manager is one call of the driver. -/
theorem transmitCanFrame_started {source : CanCommandRouter.CanFrame} {manager : Manager δ}
    (started : manager.initialized = true)
    (fits : source.dataLength.toNat ≤ Mcp2515.canMaxDlen) (fuel : Nat) :
    transmitCanFrame env fuel source (some manager) =
      ((Mcp2515.sendMessage env (destinationFrame source) manager.config.transmitTimeoutMs fuel
          manager.world).1.map (fun error => mapSendResult (CanManager.mapError error)),
        some { manager with
          world := (Mcp2515.sendMessage env (destinationFrame source)
            manager.config.transmitTimeoutMs fuel manager.world).2
          sendCalls := manager.sendCalls ++ [(destinationFrame source,
            (Mcp2515.sendMessage env (destinationFrame source) manager.config.transmitTimeoutMs
              fuel manager.world).1)] }) := by
  have short : (destinationFrame source).canDlc.toNat ≤ Mcp2515.canMaxDlen := fits
  unfold transmitCanFrame
  dsimp only
  rw [if_neg (Nat.not_lt.mpr fits), CanManager.send_started env started short, Option.map_map]
  rfl

theorem transmitCanFrame_returns (advancing : Advancing env)
    (source : CanCommandRouter.CanFrame) (context : Option (Manager δ)) :
    ∃ fuel, (transmitCanFrame env fuel source context).1.isSome = true := by
  cases context with
  | none => exact ⟨0, rfl⟩
  | some manager =>
      by_cases fits : source.dataLength.toNat ≤ Mcp2515.canMaxDlen
      · cases started : manager.initialized with
        | false =>
            refine ⟨0, ?_⟩
            simp [transmitCanFrame, CanManager.send, started, Nat.not_lt.mpr fits]
        | true =>
            obtain ⟨fuel, error, after, returned⟩ := Mcp2515.sendMessage_returns env advancing
              (destinationFrame source) manager.config.transmitTimeoutMs manager.world
            refine ⟨fuel, ?_⟩
            rw [transmitCanFrame_started env started fits, returned]
            rfl
      · refine ⟨0, ?_⟩
        simp [transmitCanFrame, Nat.not_le.mp fits]

/-- `transmit_can_frame` with the fuel it needs. -/
def transmitCallback (advancing : Advancing env) : TransmitCallback (Option (Manager δ)) :=
  fun source context =>
    let returns := transmitCanFrame_returns env advancing source context
    let sent := transmitCanFrame env (Nat.find returns) source context
    (sent.1.get (Nat.find_spec returns), sent.2)

theorem transmitCallback_eq (advancing : Advancing env) (source : CanCommandRouter.CanFrame)
    (context : Option (Manager δ)) :
    ∃ fuel, transmitCanFrame env fuel source context =
      (some (transmitCallback env advancing source context).1,
        (transmitCallback env advancing source context).2) := by
  refine ⟨Nat.find (transmitCanFrame_returns env advancing source context), ?_⟩
  unfold transmitCallback
  dsimp only
  rw [Option.some_get]

/-- On a started manager it is one call of the driver that returns. -/
theorem transmitCallback_sends (advancing : Advancing env) {source : CanCommandRouter.CanFrame}
    {manager : Manager δ} (started : manager.initialized = true)
    (fits : source.dataLength.toNat ≤ Mcp2515.canMaxDlen) :
    ∃ fuel error after,
      Mcp2515.sendMessage env (destinationFrame source) manager.config.transmitTimeoutMs fuel
        manager.world = (some error, after) ∧
      transmitCallback env advancing source (some manager) =
        (mapSendResult (CanManager.mapError error),
          some { manager with
            world := after
            sendCalls := manager.sendCalls ++ [(destinationFrame source, some error)] }) := by
  obtain ⟨fuel, made⟩ := transmitCallback_eq env advancing source (some manager)
  rw [transmitCanFrame_started env started fits] at made
  rcases sent : Mcp2515.sendMessage env (destinationFrame source)
    manager.config.transmitTimeoutMs fuel manager.world with ⟨returned, after⟩
  rw [sent] at made
  obtain ⟨result, context⟩ := Prod.mk.inj made
  cases returned with
  | none => cases result
  | some error =>
      exact ⟨fuel, error, after, sent,
        Prod.ext (Option.some.inj result).symm context.symm⟩

end Callback

section System

variable (tables : CanCommandRouter.Config)

/-- `begin` and the gateway's `init` have succeeded, the latter with these tables. -/
structure Started (advancing : Advancing env) (start : State (Option (Manager δ))) : Prop where
  manager : ∃ spi prior manager,
    CanManager.begin env spi prior = (espOk, manager) ∧ start.context = some manager
  gateway : ∃ prior : Gateway (Option (Manager δ)), prior.initialized = false ∧
    EspNowCanGateway.init
      { transmit := some (transmitCallback env advancing), commandRouter := tables } prior =
        (espOk, start.gateway)

/-- What may happen to the system afterwards. -/
inductive Operation (δ : Type) where
  | receive (arrival : Arrival)
  | beginManager (spi : CanManager.SpiSetup)
  | initGateway (config : EspNowCanGateway.Config (Option (Manager δ)))
  | resetStatistics

def operate (state : State (Option (Manager δ))) : Operation δ →
    State (Option (Manager δ)) × List Call
  | .receive arrival => processReceivedPacket state arrival
  | .beginManager spi =>
      ({ state with
        context := state.context.map (fun manager => (CanManager.begin env spi manager).2) }, [])
  | .initGateway config =>
      ({ state with gateway := (EspNowCanGateway.init config state.gateway).2 }, [])
  | .resetStatistics =>
      ({ state with gateway := EspNowCanGateway.resetStatistics state.gateway }, [])

/-- What every operation keeps: the gateway holds the tables it was given, which
are valid, and the manager is started. -/
structure Ready (advancing : Advancing env) (state : State (Option (Manager δ))) : Prop where
  valid : CanCommandRouter.isValidConfig tables = true
  initialized : state.gateway.initialized = true
  transmit : state.gateway.config.transmit = some (transmitCallback env advancing)
  router : state.gateway.config.commandRouter = tables
  manager : ∃ manager, state.context = some manager ∧ manager.initialized = true

/-- The message is a command that a route accepts. -/
def Accepted (message : Message) : Prop :=
  message.type = .command ∧ ∃ route ∈ tables.routes,
    route.remoteMessageId = message.messageId ∧
      message.payloadLength = route.expectedPayloadLength ∧ route.accepts message = true

/-- A status that says what happened to the message, given the calls of
`MCP2515::sendMessage` made for it. -/
structure TrueStatus (message : Message) (status : AcknowledgementStatus)
    (calls : List (Mcp2515.CanFrame × Option Mcp2515.Error)) : Prop where
  unsupported : status = .unsupportedMessage ↔ message.type ≠ .command
  unknown : status = .unknownCommand ↔ message.type = .command ∧
    ∀ route ∈ tables.routes, route.remoteMessageId ≠ message.messageId
  length : status = .invalidPayloadLength ↔ message.type = .command ∧
    ∃ route ∈ tables.routes, route.remoteMessageId = message.messageId ∧
      message.payloadLength ≠ route.expectedPayloadLength
  value : status = .invalidPayloadValue ↔ message.type = .command ∧
    ∃ route ∈ tables.routes, route.remoteMessageId = message.messageId ∧
      message.payloadLength = route.expectedPayloadLength ∧ route.accepts message = false
  transmitted : status = .canTransmitted ↔ ∃ frame, calls = [(frame, some .ok)]
  busy : status = .canBusy ↔ ∃ frame, calls = [(frame, some .allTxBusy)]
  timeout : status = .canTimeout ↔ ∃ frame, calls = [(frame, some .txTimeout)]
  failed : status = .canTransmitFailed ↔ ∃ frame error, calls = [(frame, some error)] ∧
    error ≠ .ok ∧ error ≠ .allTxBusy ∧ error ≠ .txTimeout
  once : Accepted tables message → ∃ frame error, calls = [(frame, some error)]
  never : ¬ Accepted tables message → calls = []
  valid : status ≠ .invalidMessage

section Status

variable {tables} {message : Message}

theorem trueStatus_notCommand (type : message.type ≠ .command) :
    TrueStatus tables message .unsupportedMessage [] := by
  constructor <;> simp [type, Accepted]

theorem trueStatus_unknown (type : message.type = .command)
    (absent : CanCommandRouter.findRoute tables message.messageId = none) :
    TrueStatus tables message .unknownCommand [] := by
  have others := CanCommandRouter.findRoute_none absent
  constructor <;> simp [type, Accepted] <;> grind

variable {route : CanCommandRouter.CommandRoute}

section Found

variable (valid : CanCommandRouter.isValidConfig tables = true) (type : message.type = .command)
  (found : CanCommandRouter.findRoute tables message.messageId = some route)

include valid found

theorem accepted_iff :
    Accepted tables message ↔ message.type = .command ∧
      message.payloadLength = route.expectedPayloadLength ∧ route.accepts message = true :=
  and_congr_right (fun _ => CanCommandRouter.findRoute_only valid found
    (fun route => message.payloadLength = route.expectedPayloadLength ∧
      route.accepts message = true))

include type

/-- A status for the one route with the message's identifier. -/
theorem trueStatus_found {status : AcknowledgementStatus}
    {calls : List (Mcp2515.CanFrame × Option Mcp2515.Error)}
    (reached : status ≠ .unsupportedMessage ∧ status ≠ .unknownCommand ∧ status ≠ .invalidMessage)
    (length : status = .invalidPayloadLength ↔
      message.payloadLength ≠ route.expectedPayloadLength)
    (value : status = .invalidPayloadValue ↔
      message.payloadLength = route.expectedPayloadLength ∧ route.accepts message = false)
    (transmitted : status = .canTransmitted ↔ ∃ frame, calls = [(frame, some .ok)])
    (busy : status = .canBusy ↔ ∃ frame, calls = [(frame, some .allTxBusy)])
    (timeout : status = .canTimeout ↔ ∃ frame, calls = [(frame, some .txTimeout)])
    (failed : status = .canTransmitFailed ↔ ∃ frame error, calls = [(frame, some error)] ∧
      error ≠ .ok ∧ error ≠ .allTxBusy ∧ error ≠ .txTimeout)
    (once : message.payloadLength = route.expectedPayloadLength ∧ route.accepts message = true →
      ∃ frame error, calls = [(frame, some error)])
    (never : ¬ (message.payloadLength = route.expectedPayloadLength ∧
      route.accepts message = true) → calls = []) :
    TrueStatus tables message status calls := by
  obtain ⟨present, same⟩ := CanCommandRouter.findRoute_some found
  have accepted := accepted_iff valid found
  refine ⟨?_, ?_, ?_, ?_, transmitted, busy, timeout, failed, ?_, ?_, reached.2.2⟩
  · exact ⟨fun unsupported => absurd unsupported reached.1, fun other => absurd type other⟩
  · exact ⟨fun unknown => absurd unknown reached.2.1,
      fun absent => absurd same (absent.2 route present)⟩
  · rw [length, CanCommandRouter.findRoute_only valid found
      (fun route => message.payloadLength ≠ route.expectedPayloadLength)]
    exact ⟨fun differs => ⟨type, differs⟩, fun differs => differs.2⟩
  · rw [value, CanCommandRouter.findRoute_only valid found
      (fun route => message.payloadLength = route.expectedPayloadLength ∧
        route.accepts message = false)]
    exact ⟨fun rejected => ⟨type, rejected⟩, fun rejected => rejected.2⟩
  · intro routed
    exact once (accepted.mp routed).2
  · intro unrouted
    exact never (fun routed => unrouted (accepted.mpr ⟨type, routed⟩))

end Found

theorem trueStatus_length (valid : CanCommandRouter.isValidConfig tables = true)
    (type : message.type = .command)
    (found : CanCommandRouter.findRoute tables message.messageId = some route)
    (differs : message.payloadLength ≠ route.expectedPayloadLength) :
    TrueStatus tables message .invalidPayloadLength [] := by
  apply trueStatus_found valid type found <;> simp [differs]

theorem trueStatus_value (valid : CanCommandRouter.isValidConfig tables = true)
    (type : message.type = .command)
    (found : CanCommandRouter.findRoute tables message.messageId = some route)
    (same : message.payloadLength = route.expectedPayloadLength)
    (rejected : route.accepts message = false) :
    TrueStatus tables message .invalidPayloadValue [] := by
  apply trueStatus_found valid type found <;> simp [same, rejected]

/-- The five translations from the driver's result to the status. -/
def sentStatus (error : Mcp2515.Error) : AcknowledgementStatus :=
  mapAckStatus (EspNowCanGateway.mapTransmitResult (mapSendResult (CanManager.mapError error)))

theorem trueStatus_sent {ecu : CanCommandRouter.EcuDefinition}
    (routed : CanCommandRouter.Routed message tables route ecu) (frame : Mcp2515.CanFrame)
    (error : Mcp2515.Error) :
    TrueStatus tables message (sentStatus error) [(frame, some error)] := by
  apply trueStatus_found routed.valid routed.type routed.found
  all_goals cases error <;>
    simp [sentStatus, mapAckStatus, EspNowCanGateway.mapTransmitResult, mapSendResult,
      CanManager.mapError, routed.length, routed.accepted]

end Status

theorem ready_start {advancing : Advancing env} {start : State (Option (Manager δ))}
    (started : Started env tables advancing start) : Ready env tables advancing start := by
  obtain ⟨⟨spi, prior, manager, begun, context⟩, priorGateway, fresh, initialised⟩ := started
  obtain ⟨initialized, config, valid⟩ := EspNowCanGateway.init_ok fresh initialised
  exact ⟨valid, initialized, by rw [config], by rw [config],
    ⟨manager, context, CanManager.begin_started env begun⟩⟩

/-- The callback leaves a started manager started. -/
theorem transmitCallback_started (advancing : Advancing env) (source : CanCommandRouter.CanFrame)
    {context : Option (Manager δ)}
    (started : ∃ manager, context = some manager ∧ manager.initialized = true) :
    ∃ manager, (transmitCallback env advancing source context).2 = some manager ∧
      manager.initialized = true := by
  obtain ⟨manager, rfl, initialized⟩ := started
  by_cases fits : source.dataLength.toNat ≤ Mcp2515.canMaxDlen
  · obtain ⟨_, _, _, _, made⟩ := transmitCallback_sends env advancing initialized fits
    rw [made]
    exact ⟨_, rfl, initialized⟩
  · obtain ⟨fuel, made⟩ := transmitCallback_eq env advancing source (some manager)
    unfold transmitCanFrame at made
    dsimp only at made
    rw [if_pos (Nat.not_le.mp fits)] at made
    exact ⟨manager, (congrArg Prod.snd made).symm, initialized⟩

theorem ready_execute {advancing : Advancing env} {state : State (Option (Manager δ))}
    (ready : Ready env tables advancing state) (arrival : Arrival) (message : Message) :
    Ready env tables advancing (executeMessage arrival message state).1 := by
  obtain ⟨valid, initialized, transmit, router, manager⟩ := ready
  obtain ⟨config, stays⟩ := processMessage_config message state
  have kept := EspNowCanGateway.processMessage_context
    (fun context => ∃ manager, context = some manager ∧ manager.initialized = true)
    message state.gateway
    (fun callback connected frame context started => by
      rw [transmit] at connected
      obtain rfl := Option.some.inj connected
      exact transmitCallback_started env advancing frame started) manager
  have processed : Ready env tables advancing
      { state with
        gateway := (EspNowCanGateway.processMessage message state.gateway state.context).gateway
        context := (EspNowCanGateway.processMessage message state.gateway state.context).context } :=
    ⟨valid, stays.trans initialized, by rw [config]; exact transmit, by rw [config]; exact router,
      kept⟩
  unfold executeMessage
  dsimp only
  split
  · exact ⟨processed.valid, processed.initialized, processed.transmit, processed.router,
      processed.manager⟩
  · exact processed

theorem ready_operate {advancing : Advancing env} {state : State (Option (Manager δ))}
    (ready : Ready env tables advancing state) (operation : Operation δ) :
    Ready env tables advancing (operate env state operation).1 := by
  cases operation with
  | receive arrival =>
      have taken := step state arrival
      unfold operate
      dsimp only
      generalize processReceivedPacket state arrival = next at taken ⊢
      cases taken with
      | ignored => exact ready
      | plain message => exact ready_execute env tables ready arrival message
      | cached =>
          exact ⟨ready.valid, ready.initialized, ready.transmit, ready.router, ready.manager⟩
      | fresh message =>
          apply ready_execute env tables _ arrival message
          exact ⟨ready.valid, ready.initialized, ready.transmit, ready.router, ready.manager⟩
  | beginManager spi =>
      obtain ⟨valid, initialized, transmit, router, manager, context, started⟩ := ready
      refine ⟨valid, initialized, transmit, router, manager, ?_, started⟩
      unfold operate
      dsimp only
      rw [context, Option.map_some, CanManager.begin_again env started]
  | initGateway config =>
      have again : EspNowCanGateway.init config state.gateway = (espOk, state.gateway) := by
        unfold EspNowCanGateway.init
        rw [if_pos ready.initialized]
      unfold operate
      dsimp only
      rw [again]
      exact ready
  | resetStatistics =>
      exact ⟨ready.valid, ready.initialized, ready.transmit, ready.router, ready.manager⟩

theorem operate_mac (state : State (Option (Manager δ))) (operation : Operation δ) :
    (operate env state operation).1.txu01Mac = state.txu01Mac := by
  cases operation with
  | receive arrival => exact (step_fixed state arrival).1
  | beginManager => rfl
  | initGateway => rfl
  | resetStatistics => rfl

theorem acknowledgementRequested_request {message : Message}
    (requested : acknowledgementRequested message = true) :
    message.flags &&& RemoteProtocol.flagIsResponse = 0 := by
  unfold acknowledgementRequested at requested
  rw [Bool.and_eq_true] at requested
  exact beq_iff_eq.mp requested.2

/-- `processMessage` is called once in an execution. -/
theorem executeMessage_result {σ : Type} {arrival : Arrival} {message : Message} {state : State σ}
    {result : ProcessResult}
    (member : Call.processMessage message result ∈ (executeMessage arrival message state).2) :
    (EspNowCanGateway.processMessage message state.gateway state.context).result = result := by
  obtain ⟨tail, listed, shape⟩ := executeMessage_calls arrival message state
  rw [listed] at member
  rcases List.mem_cons.mp member with same | member
  · exact (Call.processMessage.inj same).2.symm
  rcases List.mem_append.mp member with transmitted | rest
  · obtain ⟨_, _, other⟩ := List.mem_map.mp transmitted
    cases other
  · rw [shape] at rest
    split at rest
    · simp at rest
    · cases rest

/-- The acknowledgements a step hands to `send`. -/
def sentPackets (calls : List Call) : List (EspNowDriver.Mac × List UInt8) :=
  calls.filterMap (fun call =>
    match call with
    | .send destination packet => some (destination, packet)
    | _ => none)

theorem sentPackets_execute {σ : Type} (arrival : Arrival) (message : Message) (state : State σ) :
    sentPackets (executeMessage arrival message state).2 =
      if acknowledgementRequested message then
        [(arrival.packet.sourceMac, (acknowledgement message (mapAckStatus
          (EspNowCanGateway.processMessage message state.gateway state.context).result)).wire)]
      else [] := by
  obtain ⟨tail, calls, shape⟩ := executeMessage_calls arrival message state
  have transmits : ∀ transmitted : List (CanCommandRouter.CanFrame × TransmitResult),
      sentPackets (transmitted.map (fun call => Call.transmit call.1 call.2)) = [] := by
    intro transmitted
    apply List.filterMap_eq_nil_iff.mpr
    intro call member
    obtain ⟨_, _, rfl⟩ := List.mem_map.mp member
    rfl
  rw [calls, shape]
  unfold sentPackets at transmits ⊢
  rw [List.filterMap_cons, List.filterMap_append, transmits]
  cases acknowledgementRequested message <;> rfl

/-- A packet that every decoder reads as the acknowledgement of a message, with the
status as its only byte of payload. -/
structure Reports (message : Message) (status : AcknowledgementStatus) (packet : List UInt8) :
    Prop where
  decoded : ∃ answer : Message, (∀ before, decode (some packet) before = (.ok, answer)) ∧
    answer.type = .acknowledgement ∧ answer.flags = RemoteProtocol.flagIsResponse ∧
    answer.sequenceNumber = message.sequenceNumber ∧ answer.messageId = message.messageId ∧
    answer.payloadLength = 1 ∧ answer.payload[0] = status.value

theorem acknowledgement_reports (request : Message) (status : AcknowledgementStatus) :
    Reports request status (acknowledgement request status).wire :=
  ⟨acknowledgement request status, acknowledgement_decodes request status, rfl, rfl, rfl, rfl,
    rfl, acknowledgement_status request status⟩

/-- The status of an execution is true of the calls of the driver that it made. -/
def TrueExecution (message : Message) (context : Option (Manager δ))
    (processed : EspNowCanGateway.Processed (Option (Manager δ))) : Prop :=
  ∃ before after calls, context = some before ∧ processed.context = some after ∧
    after.sendCalls = before.sendCalls ++ calls ∧
    TrueStatus tables message (mapAckStatus processed.result) calls ∧
    ∀ frame error, calls = [(frame, some error)] →
      ∃ fuel, Mcp2515.sendMessage env frame before.config.transmitTimeoutMs fuel before.world =
        (some error, after.world)

section Execution

variable {env tables} {advancing : Advancing env} {state : State (Option (Manager δ))}
  {message : Message}

/-- Without a frame the callback is not called. -/
theorem execute_refused (ready : Ready env tables advancing state)
    (accepted : EspNowCanGateway.rejectsMessage message = false)
    {reason : CanCommandRouter.RouteResult} {frame : CanCommandRouter.CanFrame}
    (shape : CanCommandRouter.buildFrame message tables = (reason, frame)) (failed : reason ≠ .ok)
    (status : TrueStatus tables message
      (mapAckStatus (EspNowCanGateway.mapRouteResult reason)) []) :
    TrueExecution env tables message state.context
      (EspNowCanGateway.processMessage message state.gateway state.context) := by
  obtain ⟨manager, context, _⟩ := ready.manager
  rw [← ready.router] at shape
  rw [EspNowCanGateway.processMessage_refused state.context ready.initialized accepted shape failed]
  refine ⟨manager, manager, [], context, context, (List.append_nil _).symm, status, ?_⟩
  intro frame error none
  cases none

/-- With one it is called, and calls the driver once. -/
theorem execute_routed (ready : Ready env tables advancing state)
    (accepted : EspNowCanGateway.rejectsMessage message = false)
    {route : CanCommandRouter.CommandRoute} {ecu : CanCommandRouter.EcuDefinition}
    (routed : CanCommandRouter.Routed message tables route ecu)
    {frame : CanCommandRouter.CanFrame}
    (shape : CanCommandRouter.buildFrame message tables = (.ok, frame)) :
    TrueExecution env tables message state.context
      (EspNowCanGateway.processMessage message state.gateway state.context) := by
  obtain ⟨manager, context, started⟩ := ready.manager
  have fits := (CanCommandRouter.buildFrame_bounds shape).2
  rw [← ready.router] at shape
  rw [EspNowCanGateway.processMessage_routed state.context ready.initialized accepted shape
    ready.transmit, context]
  obtain ⟨fuel, error, after, sent, made⟩ := transmitCallback_sends env advancing started fits
  rw [made]
  refine ⟨manager, _, [(_, some error)], rfl, rfl, rfl, trueStatus_sent routed _ error, ?_⟩
  intro frame other same
  cases same
  exact ⟨fuel, sent⟩

/-- One execution in a ready state. -/
theorem execute_true (ready : Ready env tables advancing state) (valid : message.Valid)
    (request : message.flags &&& RemoteProtocol.flagIsResponse = 0) :
    TrueExecution env tables message state.context
      (EspNowCanGateway.processMessage message state.gateway state.context) := by
  have accepted := rejectsMessage_valid valid request
  have built := CanCommandRouter.buildFrame_built ready.valid request
  generalize shape : CanCommandRouter.buildFrame message tables = result at built
  cases built with
  | notCommand type =>
      exact execute_refused ready accepted shape (by decide) (trueStatus_notCommand type)
  | unknown type absent =>
      exact execute_refused ready accepted shape (by decide) (trueStatus_unknown type absent)
  | length route type found differs =>
      exact execute_refused ready accepted shape (by decide)
        (trueStatus_length ready.valid type found differs)
  | value route type found same rejected =>
      exact execute_refused ready accepted shape (by decide)
        (trueStatus_value ready.valid type found same rejected)
  | frame route ecu routed => exact execute_routed ready accepted routed shape

end Execution

theorem ready_run {advancing : Advancing env} {start : State (Option (Manager δ))}
    (started : Started env tables advancing start) (operations : List (Operation δ)) :
    Ready env tables advancing (run (operate env) start operations) :=
  Reactive.run_induction (operate env) (Ready env tables advancing) start
    (ready_start env tables started)
    (fun _ operation ready => ready_operate env tables ready operation) operations

/-- In every reachable state the acknowledgement of a request that the cache does
not answer says what happened to it, to whoever decodes it. -/
theorem acknowledged_status_true {advancing : Advancing env} {start : State (Option (Manager δ))}
    (started : Started env tables advancing start) (operations : List (Operation δ))
    (arrival : Arrival) (message : Message)
    (received : receivedMessage (run (operate env) start operations).txu01Mac arrival =
      some message)
    (requested : acknowledgementRequested message = true)
    (fresh : (lookup (run (operate env) start operations) arrival message).2 = none) :
    let state := run (operate env) start operations
    let next := processReceivedPacket state arrival
    ∃ status before after calls,
      sentPackets next.2 = [(state.txu01Mac, (acknowledgement message status).wire)] ∧
      Reports message status (acknowledgement message status).wire ∧
      state.context = some before ∧ next.1.context = some after ∧
      after.sendCalls = before.sendCalls ++ calls ∧ TrueStatus tables message status calls ∧
      (∀ frame error, calls = [(frame, some error)] →
        ∃ fuel, Mcp2515.sendMessage env frame before.config.transmitTimeoutMs fuel before.world =
          (some error, after.world)) ∧
      (∀ result, Call.processMessage message result ∈ next.2 → result ≠ .invalidMessage) ∧
      (CanCommandRouter.buildFrame message state.gateway.config.commandRouter).1 ≠
        .invalidConfiguration := by
  have ready := ready_run env tables started operations
  generalize run (operate env) start operations = state at ready received fresh ⊢
  obtain ⟨source, _⟩ := (receivedMessage_some _ _ _).mp received
  obtain ⟨valid, _⟩ := receivedMessage_valid received
  have request := acknowledgementRequested_request requested
  obtain ⟨before, after, calls, context, left, grown, status, made⟩ :=
    execute_true ready valid request
  have result : ∀ result, Call.processMessage message result ∈
      (executeMessage arrival message
        { state with cache := (lookup state arrival message).1 }).2 → result ≠ .invalidMessage := by
    rintro result member rfl
    apply status.valid
    exact congrArg mapAckStatus (executeMessage_result member)
  have configured : (CanCommandRouter.buildFrame message
      state.gateway.config.commandRouter).1 ≠ .invalidConfiguration := by
    rw [ready.router]
    exact (CanCommandRouter.buildFrame_built ready.valid request).configured
  dsimp only
  rw [process_fresh received requested fresh]
  refine ⟨_, before, after, calls, ?_, acknowledgement_reports _ _, context, ?_, grown, status, made,
    result, configured⟩
  · rw [sentPackets_execute, if_pos requested, source]
  · unfold executeMessage
    dsimp only
    rw [if_pos requested]
    exact left

end System

/-- The shipped tables in front of `CanManager.promptManager`. -/
theorem prompt_advancing : Advancing CanManager.promptEnvironment := by
  intro deadline
  refine ⟨deadline.toNat, fun later after => ?_⟩
  change deadline ≤ (later : Int)
  omega

def promptStart : State (Option (Manager Mcp2515.Chip)) :=
  { cache := sampleState.cache
    txu01Mac := sampleMac
    gateway :=
      { config :=
          { transmit := some (transmitCallback CanManager.promptEnvironment prompt_advancing)
            commandRouter := VehicleCanProtocol.makeCommandRouterConfig }
        initialized := true }
    context := some CanManager.promptManager }

/-- A request for which the shipped tables have no route. -/
def unroutedRequest : Message := { versionRequest with sequenceNumber := 1, messageId := 0xFFFF }

def unroutedArrival : Arrival :=
  ⟨EspNowDriver.ReceivedPacket.carrying sampleMac unroutedRequest.wire, ⟨fun _ => 9, 9⟩⟩

/-- It is answered with `UnknownCommand`, after another request was executed. -/
theorem acknowledged_status_true_unrouted :
    ∃ packet, sentPackets (processReceivedPacket (run (operate CanManager.promptEnvironment)
        promptStart [.receive (versionArrival 0), .resetStatistics]) unroutedArrival).2 =
          [(sampleMac, packet)] ∧
      Reports unroutedRequest .unknownCommand packet := by
  have started : Started CanManager.promptEnvironment VehicleCanProtocol.makeCommandRouterConfig
      prompt_advancing promptStart := by
    refine ⟨⟨_, _, _, CanManager.promptManager_begun, rfl⟩, {}, rfl, ?_⟩
    unfold EspNowCanGateway.init
    rw [if_neg Bool.false_ne_true, VehicleCanProtocol.makeCommandRouterConfig_valid]
    rfl
  have received : receivedMessage sampleMac unroutedArrival = some unroutedRequest := by
    decide +kernel
  have chronological : Chronological ([versionArrival 0] ++ [unroutedArrival]) := by
    apply instants_chronological
    · intro arrival member
      rcases List.mem_pair.mp member with rfl | rfl <;> rfl
    · decide
  have outside : ¬ Windowed (executions (history processReceivedPacket promptStart
      [versionArrival 0])) unroutedArrival unroutedRequest := by
    rintro ⟨k, made, present, same, _⟩
    obtain ⟨first, _, entered, _⟩ := executions_mem _ _ made (List.mem_of_getElem? present)
    obtain ⟨before, after, split, _⟩ := Reactive.mem_history _ _ _ _ entered
    have only : made.arrival ∈ [versionArrival 0] := by
      rw [split]
      simp
    rw [List.mem_singleton.mp only] at first
    rw [← Option.some.inj ((versionArrival_received 0).symm.trans first)] at same
    exact absurd same (by decide)
  have absent : (lookup (run (operate CanManager.promptEnvironment) promptStart
      [.receive (versionArrival 0), .resetStatistics]) unroutedArrival unroutedRequest).2 = none := by
    have missed := (lookup_none_iff (rfl : promptStart.cache = {}) chronological received).mpr outside
    rw [Reactive.run_cons, Reactive.run_nil] at missed
    rw [Reactive.run_cons, Reactive.run_cons, Reactive.run_nil]
    unfold operate
    dsimp only
    generalize processReceivedPacket promptStart (versionArrival 0) = next at missed ⊢
    exact missed
  have mac : (run (operate CanManager.promptEnvironment) promptStart
      [.receive (versionArrival 0), .resetStatistics]).txu01Mac = promptStart.txu01Mac := by
    rw [Reactive.run_cons, Reactive.run_cons, Reactive.run_nil, operate_mac, operate_mac]
  obtain ⟨status, _, _, _, sent, reports, _, _, _, truth, _⟩ := acknowledged_status_true
    CanManager.promptEnvironment VehicleCanProtocol.makeCommandRouterConfig started
    [.receive (versionArrival 0), .resetStatistics] unroutedArrival unroutedRequest
    (by rw [mac]; exact received) rfl absent
  have unknown : status = .unknownCommand := truth.unknown.mpr ⟨rfl, by decide⟩
  rw [mac, unknown] at sent
  rw [unknown] at reports
  exact ⟨_, sent, reports⟩

end Application
