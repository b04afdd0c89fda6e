import Rxu01.ApplicationAcknowledgement
import Rxu01.ApplicationStatus
import Rxu01.Mcp2515Faults

set_option autoImplicit false

/- What a success is worth when SPI transactions may fail, from the driver up to
the acknowledgement. -/
namespace Application

open CanManager (Manager)
open EspNowCanGateway (processMessage processMessage_cases)
open Mcp2515 (Advancing Confirmed NoFalseSuccess ReliableCall)
open Peripheral (Environment World)
open RemoteProtocol (AcknowledgementStatus decode)

variable {δ : Type} (env : Environment δ)

/-- `CanManager::send` answers ok only for a confirmed transmission. -/
def NoFalseSend (frame : Mcp2515.CanFrame) (manager : Manager δ) : Prop :=
  ∀ fuel after, CanManager.send env fuel frame manager = (some .ok, after) →
    ∃ txbn record, after.world.exchanges = manager.world.exchanges ++ record ∧
      Confirmed txbn frame record

/-- An acknowledgement with `CanTransmitted` of a request that is executed stands
for a confirmed transmission of the frame built for it. -/
structure NoFalseAcknowledgement (manager : Manager δ) (state : State (Option (Manager δ))) :
    Prop where
  confirmed : ∀ arrival message destination packet answer,
    receivedMessage state.txu01Mac arrival = some message →
    acknowledgementRequested message = true → (lookup state arrival message).2 = none →
    Call.send destination packet ∈ (processReceivedPacket state arrival).2 →
    decode (some packet) {} = (.ok, answer) →
    answer.payload[0] = AcknowledgementStatus.canTransmitted.value →
    ∃ frame after txbn record,
      CanCommandRouter.buildFrame message state.gateway.config.commandRouter = (.ok, frame) ∧
      (processReceivedPacket state arrival).1.context = some after ∧
      after.world.exchanges = manager.world.exchanges ++ record ∧
      Confirmed txbn (destinationFrame frame) record

/-- A manager on which no call of the driver makes a false success. -/
def SoundManager (manager : Manager δ) : Prop :=
  ∀ frame : Mcp2515.CanFrame, frame.canDlc.toNat ≤ Mcp2515.canMaxDlen →
    NoFalseSuccess env frame manager.config.transmitTimeoutMs manager.world

variable {env} {manager : Manager δ}

theorem SoundManager.send (sound : SoundManager env manager) (started : manager.initialized = true)
    {frame : Mcp2515.CanFrame} (fits : frame.canDlc.toNat ≤ Mcp2515.canMaxDlen) :
    NoFalseSend env frame manager := by
  intro fuel after success
  exact sound frame fits fuel after.world ((CanManager.send_ok_iff env started fits).mp success).1

theorem mapSendResult_ok (error : Mcp2515.Error) :
    mapSendResult (CanManager.mapError error) = .ok ↔ error = .ok := by
  cases error <;> decide

/-- An `Ok` of the callback is one of the driver. -/
theorem SoundManager.callback (sound : SoundManager env manager) {advancing : Advancing env}
    (started : manager.initialized = true) {frame : CanCommandRouter.CanFrame}
    (fits : frame.dataLength.toNat ≤ Mcp2515.canMaxDlen)
    (success : (transmitCallback env advancing frame (some manager)).1 = .ok) :
    ∃ after txbn record, (transmitCallback env advancing frame (some manager)).2 = some after ∧
      after.world.exchanges = manager.world.exchanges ++ record ∧
      Confirmed txbn (destinationFrame frame) record := by
  obtain ⟨fuel, error, world, sent, made⟩ := transmitCallback_sends env advancing started fits
  rw [made] at success ⊢
  obtain rfl := (mapSendResult_ok error).mp success
  obtain ⟨txbn, record, grown, confirmed⟩ := sound (destinationFrame frame) fits fuel world sent
  exact ⟨_, txbn, record, rfl, grown, confirmed⟩

theorem SoundManager.acknowledgement (sound : SoundManager env manager)
    (started : manager.initialized = true) {tables : CanCommandRouter.Config}
    {advancing : Advancing env} {state : State (Option (Manager δ))}
    (ready : Ready env tables advancing state) (context : state.context = some manager) :
    NoFalseAcknowledgement manager state := by
  constructor
  intro arrival message destination packet answer received requested fresh sent decoded status
  rw [process_fresh received requested fresh] at sent ⊢
  obtain ⟨_, _, carried⟩ := executeMessage_send sent
  obtain ⟨named, _⟩ := canTransmitted_packet carried decoded status
  have success := (mapAckStatus_canTransmitted _).mp named
  have left : (executeMessage arrival message
      { state with cache := (lookup state arrival message).1 }).1.context =
        (processMessage message state.gateway state.context).context := by
    unfold executeMessage
    dsimp only
    rw [if_pos requested]
  rcases processMessage_cases message state.gateway state.context with
    ⟨frame, transmit, _, _, routed, connected, processed⟩ | ⟨result, _, failed, _, _, processed⟩
  · rw [ready.transmit] at connected
    obtain rfl := Option.some.inj connected
    dsimp only at success
    rw [processed] at success left
    rw [context] at success
    have sentOk := (EspNowCanGateway.mapTransmitResult_ok _).mp success
    obtain ⟨after, txbn, record, made, grown, confirmed⟩ :=
      sound.callback started (CanCommandRouter.buildFrame_bounds routed).2 sentOk
    rw [← context] at made
    exact ⟨frame, after, txbn, record, routed, left.trans made, grown, confirmed⟩
  · dsimp only at success
    rw [processed] at success
    exact absurd success failed

/-- Against these faults every success is a confirmed transmission on every chip, at
every layer, exactly when no transaction that a call may need fails. -/
theorem noFalseSuccess_iff (delivered : Nat → Bool) (clock : Nat → Int) (timeoutMs : UInt32)
    (first : Nat) :
    (∀ (δ : Type) (env : Environment δ) (world : World δ), env.delivered = delivered →
      env.clock = clock → world.accesses = first →
      (∀ frame : Mcp2515.CanFrame, frame.canDlc.toNat ≤ Mcp2515.canMaxDlen →
        NoFalseSuccess env frame timeoutMs world) ∧
      ∀ manager : Manager δ, manager.initialized = true → manager.world = world →
        manager.config.transmitTimeoutMs = timeoutMs →
        (∀ frame : Mcp2515.CanFrame, frame.canDlc.toNat ≤ Mcp2515.canMaxDlen →
          NoFalseSend env frame manager) ∧
        ∀ tables advancing state, Ready env tables advancing state →
          state.context = some manager → NoFalseAcknowledgement manager state) ↔
    ReliableCall delivered clock timeoutMs first := by
  constructor
  · intro sound
    have fits : ({} : Mcp2515.CanFrame).canDlc.toNat ≤ Mcp2515.canMaxDlen := by decide
    apply Mcp2515.reliableCall_of_noFalseSuccess fits
    intro pending
    exact (sound Nat (Mcp2515.scriptedEnvironment delivered clock pending)
      { device := 0, accesses := first } rfl rfl rfl).1 {} fits
  · rintro reliable δ env world rfl rfl rfl
    have driver : ∀ frame : Mcp2515.CanFrame, frame.canDlc.toNat ≤ Mcp2515.canMaxDlen →
        NoFalseSuccess env frame timeoutMs world := fun _ fits => reliable.noFalseSuccess env fits
    refine ⟨driver, ?_⟩
    rintro manager started rfl rfl
    have sound : SoundManager env manager := driver
    exact ⟨fun _ fits => sound.send started fits,
      fun _ _ _ ready context => sound.acknowledgement started ready context⟩

end Application
