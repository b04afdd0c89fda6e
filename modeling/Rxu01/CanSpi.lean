import Rxu01.CanManager
import Rxu01.NestedResources
import Rxu01.Reactive
import Rxu01.Unwinding

set_option autoImplicit false

/- The SPI bus and the device on it, as `begin` acquires and releases them. -/
namespace CanManager

open EspIdf (espFail espOk)
open Mcp2515 (CanFrame)
open NestedResources (Operation)
open Peripheral (Environment)

/-- The bus, and the device whose handle is `spi_`. -/
inductive SpiResource where
  | bus
  | device
  deriving DecidableEq, Repr

/-- What a step of `begin` does to the resources; a call that fails acquires nothing. -/
def BeginAction.operations : BeginAction → List (Operation SpiResource)
  | .busInitialize result => if result = espOk then [.acquire .bus] else []
  | .busAddDevice result => if result = espOk then [.use .bus, .acquire .device] else [.use .bus]
  | .startDriver => [.use .device]
  | .busRemoveDevice => [.release .device]
  | .busFree => [.release .bus]
  | .storeInitialized => []

variable {δ : Type} (env : Environment δ)

inductive SpiCall where
  | begin (spi : SpiSetup)
  | send (frame : CanFrame) (fuel : Nat)

/-- One call, with what it does to the resources. A `send` talks to the driver once for each
call of `MCP2515::sendMessage` that it makes. -/
def spiStep (manager : Manager δ) (call : SpiCall) :
    Manager δ × List (Operation SpiResource) :=
  match call with
  | .begin spi =>
      ((begin env spi manager).2,
        (beginActions env spi manager).2.flatMap BeginAction.operations)
  | .send frame fuel =>
      let sent := (send env fuel frame manager).2
      (sent, (sent.sendCalls.drop manager.sendCalls.length).map (fun _ => .use .device))

/-- What a sequence of calls does to the resources. -/
def spiTrace (manager : Manager δ) (calls : List SpiCall) : List (Operation SpiResource) :=
  (Reactive.history (spiStep env) manager calls).flatMap Prod.snd

/-- A started manager holds the bus and the device on it, any other one nothing. -/
def Manager.held (manager : Manager δ) : List SpiResource :=
  if manager.initialized then [.device, .bus] else []

theorem send_initialized (fuel : Nat) (frame : CanFrame) (manager : Manager δ) :
    (send env fuel frame manager).2.initialized = manager.initialized := by
  unfold send
  split
  · rfl
  · split <;> rfl

theorem begin_held (spi : SpiSetup) (manager : Manager δ) :
    NestedResources.run manager.held
        ((beginActions env spi manager).2.flatMap BeginAction.operations) =
      some (begin env spi manager).2.held := by
  rw [begin_eq]
  unfold beginActions Manager.held
  cases started : manager.initialized with
  | true =>
      simp only [if_true, started]
      rfl
  | false =>
      simp only [Bool.false_eq_true, if_false]
      by_cases bus : spi.busInitialize = espOk
      · by_cases device : spi.busAddDevice = espOk
        · have failed : espFail ≠ espOk := by decide
          cases driver : (startDriver env manager.config manager.world).1 with
          | true =>
              simp [Unwinding.attempt, succeeded, bus, device, BeginAction.operations,
                NestedResources.run, NestedResources.step]
          | false =>
              simp [Unwinding.attempt, succeeded, bus, device, BeginAction.operations,
                NestedResources.run, NestedResources.step, failed]
        · simp [Unwinding.attempt, succeeded, bus, device, BeginAction.operations,
            NestedResources.run, NestedResources.step, started]
      · simp [Unwinding.attempt, succeeded, bus, BeginAction.operations, NestedResources.run,
          started]

theorem send_held (fuel : Nat) (frame : CanFrame) (manager : Manager δ) :
    NestedResources.run manager.held
        (spiStep env manager (.send frame fuel)).2 =
      some (send env fuel frame manager).2.held := by
  have same : (send env fuel frame manager).2.held = manager.held := by
    unfold Manager.held
    rw [send_initialized]
  rw [same]
  unfold spiStep send Manager.held
  cases started : manager.initialized with
  | false => simp [NestedResources.run]
  | true =>
      by_cases long : Mcp2515.canMaxDlen < frame.canDlc.toNat
      · simp [long, NestedResources.run]
      · simp [long, NestedResources.run, NestedResources.step]

theorem spiStep_held (manager : Manager δ) (call : SpiCall) :
    NestedResources.run manager.held (spiStep env manager call).2 =
      some (spiStep env manager call).1.held := by
  cases call with
  | begin spi => exact begin_held env spi manager
  | send frame fuel => exact send_held env fuel frame manager

theorem spiTrace_held (calls : List SpiCall) (manager : Manager δ) :
    NestedResources.run manager.held (spiTrace env manager calls) =
      some (Reactive.run (spiStep env) manager calls).held := by
  induction calls generalizing manager with
  | nil => rfl
  | cons call rest ih =>
      exact NestedResources.run_trans (spiStep_held env manager call) (ih _)

/-- Over any calls of `begin` and `send`, whatever fails in them: the device is added
only to the bus that was initialised, the driver talks only through a device that was
added, every release is of what was acquired last and is still held, and in the end the
bus and the device are held exactly if the manager is started. -/
theorem spi_nested {manager : Manager δ} (fresh : manager.initialized = false)
    (calls : List SpiCall) :
    NestedResources.run [] (spiTrace env manager calls) =
      some (Reactive.run (spiStep env) manager calls).held := by
  have none_held : manager.held = [] := by
    unfold Manager.held
    rw [fresh]
    rfl
  rw [← none_held]
  exact spiTrace_held env calls manager

theorem spi_nested_silent :
    let calls := [SpiCall.begin ⟨espOk, espFail⟩, .begin ⟨espOk, espOk⟩, .send {} 3]
    NestedResources.run []
        (spiTrace Peripheral.silentEnvironment { world := { device := () } } calls) =
      some (Reactive.run (spiStep Peripheral.silentEnvironment)
        { world := { device := () } } calls).held :=
  spi_nested Peripheral.silentEnvironment rfl _

end CanManager
