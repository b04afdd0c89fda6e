import Rxu01.EspErr
import Rxu01.Mcp2515
import Rxu01.Unwinding

set_option autoImplicit false

/- The manager of `can_manager.cpp`. -/
namespace CanManager

open EspIdf (EspErr espFail espOk)
open Mcp2515 (CanClock CanFrame CanSpeed)
open Peripheral (Environment World)
open Unwinding (attempt performAll)

inductive TransmitResult where
  | ok
  | notInitialized
  | invalidFrame
  | busy
  | failed
  | timeout
  deriving DecidableEq, Repr

/-- The part of `Config` that reaches the driver; the rest configures the bus. -/
structure Config where
  bitrate : CanSpeed := .can1000Kbps
  oscillator : CanClock := .mcp8Mhz
  transmitTimeoutMs : UInt32 := 50
  deriving DecidableEq, Repr

/-- What `spi_bus_initialize` and `spi_bus_add_device` return. -/
structure SpiSetup where
  busInitialize : EspErr
  busAddDevice : EspErr

variable {δ : Type}

/-- The manager with the chip behind it. `sendCalls` records each call of
`MCP2515::sendMessage` with what it returned. -/
structure Manager (δ : Type) where
  config : Config := {}
  initialized : Bool := false
  world : World δ
  sendCalls : List (CanFrame × Option Mcp2515.Error) := []

variable (env : Environment δ)

/-- The three driver calls of `begin`; the later ones are made only after success. -/
def startDriver (config : Config) (world : World δ) : Bool × World δ :=
  let reset := Mcp2515.reset env world
  if reset.1 ≠ .ok then (false, reset.2)
  else
    let bitrate := Mcp2515.setBitrate env config.bitrate config.oscillator reset.2
    if bitrate.1 ≠ .ok then (false, bitrate.2)
    else
      let normal := Mcp2515.setNormalMode env bitrate.2
      (normal.1 == .ok, normal.2)

/-- What `begin` does to the outside and to the manager, with what the fallible SPI calls
return. `startDriver` stands for the three calls of the driver, which go through `spi_`. The
results of the calls that release something are ignored. -/
inductive BeginAction where
  | busInitialize (result : EspErr)
  | busAddDevice (result : EspErr)
  | startDriver
  | busRemoveDevice
  | busFree
  | storeInitialized
  deriving DecidableEq

def performBegin (manager : Manager δ) : BeginAction → Manager δ
  | .startDriver => { manager with world := (startDriver env manager.config manager.world).2 }
  | .storeInitialized => { manager with initialized := true }
  | _ => manager

/-- Accepted by the checks of `begin`. -/
def succeeded (result : EspErr) : Bool := result == espOk

/-- The value `begin` returns, and its actions. -/
def beginActions (spi : SpiSetup) (manager : Manager δ) : EspErr × List BeginAction :=
  if manager.initialized then (espOk, [])
  else
    attempt succeeded [] (spi.busInitialize, [.busInitialize spi.busInitialize])
      (attempt succeeded [.busFree] (spi.busAddDevice, [.busAddDevice spi.busAddDevice])
        (attempt succeeded [.busRemoveDevice, .busFree]
          (if (startDriver env manager.config manager.world).1 then espOk else espFail,
            [.startDriver])
          (espOk, [.storeInitialized])))

def begin (spi : SpiSetup) (manager : Manager δ) : EspErr × Manager δ :=
  let program := beginActions env spi manager
  (program.1, performAll (performBegin env) manager program.2)

def mapError : Mcp2515.Error → TransmitResult
  | .ok => .ok
  | .allTxBusy => .busy
  | .txTimeout => .timeout
  | .failTx => .failed
  | _ => .failed

/-- `none` while the polling loop of the driver runs out of fuel. -/
def send (fuel : Nat) (frame : CanFrame) (manager : Manager δ) :
    Option TransmitResult × Manager δ :=
  if !manager.initialized then (some .notInitialized, manager)
  else if Mcp2515.canMaxDlen < frame.canDlc.toNat then (some .invalidFrame, manager)
  else
    let sent := Mcp2515.sendMessage env frame manager.config.transmitTimeoutMs fuel manager.world
    (sent.1.map mapError,
      { manager with
        world := sent.2
        sendCalls := manager.sendCalls ++ [(frame, sent.1)] })

/-- The ways a call of `begin` goes. -/
theorem begin_eq (spi : SpiSetup) (manager : Manager δ) :
    begin env spi manager =
      if manager.initialized then (espOk, manager)
      else if spi.busInitialize ≠ espOk then (spi.busInitialize, manager)
      else if spi.busAddDevice ≠ espOk then (spi.busAddDevice, manager)
      else
        let started := startDriver env manager.config manager.world
        let manager := { manager with world := started.2 }
        if started.1 then (espOk, { manager with initialized := true }) else (espFail, manager) := by
  unfold begin beginActions
  dsimp only
  split
  · rfl
  · by_cases bus : spi.busInitialize = espOk
    · by_cases device : spi.busAddDevice = espOk
      · rw [if_neg (not_not_intro bus), if_neg (not_not_intro device)]
        have failed : espFail ≠ espOk := by decide
        cases (startDriver env manager.config manager.world).1 <;>
          simp [attempt, succeeded, bus, device, performBegin, failed]
      · simp [attempt, succeeded, bus, device, performBegin]
    · simp [attempt, succeeded, bus, performBegin]

/-- A successful first `begin` started the driver. -/
theorem begin_driver {spi : SpiSetup} {prior manager : Manager δ}
    (fresh : prior.initialized = false) (begun : begin env spi prior = (espOk, manager)) :
    (startDriver env prior.config prior.world).1 = true ∧
      manager =
        { prior with
          world := (startDriver env prior.config prior.world).2
          initialized := true } := by
  rw [begin_eq, fresh, if_neg Bool.false_ne_true] at begun
  split at begun
  · rename_i failed
    exact absurd (congrArg Prod.fst begun) failed
  · split at begun
    · rename_i failed
      exact absurd (congrArg Prod.fst begun) failed
    · dsimp only at begun
      split at begun
      · rename_i started
        exact ⟨started, (congrArg Prod.snd begun).symm⟩
      · exact absurd (congrArg Prod.fst begun) (show espFail ≠ espOk by decide)

/-- On a started manager it does nothing. -/
theorem begin_again {spi : SpiSetup} {manager : Manager δ} (started : manager.initialized = true) :
    begin env spi manager = (espOk, manager) := by
  rw [begin_eq, if_pos started]

/-- A successful `begin` leaves the manager started. -/
theorem begin_started {spi : SpiSetup} {prior manager : Manager δ}
    (begun : begin env spi prior = (espOk, manager)) : manager.initialized = true := by
  cases started : prior.initialized with
  | true =>
      rw [begin_again env started] at begun
      obtain rfl := congrArg Prod.snd begun
      exact started
  | false => rw [(begin_driver env started begun).2]

theorem begin_config (spi : SpiSetup) (manager : Manager δ) :
    (begin env spi manager).2.config = manager.config := by
  rw [begin_eq]
  split
  · rfl
  · split
    · rfl
    · split
      · rfl
      · dsimp only
        split <;> rfl

/-- A driver that started went through all three calls. -/
theorem startDriver_calls {config : Config} {world : World δ}
    (started : (startDriver env config world).1 = true) :
    let reset := Mcp2515.reset env world
    let bitrate := Mcp2515.setBitrate env config.bitrate config.oscillator reset.2
    let normal := Mcp2515.setNormalMode env bitrate.2
    reset.1 = .ok ∧ bitrate.1 = .ok ∧ normal.1 = .ok ∧
      (startDriver env config world).2 = normal.2 := by
  unfold startDriver at started ⊢
  dsimp only at started ⊢
  split at started
  · cases started
  · rename_i reset
    split at started
    · cases started
    · rename_i bitrate
      rw [if_neg reset, if_neg bitrate]
      exact ⟨Decidable.not_not.mp reset, Decidable.not_not.mp bitrate, beq_iff_eq.mp started, rfl⟩

theorem mapError_ok (error : Mcp2515.Error) : mapError error = .ok ↔ error = .ok := by
  cases error <;> decide

theorem send_started {fuel : Nat} {frame : CanFrame} {manager : Manager δ}
    (started : manager.initialized = true) (fits : frame.canDlc.toNat ≤ Mcp2515.canMaxDlen) :
    send env fuel frame manager =
      ((Mcp2515.sendMessage env frame manager.config.transmitTimeoutMs fuel manager.world).1.map
          mapError,
        { manager with
          world :=
            (Mcp2515.sendMessage env frame manager.config.transmitTimeoutMs fuel manager.world).2
          sendCalls := manager.sendCalls ++ [(frame,
            (Mcp2515.sendMessage env frame manager.config.transmitTimeoutMs fuel
              manager.world).1)] }) := by
  unfold send
  rw [started, if_neg (by decide), if_neg (Nat.not_lt.mpr fits)]

/-- The manager reports success exactly when the driver does. -/
theorem send_ok_iff {fuel : Nat} {frame : CanFrame} {manager after : Manager δ}
    (started : manager.initialized = true) (fits : frame.canDlc.toNat ≤ Mcp2515.canMaxDlen) :
    send env fuel frame manager = (some .ok, after) ↔
      Mcp2515.sendMessage env frame manager.config.transmitTimeoutMs fuel manager.world =
          (some .ok, after.world) ∧
        after =
          { manager with
            world := after.world
            sendCalls := manager.sendCalls ++ [(frame, some .ok)] } := by
  rw [send_started env started fits]
  rcases sent : Mcp2515.sendMessage env frame manager.config.transmitTimeoutMs fuel
    manager.world with ⟨result, world⟩
  constructor
  · intro same
    obtain ⟨mapped, rfl⟩ := Prod.mk.inj same
    obtain ⟨error, rfl, success⟩ := Option.map_eq_some_iff.mp mapped
    obtain rfl := (mapError_ok error).mp success
    exact ⟨rfl, rfl⟩
  · rintro ⟨same, shape⟩
    obtain ⟨rfl, rfl⟩ := Prod.mk.inj same
    rw [shape]
    rfl

end CanManager
