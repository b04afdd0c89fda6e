import Rxu01.CanSession
import Rxu01.Mcp2515Accesses
import Rxu01.Mcp2515Configured

set_option autoImplicit false

/- The configuration of the chip from `begin` on, through all later calls of `send`. -/
namespace Mcp2515

open Peripheral (Environment World elapse exchange)

/-- The chip has these settings and is in the mode that was asked for. -/
def Configured (settings : List Setting) (mode : UInt8) (chip : Chip) : Prop :=
  Holds settings chip ∧ Enters mode chip

/-- The registers of the transmit buffers. -/
def ApartFromBuffers (settings : List Setting) : Prop := Apart settings txb0Ctrl.toNat 0x30

section Sending

variable {onReset : Chip → Chip} {env : Environment Chip} (bus : OnChip onReset env)
  {settings : List Setting} {mode : UInt8}
include bus

theorem elapse_configured {world : World Chip} (held : Configured settings mode world.device) :
    Configured settings mode (elapse env world).device :=
  elapse_keeps bus (fun _ _ settles both => ⟨settles.holds both.1, settles.enters both.2⟩) held

theorem exchange_configured {world : World Chip} {register count : Nat} {sent : List UInt8}
    (apart : ApartFromBuffers settings) (touches : Touches onReset register count sent)
    (low : txb0Ctrl.toNat ≤ register) (high : register + count ≤ txb0Ctrl.toNat + 0x30)
    (held : Configured settings mode world.device) :
    Configured settings mode (exchange env sent world).2.device := by
  have outside : Apart settings register count := by
    intro setting member
    have region := apart setting member
    omega
  have above : canctrl.toNat < register := Nat.lt_of_lt_of_le (by decide) low
  exact exchange_keeps bus _ (Configured settings mode) (Configured settings mode)
    (fun _ _ settles both => ⟨settles.holds both.1, settles.enters both.2⟩)
    (fun _ both =>
      ⟨touches.holds onReset outside both.1, touches.enters onReset (Or.inl above) both.2⟩)
    held

/-- Sending does not touch the configuration. -/
theorem sendMessage_configured (apart : ApartFromBuffers settings) (frame : CanFrame)
    (timeoutMs : UInt32) (fuel : Nat) {world : World Chip}
    (held : Configured settings mode world.device) :
    Configured settings mode (sendMessage env frame timeoutMs fuel world).2.device := by
  have keeps : SendKeeps env frame (fun later => Configured settings mode later.device) :=
    { elapse := fun _ held => elapse_configured bus held
      exchange := by
        intro later sent access held
        cases access with
        | read txbn =>
            have device := (readRegister_guarded bus later txbn.ctrl).2
            have kept := elapse_configured bus held
            rw [← device] at kept
            exact kept
        | load txbn fits =>
            have size := loadBytes_length frame fits
            have short : frame.canDlc.toNat ≤ 8 := fits
            have high : txbn.sidh.toNat + 13 ≤ txb0Ctrl.toNat + 0x30 := by cases txbn <;> decide
            exact exchange_configured bus apart (write_touches onReset txbn.sidh (loadBytes frame))
              (by cases txbn <;> decide) (by omega) held
        | control txbn mask data =>
            exact exchange_configured bus apart (modify_touches onReset txbn.ctrl mask data)
              (by cases txbn <;> decide) (by cases txbn <;> decide) held }
  exact sendMessage_keeps keeps timeoutMs fuel held

end Sending

/-- A frame passes a filter under a mask: its kind is the filter's, and the bytes the chip
compares agree wherever the mask is set. -/
def Chip.passes (chip : Chip) (filter mask : Register) (extended : Bool) (compared : Nat → UInt8) :
    Prop :=
  (chip.registers (filter.toNat + 1) &&& txbExideMask != 0) = extended ∧
    ∀ index < 4, (chip.registers (filter.toNat + index) ^^^ compared index) &&&
      (chip.registers (mask.toNat + index) &&& (if index = 1 then 0xE3 else 0xFF)) = 0

/-- The first receive buffer uses its filters, and takes the frame. -/
def Chip.accepts (chip : Chip) (extended : Bool) (compared : Nat → UInt8) : Prop :=
  chip.registers rxb0Ctrl.toNat &&& rxbnctrlRxmMask = rxbnctrlRxmStdext ∧
    (chip.passes rxf0Sidh rxm0Sidh extended compared ∨
      chip.passes rxf1Sidh rxm0Sidh extended compared)

/-- Oscillator periods in one bit: twice the prescaler for each quantum of the
synchronisation, propagation and two phase segments. -/
def Chip.bitPeriods (chip : Chip) : Nat :=
  let cfg1 := (chip.registers cnf1.toNat).toNat
  let cfg2 := (chip.registers cnf2.toNat).toNat
  let cfg3 := (chip.registers cnf3.toNat).toNat
  let phase1 := cfg2 / 8 % 8 + 1
  let phase2 := if cfg2 / 128 % 2 = 1 then cfg3 % 8 + 1 else max phase1 2
  2 * (cfg1 % 64 + 1) * (1 + (cfg2 % 8 + 1) + phase1 + phase2)

def CanClock.hertz : CanClock → Nat
  | .mcp20Mhz => 20000000
  | .mcp16Mhz => 16000000
  | .mcp8Mhz => 8000000

/-- The rate a speed is named after, in bits every three seconds. -/
def CanSpeed.bitsInThreeSeconds : CanSpeed → Nat
  | .can5Kbps => 15000
  | .can10Kbps => 30000
  | .can20Kbps => 60000
  | .can31K25Bps => 93750
  | .can33Kbps => 100000
  | .can40Kbps => 120000
  | .can50Kbps => 150000
  | .can80Kbps => 240000
  | .can83K3Bps => 250000
  | .can95Kbps => 285000
  | .can100Kbps => 300000
  | .can125Kbps => 375000
  | .can200Kbps => 600000
  | .can250Kbps => 750000
  | .can500Kbps => 1500000
  | .can1000Kbps => 3000000

section Meaning

variable {settings : List Setting} {chip : Chip}

theorem Holds.byte (holds : Holds settings chip) {register : Nat} {value : UInt8}
    (member : ⟨register, 0xFF, value⟩ ∈ settings) : chip.registers register = value := by
  have has := (holds _ member).2
  unfold Chip.Has at has
  rw [byte_mask] at has
  exact has

/-- Every entry of the table of `setBitrate` gives the rate it is named after. -/
theorem bitTiming_rate (holds : Holds settings chip) {canClock : CanClock} {canSpeed : CanSpeed}
    {timing : UInt8 × UInt8 × UInt8} (table : bitTiming canClock canSpeed = some timing)
    (set : ∀ setting ∈ timingSettings timing, setting ∈ settings) :
    canSpeed.bitsInThreeSeconds * chip.bitPeriods = 3 * canClock.hertz := by
  have first := holds.byte (set ⟨cnf1.toNat, 0xFF, timing.1⟩ (by simp [timingSettings]))
  have second := holds.byte (set ⟨cnf2.toNat, 0xFF, timing.2.1⟩ (by simp [timingSettings]))
  have third := holds.byte (set ⟨cnf3.toNat, 0xFF, timing.2.2⟩ (by simp [timingSettings]))
  unfold Chip.bitPeriods
  rw [first, second, third]
  cases canClock <;> cases canSpeed <;> first | (cases table; done) | (cases table; rfl)

/-- With the masks cleared, one of the two filters of the first buffer lets every frame
through. -/
theorem resetSettings_accept (holds : Holds settings chip)
    (set : ∀ setting ∈ resetSettings, setting ∈ settings) (extended : Bool)
    (compared : Nat → UInt8) : chip.accepts extended compared := by
  have byte : ∀ register value, ⟨register, 0xFF, value⟩ ∈ resetSettings →
      chip.registers register = value :=
    fun register value member => holds.byte (set _ member)
  have mask : ∀ index < 4,
      chip.registers (rxm0Sidh.toNat + index) &&& (if index = 1 then 0xE3 else 0xFF) = 0 := by
    intro index inside
    have cases : index = 0 ∨ index = 1 ∨ index = 2 ∨ index = 3 := by omega
    rcases cases with rfl | rfl | rfl | rfl
    · rw [byte _ 0 (by decide)]
      rfl
    · rw [byte _ txbExideMask (by decide)]
      rfl
    · rw [byte _ 0 (by decide)]
      rfl
    · rw [byte _ 0 (by decide)]
      rfl
  have agree : ∀ (filter : Register) (index : Nat), index < 4 →
      (chip.registers (filter.toNat + index) ^^^ compared index) &&&
        (chip.registers (rxm0Sidh.toNat + index) &&& (if index = 1 then 0xE3 else 0xFF)) = 0 := by
    intro filter index inside
    rw [mask index inside]
    exact UInt8.and_zero
  refine ⟨?_, ?_⟩
  · have receive := (holds _ (set ⟨rxb0Ctrl.toNat, rxbnctrlRxmMask ||| rxb0ctrlBukt, rxb0ctrlBukt⟩
      (by decide))).2
    unfold Chip.Has at receive
    dsimp only at receive
    rw [show rxbnctrlRxmMask = (rxbnctrlRxmMask ||| rxb0ctrlBukt) &&& rxbnctrlRxmMask from rfl,
      ← UInt8.and_assoc, receive]
    rfl
  · cases extended with
    | false =>
        left
        refine ⟨?_, agree rxf0Sidh⟩
        rw [byte _ 0 (by decide)]
        rfl
    | true =>
        right
        refine ⟨?_, agree rxf1Sidh⟩
        rw [byte _ txbExideMask (by decide)]
        rfl

end Meaning

end Mcp2515

namespace CanManager

open EspIdf (espOk)
open Mcp2515 (CanFrame Chip Configured OnChip bitTiming canctrlReqopNormal resetSettings
  timingSettings)
open Peripheral (Environment World)

/-- The settings of a started chip. -/
def settings (timing : UInt8 × UInt8 × UInt8) : List Mcp2515.Setting :=
  resetSettings ++ timingSettings timing

theorem settings_apart (timing : UInt8 × UInt8 × UInt8) {register count : Nat}
    (receive : Mcp2515.Apart resetSettings register count)
    (outside : Mcp2515.cnf1.toNat < register ∨ register + count ≤ Mcp2515.cnf3.toNat) :
    Mcp2515.Apart (settings timing) register count := by
  have order : Mcp2515.cnf3.toNat < Mcp2515.cnf2.toNat ∧
      Mcp2515.cnf2.toNat < Mcp2515.cnf1.toNat := by
    decide
  intro setting member
  rcases List.mem_append.mp member with plain | bits
  · exact receive setting plain
  · simp only [timingSettings, List.mem_cons, List.not_mem_nil, or_false] at bits
    rcases bits with rfl | rfl | rfl
    · dsimp only
      omega
    · dsimp only
      omega
    · dsimp only
      omega

section Start

variable {onReset : Chip → Chip} {env : Environment Chip} (bus : OnChip onReset env)
include bus

theorem startDriver_configured {config : Config} {world : World Chip}
    (started : (startDriver env config world).1 = true) :
    ∃ timing, bitTiming config.oscillator config.bitrate = some timing ∧
      Configured (settings timing) canctrlReqopNormal (startDriver env config world).2.device := by
  obtain ⟨reset, bitrate, normal, same⟩ := startDriver_calls env started
  have cleared := Mcp2515.reset_holds bus reset
  obtain ⟨timing, table, timed⟩ := Mcp2515.setBitrate_holds bus config.bitrate config.oscillator
    (by decide) (by decide) cleared bitrate
  obtain ⟨held, entered⟩ := Mcp2515.setMode_enters bus canctrlReqopNormal (by decide) timed
    (settings_apart timing (by decide) (Or.inr (by decide)))
  rw [same]
  exact ⟨timing, table, held, entered normal⟩

theorem begin_configured {spi : SpiSetup} {prior manager : Manager Chip}
    (fresh : prior.initialized = false) (begun : begin env spi prior = (espOk, manager)) :
    manager.config = prior.config ∧ ∃ timing,
      bitTiming prior.config.oscillator prior.config.bitrate = some timing ∧
        Configured (settings timing) canctrlReqopNormal manager.world.device := by
  obtain ⟨started, rfl⟩ := begin_driver env fresh begun
  exact ⟨rfl, startDriver_configured bus started⟩

theorem sendAll_configured {timing : UInt8 × UInt8 × UInt8} {mode : UInt8}
    (calls : List (CanFrame × Nat)) {manager : Manager Chip}
    (held : Configured (settings timing) mode manager.world.device) :
    Configured (settings timing) mode (sendAll env calls manager).2.world.device := by
  induction calls generalizing manager with
  | nil => exact held
  | cons call rest ih =>
      obtain ⟨frame, fuel⟩ := call
      have sent : Configured (settings timing) mode
          (send env fuel frame manager).2.world.device := by
        unfold send
        split
        · exact held
        · split
          · exact held
          · exact Mcp2515.sendMessage_configured bus
              (settings_apart timing (by decide) (Or.inl (by decide))) frame _ fuel held
      unfold sendAll
      dsimp only
      split
      · exact ih sent
      · exact sent

/-- After a successful `begin`, and after any later calls of `send`, the chip runs in
normal mode at the configured rate and takes every standard and extended frame. -/
theorem begin_configures {spi : SpiSetup} {prior manager : Manager Chip}
    (fresh : prior.initialized = false) (begun : begin env spi prior = (espOk, manager))
    (calls : List (CanFrame × Nat)) :
    let chip := (sendAll env calls manager).2.world.device
    chip.requested = canctrlReqopNormal ∧ chip.mode = canctrlReqopNormal ∧
      prior.config.bitrate.bitsInThreeSeconds * chip.bitPeriods =
        3 * prior.config.oscillator.hertz ∧
      (∀ extended compared, chip.accepts extended compared) ∧
      ∃ timing, Mcp2515.Holds (settings timing) chip := by
  obtain ⟨_, timing, table, started⟩ := begin_configured bus fresh begun
  obtain ⟨held, requested, mode⟩ := sendAll_configured bus calls started
  refine ⟨requested, mode, ?_, ?_, timing, held⟩
  · exact Mcp2515.bitTiming_rate held table (fun setting member => List.mem_append_right _ member)
  · exact Mcp2515.resetSettings_accept held (fun setting member => List.mem_append_left _ member)

end Start

/-- A chip that enters each mode when it is asked for, and sends at once. -/
def obedientEnvironment : Environment Chip :=
  { transact := Mcp2515.executeGuarded (fun _ => Mcp2515.blankChip)
    moves := fun _ => [Chip.enterRequested, fun chip => chip.act (.complete .txb0)]
    delivered := fun _ => true
    clock := fun access => access }

theorem obedientEnvironment_onChip :
    OnChip (fun _ => Mcp2515.blankChip) obedientEnvironment := by
  refine ⟨rfl, fun _ => rfl, ?_⟩
  intro access move member chip
  simp only [obedientEnvironment, List.mem_cons, List.not_mem_nil, or_false] at member
  rcases member with rfl | rfl
  · exact Mcp2515.enterRequested_settles chip
  · exact Mcp2515.complete_settles .txb0 chip

def coldManager : Manager Chip := { world := { device := Mcp2515.blankChip } }

def obedientManager : Manager Chip := (begin obedientEnvironment ⟨espOk, espOk⟩ coldManager).2

theorem obedientManager_begun :
    begin obedientEnvironment ⟨espOk, espOk⟩ coldManager = (espOk, obedientManager) := by
  have begun : (begin obedientEnvironment ⟨espOk, espOk⟩ coldManager).1 = espOk := by
    decide +kernel
  unfold obedientManager
  generalize begin obedientEnvironment ⟨espOk, espOk⟩ coldManager = result at begun ⊢
  exact congrArg (fun status => (status, result.2)) begun

theorem begin_configures_obedient :
    let chip := (sendAll obedientEnvironment [({ canId := 0x101 }, 3)]
      obedientManager).2.world.device
    chip.requested = canctrlReqopNormal ∧ chip.mode = canctrlReqopNormal ∧
      coldManager.config.bitrate.bitsInThreeSeconds * chip.bitPeriods =
        3 * coldManager.config.oscillator.hertz ∧
      (∀ extended compared, chip.accepts extended compared) ∧
      ∃ timing, Mcp2515.Holds (settings timing) chip :=
  begin_configures obedientEnvironment_onChip rfl obedientManager_begun [({ canId := 0x101 }, 3)]

end CanManager
