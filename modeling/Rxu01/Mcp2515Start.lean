import Rxu01.Mcp2515Mailbox

set_option autoImplicit false

/- Initialisation leaves no transmit buffer pending. -/
namespace Mcp2515

open Peripheral (World elapse exchange)

/-- These buffers are not pending. -/
def Cleared (buffers : List TxBuffer) (chip : Chip) : Prop :=
  ∀ txbn ∈ buffers, chip.pending txbn = false

/-- `count` registers from this one on, none of which is the control register of a
transmit buffer. -/
def ApartFromControl (register : Register) (count : Nat) : Prop :=
  ∀ txbn : TxBuffer,
    txbn.ctrl.toNat < register.toNat ∨ register.toNat + count ≤ txbn.ctrl.toNat

/-- The registers that initialisation writes one at a time. -/
def configurationRegisters : List Register :=
  [canctrl, rxb0Ctrl, rxb1Ctrl, caninte, cnf1, cnf2, cnf3]

instance (register : Register) (count : Nat) : Decidable (ApartFromControl register count) :=
  decidable_of_iff
    (∀ txbn ∈ txBuffers,
      txbn.ctrl.toNat < register.toNat ∨ register.toNat + count ≤ txbn.ctrl.toNat)
    ⟨fun apart txbn => apart txbn (by cases txbn <;> decide), fun apart txbn _ => apart txbn⟩

theorem acceptanceRegisters_apart (entry : Register × Bool) (member : entry ∈ acceptanceRegisters) :
    ApartFromControl entry.1 4 := by
  have table : acceptanceRegisters.all (fun entry => decide (ApartFromControl entry.1 4)) = true := by
    decide
  exact of_decide_eq_true (List.all_eq_true.mp table entry member)

theorem configurationRegisters_apart (register : Register)
    (member : register ∈ configurationRegisters) : ApartFromControl register 1 := by
  have table : configurationRegisters.all (fun register => decide (ApartFromControl register 1)) =
      true := by
    decide
  exact of_decide_eq_true (List.all_eq_true.mp table register member)

theorem cleared_idle {chip : Chip} (cleared : Cleared [.txb2, .txb1, .txb0] chip) : chip.Idle := by
  intro txbn
  apply cleared
  cases txbn <;> decide

variable (onReset : Chip → Chip) {moves : Nat → List (Chip → Chip)} (clock : Nat → Int)
  (own : OwnMoves moves) {buffers : List TxBuffer} {world : World Chip}

include own

theorem cleared_stable (access : Nat) (move : Chip → Chip) (member : move ∈ moves access)
    (chip : Chip) (cleared : Cleared buffers chip) : Cleared buffers (move chip) := by
  intro txbn inside
  rw [← Bool.not_eq_true]
  intro pending
  have before := (own access move member chip).requests txbn pending
  rw [cleared txbn inside] at before
  cases before

theorem elapse_cleared (cleared : Cleared buffers world.device) :
    Cleared buffers (elapse (chipEnvironment onReset moves clock) world).device :=
  (Peripheral.elapse_passes (fun _ => True) (fun _ => True) (chipEnvironment onReset moves clock)
    (fun _ _ => trivial) (cleared_stable own) cleared).1

theorem exchange_cleared (sent : List UInt8) {buffers' : List TxBuffer}
    (effect : ∀ chip, Cleared buffers chip → Cleared buffers' (execute onReset sent chip).2)
    (cleared : Cleared buffers world.device) :
    Cleared buffers' (exchange (chipEnvironment onReset moves clock) sent world).2.device :=
  (Peripheral.exchange_passes (fun _ => True) (fun _ => True) (chipEnvironment onReset moves clock)
    (fun _ _ => trivial) (fun _ _ => trivial) (cleared_stable own) (fun _ _ _ => trivial) effect
    rfl cleared).1

theorem readRegister_cleared (register : Register) (cleared : Cleared buffers world.device) :
    Cleared buffers
      (readRegister (chipEnvironment onReset moves clock) register world).2.device :=
  exchange_cleared onReset clock own _ (fun _ same => same) cleared

theorem setRegisters_cleared (register : Register) (values : List UInt8)
    (apart : ApartFromControl register values.length) (cleared : Cleared buffers world.device) :
    Cleared buffers
      (setRegisters (chipEnvironment onReset moves clock) register values world).device := by
  apply exchange_cleared onReset clock own _ _ cleared
  intro chip same txbn inside
  have kept : (chip.write register.toNat values).control txbn = chip.control txbn :=
    overwrite_outside chip.registers (apart txbn)
  change ((chip.write register.toNat values).control txbn &&& txbTxreq != 0) = false
  rw [kept]
  exact same txbn inside

/-- A write of one register is a write of a list of one. -/
theorem setRegister_cleared (register : Register) (value : UInt8)
    (apart : ApartFromControl register 1) (cleared : Cleared buffers world.device) :
    Cleared buffers
      (setRegister (chipEnvironment onReset moves clock) register value world).device :=
  setRegisters_cleared onReset clock own register [value] apart cleared

theorem modifyRegister_cleared (register : Register) (mask data : UInt8)
    (apart : ApartFromControl register 1) (cleared : Cleared buffers world.device) :
    Cleared buffers
      (modifyRegister (chipEnvironment onReset moves clock) register mask data world).device := by
  apply exchange_cleared onReset clock own _ _ cleared
  intro chip same txbn inside
  have other : txbn.ctrl.toNat ≠ register.toNat := by
    have outside := apart txbn
    omega
  have kept := setRegister_other (bitModify (chip.registers register.toNat) mask data) chip other
  change ((chip.setRegister register.toNat _).registers txbn.ctrl.toNat &&& txbTxreq != 0) = false
  rw [kept]
  exact same txbn inside

/-- Fourteen zeros from the control register on. -/
theorem setRegisters_clears (txbn : TxBuffer) (cleared : Cleared buffers world.device) :
    Cleared (txbn :: buffers) (setRegisters (chipEnvironment onReset moves clock) txbn.ctrl
      (List.replicate 14 0) world).device := by
  apply exchange_cleared onReset clock own _ _ cleared
  intro chip same buffer member
  change ((chip.write txbn.ctrl.toNat (List.replicate 14 0)).control buffer &&& txbTxreq != 0) = false
  rcases buffer_apart buffer txbn with rfl | below | above
  · have zero : (chip.write buffer.ctrl.toNat (List.replicate 14 0)).control buffer = 0 :=
      overwrite_inside chip.registers (show 0 < (List.replicate 14 (0 : UInt8)).length by simp)
    rw [zero]
    rfl
  · rcases List.mem_cons.mp member with rfl | rest
    · omega
    · have kept : (chip.write txbn.ctrl.toNat (List.replicate 14 0)).control buffer =
          chip.control buffer := overwrite_outside chip.registers (by simp; omega)
      rw [kept]
      exact same buffer rest
  · rcases List.mem_cons.mp member with rfl | rest
    · omega
    · have kept : (chip.write txbn.ctrl.toNat (List.replicate 14 0)).control buffer =
          chip.control buffer := overwrite_outside chip.registers (by simp; omega)
      rw [kept]
      exact same buffer rest

theorem awaitMode_cleared (mode : UInt8) (tries : Nat) (cleared : Cleared buffers world.device) :
    Cleared buffers (awaitMode (chipEnvironment onReset moves clock) mode tries world).2.device := by
  induction tries generalizing world with
  | zero => exact cleared
  | succ tries ih =>
      have read := readRegister_cleared onReset clock own canstat cleared
      unfold awaitMode
      dsimp only
      split
      · exact read
      · exact ih (elapse_cleared onReset clock own read)

theorem setMode_cleared (mode : UInt8) (cleared : Cleared buffers world.device) :
    Cleared buffers (setMode (chipEnvironment onReset moves clock) mode world).2.device :=
  awaitMode_cleared onReset clock own mode 10 (modifyRegister_cleared onReset clock own canctrl _ _
    (configurationRegisters_apart _ (by decide)) cleared)

theorem setAcceptances_cleared {registers : List (Register × Bool)}
    (apart : ∀ entry ∈ registers, ApartFromControl entry.1 4)
    (cleared : Cleared buffers world.device) :
    Cleared buffers
      (setAcceptances (chipEnvironment onReset moves clock) registers world).2.device := by
  induction registers generalizing world with
  | nil => exact cleared
  | cons entry rest ih =>
      have mode := setMode_cleared onReset clock own canctrlReqopConfig cleared
      have filter : Cleared buffers
          (setAcceptance (chipEnvironment onReset moves clock) entry.1 entry.2 0 world).2.device := by
        unfold setAcceptance
        dsimp only
        split
        · exact mode
        · apply setRegisters_cleared onReset clock own _ _ _ mode
          rw [prepareId_length]
          exact apart entry List.mem_cons_self
      unfold setAcceptances
      dsimp only
      split
      · exact filter
      · exact ih (fun other member => apart other (List.mem_cons_of_mem _ member)) filter

/-- Whatever `RESET` leaves behind, no buffer is pending after `reset`. -/
theorem reset_cleared (world : World Chip) :
    Cleared [.txb2, .txb1, .txb0]
      (reset (chipEnvironment onReset moves clock) world).2.device := by
  have nothing : Cleared [] world.device := fun _ member => absurd member List.not_mem_nil
  have started := exchange_cleared onReset clock own [instructionReset]
    (fun _ _ _ member => absurd member List.not_mem_nil) nothing
  have waited := elapse_cleared onReset clock own started
  have first := setRegisters_clears onReset clock own .txb0 waited
  have second := setRegisters_clears onReset clock own .txb1 first
  have third := setRegisters_clears onReset clock own .txb2 second
  have single := configurationRegisters_apart
  have control0 := setRegister_cleared onReset clock own rxb0Ctrl 0 (single _ (by decide)) third
  have control1 := setRegister_cleared onReset clock own rxb1Ctrl 0 (single _ (by decide)) control0
  have interrupts := setRegister_cleared onReset clock own caninte
    (canintfRx0if ||| canintfRx1if ||| canintfErrif ||| canintfMerrf) (single _ (by decide)) control1
  have mode0 := modifyRegister_cleared onReset clock own rxb0Ctrl
    (rxbnctrlRxmMask ||| rxb0ctrlBukt ||| rxb0ctrlFilhitMask)
    (rxbnctrlRxmStdext ||| rxb0ctrlBukt ||| rxb0ctrlFilhit) (single _ (by decide)) interrupts
  have mode1 := modifyRegister_cleared onReset clock own rxb1Ctrl
    (rxbnctrlRxmMask ||| rxb1ctrlFilhitMask) (rxbnctrlRxmStdext ||| rxb1ctrlFilhit)
    (single _ (by decide)) mode0
  exact setAcceptances_cleared onReset clock own acceptanceRegisters_apart mode1

theorem setBitrate_cleared (canSpeed : CanSpeed) (canClock : CanClock)
    (cleared : Cleared buffers world.device) :
    Cleared buffers
      (setBitrate (chipEnvironment onReset moves clock) canSpeed canClock world).2.device := by
  have mode := setMode_cleared onReset clock own canctrlReqopConfig cleared
  unfold setBitrate
  dsimp only
  split
  · exact mode
  · split
    · rename_i config1 config2 config3 timing
      have single := configurationRegisters_apart
      have first := setRegister_cleared onReset clock own cnf1 config1 (single _ (by decide)) mode
      have second := setRegister_cleared onReset clock own cnf2 config2 (single _ (by decide)) first
      exact setRegister_cleared onReset clock own cnf3 config3 (single _ (by decide)) second
    · exact mode

end Mcp2515
