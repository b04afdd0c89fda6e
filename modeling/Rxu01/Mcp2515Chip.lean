import Rxu01.Mcp2515Frame

set_option autoImplicit false

/- The chip on the other side of the SPI bus, as the datasheet's register file:
`READ` and `WRITE` increment the address, `BIT MODIFY` changes the masked bits. -/
namespace Mcp2515

open Peripheral (Environment)

/-- A frame sent on the bus, with the buffer it came from and the number of the
write that had loaded the buffer. -/
structure Transmission where
  buffer : TxBuffer
  load : Nat
  frame : WireFrame
  deriving DecidableEq, Repr

/-- `loads` counts the writes into each buffer, so that a transmission can be
traced to the write it came from. -/
structure Chip where
  registers : Nat → UInt8
  loads : TxBuffer → Nat := fun _ => 0
  bus : List Transmission := []
  traced : ∀ sent ∈ bus, sent.load ≤ loads sent.buffer := by simp

namespace Chip

def control (chip : Chip) (txbn : TxBuffer) : UInt8 := chip.registers txbn.ctrl.toNat

/-- `TXREQ` is set. -/
def pending (chip : Chip) (txbn : TxBuffer) : Bool := chip.control txbn &&& txbTxreq != 0

/-- The mode the host asked for. -/
def requested (chip : Chip) : UInt8 := chip.registers canctrl.toNat &&& canctrlReqop

/-- The mode the chip is in. -/
def mode (chip : Chip) : UInt8 := chip.registers canstat.toNat &&& canstatOpmod

/-- The frame the registers of a buffer denote. -/
def frame (chip : Chip) (txbn : TxBuffer) : WireFrame :=
  readBack (fun index => chip.registers (txbn.sidh.toNat + index))

end Chip

/-- Consecutive registers overwritten from `address` on. -/
def overwrite (address : Nat) (values : List UInt8) (registers : Nat → UInt8) : Nat → UInt8 :=
  fun register =>
    if address ≤ register ∧ register < address + values.length then
      values.getD (register - address) 0
    else registers register

def Chip.setRegister (address : Nat) (value : UInt8) (chip : Chip) : Chip :=
  { chip with registers := overwrite address [value] chip.registers }

/-- The masked bits of a register replaced by those of `data`. -/
def bitModify (old mask data : UInt8) : UInt8 := (old &&& ~~~mask) ||| (data &&& mask)

/-- A write counts as a load of every buffer whose `SIDH` it covers. -/
def Chip.write (address : Nat) (values : List UInt8) (chip : Chip) : Chip :=
  { chip with
    registers := overwrite address values chip.registers
    loads := fun txbn =>
      if address ≤ txbn.sidh.toNat ∧ txbn.sidh.toNat < address + values.length then
        chip.loads txbn + 1
      else chip.loads txbn
    traced := fun sent member => by
      have bound := chip.traced sent member
      split <;> omega }

/-- What one delivered transaction does and what the chip clocks out. The effect
of `RESET` on the registers is left open. -/
def execute (onReset : Chip → Chip) (sent : List UInt8) (chip : Chip) : List UInt8 × Chip :=
  match sent with
  | [instruction] =>
      if instruction = instructionReset then ([0], onReset chip) else ([0], chip)
  | instruction :: address :: arguments =>
      if instruction = instructionRead then
        (0 :: 0 :: (List.range arguments.length).map
          (fun index => chip.registers (address.toNat + index)), chip)
      else if instruction = instructionWrite then
        (List.replicate sent.length 0, chip.write address.toNat arguments)
      else if instruction = instructionBitmod then
        match arguments with
        | [mask, data] =>
            (List.replicate sent.length 0,
              chip.setRegister address.toNat
                (bitModify (chip.registers address.toNat) mask data))
        | _ => (List.replicate sent.length 0, chip)
      else (List.replicate sent.length 0, chip)
  | [] => ([], chip)

/-- The chip behind a fault-free bus. -/
def chipEnvironment (onReset : Chip → Chip) (moves : Nat → List (Chip → Chip))
    (clock : Nat → Int) : Environment Chip :=
  { transact := execute onReset
    moves := moves
    delivered := fun _ => true
    clock := clock }

/-- A chip with all registers zero. -/
def blankChip : Chip := { registers := fun _ => 0 }

theorem overwrite_outside {address register : Nat} {values : List UInt8} (registers : Nat → UInt8)
    (outside : register < address ∨ address + values.length ≤ register) :
    overwrite address values registers register = registers register := by
  unfold overwrite
  rw [if_neg (by omega)]

theorem overwrite_inside {address index : Nat} {values : List UInt8} (registers : Nat → UInt8)
    (inside : index < values.length) :
    overwrite address values registers (address + index) = values.getD index 0 := by
  unfold overwrite
  rw [if_pos (by omega), Nat.add_sub_cancel_left]

theorem ctrl_injective {first second : TxBuffer} (same : first.ctrl.toNat = second.ctrl.toNat) :
    first = second := by
  revert same
  cases first <;> cases second <;> decide

/-- Every buffer has its own sixteen addresses. -/
theorem buffer_apart (first second : TxBuffer) :
    first = second ∨ first.ctrl.toNat + 16 ≤ second.ctrl.toNat ∨
      second.ctrl.toNat + 16 ≤ first.ctrl.toNat := by
  cases first <;> cases second <;> decide

theorem sidh_eq (txbn : TxBuffer) : txbn.sidh.toNat = txbn.ctrl.toNat + 1 := by
  cases txbn <;> rfl

theorem setRegister_same (address : Nat) (value : UInt8) (chip : Chip) :
    (chip.setRegister address value).registers address = value := by
  have inside : overwrite address [value] chip.registers (address + 0) = [value].getD 0 0 :=
    overwrite_inside chip.registers Nat.one_pos
  exact inside

theorem setRegister_other {address register : Nat} (value : UInt8) (chip : Chip)
    (other : register ≠ address) :
    (chip.setRegister address value).registers register = chip.registers register :=
  overwrite_outside chip.registers (by
    simp only [List.length_singleton]
    omega)

/-- Bits outside the mask stay. -/
theorem bitModify_keep (old mask data probe : UInt8) (apart : mask &&& probe = 0) :
    bitModify old mask data &&& probe = old &&& probe := by
  unfold bitModify
  apply UInt8.eq_of_toBitVec_eq
  have bits := congrArg UInt8.toBitVec apart
  ext index inside
  have bit := congrArg (fun vector => vector.getLsbD index) bits
  simp at bit ⊢
  grind

/-- Bits inside the mask are those of `data`. -/
theorem bitModify_set (old mask data probe : UInt8) (inside : mask &&& probe = probe) :
    bitModify old mask data &&& probe = data &&& probe := by
  unfold bitModify
  apply UInt8.eq_of_toBitVec_eq
  have bits := congrArg UInt8.toBitVec inside
  ext index below
  have bit := congrArg (fun vector => vector.getLsbD index) bits
  simp at bit ⊢
  grind

section Driver

open Peripheral (World elapse exchange)

variable (onReset : Chip → Chip) (moves : Nat → List (Chip → Chip)) (clock : Nat → Int)
  (world : World Chip)

theorem exchange_chip (sent : List UInt8) :
    (exchange (chipEnvironment onReset moves clock) sent world).1 =
        (execute onReset sent (elapse (chipEnvironment onReset moves clock) world).device).1 ∧
      (exchange (chipEnvironment onReset moves clock) sent world).2.device =
        (execute onReset sent (elapse (chipEnvironment onReset moves clock) world).device).2 := by
  rw [Peripheral.exchange_delivered _ world sent rfl]
  exact ⟨rfl, rfl⟩

/-- A read leaves the chip as it is. -/
theorem readRegister_chip (register : Register) :
    (readRegister (chipEnvironment onReset moves clock) register world).1 =
        (elapse (chipEnvironment onReset moves clock) world).device.registers register.toNat ∧
      (readRegister (chipEnvironment onReset moves clock) register world).2.device =
        (elapse (chipEnvironment onReset moves clock) world).device := by
  obtain ⟨received, device⟩ := exchange_chip onReset moves clock world
    [instructionRead, register, 0x00]
  refine ⟨?_, device⟩
  unfold readRegister
  dsimp only
  rw [received]
  rfl

theorem setRegisters_chip (register : Register) (values : List UInt8) :
    (setRegisters (chipEnvironment onReset moves clock) register values world).device =
      (elapse (chipEnvironment onReset moves clock) world).device.write register.toNat values :=
  (exchange_chip onReset moves clock world (instructionWrite :: register :: values)).2

theorem modifyRegister_chip (register : Register) (mask data : UInt8) :
    (modifyRegister (chipEnvironment onReset moves clock) register mask data world).device =
      (elapse (chipEnvironment onReset moves clock) world).device.setRegister register.toNat
        (bitModify ((elapse (chipEnvironment onReset moves clock) world).device.registers
          register.toNat) mask data) :=
  (exchange_chip onReset moves clock world [instructionBitmod, register, mask, data]).2

end Driver

end Mcp2515
