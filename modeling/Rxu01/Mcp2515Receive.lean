import Rxu01.Mcp2515Mailbox

set_option autoImplicit false

/- The receiving half of `mcp2515.cpp`, its error flags, and the chip's receive
buffers behind it. -/
namespace Mcp2515

open Peripheral (Environment World exchange)

abbrev instructionReadStatus : UInt8 := 0xA0

abbrev canintf : Register := 0x2C
abbrev eflg : Register := 0x2D
abbrev rxb0Sidh : Register := 0x61
abbrev rxb0Data : Register := 0x66
abbrev rxb1Sidh : Register := 0x71
abbrev rxb1Data : Register := 0x76

abbrev canintfTx0if : UInt8 := 0x04
abbrev canintfTx1if : UInt8 := 0x08
abbrev canintfTx2if : UInt8 := 0x10

abbrev eflgRx1ovr : UInt8 := 0x80
abbrev eflgRx0ovr : UInt8 := 0x40
abbrev eflgTxbo : UInt8 := 0x20
abbrev eflgTxep : UInt8 := 0x10
abbrev eflgRxep : UInt8 := 0x08
abbrev eflgErrormask : UInt8 := eflgRx1ovr ||| eflgRx0ovr ||| eflgTxbo ||| eflgTxep ||| eflgRxep

abbrev statRx0if : UInt8 := 0x01
abbrev statRx1if : UInt8 := 0x02
abbrev statRxifMask : UInt8 := statRx0if ||| statRx1if

abbrev dlcMask : UInt8 := 0x0F
abbrev rxbnctrlRtr : UInt8 := 0x08

inductive RxBuffer where
  | rxb0
  | rxb1
  deriving DecidableEq, Repr

/-- The `CTRL` column of `RXB`. -/
def RxBuffer.ctrl : RxBuffer → Register
  | .rxb0 => rxb0Ctrl
  | .rxb1 => rxb1Ctrl

/-- The `SIDH` column of `RXB`. -/
def RxBuffer.sidh : RxBuffer → Register
  | .rxb0 => rxb0Sidh
  | .rxb1 => rxb1Sidh

/-- The `DATA` column of `RXB`. -/
def RxBuffer.data : RxBuffer → Register
  | .rxb0 => rxb0Data
  | .rxb1 => rxb1Data

/-- The `CANINTF_RXnIF` column of `RXB`. -/
def RxBuffer.rxnif : RxBuffer → UInt8
  | .rxb0 => canintfRx0if
  | .rxb1 => canintfRx1if

/-- What the uninitialised arrays of `readRegisters` hold when access `n` is made. -/
structure Leftovers where
  txData : Nat → Nat → UInt8
  rxData : Nat → Nat → UInt8

section Receive

variable {δ : Type} (env : Environment δ) (leftovers : Leftovers)

/-- Only the first two bytes sent are set, and a transaction that fails leaves the
bytes received as they were. -/
def readRegisters (register : Register) (n : Nat) (world : World δ) : List UInt8 × World δ :=
  let filler := (List.range n).map (leftovers.txData world.accesses)
  let result := exchange env (instructionRead :: register :: filler) world
  if env.delivered world.accesses then
    ((List.range n).map (fun index => result.1.getD (index + 2) 0), result.2)
  else ((List.range n).map (fun index => leftovers.rxData world.accesses (index + 2)), result.2)

def getStatus (world : World δ) : UInt8 × World δ :=
  let result := exchange env [instructionReadStatus, 0x00] world
  (result.1.getD 1 0, result.2)

/-- The identifier `readMessage` puts together from the first four bytes of a buffer. -/
def receivedId (sidh sidl eid8 eid0 : UInt8) : UInt32 :=
  let id := (sidh.toUInt32 <<< 3) + (sidl >>> 5).toUInt32
  if sidl &&& txbExideMask = txbExideMask then
    let id := (id <<< 2) + (sidl &&& 0x03).toUInt32
    let id := (id <<< 8) + eid8.toUInt32
    let id := (id <<< 8) + eid0.toUInt32
    id ||| canEffFlag
  else id

/-- The first `count` data bytes replaced. -/
def CanFrame.load (frame : CanFrame) (count : Nat) (bytes : List UInt8) : Vector UInt8 canMaxDlen :=
  Vector.ofFn (fun index => if index.val < count then bytes.getD index.val 0 else frame.data[index])

/-- `readMessage` on a given buffer, with the frame the caller passed in. -/
def readMessageOn (rxbn : RxBuffer) (frame : CanFrame) (world : World δ) :
    Error × CanFrame × World δ :=
  let header := readRegisters env leftovers rxbn.sidh 5 world
  let tbufdata := fun index => header.1.getD index 0
  let id := receivedId (tbufdata 0) (tbufdata 1) (tbufdata 2) (tbufdata 3)
  let dlc := tbufdata 4 &&& dlcMask
  if canMaxDlen < dlc.toNat then (.fail, frame, header.2)
  else
    let ctrl := readRegister env rxbn.ctrl header.2
    let id := if ctrl.1 &&& rxbnctrlRtr ≠ 0 then id ||| canRtrFlag else id
    let values := readRegisters env leftovers rxbn.data dlc.toNat ctrl.2
    (.ok, { canId := id, canDlc := dlc, data := frame.load dlc.toNat values.1 },
      modifyRegister env canintf rxbn.rxnif 0 values.2)

def readMessage (frame : CanFrame) (world : World δ) : Error × CanFrame × World δ :=
  let stat := getStatus env world
  if stat.1 &&& statRx0if ≠ 0 then readMessageOn env leftovers .rxb0 frame stat.2
  else if stat.1 &&& statRx1if ≠ 0 then readMessageOn env leftovers .rxb1 frame stat.2
  else (.noMsg, frame, stat.2)

def checkReceive (world : World δ) : Bool × World δ :=
  let res := getStatus env world
  (res.1 &&& statRxifMask != 0, res.2)

def getErrorFlags (world : World δ) : UInt8 × World δ := readRegister env eflg world

def checkError (world : World δ) : Bool × World δ :=
  let flags := getErrorFlags env world
  (flags.1 &&& eflgErrormask != 0, flags.2)

def clearRXnOVRFlags (world : World δ) : World δ :=
  modifyRegister env eflg (eflgRx0ovr ||| eflgRx1ovr) 0 world

def getInterrupts (world : World δ) : UInt8 × World δ := readRegister env canintf world

def clearInterrupts (world : World δ) : World δ := setRegister env canintf 0 world

def getInterruptMask (world : World δ) : UInt8 × World δ := readRegister env caninte world

def clearTXInterrupts (world : World δ) : World δ :=
  modifyRegister env canintf (canintfTx0if ||| canintfTx1if ||| canintfTx2if) 0 world

def clearRXnOVR (world : World δ) : World δ :=
  let flags := getErrorFlags env world
  if flags.1 ≠ 0 then clearInterrupts env (clearRXnOVRFlags env flags.2) else flags.2

def clearMERR (world : World δ) : World δ := modifyRegister env canintf canintfMerrf 0 world

def clearERRIF (world : World δ) : World δ := modifyRegister env canintf canintfErrif 0 world

end Receive

/-- A frame as the chip stored it; `code` is its length code, which may be above
eight. -/
structure Arrival where
  frame : WireFrame
  code : Nat
  deriving DecidableEq, Repr

namespace Chip

/-- The interrupt flag of the buffer is set. -/
def full (chip : Chip) (rxbn : RxBuffer) : Bool :=
  chip.registers canintf.toNat &&& rxbn.rxnif != 0

/-- What the registers of a receive buffer denote: the identifier and length
registers as in a transmit buffer, the remote request in `RXRTR`. -/
def arrival (chip : Chip) (rxbn : RxBuffer) : Arrival :=
  { frame :=
      { readBack (fun index => chip.registers (rxbn.sidh.toNat + index)) with
        remote := chip.registers rxbn.ctrl.toNat &&& rxbnctrlRtr != 0 }
    code := (chip.registers (rxbn.sidh.toNat + 4)).toNat % 16 }

def slot (chip : Chip) (rxbn : RxBuffer) : Option Arrival :=
  if chip.full rxbn then some (chip.arrival rxbn) else none

/-- The byte of the `READ STATUS` instruction. -/
def status (chip : Chip) : UInt8 :=
  let flags := chip.registers canintf.toNat
  let request := fun txbn bit => if chip.pending txbn then bit else (0 : UInt8)
  (flags &&& statRxifMask) ||| (request .txb0 0x04 ||| ((flags &&& canintfTx0if) <<< 1) |||
    request .txb1 0x10 ||| ((flags &&& canintfTx1if) <<< 2) |||
    request .txb2 0x40 ||| ((flags &&& canintfTx2if) <<< 3))

end Chip

/-- The chip with the frames it has stored so far, oldest first, and the buffer of
each. -/
structure Node where
  chip : Chip
  heard : List (RxBuffer × Arrival) := []

/-- `execute` with the `READ STATUS` instruction. -/
def Node.execute (onReset : Chip → Chip) (sent : List UInt8) (node : Node) : List UInt8 × Node :=
  if sent.head? = some instructionReadStatus then
    (0 :: List.replicate (sent.length - 1) node.chip.status, node)
  else
    let answer := Mcp2515.execute onReset sent node.chip
    (answer.1, { node with chip := answer.2 })

/-- The node behind a fault-free bus. -/
def nodeEnvironment (onReset : Chip → Chip) (moves : Nat → List (Node → Node))
    (clock : Nat → Int) : Environment Node :=
  { transact := Node.execute onReset
    moves := moves
    delivered := fun _ => true
    clock := clock }

section Frame

/-- A receive buffer is what its fourteen registers and its flag say. -/
theorem slot_congr {first second : Chip} {rxbn : RxBuffer}
    (flag : first.full rxbn = second.full rxbn)
    (cells : ∀ index < 14,
      first.registers (rxbn.ctrl.toNat + index) = second.registers (rxbn.ctrl.toNat + index)) :
    first.slot rxbn = second.slot rxbn := by
  have sidh : rxbn.sidh.toNat = rxbn.ctrl.toNat + 1 := by cases rxbn <;> rfl
  have frame : readBack (fun index => first.registers (rxbn.sidh.toNat + index)) =
      readBack (fun index => second.registers (rxbn.sidh.toNat + index)) := by
    apply readBack_congr
    intro index inside
    rw [sidh, Nat.add_assoc]
    exact cells (1 + index) (by omega)
  have ctrl := cells 0 (by omega)
  have code := cells 5 (by omega)
  unfold Chip.slot Chip.arrival
  rw [flag, frame, sidh]
  rw [Nat.add_zero] at ctrl
  rw [ctrl, show rxbn.ctrl.toNat + 1 + 4 = rxbn.ctrl.toNat + 5 from rfl, code]

theorem one_bit (flags bit : UInt8) (shift : Nat) (single : bit.toNat = 2 ^ shift) :
    flags &&& bit = 0 ∨ flags &&& bit = bit := by
  have field : (flags &&& bit).toNat = flags.toNat / 2 ^ shift % 2 * 2 ^ shift := by
    have masked := Bytes.and_field flags.toNat shift 1
    rw [UInt8.toNat_and, single]
    rw [show (2 ^ 1 - 1) * 2 ^ shift = 2 ^ shift from Nat.one_mul _] at masked
    exact masked
  rcases Nat.mod_two_eq_zero_or_one (flags.toNat / 2 ^ shift) with clear | set
  · left
    apply UInt8.toNat_inj.mp
    rw [field, clear, Nat.zero_mul]
    rfl
  · right
    apply UInt8.toNat_inj.mp
    rw [field, set, Nat.one_mul, single]

/-- The two lowest status bits are the receive flags. -/
theorem status_flag (chip : Chip) (rxbn : RxBuffer) :
    chip.status &&& rxbn.rxnif = chip.registers canintf.toNat &&& rxbn.rxnif := by
  have either : ∀ {first second : UInt8}, first &&& rxbn.rxnif = 0 → second &&& rxbn.rxnif = 0 →
      (first ||| second) &&& rxbn.rxnif = 0 := by
    intro first second low high
    rw [Bytes.or_probe first second _ high]
    exact low
  have request : ∀ (txbn : TxBuffer) (bit : UInt8), bit &&& rxbn.rxnif = 0 →
      (if chip.pending txbn then bit else 0) &&& rxbn.rxnif = 0 := by
    intro txbn bit apart
    split
    · exact apart
    · exact UInt8.zero_and
  have moved : ∀ (bit amount : UInt8) (shift : Nat), bit.toNat = 2 ^ shift →
      (bit <<< amount) &&& rxbn.rxnif = 0 → (0 <<< amount : UInt8) = 0 →
      ((chip.registers canintf.toNat &&& bit) <<< amount) &&& rxbn.rxnif = 0 := by
    intro bit amount shift single apart zero
    rcases one_bit (chip.registers canintf.toNat) bit shift single with clear | set
    · rw [clear, zero]
      exact UInt8.zero_and
    · rw [set]
      exact apart
  unfold Chip.status
  dsimp only
  rw [Bytes.or_probe, UInt8.and_assoc, show statRxifMask &&& rxbn.rxnif = rxbn.rxnif by
    cases rxbn <;> decide]
  apply either
  · apply either
    · apply either
      · apply either
        · apply either
          · exact request .txb0 0x04 (by cases rxbn <;> decide)
          · exact moved canintfTx0if 1 2 rfl (by cases rxbn <;> decide) rfl
        · exact request .txb1 0x10 (by cases rxbn <;> decide)
      · exact moved canintfTx1if 2 3 rfl (by cases rxbn <;> decide) rfl
    · exact request .txb2 0x40 (by cases rxbn <;> decide)
  · exact moved canintfTx2if 3 4 rfl (by cases rxbn <;> decide) rfl

end Frame

end Mcp2515
