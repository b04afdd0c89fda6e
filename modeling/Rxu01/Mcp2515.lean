import Rxu01.Peripheral

set_option autoImplicit false

/- The driver of `mcp2515.cpp`, as far as initialisation and transmission use it.
Every register access is one SPI transaction; one that fails is only printed,
and the driver goes on with what its zeroed buffers hold. -/
namespace Mcp2515

open Peripheral (Environment World exchange readClock wait)

abbrev instructionWrite : UInt8 := 0x02
abbrev instructionRead : UInt8 := 0x03
abbrev instructionBitmod : UInt8 := 0x05
abbrev instructionReset : UInt8 := 0xC0

/-- `REGISTER`: an address of the chip. -/
abbrev Register : Type := UInt8

abbrev rxf0Sidh : Register := 0x00
abbrev rxf1Sidh : Register := 0x04
abbrev rxf2Sidh : Register := 0x08
abbrev canstat : Register := 0x0E
abbrev canctrl : Register := 0x0F
abbrev rxf3Sidh : Register := 0x10
abbrev rxf4Sidh : Register := 0x14
abbrev rxf5Sidh : Register := 0x18
abbrev rxm0Sidh : Register := 0x20
abbrev rxm1Sidh : Register := 0x24
abbrev cnf3 : Register := 0x28
abbrev cnf2 : Register := 0x29
abbrev cnf1 : Register := 0x2A
abbrev caninte : Register := 0x2B
abbrev txb0Ctrl : Register := 0x30
abbrev txb0Sidh : Register := 0x31
abbrev txb1Ctrl : Register := 0x40
abbrev txb1Sidh : Register := 0x41
abbrev txb2Ctrl : Register := 0x50
abbrev txb2Sidh : Register := 0x51
abbrev rxb0Ctrl : Register := 0x60
abbrev rxb1Ctrl : Register := 0x70

abbrev canctrlReqop : UInt8 := 0xE0
abbrev canstatOpmod : UInt8 := 0xE0
abbrev canctrlReqopNormal : UInt8 := 0x00
abbrev canctrlReqopConfig : UInt8 := 0x80

abbrev canintfRx0if : UInt8 := 0x01
abbrev canintfRx1if : UInt8 := 0x02
abbrev canintfErrif : UInt8 := 0x20
abbrev canintfMerrf : UInt8 := 0x80

abbrev rxbnctrlRxmStdext : UInt8 := 0x00
abbrev rxbnctrlRxmMask : UInt8 := 0x60
abbrev rxb0ctrlBukt : UInt8 := 0x04
abbrev rxb0ctrlFilhitMask : UInt8 := 0x03
abbrev rxb1ctrlFilhitMask : UInt8 := 0x07
abbrev rxb0ctrlFilhit : UInt8 := 0x00
abbrev rxb1ctrlFilhit : UInt8 := 0x01

abbrev txbExideMask : UInt8 := 0x08
abbrev rtrMask : UInt8 := 0x40
abbrev txbAbtf : UInt8 := 0x40
abbrev txbMloa : UInt8 := 0x20
abbrev txbTxerr : UInt8 := 0x10
abbrev txbTxreq : UInt8 := 0x08

abbrev canEffFlag : UInt32 := 0x80000000
abbrev canRtrFlag : UInt32 := 0x40000000
abbrev canSffMask : UInt32 := 0x000007FF
abbrev canEffMask : UInt32 := 0x1FFFFFFF
abbrev canMaxDlen : Nat := 8

/-- `can_frame`. -/
structure CanFrame where
  canId : UInt32 := 0
  canDlc : UInt8 := 0
  data : Vector UInt8 canMaxDlen := Vector.replicate canMaxDlen 0
  deriving DecidableEq, Repr

inductive Error where
  | ok
  | fail
  | allTxBusy
  | failInit
  | failTx
  | noMsg
  | txTimeout
  deriving DecidableEq, Repr

inductive TxBuffer where
  | txb0
  | txb1
  | txb2
  deriving DecidableEq, Repr

/-- The `CTRL` column of `TXB`. -/
def TxBuffer.ctrl : TxBuffer → Register
  | .txb0 => txb0Ctrl
  | .txb1 => txb1Ctrl
  | .txb2 => txb2Ctrl

/-- The `SIDH` column of `TXB`. -/
def TxBuffer.sidh : TxBuffer → Register
  | .txb0 => txb0Sidh
  | .txb1 => txb1Sidh
  | .txb2 => txb2Sidh

inductive CanClock where
  | mcp20Mhz
  | mcp16Mhz
  | mcp8Mhz
  deriving DecidableEq, Repr

inductive CanSpeed where
  | can5Kbps
  | can10Kbps
  | can20Kbps
  | can31K25Bps
  | can33Kbps
  | can40Kbps
  | can50Kbps
  | can80Kbps
  | can83K3Bps
  | can95Kbps
  | can100Kbps
  | can125Kbps
  | can200Kbps
  | can250Kbps
  | can500Kbps
  | can1000Kbps
  deriving DecidableEq, Repr

/-- `CFG1`, `CFG2` and `CFG3` as `setBitrate` selects them. -/
def bitTiming : CanClock → CanSpeed → Option (UInt8 × UInt8 × UInt8)
  | .mcp8Mhz, .can5Kbps => some (0x1F, 0xBF, 0x87)
  | .mcp8Mhz, .can10Kbps => some (0x0F, 0xBF, 0x87)
  | .mcp8Mhz, .can20Kbps => some (0x07, 0xBF, 0x87)
  | .mcp8Mhz, .can31K25Bps => some (0x07, 0xA4, 0x84)
  | .mcp8Mhz, .can33Kbps => some (0x47, 0xE2, 0x85)
  | .mcp8Mhz, .can40Kbps => some (0x03, 0xBF, 0x87)
  | .mcp8Mhz, .can50Kbps => some (0x03, 0xB4, 0x86)
  | .mcp8Mhz, .can80Kbps => some (0x01, 0xBF, 0x87)
  | .mcp8Mhz, .can100Kbps => some (0x01, 0xB4, 0x86)
  | .mcp8Mhz, .can125Kbps => some (0x01, 0xB1, 0x85)
  | .mcp8Mhz, .can200Kbps => some (0x00, 0xB4, 0x86)
  | .mcp8Mhz, .can250Kbps => some (0x00, 0xB1, 0x85)
  | .mcp8Mhz, .can500Kbps => some (0x00, 0x90, 0x82)
  | .mcp8Mhz, .can1000Kbps => some (0x00, 0x80, 0x80)
  | .mcp16Mhz, .can5Kbps => some (0x3F, 0xFF, 0x87)
  | .mcp16Mhz, .can10Kbps => some (0x1F, 0xFF, 0x87)
  | .mcp16Mhz, .can20Kbps => some (0x0F, 0xFF, 0x87)
  | .mcp16Mhz, .can33Kbps => some (0x4E, 0xF1, 0x85)
  | .mcp16Mhz, .can40Kbps => some (0x07, 0xFF, 0x87)
  | .mcp16Mhz, .can50Kbps => some (0x07, 0xFA, 0x87)
  | .mcp16Mhz, .can80Kbps => some (0x03, 0xFF, 0x87)
  | .mcp16Mhz, .can83K3Bps => some (0x03, 0xBE, 0x07)
  | .mcp16Mhz, .can100Kbps => some (0x03, 0xFA, 0x87)
  | .mcp16Mhz, .can125Kbps => some (0x03, 0xF0, 0x86)
  | .mcp16Mhz, .can200Kbps => some (0x01, 0xFA, 0x87)
  | .mcp16Mhz, .can250Kbps => some (0x41, 0xF1, 0x85)
  | .mcp16Mhz, .can500Kbps => some (0x00, 0xF0, 0x86)
  | .mcp16Mhz, .can1000Kbps => some (0x00, 0xD0, 0x82)
  | .mcp20Mhz, .can33Kbps => some (0x0B, 0xFF, 0x87)
  | .mcp20Mhz, .can40Kbps => some (0x09, 0xFF, 0x87)
  | .mcp20Mhz, .can50Kbps => some (0x09, 0xFA, 0x87)
  | .mcp20Mhz, .can80Kbps => some (0x04, 0xFF, 0x87)
  | .mcp20Mhz, .can83K3Bps => some (0x04, 0xFE, 0x87)
  | .mcp20Mhz, .can100Kbps => some (0x04, 0xFA, 0x87)
  | .mcp20Mhz, .can125Kbps => some (0x03, 0xFA, 0x87)
  | .mcp20Mhz, .can200Kbps => some (0x01, 0xFF, 0x87)
  | .mcp20Mhz, .can250Kbps => some (0x41, 0xFB, 0x86)
  | .mcp20Mhz, .can500Kbps => some (0x00, 0xFA, 0x87)
  | .mcp20Mhz, .can1000Kbps => some (0x00, 0xD9, 0x82)
  | _, _ => none

variable {δ : Type} (env : Environment δ)

def readRegister (register : Register) (world : World δ) : UInt8 × World δ :=
  let result := exchange env [instructionRead, register, 0x00] world
  (result.1.getD 2 0, result.2)

def setRegister (register : Register) (value : UInt8) (world : World δ) : World δ :=
  (exchange env [instructionWrite, register, value] world).2

def setRegisters (register : Register) (values : List UInt8) (world : World δ) : World δ :=
  (exchange env (instructionWrite :: register :: values) world).2

def modifyRegister (register : Register) (mask data : UInt8) (world : World δ) : World δ :=
  (exchange env [instructionBitmod, register, mask, data] world).2

/-- The four bytes from `SIDH` on. -/
def prepareId (ext : Bool) (id : UInt32) : List UInt8 :=
  let canid : UInt16 := (id &&& 0x0FFFF).toUInt16
  if ext then
    let eid0 := (canid &&& 0xFF).toUInt8
    let eid8 := (canid >>> 8).toUInt8
    let canid : UInt16 := (id >>> 16).toUInt16
    let sidl := (canid &&& 0x03).toUInt8
    let sidl := sidl + ((canid &&& 0x1C) <<< 3).toUInt8
    let sidl := sidl ||| txbExideMask
    let sidh := (canid >>> 5).toUInt8
    [sidh, sidl, eid8, eid0]
  else
    let sidh := (canid >>> 3).toUInt8
    let sidl := ((canid &&& 0x07) <<< 5).toUInt8
    [sidh, sidl, 0, 0]

/-- The loop of `setMode` with `tries` reads left. -/
def awaitMode (mode : UInt8) : Nat → World δ → Error × World δ
  | 0, world => (.fail, world)
  | tries + 1, world =>
      let read := readRegister env canstat world
      if read.1 &&& canstatOpmod = mode then (.ok, read.2)
      else awaitMode mode tries (wait env read.2)

def setMode (mode : UInt8) (world : World δ) : Error × World δ :=
  awaitMode env mode 10 (modifyRegister env canctrl canctrlReqop mode world)

def setConfigMode (world : World δ) : Error × World δ := setMode env canctrlReqopConfig world

def setNormalMode (world : World δ) : Error × World δ := setMode env canctrlReqopNormal world

/-- The common body of `setFilter` and `setFilterMask`, for the register their
`switch` selects. -/
def setAcceptance (register : Register) (ext : Bool) (ulData : UInt32) (world : World δ) :
    Error × World δ :=
  let mode := setConfigMode env world
  if mode.1 ≠ .ok then mode
  else (.ok, setRegisters env register (prepareId ext ulData) mode.2)

/-- The two loops at the end of `reset`, which stop at the first failure. -/
def setAcceptances : List (Register × Bool) → World δ → Error × World δ
  | [], world => (.ok, world)
  | (register, ext) :: rest, world =>
      let result := setAcceptance env register ext 0 world
      if result.1 ≠ .ok then result else setAcceptances rest result.2

/-- The filters and masks in the order `reset` clears them. -/
def acceptanceRegisters : List (Register × Bool) :=
  [(rxf0Sidh, false), (rxf1Sidh, true), (rxf2Sidh, false), (rxf3Sidh, false), (rxf4Sidh, false),
    (rxf5Sidh, false), (rxm0Sidh, true), (rxm1Sidh, true)]

def reset (world : World δ) : Error × World δ :=
  let world := (exchange env [instructionReset] world).2
  let world := wait env world
  let zeros := List.replicate 14 0
  let world := setRegisters env txb0Ctrl zeros world
  let world := setRegisters env txb1Ctrl zeros world
  let world := setRegisters env txb2Ctrl zeros world
  let world := setRegister env rxb0Ctrl 0 world
  let world := setRegister env rxb1Ctrl 0 world
  let world := setRegister env caninte
    (canintfRx0if ||| canintfRx1if ||| canintfErrif ||| canintfMerrf) world
  let world := modifyRegister env rxb0Ctrl
    (rxbnctrlRxmMask ||| rxb0ctrlBukt ||| rxb0ctrlFilhitMask)
    (rxbnctrlRxmStdext ||| rxb0ctrlBukt ||| rxb0ctrlFilhit) world
  let world := modifyRegister env rxb1Ctrl (rxbnctrlRxmMask ||| rxb1ctrlFilhitMask)
    (rxbnctrlRxmStdext ||| rxb1ctrlFilhit) world
  setAcceptances env acceptanceRegisters world

def setBitrate (canSpeed : CanSpeed) (canClock : CanClock) (world : World δ) : Error × World δ :=
  let mode := setConfigMode env world
  if mode.1 ≠ .ok then mode
  else
    match bitTiming canClock canSpeed with
    | some (cfg1, cfg2, cfg3) =>
        let world := setRegister env cnf1 cfg1 mode.2
        let world := setRegister env cnf2 cfg2 world
        (.ok, setRegister env cnf3 cfg3 world)
    | none => (.fail, mode.2)

/-- The polling loop of `sendMessage` with `fuel` turns left; `none` when they
run out. -/
def awaitTransmission (txbn : TxBuffer) (deadline : Int) : Nat → World δ →
    Option Error × World δ
  | 0, world => (none, world)
  | fuel + 1, world =>
      let read := readRegister env txbn.ctrl world
      if read.1 &&& txbTxreq = 0 then
        if read.1 &&& (txbAbtf ||| txbTxerr) ≠ 0 then (some .failTx, read.2)
        else (some .ok, read.2)
      else
        let now := readClock env read.2
        if deadline ≤ now.1 then
          (some .txTimeout, modifyRegister env txbn.ctrl txbTxreq 0 now.2)
        else awaitTransmission txbn deadline fuel (wait env now.2)

/-- The identifier, length and data bytes `sendMessage` loads from `SIDH` on. -/
def loadBytes (frame : CanFrame) : List UInt8 :=
  let ext := frame.canId &&& canEffFlag != 0
  let rtr := frame.canId &&& canRtrFlag != 0
  let id := frame.canId &&& (if ext then canEffMask else canSffMask)
  let dlc := if rtr then frame.canDlc ||| rtrMask else frame.canDlc
  prepareId ext id ++ dlc :: frame.data.toList.take frame.canDlc.toNat

/-- Loading the buffer, clearing the last result and requesting transmission. -/
def requestTransmission (txbn : TxBuffer) (frame : CanFrame) (world : World δ) : World δ :=
  let world := setRegisters env txbn.sidh (loadBytes frame) world
  let world := modifyRegister env txbn.ctrl (txbAbtf ||| txbMloa ||| txbTxerr) 0 world
  modifyRegister env txbn.ctrl txbTxreq txbTxreq world

/-- `sendMessage` on a given buffer. -/
def sendMessageOn (txbn : TxBuffer) (frame : CanFrame) (timeoutMs : UInt32) (fuel : Nat)
    (world : World δ) : Option Error × World δ :=
  if canMaxDlen < frame.canDlc.toNat then (some .failTx, world)
  else
    let now := readClock env (requestTransmission env txbn frame world)
    awaitTransmission env txbn (now.1 + timeoutMs.toNat * 1000) fuel now.2

/-- The loop over the buffers: the first one read with `TXREQ` clear. -/
def findFreeBuffer : List TxBuffer → World δ → Option TxBuffer × World δ
  | [], world => (none, world)
  | txbn :: rest, world =>
      let read := readRegister env txbn.ctrl world
      if read.1 &&& txbTxreq = 0 then (some txbn, read.2)
      else findFreeBuffer rest read.2

def txBuffers : List TxBuffer := [.txb0, .txb1, .txb2]

def sendMessage (frame : CanFrame) (timeoutMs : UInt32) (fuel : Nat) (world : World δ) :
    Option Error × World δ :=
  if canMaxDlen < frame.canDlc.toNat then (some .failTx, world)
  else
    match findFreeBuffer env txBuffers world with
    | (some txbn, world) => sendMessageOn env txbn frame timeoutMs fuel world
    | (none, world) => (some .allTxBusy, world)

end Mcp2515
