import Rxu01.Bytes
import Rxu01.Mcp2515

set_option autoImplicit false

/- What the five identifier and length registers of a transmit buffer and the
data registers behind them mean to the chip. -/
namespace Mcp2515

/-- A frame as it stands on the bus. -/
structure WireFrame where
  identifier : Nat
  extended : Bool
  remote : Bool
  length : Nat
  data : List UInt8
  deriving DecidableEq, Repr

/-- The frame in a buffer, its registers counted from `SIDH`: the upper eight and
the lower three standard bits, `EXIDE`, the 18 extended bits, `RTR` and the length. -/
def readBack (cell : Nat → UInt8) : WireFrame :=
  let sidl := (cell 1).toNat
  let standard := (cell 0).toNat * 8 + sidl / 32
  let extended := sidl / 8 % 2 == 1
  let dlc := (cell 4).toNat
  let length := min (dlc % 16) canMaxDlen
  { identifier :=
      if extended then
        standard * 2 ^ 18 + sidl % 4 * 2 ^ 16 + (cell 2).toNat * 2 ^ 8 + (cell 3).toNat
      else standard
    extended := extended
    remote := dlc / 64 % 2 == 1
    length := length
    data := (List.range length).map (fun index => cell (5 + index)) }

def CanFrame.extended (frame : CanFrame) : Bool := frame.canId &&& canEffFlag != 0

def CanFrame.remote (frame : CanFrame) : Bool := frame.canId &&& canRtrFlag != 0

/-- The frame a `can_frame` stands for. -/
def CanFrame.onWire (frame : CanFrame) : WireFrame :=
  { identifier :=
      (frame.canId &&& (if frame.extended then canEffMask else canSffMask)).toNat
    extended := frame.extended
    remote := frame.remote
    length := frame.canDlc.toNat
    data := frame.data.toList.take frame.canDlc.toNat }

theorem prepareId_length (ext : Bool) (id : UInt32) : (prepareId ext id).length = 4 := by
  unfold prepareId
  cases ext <;> rfl

theorem sidl_exide (low high : Nat) (lowBound : low < 4) (highBound : high < 8) :
    (low + high * 32) ||| 8 = low + high * 32 + 8 := by
  have table : ∀ low < 4, ∀ high < 8, (low + high * 32) ||| 8 = low + high * 32 + 8 := by decide
  exact table low lowBound high highBound

/-- `and_field` for words, one mask at a time. -/
theorem uint16_and (value mask : UInt16) (shift width : Nat)
    (field : mask.toNat = (2 ^ width - 1) * 2 ^ shift) :
    (value &&& mask).toNat = value.toNat / 2 ^ shift % 2 ^ width * 2 ^ shift := by
  rw [UInt16.toNat_and, field, Bytes.and_field]

theorem uint32_and (value mask : UInt32) (shift width : Nat)
    (field : mask.toNat = (2 ^ width - 1) * 2 ^ shift) :
    (value &&& mask).toNat = value.toNat / 2 ^ shift % 2 ^ width * 2 ^ shift := by
  rw [UInt32.toNat_and, field, Bytes.and_field]

section Identifier

variable (id : UInt32)

theorem canid_low : (id &&& 0x0FFFF).toUInt16.toNat = id.toNat % 2 ^ 16 := by
  rw [UInt32.toNat_toUInt16, uint32_and id 0x0FFFF 0 16 rfl]
  omega

/-- The registers of an 11-bit identifier. -/
theorem prepareId_standard (inside : id.toNat < 2 ^ 11) :
    ∃ sidh sidl, prepareId false id = [sidh, sidl, 0, 0] ∧
      sidh.toNat = id.toNat / 8 ∧ sidl.toNat = id.toNat % 8 * 32 := by
  refine ⟨_, _, rfl, ?_, ?_⟩
  · rw [UInt16.toNat_toUInt8, UInt16.toNat_shiftRight, canid_low]
    rw [show UInt16.toNat 3 % 16 = 3 from rfl, Nat.shiftRight_eq_div_pow]
    omega
  · rw [UInt16.toNat_toUInt8, UInt16.toNat_shiftLeft, uint16_and _ 0x07 0 3 rfl, canid_low]
    rw [show UInt16.toNat 5 % 16 = 5 from rfl, Nat.shiftLeft_eq]
    omega

/-- The registers of a 29-bit identifier. -/
theorem prepareId_extended (inside : id.toNat < 2 ^ 29) :
    ∃ sidh sidl eid8 eid0, prepareId true id = [sidh, sidl, eid8, eid0] ∧
      sidh.toNat = id.toNat / 2 ^ 21 ∧
      sidl.toNat = id.toNat / 2 ^ 16 % 4 + id.toNat / 2 ^ 18 % 8 * 32 + 8 ∧
      eid8.toNat = id.toNat / 2 ^ 8 % 256 ∧ eid0.toNat = id.toNat % 256 := by
  have upper : (id >>> 16).toUInt16.toNat = id.toNat / 2 ^ 16 := by
    rw [UInt32.toNat_toUInt16, UInt32.toNat_shiftRight, show UInt32.toNat 16 % 32 = 16 from rfl,
      Nat.shiftRight_eq_div_pow]
    omega
  refine ⟨_, _, _, _, rfl, ?_, ?_, ?_, ?_⟩
  · rw [UInt16.toNat_toUInt8, UInt16.toNat_shiftRight, upper]
    rw [show UInt16.toNat 5 % 16 = 5 from rfl, Nat.shiftRight_eq_div_pow]
    omega
  · have low : ((id >>> 16).toUInt16 &&& 0x03).toUInt8.toNat = id.toNat / 2 ^ 16 % 4 := by
      rw [UInt16.toNat_toUInt8, uint16_and _ 0x03 0 2 rfl, upper]
      omega
    have middle : (((id >>> 16).toUInt16 &&& 0x1C) <<< 3).toUInt8.toNat =
        id.toNat / 2 ^ 18 % 8 * 32 := by
      rw [UInt16.toNat_toUInt8, UInt16.toNat_shiftLeft, uint16_and _ 0x1C 2 3 rfl, upper]
      rw [show UInt16.toNat 3 % 16 = 3 from rfl, Nat.shiftLeft_eq]
      omega
    rw [UInt8.toNat_or, UInt8.toNat_add, low, middle]
    rw [Nat.mod_eq_of_lt (by omega)]
    exact sidl_exide _ _ (Nat.mod_lt _ (by decide)) (Nat.mod_lt _ (by decide))
  · rw [UInt16.toNat_toUInt8, UInt16.toNat_shiftRight, canid_low]
    rw [show UInt16.toNat 8 % 16 = 8 from rfl, Nat.shiftRight_eq_div_pow]
    omega
  · rw [UInt16.toNat_toUInt8, uint16_and _ 0xFF 0 8 rfl, canid_low]
    omega

end Identifier

theorem loadBytes_length (frame : CanFrame) (fits : frame.canDlc.toNat ≤ canMaxDlen) :
    (loadBytes frame).length = 5 + frame.canDlc.toNat := by
  have taken : (frame.data.toList.take frame.canDlc.toNat).length = frame.canDlc.toNat := by
    rw [List.length_take, Vector.length_toList]
    exact Nat.min_eq_left fits
  unfold loadBytes
  simp only [List.length_append, List.length_cons, prepareId_length, taken]
  omega

/-- The identifier and flag registers of a frame to be loaded. -/
theorem prepareId_readBack (frame : CanFrame) :
    ∃ sidh sidl eid8 eid0,
      prepareId frame.extended
        (frame.canId &&& (if frame.extended then canEffMask else canSffMask)) =
          [sidh, sidl, eid8, eid0] ∧
      (sidl.toNat / 8 % 2 == 1) = frame.extended ∧
      frame.onWire.identifier =
        if frame.extended then
          (sidh.toNat * 8 + sidl.toNat / 32) * 2 ^ 18 + sidl.toNat % 4 * 2 ^ 16 +
            eid8.toNat * 2 ^ 8 + eid0.toNat
        else sidh.toNat * 8 + sidl.toNat / 32 := by
  cases ext : frame.extended with
  | false =>
      have bound : (frame.canId &&& canSffMask).toNat < 2 ^ 11 := by
        rw [uint32_and _ canSffMask 0 11 rfl]
        omega
      obtain ⟨sidh, sidl, shape, sidhValue, sidlValue⟩ := prepareId_standard _ bound
      refine ⟨sidh, sidl, 0, 0, shape, ?_, ?_⟩
      · rw [sidlValue, beq_eq_false_iff_ne]
        omega
      · simp only [CanFrame.onWire, ext, Bool.false_eq_true, ↓reduceIte, sidhValue, sidlValue]
        omega
  | true =>
      have bound : (frame.canId &&& canEffMask).toNat < 2 ^ 29 := by
        rw [uint32_and _ canEffMask 0 29 rfl]
        omega
      obtain ⟨sidh, sidl, eid8, eid0, shape, sidhValue, sidlValue, eid8Value, eid0Value⟩ :=
        prepareId_extended _ bound
      refine ⟨sidh, sidl, eid8, eid0, shape, ?_, ?_⟩
      · rw [sidlValue, beq_iff_eq]
        omega
      · simp only [CanFrame.onWire, ext, ↓reduceIte, sidhValue, sidlValue, eid8Value, eid0Value]
        omega

theorem dlc_readBack (dlc : UInt8) (remote : Bool) (fits : dlc.toNat ≤ canMaxDlen) :
    min ((if remote then dlc ||| rtrMask else dlc).toNat % 16) canMaxDlen = dlc.toNat ∧
      ((if remote then dlc ||| rtrMask else dlc).toNat / 64 % 2 == 1) = remote := by
  change dlc.toNat ≤ 8 at fits
  have joined : dlc.toNat ||| 64 = dlc.toNat + 64 := by
    have table : ∀ length < 9, length ||| 64 = length + 64 := by decide
    exact table _ (by omega)
  change min _ 8 = _ ∧ _
  cases remote with
  | false =>
      simp only [Bool.false_eq_true, ↓reduceIte, beq_eq_false_iff_ne]
      omega
  | true =>
      rw [if_pos rfl, UInt8.toNat_or, show rtrMask.toNat = 64 from rfl, joined, beq_iff_eq]
      omega

/-- Whatever registers hold the loaded bytes from `SIDH` on, the chip takes them
for the frame that was meant. -/
theorem readBack_loadBytes (frame : CanFrame) (fits : frame.canDlc.toNat ≤ canMaxDlen)
    (cell : Nat → UInt8)
    (loaded : ∀ index < 5 + frame.canDlc.toNat, cell index = (loadBytes frame).getD index 0) :
    readBack cell = frame.onWire := by
  obtain ⟨sidh, sidl, eid8, eid0, shape, exide, identifier⟩ := prepareId_readBack frame
  obtain ⟨length, remote⟩ := dlc_readBack frame.canDlc frame.remote fits
  have bytes : loadBytes frame = [sidh, sidl, eid8, eid0] ++
      (if frame.remote then frame.canDlc ||| rtrMask else frame.canDlc) ::
        frame.data.toList.take frame.canDlc.toNat := by
    rw [← shape]
    rfl
  rw [bytes] at loaded
  have cell0 : cell 0 = sidh := loaded 0 (by omega)
  have cell1 : cell 1 = sidl := loaded 1 (by omega)
  have cell2 : cell 2 = eid8 := loaded 2 (by omega)
  have cell3 : cell 3 = eid0 := loaded 3 (by omega)
  have cell4 : cell 4 = if frame.remote then frame.canDlc ||| rtrMask else frame.canDlc :=
    loaded 4 (by omega)
  have data : (List.range frame.canDlc.toNat).map (fun index => cell (5 + index)) =
      frame.data.toList.take frame.canDlc.toNat := by
    have count : (frame.data.toList.take frame.canDlc.toNat).length = frame.canDlc.toNat := by
      rw [List.length_take, Vector.length_toList]
      exact Nat.min_eq_left fits
    apply List.ext_getElem
    · rw [List.length_map, List.length_range, count]
    · intro index inside inside'
      rw [List.length_map, List.length_range] at inside
      rw [List.getElem_map, List.getElem_range, loaded (5 + index) (by omega), Nat.add_comm 5 index]
      change (frame.data.toList.take frame.canDlc.toNat).getD index 0 = _
      exact (List.getElem_eq_getD 0).symm
  unfold readBack
  rw [cell0, cell1, cell2, cell3, cell4]
  dsimp only
  rw [length, remote, exide, data, ← identifier]
  rfl

end Mcp2515
