import Rxu01.Mcp2515Receive

set_option autoImplicit false

/- The `can_frame` the driver builds from the registers of a receive buffer. -/
namespace Mcp2515

/-- The identifier with its two flags and without the bits that are not sent. -/
def CanFrame.wireId (frame : CanFrame) : UInt32 :=
  let id := frame.canId &&& (if frame.extended then canEffMask else canSffMask)
  let id := if frame.extended then id ||| canEffFlag else id
  if frame.remote then id ||| canRtrFlag else id

/-- The frame `readMessage` returns for registers that hold still, counted from `SIDH`. -/
def received (cell : Nat → UInt8) (remote : Bool) (frame : CanFrame) : CanFrame :=
  let id := receivedId (cell 0) (cell 1) (cell 2) (cell 3)
  let dlc := cell 4 &&& dlcMask
  { canId := if remote then id ||| canRtrFlag else id
    canDlc := dlc
    data := frame.load dlc.toNat ((List.range dlc.toNat).map (fun index => cell (5 + index))) }

theorem uint8_and (value mask : UInt8) (shift width : Nat)
    (field : mask.toNat = (2 ^ width - 1) * 2 ^ shift) :
    (value &&& mask).toNat = value.toNat / 2 ^ shift % 2 ^ width * 2 ^ shift := by
  rw [UInt8.toNat_and, field, Bytes.and_field]

theorem dlc_toNat (dlc : UInt8) : (dlc &&& dlcMask).toNat = dlc.toNat % 16 := by
  rw [uint8_and dlc dlcMask 0 4 rfl]
  omega

/-- A flag above a value adds to it. -/
theorem or_flag (value flag : UInt32) (shift : Nat) (single : flag.toNat = 2 ^ shift)
    (below : value.toNat < 2 ^ shift) : (value ||| flag).toNat = value.toNat + 2 ^ shift := by
  have joined := Nat.two_pow_add_eq_or_of_lt below 1
  rw [Nat.mul_one] at joined
  rw [UInt32.toNat_or, single, Nat.or_comm, ← joined, Nat.add_comm]

section Identifier

/-- Both flags above an identifier. -/
theorem flagged_toNat (id : UInt32) (ext remote : Bool) (small : id.toNat < 2 ^ 29) :
    (if remote then (if ext then id ||| canEffFlag else id) ||| canRtrFlag
      else if ext then id ||| canEffFlag else id).toNat =
        id.toNat + (if ext then 2 ^ 31 else 0) + (if remote then 2 ^ 30 else 0) := by
  have request : (id ||| canRtrFlag).toNat = id.toNat + 2 ^ 30 :=
    or_flag id canRtrFlag 30 rfl (by omega)
  cases ext with
  | false =>
      cases remote with
      | false => rfl
      | true => exact request
  | true =>
      cases remote with
      | false => exact or_flag id canEffFlag 31 rfl (by omega)
      | true =>
          simp only [↓reduceIte]
          rw [UInt32.or_assoc, UInt32.or_comm canEffFlag, ← UInt32.or_assoc,
            or_flag (id ||| canRtrFlag) canEffFlag 31 rfl (by omega), request]
          omega

variable (sidh sidl eid8 eid0 : UInt8)

theorem exide_iff : sidl &&& txbExideMask = txbExideMask ↔ sidl.toNat / 8 % 2 = 1 := by
  have field := uint8_and sidl txbExideMask 3 1 rfl
  constructor
  · intro set
    rw [set] at field
    change 8 = _ at field
    omega
  · intro set
    apply UInt8.toNat_inj.mp
    rw [field]
    change _ = 8
    omega

/-- The identifier without its flag. -/
def bareId : UInt32 :=
  let id := (sidh.toUInt32 <<< 3) + (sidl >>> 5).toUInt32
  if sidl &&& txbExideMask = txbExideMask then
    ((((id <<< 2) + (sidl &&& 0x03).toUInt32) <<< 8) + eid8.toUInt32) <<< 8 + eid0.toUInt32
  else id

theorem receivedId_eq : receivedId sidh sidl eid8 eid0 =
    if sidl.toNat / 8 % 2 == 1 then bareId sidh sidl eid8 eid0 ||| canEffFlag
    else bareId sidh sidl eid8 eid0 := by
  unfold receivedId bareId
  dsimp only
  by_cases exide : sidl &&& txbExideMask = txbExideMask
  · rw [if_pos exide, if_pos exide, if_pos (beq_iff_eq.mpr ((exide_iff sidl).mp exide))]
  · rw [if_neg exide, if_neg exide, if_neg]
    rw [beq_iff_eq]
    exact fun set => exide ((exide_iff sidl).mpr set)

theorem standard_toNat :
    ((sidh.toUInt32 <<< 3) + (sidl >>> 5).toUInt32).toNat = sidh.toNat * 8 + sidl.toNat / 32 := by
  have high := sidh.toNat_lt
  have low := sidl.toNat_lt
  rw [UInt32.toNat_add, UInt32.toNat_shiftLeft, UInt8.toNat_toUInt32, UInt8.toNat_toUInt32,
    UInt8.toNat_shiftRight, show UInt32.toNat 3 % 32 = 3 from rfl,
    show UInt8.toNat 5 % 8 = 5 from rfl, Nat.shiftLeft_eq, Nat.shiftRight_eq_div_pow]
  omega

theorem shift_add_toNat (id : UInt32) (byte : UInt8) (amount : UInt32) (shift : Nat)
    (same : amount.toNat % 32 = shift) (bounded : id.toNat * 2 ^ shift + 256 < 2 ^ 32) :
    ((id <<< amount) + byte.toUInt32).toNat = id.toNat * 2 ^ shift + byte.toNat := by
  have low := byte.toNat_lt
  rw [UInt32.toNat_add, UInt32.toNat_shiftLeft, same, UInt8.toNat_toUInt32, Nat.shiftLeft_eq]
  omega

theorem bareId_toNat :
    (bareId sidh sidl eid8 eid0).toNat =
      if sidl.toNat / 8 % 2 == 1 then
        (sidh.toNat * 8 + sidl.toNat / 32) * 2 ^ 18 + sidl.toNat % 4 * 2 ^ 16 +
          eid8.toNat * 2 ^ 8 + eid0.toNat
      else sidh.toNat * 8 + sidl.toNat / 32 := by
  have high := sidh.toNat_lt
  have low := sidl.toNat_lt
  have upper := eid8.toNat_lt
  have standard := standard_toNat sidh sidl
  have two : (sidl &&& 0x03).toNat = sidl.toNat % 4 := by
    rw [uint8_and sidl 0x03 0 2 rfl]
    omega
  unfold bareId
  dsimp only
  by_cases exide : sidl &&& txbExideMask = txbExideMask
  · rw [if_pos exide, if_pos (beq_iff_eq.mpr ((exide_iff sidl).mp exide))]
    have first := shift_add_toNat ((sidh.toUInt32 <<< 3) + (sidl >>> 5).toUInt32) (sidl &&& 0x03)
      2 2 rfl (by rw [standard]; omega)
    rw [standard, two] at first
    have second := shift_add_toNat _ eid8 8 8 rfl (by rw [first]; omega)
    rw [first] at second
    rw [shift_add_toNat _ eid0 8 8 rfl (by rw [second]; omega), second]
    omega
  · rw [if_neg exide, if_neg, standard]
    rw [beq_iff_eq]
    exact fun set => exide ((exide_iff sidl).mpr set)

end Identifier

/-- A frame is its identifier with two flags above it. -/
theorem flags_of_toNat {frame : CanFrame} {identifier : Nat} {ext remote : Bool}
    (value : frame.canId.toNat =
      identifier + (if ext then 2 ^ 31 else 0) + (if remote then 2 ^ 30 else 0))
    (small : identifier < if ext then 2 ^ 29 else 2 ^ 11) :
    frame.extended = ext ∧ frame.remote = remote ∧ frame.onWire.identifier = identifier := by
  have upper := uint32_and frame.canId canEffFlag 31 1 rfl
  have middle := uint32_and frame.canId canRtrFlag 30 1 rfl
  have extendedFlag : frame.extended = ext := by
    cases ext with
    | false =>
        have clear : frame.canId &&& canEffFlag = 0 := by
          apply UInt32.toNat_inj.mp
          cases remote <;> simp at value small upper ⊢ <;> omega
        simp [CanFrame.extended, clear]
    | true =>
        have set : frame.canId &&& canEffFlag ≠ 0 := by
          intro zero
          rw [zero] at upper
          cases remote <;> simp at value small upper <;> omega
        simp [CanFrame.extended, set]
  have remoteFlag : frame.remote = remote := by
    cases remote with
    | false =>
        have clear : frame.canId &&& canRtrFlag = 0 := by
          apply UInt32.toNat_inj.mp
          cases ext <;> simp at value small middle ⊢ <;> omega
        simp [CanFrame.remote, clear]
    | true =>
        have set : frame.canId &&& canRtrFlag ≠ 0 := by
          intro zero
          rw [zero] at middle
          cases ext <;> simp at value small middle <;> omega
        simp [CanFrame.remote, set]
  refine ⟨extendedFlag, remoteFlag, ?_⟩
  unfold CanFrame.onWire
  dsimp only
  rw [extendedFlag]
  cases ext with
  | false =>
      have low := uint32_and frame.canId canSffMask 0 11 rfl
      cases remote <;> simp at value small low ⊢ <;> omega
  | true =>
      have low := uint32_and frame.canId canEffMask 0 29 rfl
      cases remote <;> simp at value small low ⊢ <;> omega

theorem onWire_small (frame : CanFrame) :
    frame.onWire.identifier < if frame.extended then 2 ^ 29 else 2 ^ 11 := by
  unfold CanFrame.onWire
  dsimp only
  cases frame.extended with
  | false =>
      have low := uint32_and frame.canId canSffMask 0 11 rfl
      simp at low ⊢
      omega
  | true =>
      have low := uint32_and frame.canId canEffMask 0 29 rfl
      simp at low ⊢
      omega

theorem wireId_toNat (frame : CanFrame) :
    frame.wireId.toNat = frame.onWire.identifier + (if frame.extended then 2 ^ 31 else 0) +
      (if frame.remote then 2 ^ 30 else 0) := by
  have small := onWire_small frame
  apply flagged_toNat
  change frame.onWire.identifier < 2 ^ 29
  split at small <;> omega

section Received

variable (cell : Nat → UInt8) (remote : Bool) (frame : CanFrame)

theorem readBack_small :
    (readBack cell).identifier < if (readBack cell).extended then 2 ^ 29 else 2 ^ 11 := by
  have sidh := (cell 0).toNat_lt
  have sidl := (cell 1).toNat_lt
  have eid8 := (cell 2).toNat_lt
  have eid0 := (cell 3).toNat_lt
  unfold readBack
  dsimp only
  split <;> omega

theorem received_toNat :
    (received cell remote frame).canId.toNat = (readBack cell).identifier +
      (if (readBack cell).extended then 2 ^ 31 else 0) + (if remote then 2 ^ 30 else 0) := by
  have bare := bareId_toNat (cell 0) (cell 1) (cell 2) (cell 3)
  change _ = (readBack cell).identifier at bare
  have small := readBack_small cell
  unfold received
  dsimp only
  rw [receivedId_eq, flagged_toNat _ _ _ (by rw [bare]; split at small <;> omega), bare]
  rfl

/-- What is returned stands for what the chip holds. -/
theorem received_onWire (fits : (cell 4).toNat % 16 ≤ canMaxDlen) :
    (received cell remote frame).onWire = { readBack cell with remote := remote } := by
  obtain ⟨extended, request, identifier⟩ :=
    flags_of_toNat (received_toNat cell remote frame) (readBack_small cell)
  have dlc : (received cell remote frame).canDlc.toNat = (cell 4).toNat % 16 := dlc_toNat (cell 4)
  have length : (readBack cell).length = (cell 4).toNat % 16 := Nat.min_eq_left fits
  have data : (received cell remote frame).data.toList.take ((cell 4).toNat % 16) =
      (List.range ((cell 4).toNat % 16)).map (fun index => cell (5 + index)) := by
    change
      (frame.load (cell 4 &&& dlcMask).toNat _).toList.take ((cell 4).toNat % 16) = _
    rw [dlc_toNat]
    apply List.ext_getElem
    · simp [fits]
    · intro index inside inside'
      simp only [List.length_map, List.length_range] at inside'
      simp [CanFrame.load, inside']
  calc
    (received cell remote frame).onWire =
        { identifier := (received cell remote frame).onWire.identifier
          extended := (received cell remote frame).extended
          remote := (received cell remote frame).remote
          length := (received cell remote frame).canDlc.toNat
          data := (received cell remote frame).data.toList.take
            (received cell remote frame).canDlc.toNat } := rfl
    _ = { readBack cell with remote := remote } := by
      rw [identifier, extended, request, dlc, data]
      unfold readBack at length ⊢
      dsimp only at length ⊢
      rw [length]

theorem wireId_congr {first second : CanFrame} (same : first.canId = second.canId) :
    first.wireId = second.wireId := by
  unfold CanFrame.wireId CanFrame.extended CanFrame.remote
  rw [same]

/-- What is returned has no bits set that are not sent. -/
theorem received_wireId :
    (received cell remote frame).wireId = (received cell remote frame).canId := by
  obtain ⟨extended, request, identifier⟩ :=
    flags_of_toNat (received_toNat cell remote frame) (readBack_small cell)
  apply UInt32.toNat_inj.mp
  rw [wireId_toNat, extended, request, identifier, received_toNat]

/-- Of the frame the caller passed in, the bytes past the length stay. -/
theorem received_tail :
    (received cell remote frame).data.toList.drop (received cell remote frame).canDlc.toNat =
      frame.data.toList.drop (received cell remote frame).canDlc.toNat := by
  apply List.ext_getElem
  · simp
  · intro index _ _
    simp only [received, CanFrame.load, List.getElem_drop, Vector.getElem_toList,
      Vector.getElem_ofFn]
    rw [if_neg (by omega)]
    rfl

/-- Frames that are the same on the bus are the same up to bits that are not sent. -/
theorem wireId_of_onWire {first second : CanFrame} (same : first.onWire = second.onWire) :
    first.wireId = second.wireId ∧ first.canDlc = second.canDlc ∧
      first.data.toList.take first.canDlc.toNat = second.data.toList.take first.canDlc.toNat := by
  have extended : first.extended = second.extended := congrArg WireFrame.extended same
  have request : first.remote = second.remote := congrArg WireFrame.remote same
  have length : first.canDlc.toNat = second.canDlc.toNat := congrArg WireFrame.length same
  have data : first.data.toList.take first.canDlc.toNat =
      second.data.toList.take second.canDlc.toNat := congrArg WireFrame.data same
  refine ⟨?_, UInt8.toNat_inj.mp length, by rw [data, length]⟩
  apply UInt32.toNat_inj.mp
  rw [wireId_toNat, wireId_toNat, same, extended, request]

end Received

end Mcp2515
