import Rxu01.ApplicationCan
import Rxu01.CanCommandRouterFrames
import Rxu01.Mcp2515Frame
import Rxu01.VehicleCanProtocol

set_option autoImplicit false

/- What one call of `transmit_can_frame` writes to the chip. -/
namespace Mcp2515

open Peripheral (Environment Exchange Records World)

variable {δ : Type} (env : Environment δ)

/-- A read, or a change of the control register of the buffer. -/
def ControlOnly (txbn : TxBuffer) (entry : Exchange δ) : Prop :=
  (∃ register, entry.sent = [instructionRead, register, 0x00]) ∨
    ∃ mask data, entry.sent = [instructionBitmod, txbn.ctrl, mask, data]

theorem readRegister_control (register : Register) (txbn : TxBuffer) (world : World δ) :
    Records (ControlOnly txbn) world (readRegister env register world).2 := by
  apply Peripheral.exchange_records
  intro entry sent
  exact Or.inl ⟨register, sent⟩

theorem modifyRegister_control (txbn : TxBuffer) (mask data : UInt8) (world : World δ) :
    Records (ControlOnly txbn) world (modifyRegister env txbn.ctrl mask data world) := by
  apply Peripheral.exchange_records
  intro entry sent
  exact Or.inr ⟨mask, data, sent⟩

theorem findFreeBuffer_control (buffers : List TxBuffer) (txbn : TxBuffer) (world : World δ) :
    Records (ControlOnly txbn) world (findFreeBuffer env buffers world).2 := by
  induction buffers generalizing world with
  | nil => exact Records.refl world
  | cons buffer rest ih =>
      have read := readRegister_control env buffer.ctrl txbn world
      unfold findFreeBuffer
      dsimp only
      split
      · exact read
      · exact read.trans (ih _)

theorem awaitTransmission_control (txbn : TxBuffer) (deadline : Int) (fuel : Nat)
    (world : World δ) :
    Records (ControlOnly txbn) world (awaitTransmission env txbn deadline fuel world).2 := by
  induction fuel generalizing world with
  | zero => exact Records.refl world
  | succ fuel ih =>
      have read := readRegister_control env txbn.ctrl txbn world
      have clock := read.trans (Peripheral.elapse_records env (readRegister env txbn.ctrl world).2)
      unfold awaitTransmission
      dsimp only
      split
      · split
        · exact read
        · exact read
      · split
        · exact clock.trans (modifyRegister_control env txbn _ _ _)
        · exact (clock.trans (Peripheral.elapse_records env _)).trans (ih _)

/-- One write from `SIDH` on, and no other outside the control register. -/
theorem sendMessageOn_writes (txbn : TxBuffer) (frame : CanFrame) (timeoutMs : UInt32)
    (fuel : Nat) (world : World δ) (fits : frame.canDlc.toNat ≤ canMaxDlen) :
    ∃ load entries,
      (sendMessageOn env txbn frame timeoutMs fuel world).2.exchanges =
        world.exchanges ++ load :: entries ∧
      load.sent = instructionWrite :: txbn.sidh :: loadBytes frame ∧
      load.delivered = env.delivered world.accesses ∧
      ∀ entry ∈ entries, ControlOnly txbn entry := by
  obtain ⟨load, loaded, sent, delivered, _⟩ := Peripheral.exchange_recorded env world
    (instructionWrite :: txbn.sidh :: loadBytes frame)
  have rest : Records (ControlOnly txbn) (setRegisters env txbn.sidh (loadBytes frame) world)
      (sendMessageOn env txbn frame timeoutMs fuel world).2 := by
    unfold sendMessageOn
    rw [if_neg (Nat.not_lt.mpr fits)]
    apply Records.trans _ (awaitTransmission_control env txbn _ fuel _)
    apply Records.trans _ (Peripheral.elapse_records env _)
    exact (modifyRegister_control env txbn _ _ _).trans (modifyRegister_control env txbn _ _ _)
  obtain ⟨entries, grown, allowed⟩ := rest
  refine ⟨load, entries, ?_, sent, delivered, allowed⟩
  rw [grown]
  unfold setRegisters
  rw [loaded, List.append_assoc, List.singleton_append]

theorem sendMessage_writes (txbn : TxBuffer) (frame : CanFrame) (timeoutMs : UInt32)
    (fuel : Nat) (world : World δ) (fits : frame.canDlc.toNat ≤ canMaxDlen)
    (chosen : (findFreeBuffer env txBuffers world).1 = some txbn) :
    ∃ before load after,
      (sendMessage env frame timeoutMs fuel world).2.exchanges =
        world.exchanges ++ (before ++ load :: after) ∧
      load.sent = instructionWrite :: txbn.sidh :: loadBytes frame ∧
      (load.delivered = true ↔
        env.delivered (findFreeBuffer env txBuffers world).2.accesses = true) ∧
      ∀ entry ∈ before ++ after, ControlOnly txbn entry := by
  obtain ⟨entries, scanned, allowed⟩ := findFreeBuffer_control env txBuffers txbn world
  have split : findFreeBuffer env txBuffers world =
      (some txbn, (findFreeBuffer env txBuffers world).2) := Prod.ext chosen rfl
  obtain ⟨load, rest, written, sent, delivered, allowedRest⟩ := sendMessageOn_writes env txbn frame
    timeoutMs fuel (findFreeBuffer env txBuffers world).2 fits
  refine ⟨entries, load, rest, ?_, sent, by rw [delivered], ?_⟩
  · unfold sendMessage
    rw [if_neg (Nat.not_lt.mpr fits), split]
    dsimp only
    rw [written, scanned, List.append_assoc]
  · intro entry member
    rcases List.mem_append.mp member with early | late
    · exact allowed entry early
    · exact allowedRest entry late

end Mcp2515

namespace CanCommandRouter

/-- A built frame has an identifier of its kind and at most eight data bytes. -/
theorem buildFrame_bounds {message : RemoteProtocol.Message} {config : Config} {frame : CanFrame}
    (built : buildFrame message config = (.ok, frame)) :
    frame.identifier.toNat < (if frame.extendedIdentifier then 2 ^ 29 else 2 ^ 11) ∧
      frame.dataLength.toNat ≤ classicCanMaxDataLength := by
  obtain ⟨route, ecu, routed, rfl⟩ := (buildFrame_ok_iff _ _ _).mp built
  have carries := routed.carries
  exact ⟨(identifier_bits _ _).mp carries.bound, carries.fits⟩

end CanCommandRouter

namespace Application

open CanManager (Manager)
open Mcp2515 (ControlOnly TxBuffer WireFrame findFreeBuffer readBack txBuffers)
open Peripheral (Environment)

/-- What a frame of the router means on the bus. -/
def wireFrame (frame : CanCommandRouter.CanFrame) : WireFrame :=
  { identifier := frame.identifier.toNat
    extended := frame.extendedIdentifier
    remote := false
    length := frame.dataLength.toNat
    data := frame.bytes }

theorem destinationFrame_canId (frame : CanCommandRouter.CanFrame)
    (identifier : frame.identifier.toNat <
      (if frame.extendedIdentifier then 2 ^ 29 else 2 ^ 11)) :
    (destinationFrame frame).canId.toNat =
      frame.identifier.toNat + (if frame.extendedIdentifier then 2 ^ 31 else 0) := by
  unfold destinationFrame
  dsimp only
  split
  · rename_i extended
    rw [if_pos extended] at identifier
    have joined := Nat.two_pow_add_eq_or_of_lt
      (show frame.identifier.toNat < 2 ^ 31 by omega) 1
    rw [UInt32.toNat_or, show UInt32.toNat Mcp2515.canEffFlag = 2 ^ 31 * 1 from rfl, Nat.or_comm,
      ← joined]
    omega
  · rfl

/-- The flag bits of `can_id` say what the frame says: nothing leaks into them
from an identifier in range. -/
theorem destinationFrame_onWire (frame : CanCommandRouter.CanFrame)
    (identifier : frame.identifier.toNat <
      (if frame.extendedIdentifier then 2 ^ 29 else 2 ^ 11))
    (length : frame.dataLength.toNat ≤ CanCommandRouter.classicCanMaxDataLength) :
    (destinationFrame frame).onWire = wireFrame frame := by
  have canId := destinationFrame_canId frame identifier
  have effValue := Mcp2515.uint32_and (destinationFrame frame).canId Mcp2515.canEffFlag 31 1 rfl
  have rtrValue := Mcp2515.uint32_and (destinationFrame frame).canId Mcp2515.canRtrFlag 30 1 rfl
  have sffValue := Mcp2515.uint32_and (destinationFrame frame).canId Mcp2515.canSffMask 0 11 rfl
  have effMaskValue := Mcp2515.uint32_and (destinationFrame frame).canId Mcp2515.canEffMask 0 29 rfl
  have remote : (destinationFrame frame).remote = false := by
    apply bne_eq_false_iff_eq.mpr
    apply UInt32.toNat_inj.mp
    rw [rtrValue, canId, show UInt32.toNat 0 = 0 from rfl]
    split at identifier <;> split <;> omega
  have extended : (destinationFrame frame).extended = frame.extendedIdentifier := by
    cases ext : frame.extendedIdentifier with
    | true =>
        apply bne_iff_ne.mpr
        intro zero
        rw [zero, canId, if_pos ext, show UInt32.toNat 0 = 0 from rfl] at effValue
        rw [if_pos ext] at identifier
        omega
    | false =>
        apply bne_eq_false_iff_eq.mpr
        apply UInt32.toNat_inj.mp
        rw [effValue, canId, if_neg (by rw [ext]; exact Bool.false_ne_true),
          show UInt32.toNat 0 = 0 from rfl]
        rw [if_neg (by rw [ext]; exact Bool.false_ne_true)] at identifier
        omega
  have bits : ((destinationFrame frame).canId &&&
      (if frame.extendedIdentifier then Mcp2515.canEffMask else Mcp2515.canSffMask)).toNat =
        frame.identifier.toNat := by
    split
    · rename_i ext
      rw [if_pos ext] at canId identifier
      rw [effMaskValue, canId]
      omega
    · rename_i ext
      rw [if_neg ext] at canId identifier
      rw [sffValue, canId]
      omega
  have data : (destinationFrame frame).data.toList.take frame.dataLength.toNat = frame.bytes := by
    have count : frame.bytes.length = frame.dataLength.toNat := by
      rw [CanCommandRouter.CanFrame.bytes, List.length_take, Vector.length_toList]
      exact Nat.min_eq_left length
    rw [← count]
    exact Bytes.padded_take Mcp2515.canMaxDlen frame.bytes 0 (Nat.le_trans (Nat.le_of_eq count) length)
  unfold Mcp2515.CanFrame.onWire wireFrame
  rw [remote, extended, bits]
  exact congrArg _ data

variable {δ : Type}

/-- One call of the callback on a built frame writes the chosen buffer from `SIDH`
on with registers that read back as that frame, and besides that only the
buffer's control register. -/
theorem transmitCanFrame_writes (env : Environment δ)
    (reached : ∀ access, env.delivered access = true) (config : CanCommandRouter.Config)
    (message : RemoteProtocol.Message) (frame : CanCommandRouter.CanFrame)
    (built : CanCommandRouter.buildFrame message config = (.ok, frame)) (manager : Manager δ)
    (started : manager.initialized = true) (txbn : TxBuffer)
    (chosen : (findFreeBuffer env txBuffers manager.world).1 = some txbn) (fuel : Nat) :
    ∃ after before load rest bytes,
      (transmitCanFrame env fuel frame (some manager)).2 = some after ∧
      after.world.exchanges = manager.world.exchanges ++ (before ++ load :: rest) ∧
      load.sent = Mcp2515.instructionWrite :: txbn.sidh :: bytes ∧
      load.delivered = true ∧
      bytes.length = 5 + frame.dataLength.toNat ∧
      (∀ cell : Nat → UInt8,
        (∀ index < 5 + frame.dataLength.toNat, cell index = bytes.getD index 0) →
          readBack cell = wireFrame frame) ∧
      ∀ entry ∈ before ++ rest, ControlOnly txbn entry := by
  obtain ⟨identifier, length⟩ := CanCommandRouter.buildFrame_bounds built
  obtain ⟨before, load, rest, written, sent, delivered, others⟩ :=
    Mcp2515.sendMessage_writes env txbn (destinationFrame frame) manager.config.transmitTimeoutMs
      fuel manager.world length chosen
  refine ⟨(CanManager.send env fuel (destinationFrame frame) manager).2, before, load, rest,
    Mcp2515.loadBytes (destinationFrame frame), ?_, ?_, sent, delivered.mpr (reached _),
    Mcp2515.loadBytes_length _ length, ?_, others⟩
  · unfold transmitCanFrame
    dsimp only
    rw [if_neg (Nat.not_lt.mpr length)]
  · have fits : (destinationFrame frame).canDlc.toNat ≤ Mcp2515.canMaxDlen := length
    unfold CanManager.send
    rw [started, if_neg (by decide), if_neg (Nat.not_lt.mpr fits)]
    exact written
  · intro cell loaded
    rw [Mcp2515.readBack_loadBytes (destinationFrame frame) length cell loaded,
      destinationFrame_onWire frame identifier length]

theorem transmitCanFrame_writes_version :
    ∃ after, (transmitCanFrame Peripheral.silentEnvironment 1
        { identifier := 0x101, dataLength := 1, data := CanCommandRouter.commandData 1 [] }
        (some { initialized := true, world := { device := () } })).2 = some after ∧
      ∃ load ∈ after.world.exchanges, load.delivered = true := by
  obtain ⟨after, before, load, rest, _, made, record, _, delivered, _⟩ :=
    transmitCanFrame_writes Peripheral.silentEnvironment (fun _ => rfl)
      VehicleCanProtocol.makeCommandRouterConfig { messageId := 0x0101 } _ rfl
      { initialized := true, world := { device := () } } rfl .txb0 rfl 1
  refine ⟨after, made, load, ?_, delivered⟩
  rw [record]
  simp

end Application
