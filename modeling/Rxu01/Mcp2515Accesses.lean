import Rxu01.Mcp2515

set_option autoImplicit false

/- What `sendMessage` does on the bus: an invariant that its accesses keep is kept by the
whole call. -/
namespace Mcp2515

open Peripheral (Environment World elapse exchange)

/-- A transaction of `sendMessage`. -/
inductive SendAccess (frame : CanFrame) : List UInt8 → Prop where
  | read (txbn : TxBuffer) : SendAccess frame [instructionRead, txbn.ctrl, 0x00]
  | load (txbn : TxBuffer) (fits : frame.canDlc.toNat ≤ canMaxDlen) :
      SendAccess frame (instructionWrite :: txbn.sidh :: loadBytes frame)
  | control (txbn : TxBuffer) (mask data : UInt8) :
      SendAccess frame [instructionBitmod, txbn.ctrl, mask, data]

variable {δ : Type} (env : Environment δ) (frame : CanFrame) (Inv : World δ → Prop)

/-- Neither the time up to an access nor a transaction of `sendMessage` breaks it. -/
structure SendKeeps : Prop where
  elapse : ∀ world, Inv world → Inv (elapse env world)
  exchange : ∀ world sent, SendAccess frame sent → Inv world → Inv (exchange env sent world).2

section Sending

variable {env frame Inv} (keeps : SendKeeps env frame Inv)
include keeps

theorem findFreeBuffer_keeps (buffers : List TxBuffer) {world : World δ} (held : Inv world) :
    Inv (findFreeBuffer env buffers world).2 := by
  induction buffers generalizing world with
  | nil => exact held
  | cons txbn rest ih =>
      have read := keeps.exchange world _ (SendAccess.read txbn) held
      unfold findFreeBuffer
      dsimp only
      split
      · exact read
      · exact ih read

theorem awaitTransmission_keeps (txbn : TxBuffer) (deadline : Int) (fuel : Nat) {world : World δ}
    (held : Inv world) : Inv (awaitTransmission env txbn deadline fuel world).2 := by
  induction fuel generalizing world with
  | zero => exact held
  | succ fuel ih =>
      have read := keeps.exchange world _ (SendAccess.read txbn) held
      have clock := keeps.elapse _ read
      unfold awaitTransmission
      dsimp only
      split
      · split
        · exact read
        · exact read
      · split
        · exact keeps.exchange _ _ (SendAccess.control txbn txbTxreq 0) clock
        · exact ih (keeps.elapse _ clock)

theorem requestTransmission_keeps (txbn : TxBuffer) (fits : frame.canDlc.toNat ≤ canMaxDlen)
    {world : World δ} (held : Inv world) : Inv (requestTransmission env txbn frame world) := by
  have load := keeps.exchange world _ (SendAccess.load txbn fits) held
  have cleared := keeps.exchange _ _
    (SendAccess.control txbn (txbAbtf ||| txbMloa ||| txbTxerr) 0) load
  exact keeps.exchange _ _ (SendAccess.control txbn txbTxreq txbTxreq) cleared

theorem sendMessageOn_keeps (txbn : TxBuffer) (timeoutMs : UInt32) (fuel : Nat)
    {world : World δ} (held : Inv world) :
    Inv (sendMessageOn env txbn frame timeoutMs fuel world).2 := by
  unfold sendMessageOn
  split
  · exact held
  · rename_i fits
    have requested := requestTransmission_keeps keeps txbn (Nat.not_lt.mp fits) held
    exact awaitTransmission_keeps keeps txbn _ fuel (keeps.elapse _ requested)

theorem sendMessage_keeps (timeoutMs : UInt32) (fuel : Nat) {world : World δ} (held : Inv world) :
    Inv (sendMessage env frame timeoutMs fuel world).2 := by
  unfold sendMessage
  split
  · exact held
  · have found := findFreeBuffer_keeps keeps txBuffers held
    split
    · rename_i txbn free same
      rw [same] at found
      exact sendMessageOn_keeps keeps txbn timeoutMs fuel found
    · rename_i busy same
      rw [same] at found
      exact found

end Sending

end Mcp2515
