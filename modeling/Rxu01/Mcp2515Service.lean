import Rxu01.Mcp2515Mailbox
import Rxu01.Mcp2515Poll

set_option autoImplicit false

/- The driver keeps the chip a mailbox: from any idle state, whatever the chip does
by itself between the accesses. -/
namespace Mcp2515

open Peripheral (Passes World elapse exchange)

/-- At most one buffer is pending at any time, and none is overwritten. -/
def Orderly (before after : World Chip) : Prop := Passes Chip.OnePending Undisturbed before after

/-- The chip serves the mailbox, and a buffer holds this frame. -/
def Loaded (earlier : List Transmission) (mailbox : Mailbox Transmission) (txbn : TxBuffer)
    (content : WireFrame) (chip : Chip) : Prop :=
  Serves earlier mailbox chip ∧ chip.frame txbn = content

/-- The mailbox with that frame in that buffer submitted. -/
def Asked (earlier : List Transmission) (mailbox : Mailbox Transmission)
    (room : mailbox.pending = none) (txbn : TxBuffer) (content : WireFrame) (chip : Chip) : Prop :=
  ∃ load, Serves earlier (mailbox.submit ⟨txbn, load, content⟩ room) chip

theorem Asked.onePending {earlier : List Transmission} {mailbox : Mailbox Transmission}
    (room : mailbox.pending = none) (txbn : TxBuffer) (content : WireFrame) (chip : Chip)
    (asked : Asked earlier mailbox room txbn content chip) : chip.OnePending := by
  obtain ⟨load, serves⟩ := asked
  exact serves.onePending

theorem Loaded.own {earlier : List Transmission} {mailbox : Mailbox Transmission}
    {txbn : TxBuffer} {content : WireFrame} (before after : Chip) (own : Own before after)
    (loaded : Loaded earlier mailbox txbn content before) :
    Loaded earlier mailbox txbn content after :=
  ⟨loaded.1.own own, (own.frames txbn).trans loaded.2⟩

section Driver

variable (onReset : Chip → Chip) {moves : Nat → List (Chip → Chip)} (clock : Nat → Int)
  (own : OwnMoves moves) {earlier : List Transmission} {mailbox : Mailbox Transmission}

include own

/-- A transaction, by its effect on an invariant that the chip keeps by itself. -/
theorem exchange_orderly (sent : List UInt8) {Inv Inv' : Chip → Prop}
    (stable : ∀ before after, Own before after → Inv before → Inv after)
    (safe : ∀ chip, Inv chip → chip.OnePending) (safe' : ∀ chip, Inv' chip → chip.OnePending)
    (harmless : ∀ chip, Inv chip → ∀ txbn, overwrites sent txbn = true → chip.pending txbn = false)
    (effect : ∀ chip, Inv chip → Inv' (execute onReset sent chip).2)
    {world : World Chip} (start : Inv world.device) :
    Inv' (exchange (chipEnvironment onReset moves clock) sent world).2.device ∧
      Orderly world (exchange (chipEnvironment onReset moves clock) sent world).2 :=
  Peripheral.exchange_passes Chip.OnePending Undisturbed (chipEnvironment onReset moves clock)
    safe safe' (fun access move member chip => stable chip _ (own access move member chip))
    (fun chip _ holds txbn _ => harmless chip holds txbn) effect rfl start

theorem elapse_serves {world : World Chip} (serves : Serves earlier mailbox world.device) :
    Serves earlier mailbox (elapse (chipEnvironment onReset moves clock) world).device ∧
      Orderly world (elapse (chipEnvironment onReset moves clock) world) :=
  Peripheral.elapse_passes Chip.OnePending Undisturbed (chipEnvironment onReset moves clock)
    (fun _ serves => serves.onePending)
    (fun access move member chip => Serves.own (own access move member chip)) serves

/-- A transaction that leaves what the buffers hold alone. -/
theorem exchange_serves (sent : List UInt8) {Inv : Chip → Prop}
    (safe : ∀ chip, Inv chip → chip.OnePending)
    (harmless : ∀ txbn, overwrites sent txbn = false)
    (effect : ∀ chip, Serves earlier mailbox chip → Inv (execute onReset sent chip).2)
    {world : World Chip} (serves : Serves earlier mailbox world.device) :
    Inv (exchange (chipEnvironment onReset moves clock) sent world).2.device ∧
      Orderly world (exchange (chipEnvironment onReset moves clock) sent world).2 := by
  apply exchange_orderly onReset clock own sent (fun _ _ => Serves.own)
    (fun _ serves => serves.onePending) safe _ effect serves
  intro chip _ txbn touched
  rw [harmless txbn] at touched
  cases touched

theorem readRegister_serves (register : Register) {world : World Chip}
    (serves : Serves earlier mailbox world.device) :
    Serves earlier mailbox
        (readRegister (chipEnvironment onReset moves clock) register world).2.device ∧
      Orderly world (readRegister (chipEnvironment onReset moves clock) register world).2 ∧
      (readRegister (chipEnvironment onReset moves clock) register world).1 =
        (readRegister (chipEnvironment onReset moves clock) register world).2.device.registers
          register.toNat := by
  obtain ⟨after, orderly⟩ := exchange_serves onReset clock own [instructionRead, register, 0x00]
    (fun _ serves => serves.onePending) (overwrites_read register) (fun _ serves => serves) serves
  obtain ⟨value, device⟩ := readRegister_chip onReset moves clock world register
  exact ⟨after, orderly, by rw [value, device]⟩

/-- The wait returns with the job done, and until then the chip serves it. -/
theorem awaitTransmission_serves {txbn : TxBuffer}
    (buffer : ∀ job, mailbox.pending = some job → job.buffer = txbn) (deadline : Int) (fuel : Nat)
    {world : World Chip} (serves : Serves earlier mailbox world.device) :
    let ended := awaitTransmission (chipEnvironment onReset moves clock) txbn deadline fuel world
    Serves earlier mailbox ended.2.device ∧ Orderly world ended.2 ∧
      ∀ error, ended.1 = some error →
        error ≠ .allTxBusy ∧ Settled earlier mailbox ended.2.device := by
  induction fuel generalizing world with
  | zero => exact ⟨serves, Passes.refl world, fun error returned => by cases returned⟩
  | succ fuel ih =>
      obtain ⟨read, readOrderly, value⟩ := readRegister_serves onReset clock own txbn.ctrl serves
      obtain ⟨clocked, clockedOrderly⟩ := elapse_serves onReset clock own read
      unfold awaitTransmission
      dsimp only
      by_cases idle : (readRegister (chipEnvironment onReset moves clock) txbn.ctrl world).1 &&&
          txbTxreq = 0
      · rw [if_pos idle]
        rw [value] at idle
        have settled := read.settled buffer (bne_eq_false_iff_eq.mpr idle)
        split
        · exact ⟨read, readOrderly, fun error returned =>
            ⟨by cases returned; decide, settled⟩⟩
        · exact ⟨read, readOrderly, fun error returned =>
            ⟨by cases returned; decide, settled⟩⟩
      · rw [if_neg idle]
        split
        · obtain ⟨settled, aborted⟩ := exchange_serves onReset clock own
            [instructionBitmod, txbn.ctrl, txbTxreq, 0] (fun _ settled => settled.serves.onePending)
            (overwrites_control txbn txbTxreq 0) (fun _ serves => serves.withdraw txbn buffer)
            clocked
          exact ⟨settled.serves, (readOrderly.trans clockedOrderly).trans aborted,
            fun error returned => ⟨by cases returned; decide, settled⟩⟩
        · obtain ⟨waited, waitedOrderly⟩ := elapse_serves onReset clock own clocked
          obtain ⟨last, lastOrderly, returns⟩ := ih waited
          exact ⟨last, ((readOrderly.trans clockedOrderly).trans waitedOrderly).trans lastOrderly,
            returns⟩

section Request

variable (txbn : TxBuffer) {frame : CanFrame} {content : WireFrame} {world : World Chip}

theorem setRegisters_serves (fits : frame.canDlc.toNat ≤ canMaxDlen)
    (room : mailbox.pending = none) (serves : Serves earlier mailbox world.device) :
    Loaded earlier mailbox txbn frame.onWire
        (setRegisters (chipEnvironment onReset moves clock) txbn.sidh (loadBytes frame)
          world).device ∧
      Orderly world
        (setRegisters (chipEnvironment onReset moves clock) txbn.sidh (loadBytes frame) world) := by
  apply exchange_orderly onReset clock own _ (fun _ _ => Serves.own)
    (fun _ serves => serves.onePending) (fun _ loaded => loaded.1.onePending) _ _ serves
  · intro chip serves buffer _
    exact (serves.room room).idle room buffer
  · intro chip serves
    obtain ⟨written, content⟩ := (serves.room room).write txbn room fits
    exact ⟨⟨mailbox, Mailbox.Drains.refl mailbox, written⟩, content⟩

/-- A change of the control register of a loaded buffer. -/
theorem modifyRegister_loaded (mask data : UInt8) {Inv : Chip → Prop}
    (safe : ∀ chip, Inv chip → chip.OnePending)
    (effect : ∀ chip, Loaded earlier mailbox txbn content chip →
      Inv (chip.setRegister txbn.ctrl.toNat
        (bitModify (chip.registers txbn.ctrl.toNat) mask data)))
    (loaded : Loaded earlier mailbox txbn content world.device) :
    Inv (modifyRegister (chipEnvironment onReset moves clock) txbn.ctrl mask data world).device ∧
      Orderly world
        (modifyRegister (chipEnvironment onReset moves clock) txbn.ctrl mask data world) := by
  apply exchange_orderly onReset clock own _ Loaded.own (fun _ loaded => loaded.1.onePending) safe
    _ effect loaded
  intro chip _ buffer touched
  rw [overwrites_control] at touched
  cases touched

/-- Loading a buffer of an idle chip and asking it to send. -/
theorem requestTransmission_serves (fits : frame.canDlc.toNat ≤ canMaxDlen)
    (room : mailbox.pending = none) (serves : Serves earlier mailbox world.device) :
    Asked earlier mailbox room txbn frame.onWire
        (requestTransmission (chipEnvironment onReset moves clock) txbn frame world).device ∧
      Orderly world (requestTransmission (chipEnvironment onReset moves clock) txbn frame world) := by
  obtain ⟨loaded, loadOrderly⟩ := setRegisters_serves onReset clock own txbn fits room serves
  obtain ⟨cleared, clearOrderly⟩ := modifyRegister_loaded onReset clock own txbn
    (txbAbtf ||| txbMloa ||| txbTxerr) 0
    (fun _ (loaded : Loaded earlier mailbox txbn frame.onWire _) => loaded.1.onePending)
    (fun chip loaded => ⟨⟨mailbox, Mailbox.Drains.refl mailbox,
      (loaded.1.room room).clear txbn (by decide)⟩,
      (setRegister_frame chip txbn txbn _).trans loaded.2⟩) loaded
  obtain ⟨asked, askOrderly⟩ := modifyRegister_loaded onReset clock own txbn txbTxreq txbTxreq
    (Asked.onePending room txbn frame.onWire)
    (fun chip loaded => by
      have submitted := (loaded.1.room room).request txbn room
      rw [loaded.2] at submitted
      exact ⟨chip.loads txbn, _, Mailbox.Drains.refl _, submitted⟩) cleared
  exact ⟨asked, (loadOrderly.trans clearOrderly).trans askOrderly⟩

end Request

/-- A call on an idle chip: it submits the frame, and returns with the frame done. -/
theorem sendMessage_serves {frame : CanFrame} (fits : frame.canDlc.toNat ≤ canMaxDlen)
    (timeoutMs : UInt32) (fuel : Nat) {world : World Chip} (room : mailbox.pending = none)
    (serves : Serves earlier mailbox world.device) :
    let sent := sendMessage (chipEnvironment onReset moves clock) frame timeoutMs fuel world
    Orderly world sent.2 ∧
      ∃ load, Serves earlier (mailbox.submit ⟨.txb0, load, frame.onWire⟩ room) sent.2.device ∧
        ∀ error, sent.1 = some error → error ≠ .allTxBusy ∧
          Settled earlier (mailbox.submit ⟨.txb0, load, frame.onWire⟩ room) sent.2.device := by
  obtain ⟨read, readOrderly, value⟩ :=
    readRegister_serves onReset clock own TxBuffer.txb0.ctrl serves
  have found : findFreeBuffer (chipEnvironment onReset moves clock) txBuffers world =
      (some .txb0, (readRegister (chipEnvironment onReset moves clock) TxBuffer.txb0.ctrl
        world).2) := by
    have idle := bne_eq_false_iff_eq.mp ((read.room room).idle room .txb0)
    unfold Chip.control at idle
    rw [← value] at idle
    unfold txBuffers findFreeBuffer
    dsimp only
    rw [if_pos idle]
  obtain ⟨asked, askOrderly⟩ := requestTransmission_serves onReset clock own .txb0 fits room read
  obtain ⟨load, submitted⟩ := asked
  obtain ⟨waiting, waitOrderly⟩ := elapse_serves onReset clock own submitted
  obtain ⟨ended, endOrderly, returns⟩ := awaitTransmission_serves onReset clock own
    (fun job pending => congrArg Transmission.buffer (Option.some.inj pending).symm)
    (clock ((readRegister (chipEnvironment onReset moves clock) TxBuffer.txb0.ctrl
      world).2.accesses + 3) + timeoutMs.toNat * 1000) fuel waiting
  dsimp only
  rw [sendMessage_found _ .txb0 fits timeoutMs fuel found]
  exact ⟨((readOrderly.trans askOrderly).trans waitOrderly).trans endOrderly, load, ended, returns⟩

end Driver

end Mcp2515
