import Rxu01.Mailbox
import Rxu01.Mcp2515Transmission

set_option autoImplicit false

/- The transmit side of the chip as a mailbox: what the chip may do by itself, and
what each transaction of the driver does to it. -/
namespace Mcp2515

/-- A step of the chip by itself: it may clear `TXREQ` but does not set it, it does
not touch what a buffer holds, and it sends nothing but the frame of a pending
buffer, which is then no longer pending. -/
structure Own (before after : Chip) : Prop where
  requests : ∀ txbn, after.pending txbn = true → before.pending txbn = true
  frames : ∀ txbn, after.frame txbn = before.frame txbn
  loads : after.loads = before.loads
  bus : after.bus = before.bus ∨ ∃ txbn, before.pending txbn = true ∧
    after.pending txbn = false ∧
      after.bus = before.bus ++ [⟨txbn, before.loads txbn, before.frame txbn⟩]

/-- The chip's moves, at every access. -/
def OwnMoves (moves : Nat → List (Chip → Chip)) : Prop :=
  ∀ access, ∀ move ∈ moves access, ∀ chip, Own chip (move chip)

/-- No buffer is pending. -/
def Chip.Idle (chip : Chip) : Prop := ∀ txbn, chip.pending txbn = false

def Chip.OnePending (chip : Chip) : Prop :=
  ∀ first second, chip.pending first = true → chip.pending second = true → first = second

/-- The pending buffer holds the job of the mailbox, and `earlier` and the delivered
jobs are what was sent. -/
structure Models (earlier : List Transmission) (mailbox : Mailbox Transmission) (chip : Chip) :
    Prop where
  bus : chip.bus = earlier ++ mailbox.delivered
  waits : ∀ txbn, chip.pending txbn = true →
    mailbox.pending = some ⟨txbn, chip.loads txbn, chip.frame txbn⟩
  asked : ∀ job, mailbox.pending = some job → chip.pending job.buffer = true

/-- What the mailbox may have become by the chip alone. -/
def Serves (earlier : List Transmission) (mailbox : Mailbox Transmission) (chip : Chip) : Prop :=
  ∃ drained, mailbox.Drains drained ∧ Models earlier drained chip

/-- The same, with nothing left to do. -/
def Settled (earlier : List Transmission) (mailbox : Mailbox Transmission) (chip : Chip) : Prop :=
  ∃ drained, mailbox.Drains drained ∧ drained.pending = none ∧ Models earlier drained chip

section Invariant

variable {earlier : List Transmission} {mailbox : Mailbox Transmission} {chip before after : Chip}

theorem Models.onePending (models : Models earlier mailbox chip) : chip.OnePending := by
  intro first second firstPending secondPending
  have same := (models.waits first firstPending).symm.trans (models.waits second secondPending)
  exact congrArg Transmission.buffer (Option.some.inj same)

theorem Models.idle (models : Models earlier mailbox chip) (room : mailbox.pending = none) :
    chip.Idle := by
  intro txbn
  rw [← Bool.not_eq_true]
  intro pending
  have job := models.waits txbn pending
  rw [room] at job
  cases job

theorem Models.of_idle (bus : chip.bus = earlier ++ mailbox.delivered)
    (room : mailbox.pending = none) (idle : chip.Idle) : Models earlier mailbox chip := by
  refine ⟨bus, ?_, ?_⟩
  · intro txbn pending
    rw [idle txbn] at pending
    cases pending
  · intro job waiting
    rw [room] at waiting
    cases waiting

/-- A step of the chip delivers the job, withdraws it or leaves it. -/
theorem Own.models (own : Own before after) (models : Models earlier mailbox before) :
    Serves earlier mailbox after := by
  rcases own.bus with same | ⟨txbn, pending, done, sent⟩
  · cases waiting : mailbox.pending with
    | none =>
        refine ⟨mailbox, Mailbox.Drains.refl mailbox, Models.of_idle ?_ waiting ?_⟩
        · rw [same]
          exact models.bus
        · intro txbn
          rw [← Bool.not_eq_true]
          intro pending
          have quiet := models.idle waiting txbn
          rw [own.requests txbn pending] at quiet
          cases quiet
    | some job =>
        cases still : after.pending job.buffer with
        | true =>
            refine ⟨mailbox, Mailbox.Drains.refl mailbox, by rw [same]; exact models.bus, ?_, ?_⟩
            · intro txbn pending
              rw [own.loads, own.frames]
              exact models.waits txbn (own.requests txbn pending)
            · intro other found
              rw [waiting] at found
              obtain rfl := Option.some.inj found
              exact still
        | false =>
            refine ⟨mailbox.withdraw, Or.inr (Or.inr rfl), Models.of_idle ?_ rfl ?_⟩
            · rw [same]
              exact models.bus
            · intro txbn
              rw [← Bool.not_eq_true]
              intro pending
              have one := models.onePending txbn job.buffer (own.requests txbn pending)
                (models.asked job waiting)
              rw [one, still] at pending
              cases pending
  · have waiting := models.waits txbn pending
    refine ⟨mailbox.deliver, Or.inr (Or.inl rfl), Models.of_idle ?_ rfl ?_⟩
    · rw [sent, models.bus, List.append_assoc, Mailbox.deliver_delivered, waiting]
      rfl
    · intro other
      rw [← Bool.not_eq_true]
      intro stays
      have one := models.onePending other txbn (own.requests other stays) pending
      rw [one, done] at stays
      cases stays

theorem Serves.own (own : Own before after) (serves : Serves earlier mailbox before) :
    Serves earlier mailbox after := by
  obtain ⟨drained, drains, models⟩ := serves
  obtain ⟨next, drains', models'⟩ := own.models models
  exact ⟨next, drains.trans drains', models'⟩

theorem Serves.onePending (serves : Serves earlier mailbox chip) : chip.OnePending := by
  obtain ⟨_, _, models⟩ := serves
  exact models.onePending

theorem Serves.room (serves : Serves earlier mailbox chip) (room : mailbox.pending = none) :
    Models earlier mailbox chip := by
  obtain ⟨drained, drains, models⟩ := serves
  rw [drains.room room] at models
  exact models

/-- A job that can only be in one buffer, which is not pending, is done. -/
theorem Serves.settled (serves : Serves earlier mailbox chip) {txbn : TxBuffer}
    (buffer : ∀ job, mailbox.pending = some job → job.buffer = txbn)
    (idle : chip.pending txbn = false) : Settled earlier mailbox chip := by
  obtain ⟨drained, drains, models⟩ := serves
  refine ⟨drained, drains, ?_, models⟩
  rcases drains.pending with same | none
  · rw [Option.eq_none_iff_forall_ne_some]
    intro job waiting
    have pending := models.asked job waiting
    rw [buffer job (same.symm.trans waiting), idle] at pending
    cases pending
  · exact none

theorem Settled.serves (settled : Settled earlier mailbox chip) : Serves earlier mailbox chip := by
  obtain ⟨drained, drains, _, models⟩ := settled
  exact ⟨drained, drains, models⟩

end Invariant

/-- The transaction writes to a register of the buffer from `SIDH` on. -/
def overwrites (sent : List UInt8) (txbn : TxBuffer) : Bool :=
  match sent with
  | [instruction] => instruction == instructionReset
  | instruction :: address :: arguments =>
      let count := if instruction = instructionWrite then arguments.length
        else if instruction = instructionBitmod then 1 else 0
      (List.range count).any (fun offset =>
        txbn.sidh.toNat ≤ address.toNat + offset && address.toNat + offset < txbn.sidh.toNat + 13)
  | [] => false

/-- A transaction that gets through overwrites no pending buffer. -/
def Undisturbed (entry : Peripheral.Exchange Chip) : Prop :=
  ∀ txbn, entry.delivered = true → overwrites entry.sent txbn = true →
    entry.before.pending txbn = false

theorem overwrites_read (register : Register) (txbn : TxBuffer) :
    overwrites [instructionRead, register, 0x00] txbn = false := rfl

theorem overwrites_control (buffer : TxBuffer) (mask data : UInt8) (txbn : TxBuffer) :
    overwrites [instructionBitmod, buffer.ctrl, mask, data] txbn = false := by
  cases buffer <;> cases txbn <;> rfl

section Registers

variable (chip : Chip) (txbn : TxBuffer)

/-- A frame is what its thirteen registers say. -/
theorem readBack_congr {first second : Nat → UInt8}
    (same : ∀ index < 13, first index = second index) : readBack first = readBack second := by
  have data : ∀ length, length ≤ canMaxDlen →
      (List.range length).map (fun index => first (5 + index)) =
        (List.range length).map (fun index => second (5 + index)) := by
    intro length short
    change length ≤ 8 at short
    apply List.map_congr_left
    intro index inside
    have below := List.mem_range.mp inside
    exact same (5 + index) (by omega)
  unfold readBack
  rw [same 0 (by omega), same 1 (by omega), same 2 (by omega), same 3 (by omega),
    same 4 (by omega)]
  dsimp only
  rw [data _ (Nat.min_le_right _ _)]

theorem setRegister_pending_other {buffer : TxBuffer} (other : buffer ≠ txbn) (value : UInt8) :
    (chip.setRegister txbn.ctrl.toNat value).pending buffer = chip.pending buffer := by
  unfold Chip.pending
  rw [control_setRegister_other other]

theorem setRegister_frame (buffer : TxBuffer) (value : UInt8) :
    (chip.setRegister txbn.ctrl.toNat value).frame buffer = chip.frame buffer := by
  apply readBack_congr
  intro index inside
  apply setRegister_other
  rw [sidh_eq]
  rcases buffer_apart buffer txbn with rfl | below | above
  · omega
  · omega
  · omega

theorem modify_pending (mask data : UInt8) :
    (chip.setRegister txbn.ctrl.toNat
      (bitModify (chip.registers txbn.ctrl.toNat) mask data)).pending txbn =
        (bitModify (chip.control txbn) mask data &&& txbTxreq != 0) := by
  unfold Chip.pending
  rw [bitModify_control]

theorem inTxBuffers_content {index : Nat} (inside : index < 13) :
    inTxBuffers (txbn.sidh.toNat + index) = true := by
  rw [sidh_eq]
  apply List.any_eq_true.mpr
  refine ⟨txbn, by cases txbn <;> decide, ?_⟩
  rw [Bool.and_eq_true, decide_eq_true_eq, decide_eq_true_eq]
  omega

/-- A chip that sends by itself, retries after errors and receives takes only such
steps. -/
theorem act_own (action : Action) : Own chip (chip.act action) := by
  cases action with
  | recordError buffer =>
      unfold Chip.act
      dsimp only
      split
      · refine ⟨?_, fun other => setRegister_frame chip buffer other _, rfl, Or.inl rfl⟩
        intro other pending
        by_cases same : other = buffer
        · subst same
          assumption
        · rw [setRegister_pending_other chip buffer same] at pending
          exact pending
      · exact ⟨fun _ pending => pending, fun _ => rfl, rfl, Or.inl rfl⟩
  | complete buffer =>
      unfold Chip.act
      dsimp only
      split
      · rename_i pending
        have done : (chip.complete buffer).pending buffer = false := by
          have value := setRegister_same buffer.ctrl.toNat (chip.control buffer &&& ~~~txbTxreq) chip
          change ((chip.setRegister buffer.ctrl.toNat _).registers buffer.ctrl.toNat &&& txbTxreq
            != 0) = false
          rw [value, Bytes.clear_bits]
          rfl
        refine ⟨?_, fun other => setRegister_frame chip buffer other _, rfl,
          Or.inr ⟨buffer, pending, done, rfl⟩⟩
        intro other stays
        by_cases same : other = buffer
        · rw [same]
          exact pending
        · rw [← setRegister_pending_other chip buffer same (chip.control buffer &&& ~~~txbTxreq)]
          exact stays
      · exact ⟨fun _ pending => pending, fun _ => rfl, rfl, Or.inl rfl⟩
  | elsewhere values =>
      refine ⟨?_, ?_, rfl, Or.inl rfl⟩
      · intro other pending
        have kept : (chip.act (.elsewhere values)).control other = chip.control other :=
          if_pos (inTxBuffers_ctrl other)
        unfold Chip.pending at pending ⊢
        rw [kept] at pending
        exact pending
      · intro other
        apply readBack_congr
        intro index inside
        exact if_pos (inTxBuffers_content other inside)

theorem promptMoves_own : OwnMoves promptMoves := by
  intro access move member chip
  rcases List.mem_pair.mp member with rfl | rfl
  · exact act_own chip _
  · unfold Chip.sendNormal
    split
    · exact act_own chip _
    · exact ⟨fun _ pending => pending, fun _ => rfl, rfl, Or.inl rfl⟩

end Registers

section Effects

variable {earlier : List Transmission} {mailbox : Mailbox Transmission} {chip : Chip}
  (txbn : TxBuffer)

/-- Loading a buffer of an idle chip. -/
theorem Models.write (models : Models earlier mailbox chip) (room : mailbox.pending = none)
    {frame : CanFrame} (fits : frame.canDlc.toNat ≤ canMaxDlen) :
    Models earlier mailbox (chip.write txbn.sidh.toNat (loadBytes frame)) ∧
      (chip.write txbn.sidh.toNat (loadBytes frame)).frame txbn = frame.onWire := by
  obtain ⟨_, control, bus⟩ := write_load chip txbn frame fits
  constructor
  · apply Models.of_idle (bus.trans models.bus) room
    intro buffer
    unfold Chip.pending
    rw [control]
    exact models.idle room buffer
  · apply readBack_loadBytes frame fits
    intro index inside
    rw [← loadBytes_length frame fits] at inside
    exact overwrite_inside chip.registers inside

/-- Clearing bits other than `TXREQ`. -/
theorem Models.clear (models : Models earlier mailbox chip) {mask : UInt8}
    (apart : mask &&& txbTxreq = 0) :
    Models earlier mailbox (chip.setRegister txbn.ctrl.toNat
      (bitModify (chip.registers txbn.ctrl.toNat) mask 0)) := by
  have pending : ∀ buffer, (chip.setRegister txbn.ctrl.toNat
      (bitModify (chip.registers txbn.ctrl.toNat) mask 0)).pending buffer =
        chip.pending buffer := by
    intro buffer
    by_cases same : buffer = txbn
    · rw [same, modify_pending, bitModify_keep _ _ _ _ apart]
      rfl
    · exact setRegister_pending_other chip txbn same _
  refine ⟨models.bus, ?_, ?_⟩
  · intro buffer
    rw [pending, setRegister_frame]
    exact models.waits buffer
  · intro job waiting
    rw [pending]
    exact models.asked job waiting

/-- Setting `TXREQ` in an idle chip submits what the buffer holds. -/
theorem Models.request (models : Models earlier mailbox chip) (room : mailbox.pending = none) :
    Models earlier (mailbox.submit ⟨txbn, chip.loads txbn, chip.frame txbn⟩ room)
      (chip.setRegister txbn.ctrl.toNat
        (bitModify (chip.registers txbn.ctrl.toNat) txbTxreq txbTxreq)) := by
  refine ⟨models.bus, ?_, ?_⟩
  · intro buffer pending
    by_cases same : buffer = txbn
    · rw [same, setRegister_frame]
      rfl
    · rw [setRegister_pending_other chip txbn same, models.idle room buffer] at pending
      cases pending
  · intro job waiting
    obtain rfl := Option.some.inj waiting
    rw [modify_pending, bitModify_set _ _ _ _ (by decide)]
    rfl

/-- Clearing `TXREQ` withdraws the job, if it is still there. -/
theorem Serves.withdraw (serves : Serves earlier mailbox chip)
    (buffer : ∀ job, mailbox.pending = some job → job.buffer = txbn) :
    Settled earlier mailbox (chip.setRegister txbn.ctrl.toNat
      (bitModify (chip.registers txbn.ctrl.toNat) txbTxreq 0)) := by
  obtain ⟨drained, drains, models⟩ := serves
  refine ⟨drained.withdraw, drains.trans (Or.inr (Or.inr rfl)), rfl,
    Models.of_idle models.bus rfl ?_⟩
  intro other
  by_cases same : other = txbn
  · rw [same, modify_pending, bitModify_set _ _ _ _ (by decide)]
    rfl
  · rw [setRegister_pending_other chip txbn same, ← Bool.not_eq_true]
    intro pending
    have waiting := models.waits other pending
    rcases drains.pending with kept | none
    · exact same (buffer _ (kept.symm.trans waiting))
    · rw [waiting] at none
      cases none

end Effects

end Mcp2515
