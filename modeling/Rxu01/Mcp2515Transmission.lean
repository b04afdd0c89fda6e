import Rxu01.Mcp2515Chip
import Rxu01.Mcp2515Poll

set_option autoImplicit false

/- A chip in normal mode that tries to send what it was asked to: what it does by
itself, and what becomes of one request. -/
namespace Mcp2515

/-- What the chip does by itself: while `TXREQ` of a buffer is set, record a bus
error in `TXERR` and go on trying, or complete the transmission; and anything
outside the transmit buffers. -/
inductive Action where
  | recordError (buffer : TxBuffer)
  | complete (buffer : TxBuffer)
  | elsewhere (values : Nat → UInt8)

/-- The control register and the thirteen registers of a buffer. -/
def inTxBuffers (register : Nat) : Bool :=
  txBuffers.any (fun txbn => txbn.ctrl.toNat ≤ register && register < txbn.ctrl.toNat + 14)

/-- The frame of a pending buffer goes out and `TXREQ` is cleared. -/
def Chip.complete (txbn : TxBuffer) (chip : Chip) : Chip :=
  { chip with
    registers := overwrite txbn.ctrl.toNat [chip.control txbn &&& ~~~txbTxreq] chip.registers
    bus := chip.bus ++ [⟨txbn, chip.loads txbn, chip.frame txbn⟩]
    traced := by
      intro sent member
      rcases List.mem_append.mp member with earlier | last
      · exact chip.traced sent earlier
      · obtain rfl := List.mem_singleton.mp last
        exact Nat.le_refl _ }

def Chip.act (chip : Chip) : Action → Chip
  | .recordError txbn =>
      if chip.pending txbn then
        chip.setRegister txbn.ctrl.toNat (chip.control txbn ||| txbTxerr)
      else chip
  | .complete txbn => if chip.pending txbn then chip.complete txbn else chip
  | .elsewhere values =>
      { chip with
        registers := fun register =>
          if inTxBuffers register then chip.registers register else values register }

def Chip.actAll (chip : Chip) (actions : List Action) : Chip := actions.foldl Chip.act chip

/-- The chip enters the mode that was asked for. -/
def Chip.enterRequested (chip : Chip) : Chip :=
  chip.act (.elsewhere fun register =>
    if register = canstat.toNat then
      bitModify (chip.registers register) canstatOpmod chip.requested
    else chip.registers register)

theorem enterRequested_other {register : Nat} (chip : Chip) (other : register ≠ canstat.toNat) :
    chip.enterRequested.registers register = chip.registers register := by
  change (if inTxBuffers register then chip.registers register
    else if register = canstat.toNat then _ else chip.registers register) = _
  rw [if_neg other, ite_self]

theorem enterRequested_mode (chip : Chip) : chip.enterRequested.mode = chip.requested := by
  change bitModify (chip.registers canstat.toNat) canstatOpmod chip.requested &&& canstatOpmod = _
  rw [bitModify_set _ _ _ _ (by decide)]
  unfold Chip.requested
  rw [UInt8.and_assoc]
  rfl

/-- In normal mode the chip sends what `TXB0` holds. -/
def Chip.sendNormal (chip : Chip) : Chip :=
  if chip.mode = canctrlReqopNormal then chip.act (.complete .txb0) else chip

/-- A chip that does at once what it is asked to. -/
def promptMoves (_ : Nat) : List (Chip → Chip) := [Chip.enterRequested, Chip.sendNormal]

/-- The write with this number into this buffer has gone out on the bus. -/
def Chip.Transmitted (chip : Chip) (txbn : TxBuffer) (load : Nat) : Prop :=
  ∃ sent ∈ chip.bus, sent.buffer = txbn ∧ sent.load = load

def Action.completes (txbn : TxBuffer) : Action → Bool
  | .complete buffer => buffer == txbn
  | _ => false

def Action.fails (txbn : TxBuffer) : Action → Bool
  | .recordError buffer => buffer == txbn
  | _ => false

/-- The buffer is completed. -/
def completed (txbn : TxBuffer) (actions : List Action) : Bool :=
  actions.any (Action.completes txbn)

/-- An error of the buffer is recorded before it is completed, if it is. -/
def errorFirst (txbn : TxBuffer) : List Action → Bool
  | [] => false
  | action :: rest =>
      if action.completes txbn then false else action.fails txbn || errorFirst txbn rest

theorem control_setRegister_other {first second : TxBuffer} (other : first ≠ second)
    (value : UInt8) (chip : Chip) :
    (chip.setRegister second.ctrl.toNat value).control first = chip.control first := by
  apply setRegister_other
  intro same
  exact other (ctrl_injective same)

/-- A `BIT MODIFY` of the control register, as the buffer sees it. -/
theorem bitModify_control (txbn : TxBuffer) (chip : Chip) (mask data : UInt8) :
    (chip.setRegister txbn.ctrl.toNat
      (bitModify (chip.registers txbn.ctrl.toNat) mask data)).control txbn =
        bitModify (chip.control txbn) mask data :=
  setRegister_same _ _ chip

theorem inTxBuffers_ctrl (txbn : TxBuffer) : inTxBuffers txbn.ctrl.toNat = true := by
  cases txbn <;> rfl

section Step

variable (chip : Chip) (txbn : TxBuffer) (action : Action)

@[simp] theorem act_loads : (chip.act action).loads = chip.loads := by
  unfold Chip.act
  split
  · split <;> rfl
  · split <;> rfl
  · rfl

/-- What one action makes of the control register and of the bus, seen from a
buffer. -/
theorem act_idle (idle : chip.pending txbn = false) :
    (chip.act action).control txbn = chip.control txbn ∧
      ∀ load, (chip.act action).Transmitted txbn load ↔ chip.Transmitted txbn load := by
  unfold Chip.act
  split
  · rename_i buffer
    by_cases same : buffer = txbn
    · subst same
      rw [idle, if_neg Bool.false_ne_true]
      exact ⟨rfl, fun _ => Iff.rfl⟩
    · split
      · exact ⟨control_setRegister_other (Ne.symm same) _ chip, fun _ => Iff.rfl⟩
      · exact ⟨rfl, fun _ => Iff.rfl⟩
  · rename_i buffer
    by_cases same : buffer = txbn
    · subst same
      rw [idle, if_neg Bool.false_ne_true]
      exact ⟨rfl, fun _ => Iff.rfl⟩
    · split
      · refine ⟨control_setRegister_other (Ne.symm same) _ chip, fun load => ?_⟩
        simp [Chip.Transmitted, Chip.complete, same]
      · exact ⟨rfl, fun _ => Iff.rfl⟩
  · refine ⟨?_, fun _ => Iff.rfl⟩
    exact if_pos (inTxBuffers_ctrl txbn)

theorem act_continues (going : action.completes txbn = false) :
    (chip.act action).control txbn =
        (if chip.pending txbn && action.fails txbn then chip.control txbn ||| txbTxerr
          else chip.control txbn) ∧
      ∀ load, (chip.act action).Transmitted txbn load ↔ chip.Transmitted txbn load := by
  cases pending : chip.pending txbn with
  | false =>
      rw [Bool.false_and, if_neg Bool.false_ne_true]
      exact act_idle chip txbn action pending
  | true =>
      rw [Bool.true_and]
      cases action with
      | recordError buffer =>
          by_cases same : buffer = txbn
          · subst same
            have fails : (Action.recordError buffer).fails buffer = true := beq_self_eq_true buffer
            unfold Chip.act
            dsimp only
            rw [if_pos pending, if_pos fails]
            exact ⟨setRegister_same _ _ chip, fun _ => Iff.rfl⟩
          · have fails : ¬ (Action.recordError buffer).fails txbn = true :=
              fun matched => same (beq_iff_eq.mp matched)
            rw [if_neg fails]
            unfold Chip.act
            dsimp only
            split
            · exact ⟨control_setRegister_other (Ne.symm same) _ chip, fun _ => Iff.rfl⟩
            · exact ⟨rfl, fun _ => Iff.rfl⟩
      | complete buffer =>
          have other : buffer ≠ txbn := by
            intro same
            rw [same, Action.completes, beq_self_eq_true] at going
            cases going
          have fails : ¬ (Action.complete buffer).fails txbn = true := Bool.false_ne_true
          rw [if_neg fails]
          unfold Chip.act
          dsimp only
          split
          · refine ⟨control_setRegister_other (Ne.symm other) _ chip, fun load => ?_⟩
            simp [Chip.Transmitted, Chip.complete, other]
          · exact ⟨rfl, fun _ => Iff.rfl⟩
      | elsewhere values =>
          have fails : ¬ (Action.elsewhere values).fails txbn = true := Bool.false_ne_true
          rw [if_neg fails]
          exact ⟨if_pos (inTxBuffers_ctrl txbn), fun _ => Iff.rfl⟩

theorem act_completes (pending : chip.pending txbn = true)
    (ends : action.completes txbn = true) :
    (chip.act action).control txbn = chip.control txbn &&& ~~~txbTxreq ∧
      (chip.act action).Transmitted txbn (chip.loads txbn) := by
  cases action with
  | complete buffer =>
      obtain rfl := beq_iff_eq.mp ends
      unfold Chip.act
      dsimp only
      rw [if_pos pending]
      exact ⟨setRegister_same _ _ chip, ⟨buffer, chip.loads buffer, chip.frame buffer⟩,
        by simp [Chip.complete], rfl, rfl⟩
  | recordError buffer => cases ends
  | elsewhere values => cases ends

/-- What is on the bus stays there. -/
theorem act_transmitted {load : Nat} (sent : chip.Transmitted txbn load) :
    (chip.act action).Transmitted txbn load := by
  obtain ⟨entry, member, same⟩ := sent
  unfold Chip.act
  split
  · split
    · exact ⟨entry, member, same⟩
    · exact ⟨entry, member, same⟩
  · split
    · exact ⟨entry, List.mem_append_left _ member, same⟩
    · exact ⟨entry, member, same⟩
  · exact ⟨entry, member, same⟩

end Step

section Run

variable (txbn : TxBuffer)

theorem actAll_loads (chip : Chip) (actions : List Action) :
    (chip.actAll actions).loads = chip.loads := by
  induction actions generalizing chip with
  | nil => rfl
  | cons action rest ih => exact (ih (chip.act action)).trans (act_loads chip action)

theorem actAll_append (chip : Chip) (first second : List Action) :
    chip.actAll (first ++ second) = (chip.actAll first).actAll second :=
  List.foldl_append

/-- Nothing becomes of a buffer that is not pending. -/
theorem actAll_idle (chip : Chip) (idle : chip.pending txbn = false) (actions : List Action) :
    (chip.actAll actions).control txbn = chip.control txbn ∧
      ∀ load, (chip.actAll actions).Transmitted txbn load ↔ chip.Transmitted txbn load := by
  induction actions generalizing chip with
  | nil => exact ⟨rfl, fun _ => Iff.rfl⟩
  | cons action rest ih =>
      obtain ⟨control, bus⟩ := act_idle chip txbn action idle
      have still : (chip.act action).pending txbn = false := by
        unfold Chip.pending at idle ⊢
        rw [control]
        exact idle
      obtain ⟨controls, buses⟩ := ih (chip.act action) still
      exact ⟨controls.trans control, fun load => (buses load).trans (bus load)⟩

theorem actAll_transmitted (chip : Chip) {load : Nat} (sent : chip.Transmitted txbn load)
    (actions : List Action) : (chip.actAll actions).Transmitted txbn load := by
  induction actions generalizing chip with
  | nil => exact sent
  | cons action rest ih => exact ih (chip.act action) (act_transmitted chip txbn action sent)

/-- A pending buffer keeps its error, if one comes first, and goes out if it is
completed. -/
theorem actAll_pending (chip : Chip) (pending : chip.pending txbn = true)
    (actions : List Action) :
    (chip.actAll actions).control txbn =
        (let value := if errorFirst txbn actions then chip.control txbn ||| txbTxerr
          else chip.control txbn
        if completed txbn actions then value &&& ~~~txbTxreq else value) ∧
      (completed txbn actions = false →
        ∀ load, (chip.actAll actions).Transmitted txbn load ↔ chip.Transmitted txbn load) ∧
      (completed txbn actions = true →
        (chip.actAll actions).Transmitted txbn (chip.loads txbn)) := by
  induction actions generalizing chip with
  | nil => exact ⟨rfl, fun _ _ => Iff.rfl, fun ends => absurd ends Bool.false_ne_true⟩
  | cons action rest ih =>
      cases ends : action.completes txbn with
      | true =>
          obtain ⟨control, bus⟩ := act_completes chip txbn action pending ends
          have done : (chip.act action).pending txbn = false := by
            unfold Chip.pending
            rw [control, Bytes.clear_bits]
            rfl
          have whole : completed txbn (action :: rest) = true := by
            simp [completed, ends]
          have first : errorFirst txbn (action :: rest) = false := by
            rw [errorFirst, if_pos ends]
          refine ⟨?_, fun open_ => absurd (whole.symm.trans open_) (by decide), fun _ => ?_⟩
          · rw [first, whole]
            exact (actAll_idle txbn _ done rest).1.trans control
          · exact actAll_transmitted txbn (chip.act action) bus rest
      | false =>
          obtain ⟨control, bus⟩ := act_continues chip txbn action ends
          rw [pending, Bool.true_and] at control
          have still : (chip.act action).pending txbn = true := by
            unfold Chip.pending at pending ⊢
            rw [control]
            split
            · rw [Bytes.or_probe _ _ _ (by decide)]
              exact pending
            · exact pending
          have whole : completed txbn (action :: rest) = completed txbn rest := by
            simp [completed, ends]
          have first : errorFirst txbn (action :: rest) =
              (action.fails txbn || errorFirst txbn rest) := by
            rw [errorFirst, if_neg (by rw [ends]; exact Bool.false_ne_true)]
          obtain ⟨controls, quiet, sent⟩ := ih (chip.act action) still
          rw [whole, first]
          refine ⟨?_, fun open_ load => (quiet open_ load).trans (bus load), fun ended => ?_⟩
          · rw [show (chip.actAll (action :: rest)).control txbn =
              ((chip.act action).actAll rest).control txbn from rfl, controls, control]
            cases action.fails txbn <;> cases errorFirst txbn rest <;> simp [UInt8.or_assoc]
          · have out := sent ended
            rw [act_loads] at out
            exact out

end Run

/-- A write of a frame into a buffer, as the buffers see it. -/
theorem write_load (chip : Chip) (txbn : TxBuffer) (frame : CanFrame)
    (fits : frame.canDlc.toNat ≤ canMaxDlen) :
    (chip.write txbn.sidh.toNat (loadBytes frame)).loads =
        (fun buffer => if buffer = txbn then chip.loads buffer + 1 else chip.loads buffer) ∧
      (∀ buffer, (chip.write txbn.sidh.toNat (loadBytes frame)).control buffer =
        chip.control buffer) ∧
      (chip.write txbn.sidh.toNat (loadBytes frame)).bus = chip.bus := by
  have length := loadBytes_length frame fits
  change frame.canDlc.toNat ≤ 8 at fits
  refine ⟨?_, ?_, rfl⟩
  · funext buffer
    unfold Chip.write
    dsimp only
    by_cases same : buffer = txbn
    · subst same
      rw [if_pos rfl, if_pos (by omega)]
    · rw [if_neg same]
      apply if_neg
      rw [sidh_eq, sidh_eq]
      rcases buffer_apart buffer txbn with equal | below | above
      · exact absurd equal same
      · omega
      · omega
  · intro buffer
    apply overwrite_outside
    rw [sidh_eq]
    rcases buffer_apart buffer txbn with rfl | below | above
    · omega
    · omega
    · omega

section Schedule

open Peripheral (Environment World elapse)

variable (onReset : Chip → Chip) (schedule : Nat → List Action) (clock : Nat → Int)

/-- The fault-free bus with a chip that acts by a schedule: before each access, in
order, the actions listed for it. -/
def scheduleEnvironment : Environment Chip :=
  chipEnvironment onReset
    (fun access => (schedule access).map (fun action chip => chip.act action)) clock

theorem elapse_schedule (world : World Chip) :
    (elapse (scheduleEnvironment onReset schedule clock) world).device =
      world.device.actAll (schedule world.accesses) := by
  rw [Peripheral.elapse_device]
  change ((schedule world.accesses).map (fun action chip => Chip.act chip action)).foldl
    (fun state move => move state) world.device = _
  rw [List.foldl_map]
  rfl

/-- The actions before `count` consecutive accesses. -/
def actionsFrom (first count : Nat) : List Action :=
  (List.range count).flatMap (fun index => schedule (first + index))

theorem actionsFrom_succ (first count : Nat) :
    actionsFrom schedule first (count + 1) =
      actionsFrom schedule first count ++ schedule (first + count) := by
  unfold actionsFrom
  rw [List.range_succ, List.flatMap_append, List.flatMap_singleton]

theorem actionsFrom_cons (first count : Nat) :
    actionsFrom schedule first (count + 1) =
      schedule first ++ actionsFrom schedule (first + 1) count := by
  induction count with
  | zero => simp [actionsFrom]
  | succ count ih =>
      rw [actionsFrom_succ, ih, actionsFrom_succ, List.append_assoc,
        show first + (count + 1) = first + 1 + count by omega]

/-- The buffer the scan finds free and the number of the access after it, from
the chip alone. -/
def freeBuffer : List TxBuffer → Nat → Chip → Option (TxBuffer × Nat)
  | [], _, _ => none
  | txbn :: rest, access, chip =>
      let chip := chip.actAll (schedule access)
      if chip.pending txbn then freeBuffer rest (access + 1) chip else some (txbn, access + 1)

theorem readRegister_schedule (register : Register) (world : World Chip) :
    (readRegister (scheduleEnvironment onReset schedule clock) register world).1 =
        (world.device.actAll (schedule world.accesses)).registers register.toNat ∧
      (readRegister (scheduleEnvironment onReset schedule clock) register world).2.device =
        world.device.actAll (schedule world.accesses) := by
  rw [← elapse_schedule onReset schedule clock world]
  exact readRegister_chip onReset _ clock world register

theorem modifyRegister_schedule (register : Register) (mask data : UInt8) (world : World Chip) :
    (modifyRegister (scheduleEnvironment onReset schedule clock) register mask data world).device =
      (world.device.actAll (schedule world.accesses)).setRegister register.toNat
        (bitModify ((world.device.actAll (schedule world.accesses)).registers register.toNat)
          mask data) := by
  rw [← elapse_schedule onReset schedule clock world]
  exact modifyRegister_chip onReset _ clock world register mask data

theorem setRegisters_schedule (register : Register) (values : List UInt8) (world : World Chip) :
    (setRegisters (scheduleEnvironment onReset schedule clock) register values world).device =
      (world.device.actAll (schedule world.accesses)).write register.toNat values := by
  rw [← elapse_schedule onReset schedule clock world]
  exact setRegisters_chip onReset _ clock world register values

/-- The scan finds that buffer, idle, and loads nothing on the way. -/
theorem findFreeBuffer_schedule (buffers : List TxBuffer) (world : World Chip) :
    let found := findFreeBuffer (scheduleEnvironment onReset schedule clock) buffers world
    found.1.map (fun txbn => (txbn, found.2.accesses)) =
        freeBuffer schedule buffers world.accesses world.device ∧
      found.2.device.loads = world.device.loads ∧
      ∀ txbn, found.1 = some txbn → found.2.device.pending txbn = false := by
  induction buffers generalizing world with
  | nil => exact ⟨rfl, rfl, fun txbn found => by cases found⟩
  | cons buffer rest ih =>
      obtain ⟨value, device⟩ := readRegister_schedule onReset schedule clock buffer.ctrl world
      have accesses := readRegister_accesses (scheduleEnvironment onReset schedule clock)
        buffer.ctrl world
      rcases read : readRegister (scheduleEnvironment onReset schedule clock) buffer.ctrl world
        with ⟨byte, next⟩
      rw [read] at value device accesses
      dsimp only at value device accesses
      unfold findFreeBuffer freeBuffer
      rw [read]
      dsimp only
      by_cases idle : byte &&& txbTxreq = 0
      · have quiet : (world.device.actAll (schedule world.accesses)).pending buffer = false := by
          rw [value] at idle
          exact bne_eq_false_iff_eq.mpr idle
        rw [if_pos idle, if_neg (by rw [quiet]; exact Bool.false_ne_true)]
        refine ⟨by rw [← accesses]; rfl, by rw [device]; exact actAll_loads _ _, ?_⟩
        intro txbn same
        obtain rfl := Option.some.inj same
        rw [device]
        exact quiet
      · have busy : (world.device.actAll (schedule world.accesses)).pending buffer = true := by
          rw [value] at idle
          exact bne_iff_ne.mpr idle
        rw [if_neg idle, if_pos busy]
        obtain ⟨same, loads, quiet⟩ := ih next
        rw [accesses, device] at same
        refine ⟨same, ?_, quiet⟩
        rw [loads, device]
        exact actAll_loads _ _

end Schedule

end Mcp2515
