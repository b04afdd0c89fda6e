import Rxu01.Mcp2515Poll
import Rxu01.Mcp2515Transmission

set_option autoImplicit false

/- What a failure of `sendMessage` is worth when the chip goes on by itself
between the accesses of the driver. -/
namespace Mcp2515

open Peripheral (World elapse readClock)

variable (onReset : Chip → Chip) (schedule : Nat → List Action) (clock : Nat → Int)
  (txbn : TxBuffer)

/-- `ERROR_TXTIMEOUT` or `ERROR_FAILTX` is returned only if nothing the call loaded
has gone out, or goes out whatever the chip does later. -/
def NoFalseFailure (frame : CanFrame) (timeoutMs : UInt32) (world : World Chip) : Prop :=
  ∀ fuel result after,
    sendMessage (scheduleEnvironment onReset schedule clock) frame timeoutMs fuel world =
      (some result, after) →
    result = .txTimeout ∨ result = .failTx →
    ∀ buffer load, world.device.loads buffer < load → load ≤ after.device.loads buffer →
      ∀ later, ¬ (after.device.actAll later).Transmitted buffer load

/-- The wait for a request made before access `first` ends in a turn: the buffer is
completed before the read, or the deadline has passed after it. -/
def WaitEnds (deadline : Int) (first turn : Nat) : Prop :=
  completed txbn (actionsFrom schedule first (3 * turn + 2)) = true ∨
    deadline ≤ clock (first + 3 * turn + 2)

/-- In the turn that ends the wait the buffer was completed before the read without
an earlier error, or is not completed before the abort reaches the chip. -/
def EndsInTime (deadline : Int) (first : Nat) : Prop :=
  ∀ turn, (∀ earlier < turn, ¬ WaitEnds schedule clock txbn deadline first earlier) →
    WaitEnds schedule clock txbn deadline first turn →
    (completed txbn (actionsFrom schedule first (3 * turn + 2)) = true →
      errorFirst txbn (actionsFrom schedule first (3 * turn + 2)) = false) ∧
    (completed txbn (actionsFrom schedule first (3 * turn + 2)) = false →
      completed txbn (actionsFrom schedule first (3 * turn + 4)) = false)

/-- A buffer that was just asked to send, with a fresh load and no old error. -/
structure Requested (chip : Chip) (load : Nat) : Prop where
  pending : chip.pending txbn = true
  clean : chip.control txbn &&& (txbAbtf ||| txbTxerr) = 0
  load_eq : chip.loads txbn = load
  unsent : ¬ chip.Transmitted txbn load

theorem actAll_pending_false {chip : Chip} (idle : chip.pending txbn = false)
    (actions : List Action) : (chip.actAll actions).pending txbn = false := by
  unfold Chip.pending at idle ⊢
  rw [(actAll_idle txbn chip idle actions).1]
  exact idle

theorem transmitted_load {chip : Chip} {load : Nat} (sent : chip.Transmitted txbn load) :
    load ≤ chip.loads txbn := by
  obtain ⟨entry, member, rfl, rfl⟩ := sent
  exact chip.traced entry member

/-- A buffer that holds a fresh load and is not yet asked to send it. -/
structure Prepared (chip : Chip) (load : Nat) : Prop where
  idle : chip.pending txbn = false
  load_eq : chip.loads txbn = load
  unsent : ¬ chip.Transmitted txbn load

section Prepared

variable {txbn} {chip : Chip} {load : Nat}

theorem prepared_write {frame : CanFrame} (fits : frame.canDlc.toNat ≤ canMaxDlen)
    (idle : chip.pending txbn = false) :
    Prepared txbn (chip.write txbn.sidh.toNat (loadBytes frame)) (chip.loads txbn + 1) := by
  obtain ⟨loads, control, bus⟩ := write_load chip txbn frame fits
  refine ⟨?_, ?_, ?_⟩
  · unfold Chip.pending
    rw [control]
    exact idle
  · rw [loads]
    exact if_pos rfl
  · intro sent
    unfold Chip.Transmitted at sent
    rw [bus] at sent
    have bound := transmitted_load txbn sent
    omega

/-- Nothing becomes of it by itself. -/
theorem Prepared.actAll (prepared : Prepared txbn chip load) (actions : List Action) :
    Prepared txbn (chip.actAll actions) load ∧
      (chip.actAll actions).control txbn = chip.control txbn := by
  obtain ⟨control, bus⟩ := actAll_idle txbn chip prepared.idle actions
  refine ⟨⟨actAll_pending_false txbn prepared.idle actions, ?_, ?_⟩, control⟩
  · rw [actAll_loads]
    exact prepared.load_eq
  · rw [bus]
    exact prepared.unsent

/-- Clearing the last result. -/
theorem Prepared.clear (prepared : Prepared txbn chip load) :
    Prepared txbn (chip.setRegister txbn.ctrl.toNat
      (bitModify (chip.registers txbn.ctrl.toNat) (txbAbtf ||| txbMloa ||| txbTxerr) 0)) load ∧
    (chip.setRegister txbn.ctrl.toNat (bitModify (chip.registers txbn.ctrl.toNat)
      (txbAbtf ||| txbMloa ||| txbTxerr) 0)).control txbn &&& (txbAbtf ||| txbTxerr) = 0 := by
  have control := bitModify_control txbn chip (txbAbtf ||| txbMloa ||| txbTxerr) 0
  refine ⟨⟨?_, prepared.load_eq, prepared.unsent⟩, ?_⟩
  · unfold Chip.pending
    rw [control, bitModify_keep _ _ _ _ (by decide)]
    exact prepared.idle
  · rw [control, bitModify_set _ _ _ _ (by decide)]
    rfl

theorem Prepared.request (prepared : Prepared txbn chip load)
    (clean : chip.control txbn &&& (txbAbtf ||| txbTxerr) = 0) :
    Requested txbn (chip.setRegister txbn.ctrl.toNat
      (bitModify (chip.registers txbn.ctrl.toNat) txbTxreq txbTxreq)) load := by
  have control := bitModify_control txbn chip txbTxreq txbTxreq
  refine ⟨?_, ?_, prepared.load_eq, prepared.unsent⟩
  · unfold Chip.pending
    rw [control, bitModify_set _ _ _ _ (by decide)]
    rfl
  · rw [control, bitModify_keep _ _ _ _ (by decide)]
    exact clean

end Prepared

/-- Loading an idle buffer and asking it to send. -/
theorem requestTransmission_requested {frame : CanFrame}
    (fits : frame.canDlc.toNat ≤ canMaxDlen) {start : World Chip}
    (idle : start.device.pending txbn = false) :
    Requested txbn
      (requestTransmission (scheduleEnvironment onReset schedule clock) txbn frame start).device
      (start.device.loads txbn + 1) := by
  unfold requestTransmission
  dsimp only
  rw [modifyRegister_schedule, modifyRegister_schedule, setRegisters_schedule]
  have written := prepared_write fits
    (actAll_pending_false txbn idle (schedule start.accesses))
  rw [actAll_loads] at written
  obtain ⟨cleared, clean⟩ := (written.actAll _).1.clear
  obtain ⟨ready, control⟩ := cleared.actAll _
  rw [← control] at clean
  exact ready.request clean

theorem requestTransmission_loads {frame : CanFrame} (fits : frame.canDlc.toNat ≤ canMaxDlen)
    (start : World Chip) :
    (requestTransmission (scheduleEnvironment onReset schedule clock) txbn frame
      start).device.loads =
      (fun buffer => if buffer = txbn then start.device.loads buffer + 1
        else start.device.loads buffer) := by
  unfold requestTransmission
  dsimp only
  rw [modifyRegister_schedule, modifyRegister_schedule, setRegisters_schedule]
  have written := (write_load (start.device.actAll (schedule start.accesses)) txbn frame fits).1
  rw [actAll_loads] at written
  rw [← written]
  exact (actAll_loads _ _).trans (actAll_loads _ _)

/-- The chip after the turns that go on. -/
theorem pollWorld_schedule (turn : Nat) (world : World Chip) :
    (pollWorld (scheduleEnvironment onReset schedule clock) txbn turn world).device =
      world.device.actAll (actionsFrom schedule world.accesses (3 * turn)) := by
  induction turn with
  | zero => rfl
  | succ turn ih =>
      have accesses := pollWorld_accesses (scheduleEnvironment onReset schedule clock) txbn turn
        world
      rw [pollWorld_succ]
      simp only [pollTurn, Peripheral.wait, readClock, elapse_schedule,
        Peripheral.elapse_accesses, readRegister_accesses]
      rw [(readRegister_schedule onReset schedule clock _ _).2, ih, accesses,
        show 3 * (turn + 1) = 3 * turn + 1 + 1 + 1 by omega, actionsFrom_succ, actionsFrom_succ,
        actionsFrom_succ, actAll_append, actAll_append, actAll_append]
      rfl

section Turn

/-- The read of a turn sees what became of the buffer since the request. -/
theorem polled_schedule (requested : World Chip) (turn : Nat) :
    polled (scheduleEnvironment onReset schedule clock) txbn turn
        (elapse (scheduleEnvironment onReset schedule clock) requested) =
      (requested.device.actAll
        (actionsFrom schedule requested.accesses (3 * turn + 2))).control txbn ∧
    (readRegister (scheduleEnvironment onReset schedule clock) txbn.ctrl
      (pollWorld (scheduleEnvironment onReset schedule clock) txbn turn
        (elapse (scheduleEnvironment onReset schedule clock) requested))).2.device =
      requested.device.actAll (actionsFrom schedule requested.accesses (3 * turn + 2)) := by
  have before : (pollWorld (scheduleEnvironment onReset schedule clock) txbn turn
      (elapse (scheduleEnvironment onReset schedule clock) requested)).device.actAll
        (schedule (requested.accesses + 1 + 3 * turn)) =
      requested.device.actAll (actionsFrom schedule requested.accesses (3 * turn + 2)) := by
    rw [pollWorld_schedule, elapse_schedule, Peripheral.elapse_accesses,
      show 3 * turn + 2 = 3 * turn + 1 + 1 by omega, actionsFrom_cons, actionsFrom_succ,
      actAll_append, actAll_append]
  obtain ⟨value, device⟩ := readRegister_schedule onReset schedule clock txbn.ctrl
    (pollWorld (scheduleEnvironment onReset schedule clock) txbn turn
      (elapse (scheduleEnvironment onReset schedule clock) requested))
  rw [pollWorld_accesses, Peripheral.elapse_accesses, before] at value device
  exact ⟨value, device⟩

variable {requested : World Chip} {load : Nat} (turn : Nat)

theorem requested_idle_iff {chip : Chip} (asked : Requested txbn chip load)
    (actions : List Action) :
    (chip.actAll actions).control txbn &&& txbTxreq = 0 ↔ completed txbn actions = true := by
  have pending := bne_iff_ne.mp asked.pending
  rw [(actAll_pending txbn chip asked.pending actions).1]
  cases completed txbn actions with
  | true => simp [Bytes.clear_bits]
  | false =>
      cases errorFirst txbn actions with
      | true => simpa [Bytes.or_probe (chip.control txbn) txbTxerr txbTxreq (by decide)] using pending
      | false => simpa using pending

theorem requested_clean_iff {chip : Chip} (asked : Requested txbn chip load)
    {actions : List Action} (ended : completed txbn actions = true) :
    (chip.actAll actions).control txbn &&& (txbAbtf ||| txbTxerr) = 0 ↔
      errorFirst txbn actions = false := by
  rw [(actAll_pending txbn chip asked.pending actions).1, if_pos ended,
    Bytes.clear_probe _ _ _ (by decide)]
  cases errorFirst txbn actions with
  | true =>
      rw [if_pos rfl]
      constructor
      · intro clean
        have bit := Bytes.or_bits (chip.control txbn) txbTxerr (txbAbtf ||| txbTxerr) (by decide)
        rw [clean] at bit
        exact absurd bit (by decide)
      · intro none
        cases none
  | false =>
      rw [if_neg Bool.false_ne_true]
      exact ⟨fun _ => rfl, fun _ => asked.clean⟩

theorem pollEnds_schedule (asked : Requested txbn requested.device load) (deadline : Int) :
    PollEnds (scheduleEnvironment onReset schedule clock) txbn deadline turn
        (elapse (scheduleEnvironment onReset schedule clock) requested) ↔
      WaitEnds schedule clock txbn deadline requested.accesses turn := by
  unfold PollEnds WaitEnds
  rw [(polled_schedule onReset schedule clock txbn requested turn).1, requested_idle_iff txbn asked,
    Peripheral.elapse_accesses,
    show requested.accesses + 1 + 3 * turn + 1 = requested.accesses + 3 * turn + 2 by omega]
  exact Iff.rfl

/-- The buffer is completed before the read: the call says so, unless an error came
first. -/
theorem pollOutcome_completed (asked : Requested txbn requested.device load)
    (ended : completed txbn (actionsFrom schedule requested.accesses (3 * turn + 2)) = true) :
    let outcome := pollOutcome (scheduleEnvironment onReset schedule clock) txbn turn
      (elapse (scheduleEnvironment onReset schedule clock) requested)
    outcome.1 = (if errorFirst txbn (actionsFrom schedule requested.accesses (3 * turn + 2)) then
        .failTx else .ok) ∧
      outcome.2.device.loads = requested.device.loads ∧
      outcome.2.device.Transmitted txbn load := by
  obtain ⟨value, device⟩ := polled_schedule onReset schedule clock txbn requested turn
  have idle := (requested_idle_iff txbn asked _).mpr ended
  have clean := requested_clean_iff txbn asked ended
  have sent := (actAll_pending txbn requested.device asked.pending _).2.2 ended
  rw [← value] at idle clean
  rw [asked.load_eq] at sent
  rw [pollOutcome_idle _ txbn idle]
  refine ⟨?_, ?_, ?_⟩
  · cases first : errorFirst txbn (actionsFrom schedule requested.accesses (3 * turn + 2)) with
    | true =>
        apply if_pos
        intro zero
        rw [clean.mp zero] at first
        cases first
    | false => exact if_neg (not_not_intro (clean.mpr first))
  · rw [device]
    exact actAll_loads _ _
  · rw [device]
    exact sent

/-- The deadline has passed: the request is withdrawn, and the frame has gone out
exactly if the chip was quicker. -/
theorem pollOutcome_withdrawn (asked : Requested txbn requested.device load)
    (going : completed txbn (actionsFrom schedule requested.accesses (3 * turn + 2)) = false) :
    let outcome := pollOutcome (scheduleEnvironment onReset schedule clock) txbn turn
      (elapse (scheduleEnvironment onReset schedule clock) requested)
    outcome.1 = .txTimeout ∧ outcome.2.device.loads = requested.device.loads ∧
      ∀ later, (outcome.2.device.actAll later).Transmitted txbn load ↔
        completed txbn (actionsFrom schedule requested.accesses (3 * turn + 4)) = true := by
  obtain ⟨value, device⟩ := polled_schedule onReset schedule clock txbn requested turn
  have pending : ¬ (requested.device.actAll
      (actionsFrom schedule requested.accesses (3 * turn + 2))).control txbn &&& txbTxreq = 0 := by
    rw [requested_idle_iff txbn asked, going]
    exact Bool.false_ne_true
  rw [← value] at pending
  have before : (readClock (scheduleEnvironment onReset schedule clock)
      (readRegister (scheduleEnvironment onReset schedule clock) txbn.ctrl
        (pollWorld (scheduleEnvironment onReset schedule clock) txbn turn
          (elapse (scheduleEnvironment onReset schedule clock) requested))).2).2.device.actAll
        (schedule (requested.accesses + (3 * turn + 3))) =
      requested.device.actAll (actionsFrom schedule requested.accesses (3 * turn + 4)) := by
    rw [readClock, elapse_schedule, device, readRegister_accesses, pollWorld_accesses,
      Peripheral.elapse_accesses, show 3 * turn + 4 = 3 * turn + 2 + 1 + 1 by omega,
      actionsFrom_succ schedule _ (3 * turn + 2 + 1), actionsFrom_succ schedule _ (3 * turn + 2),
      actAll_append, actAll_append,
      show requested.accesses + 1 + 3 * turn + 1 = requested.accesses + (3 * turn + 2) by omega]
  rw [pollOutcome_late _ txbn pending]
  dsimp only
  rw [modifyRegister_schedule, readClock, Peripheral.elapse_accesses, readRegister_accesses,
    pollWorld_accesses, Peripheral.elapse_accesses,
    show requested.accesses + 1 + 3 * turn + 1 + 1 = requested.accesses + (3 * turn + 3) by omega]
  rw [readClock] at before
  rw [before]
  refine ⟨rfl, actAll_loads _ _, fun later => ?_⟩
  obtain ⟨_, unsent, sent⟩ := actAll_pending txbn requested.device asked.pending
    (actionsFrom schedule requested.accesses (3 * turn + 4))
  rw [asked.load_eq] at sent
  have control := bitModify_control txbn (requested.device.actAll
    (actionsFrom schedule requested.accesses (3 * turn + 4))) txbTxreq 0
  have idle : ((requested.device.actAll
      (actionsFrom schedule requested.accesses (3 * turn + 4))).setRegister txbn.ctrl.toNat
        (bitModify ((requested.device.actAll (actionsFrom schedule requested.accesses
          (3 * turn + 4))).registers txbn.ctrl.toNat) txbTxreq 0)).pending txbn = false := by
    unfold Chip.pending
    rw [control, bitModify_set _ _ _ _ (by decide)]
    rfl
  rw [(actAll_idle txbn _ idle later).2 load]
  constructor
  · intro out
    by_contra open_
    exact asked.unsent ((unsent (Bool.eq_false_iff.mpr open_) load).mp out)
  · exact sent

/-- A turn that ends the wait reports a failure of a frame that does not go out. -/
theorem pollOutcome_truthful_iff (asked : Requested txbn requested.device load) :
    let outcome := pollOutcome (scheduleEnvironment onReset schedule clock) txbn turn
      (elapse (scheduleEnvironment onReset schedule clock) requested)
    (outcome.1 = .txTimeout ∨ outcome.1 = .failTx →
        ∀ later, ¬ (outcome.2.device.actAll later).Transmitted txbn load) ↔
      (completed txbn (actionsFrom schedule requested.accesses (3 * turn + 2)) = true →
        errorFirst txbn (actionsFrom schedule requested.accesses (3 * turn + 2)) = false) ∧
      (completed txbn (actionsFrom schedule requested.accesses (3 * turn + 2)) = false →
        completed txbn (actionsFrom schedule requested.accesses (3 * turn + 4)) = false) := by
  cases ended : completed txbn (actionsFrom schedule requested.accesses (3 * turn + 2)) with
  | true =>
      obtain ⟨reported, _, sent⟩ :=
        pollOutcome_completed onReset schedule clock txbn turn asked ended
      dsimp only
      rw [reported]
      cases failed : errorFirst txbn (actionsFrom schedule requested.accesses (3 * turn + 2)) with
      | true =>
          constructor
          · intro truthful
            exact absurd sent (truthful (Or.inr rfl) [])
          · intro clean
            cases clean.1 rfl
      | false =>
          constructor
          · intro _
            exact ⟨fun _ => rfl, nofun⟩
          · intro _ report
            rcases report with wrong | wrong
            · cases wrong
            · cases wrong
  | false =>
      obtain ⟨reported, _, sent⟩ :=
        pollOutcome_withdrawn onReset schedule clock txbn turn asked ended
      dsimp only
      rw [reported]
      constructor
      · intro truthful
        refine ⟨nofun, fun _ => ?_⟩
        rw [← Bool.not_eq_true, ← sent []]
        exact truthful (Or.inl rfl) []
      · intro slower _ later out
        have quicker := (sent later).mp out
        rw [slower.2 rfl] at quicker
        cases quicker

theorem pollOutcome_loads (asked : Requested txbn requested.device load) :
    (pollOutcome (scheduleEnvironment onReset schedule clock) txbn turn
      (elapse (scheduleEnvironment onReset schedule clock) requested)).2.device.loads =
      requested.device.loads := by
  cases ended : completed txbn (actionsFrom schedule requested.accesses (3 * turn + 2)) with
  | true => exact (pollOutcome_completed onReset schedule clock txbn turn asked ended).2.1
  | false => exact (pollOutcome_withdrawn onReset schedule clock txbn turn asked ended).2.1

end Turn

/-- The only write of a call that found its buffer is the one into that buffer. -/
theorem load_unique {before : TxBuffer → Nat} {buffer : TxBuffer} {load : Nat}
    (above : before buffer < load)
    (below : load ≤ (if buffer = txbn then before buffer + 1 else before buffer)) :
    buffer = txbn ∧ load = before txbn + 1 := by
  by_cases same : buffer = txbn
  · rw [if_pos same] at below
    rw [← same]
    exact ⟨rfl, by omega⟩
  · rw [if_neg same] at below
    omega

/-- A call that found its buffer. -/
theorem noFalseFailure_found {frame : CanFrame} (fits : frame.canDlc.toNat ≤ canMaxDlen)
    (timeoutMs : UInt32) {world start : World Chip}
    (found : findFreeBuffer (scheduleEnvironment onReset schedule clock) txBuffers world =
      (some txbn, start)) :
    NoFalseFailure onReset schedule clock frame timeoutMs world ↔
      EndsInTime schedule clock txbn
        (clock (start.accesses + 3) + timeoutMs.toNat * 1000) (start.accesses + 3) := by
  obtain ⟨_, loads, idle⟩ := findFreeBuffer_schedule onReset schedule clock txBuffers world
  rw [found] at loads idle
  have asked := requestTransmission_requested onReset schedule clock txbn fits (idle txbn rfl)
  have loaded := requestTransmission_loads onReset schedule clock txbn fits start
  have first := requestTransmission_accesses (scheduleEnvironment onReset schedule clock) txbn
    frame start
  have call := fun fuel => sendMessage_found (scheduleEnvironment onReset schedule clock) txbn fits
    timeoutMs fuel found
  dsimp only at loads asked
  rw [loads] at asked loaded
  generalize requestTransmission (scheduleEnvironment onReset schedule clock) txbn frame start =
    requested at asked loaded first call
  rw [← first] at call ⊢
  unfold NoFalseFailure EndsInTime
  simp only [call, awaitTransmission_iff, pollEnds_schedule onReset schedule clock txbn _ asked]
  constructor
  · intro sound turn going ends
    apply (pollOutcome_truthful_iff onReset schedule clock txbn turn asked).mp
    have same := pollOutcome_loads onReset schedule clock txbn turn asked
    generalize outcome : pollOutcome (scheduleEnvironment onReset schedule clock) txbn turn
      (elapse (scheduleEnvironment onReset schedule clock) requested) = ended at same ⊢
    intro failed
    apply sound (turn + 1) ended.1 ended.2 ⟨turn, Nat.lt_succ_self turn, going, ends, outcome⟩ failed
      txbn _ (Nat.lt_succ_self _)
    rw [same, loaded]
    exact Nat.le_of_eq (if_pos rfl).symm
  · intro inTime fuel result after returned failed buffer load above below
    obtain ⟨turn, _, going, ends, outcome⟩ := returned
    have truthful := (pollOutcome_truthful_iff onReset schedule clock txbn turn asked).mpr
      (inTime turn going ends)
    have same := pollOutcome_loads onReset schedule clock txbn turn asked
    rw [outcome] at truthful same
    rw [same, loaded] at below
    obtain ⟨rfl, rfl⟩ := load_unique txbn above below
    exact truthful failed

/-- Exactly when a failure means that the frame does not go out. -/
theorem noFalseFailure_iff (frame : CanFrame) (timeoutMs : UInt32) (world : World Chip) :
    NoFalseFailure onReset schedule clock frame timeoutMs world ↔
      (frame.canDlc.toNat ≤ canMaxDlen →
        ∀ txbn next, freeBuffer schedule txBuffers world.accesses world.device = some (txbn, next) →
          EndsInTime schedule clock txbn (clock (next + 3) + timeoutMs.toNat * 1000) (next + 3)) := by
  obtain ⟨scanned, loads, _⟩ := findFreeBuffer_schedule onReset schedule clock txBuffers world
  by_cases fits : frame.canDlc.toNat ≤ canMaxDlen
  · rw [← scanned]
    rcases found : findFreeBuffer (scheduleEnvironment onReset schedule clock) txBuffers world
      with ⟨free, start⟩
    cases free with
    | some txbn =>
        rw [noFalseFailure_found onReset schedule clock txbn fits timeoutMs found]
        constructor
        · intro inTime _ other next same
          cases same
          exact inTime
        · intro inTime
          exact inTime fits txbn start.accesses rfl
    | none =>
        constructor
        · intro _ _ other next same
          cases same
        · intro _ fuel result after returned failed
          unfold sendMessage at returned
          rw [if_neg (Nat.not_lt.mpr fits), found] at returned
          cases returned
          rcases failed with wrong | wrong
          · cases wrong
          · cases wrong
  · constructor
    · intro _ short
      exact absurd short fits
    · intro _ fuel result after returned _ buffer load above below
      unfold sendMessage at returned
      rw [if_pos (Nat.not_le.mp fits)] at returned
      cases returned
      omega

/-- Before the clock reading that sets the deadline an error is recorded, and the
retry goes through. -/
def retriedSchedule (access : Nat) : List Action :=
  if access = 4 then [.recordError .txb0, .complete .txb0] else []

/-- The transmission is completed between the last read and the abort. -/
def overtakenSchedule (access : Nat) : List Action :=
  if access = 7 then [.complete .txb0] else []

/-- A frame that went out is reported as `ERROR_FAILTX`, or as `ERROR_TXTIMEOUT`. -/
theorem transmitted_falseFailure :
    (∀ earlier later : Nat, earlier ≤ later → (earlier : Int) ≤ later) ∧
      ¬ NoFalseFailure id retriedSchedule (fun access => access) { canId := 0x101 } 50
        { device := blankChip } ∧
      ¬ NoFalseFailure id overtakenSchedule (fun access => access) { canId := 0x101 } 0
        { device := blankChip } := by
  refine ⟨fun earlier later before => Int.ofNat_le.mpr before, ?_, ?_⟩
  · intro sound
    have inTime := (noFalseFailure_found id retriedSchedule (fun access => access) .txb0
      (by decide) 50 (Prod.ext rfl rfl)).mp sound
    have clean := (inTime 0 (fun earlier below => absurd below (Nat.not_lt_zero earlier))
      (Or.inl rfl)).1 rfl
    cases clean
  · intro sound
    have inTime := (noFalseFailure_found id overtakenSchedule (fun access => access) .txb0
      (by decide) 0 (Prod.ext rfl rfl)).mp sound
    have slower := (inTime 0 (fun earlier below => absurd below (Nat.not_lt_zero earlier))
      (Or.inr (by decide))).2 rfl
    cases slower

end Mcp2515
