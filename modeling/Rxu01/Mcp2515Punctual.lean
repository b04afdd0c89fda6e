import Rxu01.Mcp2515Accesses
import Rxu01.Mcp2515Configured
import Rxu01.Mcp2515Service

set_option autoImplicit false

/- A chip that gives up no request: a call of `sendMessage` sends its frame, or it ends
before the chip could. -/
namespace Mcp2515

open Peripheral (World elapse exchange readClock settle)

/-- A step of the chip that gives up no frame: a request ends when its frame is sent. -/
structure Persistent (before after : Chip) : Prop where
  own : Own before after
  sends : ∀ txbn, before.pending txbn = true → after.pending txbn = false →
    after.bus = before.bus ++ [⟨txbn, before.loads txbn, before.frame txbn⟩]

def PersistentMoves (moves : Nat → List (Chip → Chip)) : Prop :=
  ∀ access, ∀ move ∈ moves access, ∀ chip, Persistent chip (move chip)

theorem PersistentMoves.own {moves : Nat → List (Chip → Chip)}
    (persistent : PersistentMoves moves) : OwnMoves moves :=
  fun access move member chip => (persistent access move member chip).own

/-- None of the errors `sendMessage` looks for is flagged. -/
def Chip.Clean (chip : Chip) (txbn : TxBuffer) : Prop :=
  chip.control txbn &&& (txbAbtf ||| txbTxerr) = 0

/-- The chip flags no error by itself. -/
def Unerring (moves : Nat → List (Chip → Chip)) : Prop :=
  ∀ access, ∀ move ∈ moves access, ∀ chip txbn, chip.Clean txbn → (move chip).Clean txbn

/-- The chip after its moves up to `count` accesses from `first` on, left alone. -/
def drift (moves : Nat → List (Chip → Chip)) : Nat → Nat → Chip → Chip
  | _, 0, chip => chip
  | first, count + 1, chip => drift moves (first + 1) count (settle (moves first) chip)

/-- A step of the chip by itself enters no mode but the one asked for. -/
structure Obeys (before after : Chip) : Prop where
  requested : after.requested = before.requested
  mode : after.mode = before.mode ∨ after.mode = before.requested

def ObeyingMoves (moves : Nat → List (Chip → Chip)) : Prop :=
  ∀ access, ∀ move ∈ moves access, ∀ chip, Obeys chip (move chip)

theorem Settles.obeys {before after : Chip} (settles : Settles before after) :
    Obeys before after :=
  ⟨settles.requested, settles.mode⟩

theorem Obeys.enters {before after : Chip} (obeys : Obeys before after) {mode : UInt8}
    (enters : Enters mode before) : Enters mode after := by
  refine ⟨obeys.requested.trans enters.1, ?_⟩
  rcases obeys.mode with same | asked
  · exact same.trans enters.2
  · exact asked.trans enters.1

/-- The chip is in normal mode, and `TXB0` is the only buffer it has to send. -/
structure Sending (chip : Chip) : Prop where
  normal : Enters canctrlReqopNormal chip
  pending : chip.pending .txb0 = true
  only : ∀ txbn, chip.pending txbn = true → txbn = .txb0

/-- The chip stays in the mode it was put in, and in normal mode sends what the driver
asks for within so many accesses, before the call gives up on it. The driver only ever
asks `TXB0`. In other modes the chip may keep quiet. -/
structure Punctual (moves : Nat → List (Chip → Chip)) (clock : Nat → Int) (timeoutMs : UInt32)
    (latency : Nat) : Prop where
  obeys : ObeyingMoves moves
  sends : ∀ access chip, Sending chip → (drift moves access latency chip).pending .txb0 = false
  inTime : ∀ access later, access ≤ later → later < access + latency →
    clock later < clock access + timeoutMs.toNat * 1000

/-- The job is still there, or it was delivered. -/
def Forwards (earlier : List Transmission) (mailbox : Mailbox Transmission) (chip : Chip) : Prop :=
  Models earlier mailbox chip ∨ Models earlier mailbox.deliver chip

theorem settle_keeps {Inv : Chip → Prop} {moves : List (Chip → Chip)}
    (stable : ∀ move ∈ moves, ∀ chip, Inv chip → Inv (move chip)) {chip : Chip}
    (start : Inv chip) : Inv (settle moves chip) := by
  induction moves generalizing chip with
  | nil => exact start
  | cons move rest ih =>
      exact ih (fun other member => stable other (List.mem_cons_of_mem _ member))
        (stable move List.mem_cons_self chip start)

section Steps

variable {earlier : List Transmission} {mailbox : Mailbox Transmission} {chip before after : Chip}

theorem Persistent.models (step : Persistent before after)
    (models : Models earlier mailbox before) : Forwards earlier mailbox after := by
  cases waiting : mailbox.pending with
  | none => exact Or.inl (Serves.room (step.own.models models) waiting)
  | some job =>
      have asked := models.asked job waiting
      have held : some job = some ⟨job.buffer, before.loads job.buffer, before.frame job.buffer⟩ :=
        waiting.symm.trans (models.waits job.buffer asked)
      cases still : after.pending job.buffer with
      | true =>
          have same : after.bus = before.bus := by
            rcases step.own.bus with same | ⟨txbn, pending, done, _⟩
            · exact same
            · have one := models.onePending txbn job.buffer pending asked
              rw [one, still] at done
              cases done
          refine Or.inl ⟨by rw [same]; exact models.bus, ?_, ?_⟩
          · intro txbn pending
            rw [step.own.loads, step.own.frames]
            exact models.waits txbn (step.own.requests txbn pending)
          · intro other found
            rw [waiting] at found
            obtain rfl := Option.some.inj found
            exact still
      | false =>
          have sent := step.sends job.buffer asked still
          refine Or.inr (Models.of_idle ?_ rfl ?_)
          · rw [sent, models.bus, List.append_assoc, Mailbox.deliver_delivered, waiting, held]
            rfl
          · intro txbn
            by_contra pending
            rw [Bool.not_eq_false] at pending
            have one := models.onePending txbn job.buffer (step.own.requests txbn pending) asked
            rw [one, still] at pending
            cases pending

theorem Forwards.step (step : Persistent before after)
    (forwards : Forwards earlier mailbox before) : Forwards earlier mailbox after := by
  rcases forwards with waits | done
  · exact step.models waits
  · exact Or.inr (Serves.room (step.own.models done) rfl)

/-- A job of a buffer that is not pending was delivered. -/
theorem Forwards.delivered (forwards : Forwards earlier mailbox chip) {txbn : TxBuffer}
    (buffer : ∀ job, mailbox.pending = some job → job.buffer = txbn)
    (idle : chip.pending txbn = false) : Models earlier mailbox.deliver chip := by
  rcases forwards with waits | done
  · have room : mailbox.pending = none := by
      rw [Option.eq_none_iff_forall_ne_some]
      intro job waiting
      have pending := waits.asked job waiting
      rw [buffer job waiting, idle] at pending
      cases pending
    have same : mailbox.deliver = mailbox := Mailbox.Drains.room (Or.inr (Or.inl rfl)) room
    rw [same]
    exact waits
  · exact done

/-- Requests, retries and receptions of a chip that does not give up. -/
theorem act_persistent (action : Action) : Persistent chip (chip.act action) := by
  refine ⟨act_own chip action, ?_⟩
  intro txbn pending done
  cases ends : action.completes txbn with
  | true =>
      cases action with
      | complete buffer =>
          obtain rfl := beq_iff_eq.mp ends
          rw [Chip.act, if_pos pending]
          rfl
      | recordError buffer => cases ends
      | elsewhere values => cases ends
  | false =>
      have control := (act_continues chip txbn action ends).1
      have still : (chip.act action).pending txbn = true := by
        unfold Chip.pending at pending ⊢
        rw [control]
        split
        · rw [Bytes.or_probe _ _ _ (by decide)]
          exact pending
        · exact pending
      rw [still] at done
      cases done

theorem act_complete_done (chip : Chip) (txbn : TxBuffer) :
    (chip.act (.complete txbn)).pending txbn = false := by
  cases pending : chip.pending txbn with
  | true =>
      unfold Chip.pending
      rw [(act_completes chip txbn (.complete txbn) pending (beq_self_eq_true txbn)).1,
        Bytes.clear_bits]
      rfl
  | false =>
      have same := (act_idle chip txbn (.complete txbn) pending).1
      unfold Chip.pending at pending ⊢
      rw [same]
      exact pending

theorem sendNormal_cases {motive : Chip → Prop} (sends : motive (chip.act (.complete .txb0)))
    (rests : motive chip) : motive chip.sendNormal := by
  unfold Chip.sendNormal
  split
  · exact sends
  · exact rests

theorem promptMoves_persistent : PersistentMoves promptMoves := by
  intro access move member chip
  rcases List.mem_pair.mp member with rfl | rfl
  · exact act_persistent _
  · apply sendNormal_cases (act_persistent _)
    exact ⟨⟨fun _ pending => pending, fun _ => rfl, rfl, Or.inl rfl⟩,
      fun _ pending done => absurd (pending.symm.trans done) (by decide)⟩

theorem promptMoves_obeying : ObeyingMoves promptMoves := by
  intro access move member chip
  rcases List.mem_pair.mp member with rfl | rfl
  · exact (enterRequested_settles chip).obeys
  · exact sendNormal_cases (complete_settles .txb0 chip).obeys ⟨rfl, Or.inl rfl⟩

/-- It needs one access. -/
theorem promptMoves_punctual : Punctual promptMoves (fun access => access) 50 1 := by
  refine ⟨promptMoves_obeying, ?_, ?_⟩
  · intro access chip sending
    have normal := (enterRequested_settles chip).obeys.enters sending.normal
    change chip.enterRequested.sendNormal.pending .txb0 = false
    rw [Chip.sendNormal, if_pos normal.2]
    exact act_complete_done _ .txb0
  · intro access later since before
    have same : later = access := by omega
    subst same
    change (later : Int) < later + 50 * 1000
    omega

end Steps

section Drift

variable {moves : Nat → List (Chip → Chip)} (own : OwnMoves moves)

include own

theorem settle_idle {txbn : TxBuffer} (access : Nat) {chip : Chip}
    (idle : chip.pending txbn = false) : (settle (moves access) chip).pending txbn = false := by
  have stable : ∀ move ∈ moves access, ∀ chip : Chip, chip.pending txbn = false →
      (move chip).pending txbn = false := by
    intro move member chip before
    by_contra pending
    rw [Bool.not_eq_false] at pending
    rw [(own access move member chip).requests txbn pending] at before
    cases before
  exact settle_keeps stable idle

/-- What is done stays done. -/
theorem drift_done {txbn : TxBuffer} {first count more : Nat} {chip : Chip}
    (longer : count ≤ more) (done : (drift moves first count chip).pending txbn = false) :
    (drift moves first more chip).pending txbn = false := by
  induction more generalizing first count chip with
  | zero =>
      obtain rfl := Nat.le_zero.mp longer
      exact done
  | succ more ih =>
      cases count with
      | zero => exact ih (Nat.zero_le _) (settle_idle own first done)
      | succ count => exact ih (Nat.le_of_succ_le_succ longer) done

end Drift

section Driver

variable (onReset : Chip → Chip) {moves : Nat → List (Chip → Chip)} (clock : Nat → Int)
  (persistent : PersistentMoves moves)
  {earlier : List Transmission} {mailbox : Mailbox Transmission}

section Mode

variable (obeying : ObeyingMoves moves) {mode : UInt8} {world : World Chip}
include obeying

theorem elapse_enters (enters : Enters mode world.device) :
    Enters mode (elapse (chipEnvironment onReset moves clock) world).device := by
  rw [Peripheral.elapse_device]
  exact settle_keeps (fun move member chip => (obeying _ move member chip).enters) enters

omit obeying in
/-- A transaction on the transmit buffers leaves the mode. -/
theorem execute_enters {frame : CanFrame} {sent : List UInt8} (access : SendAccess frame sent)
    {chip : Chip} (enters : Enters mode chip) : Enters mode (execute onReset sent chip).2 := by
  have kept : ∀ register ≤ canctrl.toNat,
      (execute onReset sent chip).2.registers register = chip.registers register := by
    intro register low
    change register ≤ 15 at low
    cases access with
    | read => rfl
    | load txbn fits =>
        have above : 15 < txbn.sidh.toNat := by cases txbn <;> decide
        exact overwrite_outside chip.registers (Or.inl (by omega))
    | control txbn mask data =>
        have above : 15 < txbn.ctrl.toNat := by cases txbn <;> decide
        exact setRegister_other _ chip (by omega)
  unfold Enters Chip.requested Chip.mode
  rw [kept canctrl.toNat (Nat.le_refl _), kept canstat.toNat (by decide)]
  exact enters

theorem sending_enters (frame : CanFrame) :
    SendKeeps (chipEnvironment onReset moves clock) frame
      (fun later => Enters mode later.device) where
  elapse _ enters := elapse_enters onReset clock obeying enters
  exchange later sent access enters := by
    rw [(exchange_chip onReset moves clock later sent).2]
    exact execute_enters onReset access (elapse_enters onReset clock obeying enters)

/-- The polls of `setMode`, after the mode was asked for. -/
theorem awaitMode_chip (tries : Nat) (asks : Asks mode world.device)
    (ok : (awaitMode (chipEnvironment onReset moves clock) mode tries world).1 = .ok) :
    Enters mode (awaitMode (chipEnvironment onReset moves clock) mode tries world).2.device := by
  have later : ∀ start : World Chip, Asks mode start.device →
      Asks mode (elapse (chipEnvironment onReset moves clock) start).device := by
    intro start asked
    rw [Peripheral.elapse_device]
    exact settle_keeps (fun move member chip before =>
      (obeying _ move member chip).requested.trans before) asked
  induction tries generalizing world with
  | zero => cases ok
  | succ tries ih =>
      obtain ⟨value, device⟩ := readRegister_chip onReset moves clock world canstat
      have asked := later world asks
      rw [← device] at asked
      unfold awaitMode at ok ⊢
      dsimp only at ok ⊢
      split
      · rename_i entered
        refine ⟨asked, ?_⟩
        rw [value] at entered
        rw [device]
        exact entered
      · rename_i other
        rw [if_neg other] at ok
        exact ih (later _ asked) ok

theorem setMode_chip (valid : mode &&& canctrlReqop = mode)
    (ok : (setMode (chipEnvironment onReset moves clock) mode world).1 = .ok) :
    Enters mode (setMode (chipEnvironment onReset moves clock) mode world).2.device := by
  apply awaitMode_chip onReset clock obeying 10 _ ok
  unfold Asks Chip.requested
  rw [modifyRegister_chip, setRegister_same, bitModify_set _ _ _ _ (by decide), valid]

end Mode

theorem elapse_clean (unerring : Unerring moves) {world : World Chip} {txbn : TxBuffer}
    (clean : world.device.Clean txbn) :
    (elapse (chipEnvironment onReset moves clock) world).device.Clean txbn := by
  rw [Peripheral.elapse_device]
  exact settle_keeps (fun move member chip => unerring _ move member chip txbn) clean

include persistent

theorem elapse_forwards {world : World Chip} (forwards : Forwards earlier mailbox world.device) :
    Forwards earlier mailbox (elapse (chipEnvironment onReset moves clock) world).device := by
  rw [Peripheral.elapse_device]
  exact settle_keeps (fun move member chip => Forwards.step (persistent _ move member chip))
    forwards

omit persistent in
theorem pollTurn_device (txbn : TxBuffer) (world : World Chip) (left : Nat) :
    drift moves (pollTurn (chipEnvironment onReset moves clock) txbn world).accesses left
        (pollTurn (chipEnvironment onReset moves clock) txbn world).device =
      drift moves world.accesses (left + 3) world.device := by
  rw [pollTurn_accesses]
  unfold pollTurn Peripheral.wait readClock
  rw [Peripheral.elapse_device, Peripheral.elapse_device,
    (readRegister_chip onReset moves clock world txbn.ctrl).2, Peripheral.elapse_device,
    Peripheral.elapse_accesses, readRegister_accesses]
  rfl

theorem pollTurn_forwards (txbn : TxBuffer) {world : World Chip}
    (forwards : Forwards earlier mailbox world.device) :
    Forwards earlier mailbox
      (pollTurn (chipEnvironment onReset moves clock) txbn world).device := by
  apply elapse_forwards onReset clock persistent
  apply elapse_forwards onReset clock persistent
  rw [(readRegister_chip onReset moves clock world txbn.ctrl).2]
  exact elapse_forwards onReset clock persistent forwards

omit persistent in
theorem pollTurn_clean (unerring : Unerring moves) {txbn : TxBuffer} {world : World Chip}
    (clean : world.device.Clean txbn) :
    (pollTurn (chipEnvironment onReset moves clock) txbn world).device.Clean txbn := by
  apply elapse_clean onReset clock unerring
  apply elapse_clean onReset clock unerring
  rw [(readRegister_chip onReset moves clock world txbn.ctrl).2]
  exact elapse_clean onReset clock unerring clean

section Turns

variable (txbn : TxBuffer) (turn : Nat) {world : World Chip}

theorem pollWorld_forwards (forwards : Forwards earlier mailbox world.device) :
    Forwards earlier mailbox
      (pollWorld (chipEnvironment onReset moves clock) txbn turn world).device := by
  induction turn generalizing world with
  | zero => exact forwards
  | succ turn ih => exact ih (pollTurn_forwards onReset clock persistent txbn forwards)

omit persistent

theorem pollWorld_clean (unerring : Unerring moves) {txbn : TxBuffer}
    (clean : world.device.Clean txbn) :
    (pollWorld (chipEnvironment onReset moves clock) txbn turn world).device.Clean txbn := by
  induction turn generalizing world with
  | zero => exact clean
  | succ turn ih => exact ih (pollTurn_clean onReset clock unerring clean)

theorem pollWorld_drift (world : World Chip) (left : Nat) :
    drift moves (pollWorld (chipEnvironment onReset moves clock) txbn turn world).accesses left
        (pollWorld (chipEnvironment onReset moves clock) txbn turn world).device =
      drift moves world.accesses (left + 3 * turn) world.device := by
  induction turn generalizing world with
  | zero => rfl
  | succ turn ih =>
      rw [pollWorld, ih, pollTurn_device]
      rfl

end Turns

section Wait

variable {txbn : TxBuffer} {deadline : Int} {fuel : Nat} {world after : World Chip} {error : Error}
  (returned : awaitTransmission (chipEnvironment onReset moves clock) txbn deadline fuel world =
    (some error, after))

include returned

/-- A wait that does not run out of time ends with the job delivered. -/
theorem awaitTransmission_delivers
    (buffer : ∀ job, mailbox.pending = some job → job.buffer = txbn)
    (forwards : Forwards earlier mailbox world.device) (waited : error ≠ .txTimeout) :
    Models earlier mailbox.deliver after.device ∧
      (Unerring moves → world.device.Clean txbn → error = .ok) := by
  obtain ⟨turn, _, _, _, outcome⟩ := (awaitTransmission_iff _ txbn deadline fuel _ _ _).mp returned
  have idle : polled (chipEnvironment onReset moves clock) txbn turn world &&& txbTxreq = 0 := by
    by_contra pending
    rw [pollOutcome_late _ _ pending] at outcome
    exact waited (congrArg Prod.fst outcome).symm
  rw [pollOutcome_idle _ _ idle] at outcome
  obtain ⟨result, rfl⟩ := Prod.mk.inj outcome
  unfold polled at idle result
  obtain ⟨value, device⟩ := readRegister_chip onReset moves clock
    (pollWorld (chipEnvironment onReset moves clock) txbn turn world) txbn.ctrl
  rw [value] at idle result
  constructor
  · rw [device]
    exact (elapse_forwards onReset clock persistent
      (pollWorld_forwards onReset clock persistent txbn turn forwards)).delivered buffer
      (bne_eq_false_iff_eq.mpr idle)
  · intro unerring clean
    have still := elapse_clean onReset clock unerring
      (pollWorld_clean onReset clock turn unerring clean)
    unfold Chip.Clean Chip.control at still
    rw [if_neg (not_not_intro still)] at result
    exact result.symm

omit persistent in
/-- A wait for a job that is sent before the deadline does not run out of time. -/
theorem awaitTransmission_inTime (own : OwnMoves moves) {left : Nat}
    (sends : (drift moves world.accesses left world.device).pending txbn = false)
    (inTime : ∀ later, world.accesses ≤ later → later < world.accesses + left →
      clock later < deadline) : error ≠ .txTimeout := by
  obtain ⟨turn, _, _, ends, outcome⟩ := (awaitTransmission_iff _ txbn deadline fuel _ _ _).mp
    returned
  rintro rfl
  have pending : ¬ polled (chipEnvironment onReset moves clock) txbn turn world &&& txbTxreq = 0 := by
    intro idle
    rw [pollOutcome_idle _ _ idle] at outcome
    have result := congrArg Prod.fst outcome
    dsimp only at result
    split at result
    · cases result
    · cases result
  have late := ends.resolve_left pending
  unfold polled at pending
  rw [(readRegister_chip onReset moves clock _ txbn.ctrl).1, Peripheral.elapse_device] at pending
  -- the frame is still there after this many accesses, so that the deadline is ahead
  have early : 1 + 3 * turn < left := by
    by_contra passed
    have done := drift_done own (Nat.le_of_not_lt passed) sends
    rw [← pollWorld_drift onReset clock txbn turn world 1] at done
    exact pending (bne_eq_false_iff_eq.mp done)
  have below := inTime (world.accesses + 3 * turn + 1) (by omega) (by omega)
  change deadline ≤ clock (world.accesses + 3 * turn + 1) at late
  omega

end Wait

/-- Loading a buffer of an idle chip and asking it to send, up to the access that asks. -/
theorem requestTransmission_submits (txbn : TxBuffer) {frame : CanFrame}
    (fits : frame.canDlc.toNat ≤ canMaxDlen) (room : mailbox.pending = none) {world : World Chip}
    (models : Models earlier mailbox world.device) :
    (∃ load, Models earlier (mailbox.submit ⟨txbn, load, frame.onWire⟩ room)
      (requestTransmission (chipEnvironment onReset moves clock) txbn frame world).device) ∧
    (Unerring moves →
      (requestTransmission (chipEnvironment onReset moves clock) txbn frame world).device.Clean
        txbn) := by
  have own := persistent.own
  obtain ⟨loaded, _⟩ := setRegisters_serves onReset clock own txbn fits room
    ⟨mailbox, Mailbox.Drains.refl mailbox, models⟩
  unfold requestTransmission
  dsimp only
  generalize setRegisters (chipEnvironment onReset moves clock) txbn.sidh (loadBytes frame) world =
    first at loaded ⊢
  obtain ⟨cleared, _⟩ := modifyRegister_loaded onReset clock own txbn
    (txbAbtf ||| txbMloa ||| txbTxerr) 0
    (fun _ (loaded : Loaded earlier mailbox txbn frame.onWire _) => loaded.1.onePending)
    (fun chip loaded => ⟨⟨mailbox, Mailbox.Drains.refl mailbox,
      (loaded.1.room room).clear txbn (by decide)⟩,
      (setRegister_frame chip txbn txbn _).trans loaded.2⟩) loaded
  have clean : (modifyRegister (chipEnvironment onReset moves clock) txbn.ctrl
      (txbAbtf ||| txbMloa ||| txbTxerr) 0 first).device.Clean txbn := by
    unfold Chip.Clean
    rw [modifyRegister_chip, bitModify_control, bitModify_set _ _ _ _ (by decide)]
    rfl
  generalize modifyRegister (chipEnvironment onReset moves clock) txbn.ctrl
    (txbAbtf ||| txbMloa ||| txbTxerr) 0 first = second at cleared clean ⊢
  have still : Loaded earlier mailbox txbn frame.onWire
      (elapse (chipEnvironment onReset moves clock) second).device := by
    rw [Peripheral.elapse_device]
    exact settle_keeps (fun move member chip => Loaded.own chip _ (own _ move member chip)) cleared
  rw [modifyRegister_chip]
  constructor
  · have submitted := (still.1.room room).request txbn room
    rw [still.2] at submitted
    exact ⟨_, submitted⟩
  · intro unerring
    unfold Chip.Clean
    rw [bitModify_control, bitModify_keep _ _ _ _ (by decide)]
    exact elapse_clean onReset clock unerring clean

/-- A call on an idle chip is the wait for the request it makes. -/
theorem sendMessage_asks {frame : CanFrame} (fits : frame.canDlc.toNat ≤ canMaxDlen)
    (timeoutMs : UInt32) (fuel : Nat) {world : World Chip} (idle : world.device.Idle) :
    ∃ (asked : World Chip) (load : Nat),
      sendMessage (chipEnvironment onReset moves clock) frame timeoutMs fuel world =
        awaitTransmission (chipEnvironment onReset moves clock) .txb0
          (clock asked.accesses + timeoutMs.toNat * 1000) fuel
          (elapse (chipEnvironment onReset moves clock) asked) ∧
      Models world.device.bus (Mailbox.empty.submit ⟨.txb0, load, frame.onWire⟩ rfl)
        asked.device ∧
      (Unerring moves → asked.device.Clean .txb0) ∧
      (∀ mode, ObeyingMoves moves → Enters mode world.device → Enters mode asked.device) := by
  have own := persistent.own
  have start : Models world.device.bus Mailbox.empty world.device :=
    Models.of_idle (List.append_nil _).symm rfl idle
  obtain ⟨serves, _, value⟩ := readRegister_serves onReset clock own TxBuffer.txb0.ctrl
    ⟨Mailbox.empty, Mailbox.Drains.refl _, start⟩
  have models := serves.room rfl
  have found : findFreeBuffer (chipEnvironment onReset moves clock) txBuffers world =
      (some .txb0, (readRegister (chipEnvironment onReset moves clock) TxBuffer.txb0.ctrl
        world).2) := by
    have free := bne_eq_false_iff_eq.mp (models.idle rfl .txb0)
    unfold Chip.control at free
    rw [← value] at free
    unfold txBuffers findFreeBuffer
    dsimp only
    rw [if_pos free]
  obtain ⟨⟨load, submitted⟩, clean⟩ :=
    requestTransmission_submits onReset clock persistent .txb0 fits rfl models
  refine ⟨_, load, ?_, submitted, clean, ?_⟩
  · rw [sendMessage_found _ .txb0 fits timeoutMs fuel found, requestTransmission_accesses]
    rfl
  · intro mode obeying enters
    have keeps : SendKeeps (chipEnvironment onReset moves clock) frame
        (fun later => Enters mode later.device) := sending_enters onReset clock obeying frame
    exact requestTransmission_keeps keeps .txb0 fits
      (keeps.exchange world _ (SendAccess.read .txb0) enters)

section Call

variable {frame : CanFrame} (fits : frame.canDlc.toNat ≤ canMaxDlen) {timeoutMs : UInt32}
  {fuel : Nat} {world after : World Chip} (idle : world.device.Idle) {error : Error}
  (returned : sendMessage (chipEnvironment onReset moves clock) frame timeoutMs fuel world =
    (some error, after))

include fits idle returned

/-- A call on an idle chip sends its frame or runs out of time, and if the chip flags no
error it says which. -/
theorem sendMessage_sends :
    after.device.Idle ∧
      ((∃ load, after.device.bus = world.device.bus ++ [⟨.txb0, load, frame.onWire⟩]) ∨
        error = .txTimeout ∧ after.device.bus = world.device.bus) ∧
      (Unerring moves → error ≠ .txTimeout → error = .ok) := by
  by_cases late : error = .txTimeout
  · have start : Models world.device.bus Mailbox.empty world.device :=
      Models.of_idle (List.append_nil _).symm rfl idle
    obtain ⟨_, load, _, returns⟩ := sendMessage_serves onReset clock persistent.own fits timeoutMs
      fuel rfl ⟨Mailbox.empty, Mailbox.Drains.refl _, start⟩
    rw [returned] at returns
    obtain ⟨_, drained, drains, done, models⟩ := returns error rfl
    refine ⟨models.idle done, ?_, fun _ other => absurd late other⟩
    rcases drains with rfl | rfl | rfl
    · cases done
    · exact Or.inl ⟨load, models.bus⟩
    · exact Or.inr ⟨late, models.bus.trans (List.append_nil _)⟩
  · obtain ⟨asked, load, waits, submitted, clean, _⟩ :=
      sendMessage_asks onReset clock persistent fits timeoutMs fuel idle
    rw [waits] at returned
    obtain ⟨delivered, result⟩ := awaitTransmission_delivers onReset clock persistent returned
      (fun job waiting => congrArg Transmission.buffer (Option.some.inj waiting).symm)
      (elapse_forwards onReset clock persistent (Or.inl submitted)) late
    exact ⟨delivered.idle rfl, Or.inl ⟨load, delivered.bus⟩, fun unerring _ =>
      result unerring (elapse_clean onReset clock unerring (clean unerring))⟩

/-- A call in normal mode does not run out of time. -/
theorem sendMessage_inTime {latency : Nat} (punctual : Punctual moves clock timeoutMs latency)
    (normal : Enters canctrlReqopNormal world.device) : error ≠ .txTimeout := by
  obtain ⟨asked, load, waits, submitted, _, kept⟩ :=
    sendMessage_asks onReset clock persistent fits timeoutMs fuel idle
  rw [waits] at returned
  have sending : Sending asked.device := by
    refine ⟨kept _ punctual.obeys normal, submitted.asked ⟨.txb0, load, frame.onWire⟩ rfl, ?_⟩
    intro txbn pending
    exact (congrArg Transmission.buffer (Option.some.inj (submitted.waits txbn pending))).symm
  have sends : (drift moves asked.accesses (latency - 1 + 1) asked.device).pending .txb0 = false :=
    drift_done persistent.own (by omega) (punctual.sends asked.accesses asked.device sending)
  apply awaitTransmission_inTime onReset clock returned persistent.own
  · rw [Peripheral.elapse_device]
    exact sends
  · intro later since before
    rw [Peripheral.elapse_accesses] at since before
    exact punctual.inTime asked.accesses later (by omega) (by omega)

end Call

end Driver

end Mcp2515

namespace CanManager

open EspIdf (espOk)
open Mcp2515 (Chip Enters ObeyingMoves canctrlReqopNormal)

variable {onReset : Chip → Chip} {moves : Nat → List (Chip → Chip)} {clock : Nat → Int}
  (obeying : ObeyingMoves moves)
include obeying

/-- A successful `begin` leaves the chip in normal mode. -/
theorem begin_normal {spi : SpiSetup} {prior manager : Manager Chip}
    (fresh : prior.initialized = false)
    (begun : begin (Mcp2515.chipEnvironment onReset moves clock) spi prior = (espOk, manager)) :
    Enters canctrlReqopNormal manager.world.device := by
  obtain ⟨started, rfl⟩ := begin_driver _ fresh begun
  obtain ⟨_, _, normal, same⟩ := startDriver_calls _ started
  rw [same]
  exact Mcp2515.setMode_chip onReset clock obeying (by decide) normal

end CanManager
