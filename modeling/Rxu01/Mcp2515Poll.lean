import Mathlib.Data.Nat.Find
import Rxu01.Mcp2515

set_option autoImplicit false

/- The polling loop of `sendMessage`, turn by turn. -/
namespace Mcp2515

open Peripheral (Environment World readClock wait)

variable {δ : Type} (env : Environment δ) (txbn : TxBuffer)

/-- A turn of the loop that neither returns nor aborts. -/
def pollTurn (world : World δ) : World δ :=
  wait env (readClock env (readRegister env txbn.ctrl world).2).2

/-- The world at the start of a turn, as long as the earlier ones did not return. -/
def pollWorld : Nat → World δ → World δ
  | 0, world => world
  | turn + 1, world => pollWorld turn (pollTurn env txbn world)

/-- What the control register reads as in a turn. -/
def polled (turn : Nat) (world : World δ) : UInt8 :=
  (readRegister env txbn.ctrl (pollWorld env txbn turn world)).1

/-- The turn returns. -/
def PollEnds (deadline : Int) (turn : Nat) (world : World δ) : Prop :=
  polled env txbn turn world &&& txbTxreq = 0 ∨ deadline ≤ env.clock (world.accesses + 3 * turn + 1)

instance (deadline : Int) (turn : Nat) (world : World δ) :
    Decidable (PollEnds env txbn deadline turn world) :=
  inferInstanceAs (Decidable (_ ∨ _))

/-- How a turn that returns does it. -/
def pollOutcome (turn : Nat) (world : World δ) : Error × World δ :=
  let read := readRegister env txbn.ctrl (pollWorld env txbn turn world)
  if read.1 &&& txbTxreq = 0 then
    (if read.1 &&& (txbAbtf ||| txbTxerr) ≠ 0 then .failTx else .ok, read.2)
  else (.txTimeout, modifyRegister env txbn.ctrl txbTxreq 0 (readClock env read.2).2)

@[simp] theorem readRegister_accesses (register : Register) (world : World δ) :
    (readRegister env register world).2.accesses = world.accesses + 1 :=
  Peripheral.exchange_accesses env world _

@[simp] theorem modifyRegister_accesses (register : Register) (mask data : UInt8)
    (world : World δ) :
    (modifyRegister env register mask data world).accesses = world.accesses + 1 :=
  Peripheral.exchange_accesses env world _

@[simp] theorem setRegisters_accesses (register : Register) (values : List UInt8)
    (world : World δ) :
    (setRegisters env register values world).accesses = world.accesses + 1 :=
  Peripheral.exchange_accesses env world _

@[simp] theorem requestTransmission_accesses (frame : CanFrame) (world : World δ) :
    (requestTransmission env txbn frame world).accesses = world.accesses + 3 := by
  simp only [requestTransmission, modifyRegister_accesses, setRegisters_accesses]

@[simp] theorem pollTurn_accesses (world : World δ) :
    (pollTurn env txbn world).accesses = world.accesses + 3 := by
  simp only [pollTurn, wait, readClock, Peripheral.elapse_accesses, readRegister_accesses]

theorem pollWorld_accesses (turn : Nat) (world : World δ) :
    (pollWorld env txbn turn world).accesses = world.accesses + 3 * turn := by
  induction turn generalizing world with
  | zero => rfl
  | succ turn ih =>
      rw [pollWorld, ih, pollTurn_accesses]
      omega

theorem pollWorld_succ (turn : Nat) (world : World δ) :
    pollWorld env txbn (turn + 1) world = pollTurn env txbn (pollWorld env txbn turn world) := by
  induction turn generalizing world with
  | zero => rfl
  | succ turn ih => exact ih (pollTurn env txbn world)

theorem polled_succ (turn : Nat) (world : World δ) :
    polled env txbn (turn + 1) world = polled env txbn turn (pollTurn env txbn world) := rfl

theorem pollEnds_succ (deadline : Int) (turn : Nat) (world : World δ) :
    PollEnds env txbn deadline (turn + 1) world ↔
      PollEnds env txbn deadline turn (pollTurn env txbn world) := by
  unfold PollEnds
  rw [polled_succ, pollTurn_accesses,
    show world.accesses + 3 * (turn + 1) + 1 = world.accesses + 3 + 3 * turn + 1 by omega]

theorem pollOutcome_idle {turn : Nat} {world : World δ}
    (idle : polled env txbn turn world &&& txbTxreq = 0) :
    pollOutcome env txbn turn world =
      (if polled env txbn turn world &&& (txbAbtf ||| txbTxerr) ≠ 0 then .failTx else .ok,
        (readRegister env txbn.ctrl (pollWorld env txbn turn world)).2) := by
  unfold polled at idle ⊢
  unfold pollOutcome
  dsimp only
  rw [if_pos idle]

theorem pollOutcome_late {turn : Nat} {world : World δ}
    (pending : ¬ polled env txbn turn world &&& txbTxreq = 0) :
    pollOutcome env txbn turn world =
      (.txTimeout, modifyRegister env txbn.ctrl txbTxreq 0
        (readClock env (readRegister env txbn.ctrl (pollWorld env txbn turn world)).2).2) := by
  unfold polled at pending
  unfold pollOutcome
  dsimp only
  rw [if_neg pending]

/-- One turn: it returns, or the loop goes on from the next. -/
theorem awaitTransmission_turn (deadline : Int) (fuel : Nat) (world : World δ) :
    (PollEnds env txbn deadline 0 world ∧
      awaitTransmission env txbn deadline (fuel + 1) world =
        (some (pollOutcome env txbn 0 world).1, (pollOutcome env txbn 0 world).2)) ∨
    (¬ PollEnds env txbn deadline 0 world ∧
      awaitTransmission env txbn deadline (fuel + 1) world =
        awaitTransmission env txbn deadline fuel (pollTurn env txbn world)) := by
  have clock : (readClock env (readRegister env txbn.ctrl world).2).1 =
      env.clock (world.accesses + 1) := by
    rw [readClock, readRegister_accesses]
  rw [awaitTransmission, pollOutcome, PollEnds, polled, pollWorld]
  dsimp only
  rw [clock]
  by_cases idle : (readRegister env txbn.ctrl world).1 &&& txbTxreq = 0
  · apply Or.inl
    rw [if_pos idle, if_pos idle]
    refine ⟨Or.inl idle, ?_⟩
    split <;> rfl
  · rw [if_neg idle, if_neg idle]
    by_cases late : deadline ≤ env.clock (world.accesses + 1)
    · rw [if_pos late]
      exact Or.inl ⟨Or.inr late, rfl⟩
    · rw [if_neg late]
      exact Or.inr ⟨fun ends => ends.elim idle late, rfl⟩

/-- The loop returns what the first turn that returns makes of it, given the fuel
to get there. -/
theorem awaitTransmission_iff (deadline : Int) (fuel : Nat) (world after : World δ)
    (result : Error) :
    awaitTransmission env txbn deadline fuel world = (some result, after) ↔
      ∃ turn < fuel, (∀ earlier < turn, ¬ PollEnds env txbn deadline earlier world) ∧
        PollEnds env txbn deadline turn world ∧
        pollOutcome env txbn turn world = (result, after) := by
  induction fuel generalizing world with
  | zero =>
      constructor
      · intro returned
        cases returned
      · rintro ⟨turn, below, _⟩
        omega
  | succ fuel ih =>
      rcases awaitTransmission_turn env txbn deadline fuel world with
        ⟨ends, returns⟩ | ⟨going, next⟩
      · rw [returns]
        constructor
        · intro same
          cases same
          exact ⟨0, Nat.succ_pos fuel, fun earlier below => absurd below (Nat.not_lt_zero _), ends,
            rfl⟩
        · rintro ⟨turn, _, first, _, outcome⟩
          have start : turn = 0 := Nat.eq_zero_of_not_pos (fun positive => first 0 positive ends)
          subst start
          rw [outcome]
      · rw [next, ih]
        constructor
        · rintro ⟨turn, below, first, ends, outcome⟩
          refine ⟨turn + 1, by omega, ?_, (pollEnds_succ ..).mpr ends, outcome⟩
          intro earlier before
          cases earlier with
          | zero => exact going
          | succ earlier =>
              exact fun returns => first earlier (by omega) ((pollEnds_succ ..).mp returns)
        · rintro ⟨turn, below, first, ends, outcome⟩
          cases turn with
          | zero => exact absurd ends going
          | succ turn =>
              refine ⟨turn, by omega, ?_, (pollEnds_succ ..).mp ends, outcome⟩
              intro earlier before returns
              exact first (earlier + 1) (by omega) ((pollEnds_succ ..).mpr returns)

/-- The loop returns, given enough fuel, if some turn does. -/
theorem awaitTransmission_returns {deadline : Int} {world : World δ}
    (ends : ∃ turn, PollEnds env txbn deadline turn world) :
    ∃ fuel result after, awaitTransmission env txbn deadline fuel world = (some result, after) := by
  refine ⟨Nat.find ends + 1, _, _, (awaitTransmission_iff env txbn deadline _ world _ _).mpr
    ⟨Nat.find ends, Nat.lt_succ_self _, ?_, Nat.find_spec ends, rfl⟩⟩
  intro earlier before
  exact Nat.find_min ends before

/-- A call that finds a free buffer is the wait for the request it makes there. -/
theorem sendMessage_found {frame : CanFrame} (fits : frame.canDlc.toNat ≤ canMaxDlen)
    (timeoutMs : UInt32) (fuel : Nat) {world start : World δ}
    (found : findFreeBuffer env txBuffers world = (some txbn, start)) :
    sendMessage env frame timeoutMs fuel world =
      awaitTransmission env txbn (env.clock (start.accesses + 3) + timeoutMs.toNat * 1000) fuel
        (Peripheral.elapse env (requestTransmission env txbn frame start)) := by
  unfold sendMessage sendMessageOn
  rw [if_neg (Nat.not_lt.mpr fits), found]
  dsimp only
  rw [if_neg (Nat.not_lt.mpr fits), readClock, requestTransmission_accesses]

/-- The clock passes every deadline for good. -/
def Advancing (env : Environment δ) : Prop :=
  ∀ deadline : Int, ∃ access, ∀ later, access ≤ later → deadline ≤ env.clock later

/-- Every call returns, given enough fuel. -/
theorem sendMessage_returns (advancing : Advancing env) (frame : CanFrame) (timeoutMs : UInt32)
    (world : World δ) :
    ∃ fuel error after, sendMessage env frame timeoutMs fuel world = (some error, after) := by
  by_cases fits : frame.canDlc.toNat ≤ canMaxDlen
  · rcases found : findFreeBuffer env txBuffers world with ⟨free, start⟩
    cases free with
    | none =>
        refine ⟨0, .allTxBusy, start, ?_⟩
        unfold sendMessage
        rw [if_neg (Nat.not_lt.mpr fits), found]
    | some txbn =>
        obtain ⟨access, passed⟩ :=
          advancing (env.clock (start.accesses + 3) + timeoutMs.toNat * 1000)
        obtain ⟨fuel, error, after, returned⟩ := awaitTransmission_returns env txbn
          ⟨access, Or.inr (passed _ (show access ≤ (Peripheral.elapse env
            (requestTransmission env txbn frame start)).accesses + 3 * access + 1 by omega))⟩
        refine ⟨fuel, error, after, ?_⟩
        rw [sendMessage_found env txbn fits timeoutMs fuel found]
        exact returned
  · refine ⟨0, .failTx, world, ?_⟩
    unfold sendMessage
    rw [if_pos (Nat.not_le.mp fits)]

end Mcp2515
