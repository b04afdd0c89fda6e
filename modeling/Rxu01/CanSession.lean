import Rxu01.CanManager
import Rxu01.Mcp2515Service
import Rxu01.Mcp2515Start

set_option autoImplicit false

/- Runs of `send` calls after `begin`. -/
namespace CanManager

open EspIdf (espOk)
open Mcp2515 (CanFrame Chip Models Orderly Own OwnMoves Serves Transmission Undisturbed WireFrame
  chipEnvironment)
open Peripheral (Environment Passes World)

/-- Calls of `send`, each with the fuel for its wait. A call that runs out of it is
still executing, and the run stops there. -/
def sendAll {δ : Type} (env : Environment δ) : List (CanFrame × Nat) → Manager δ → Bool × Manager δ
  | [], manager => (true, manager)
  | (frame, fuel) :: rest, manager =>
      let sent := send env fuel frame manager
      if sent.1.isSome then sendAll env rest sent.2 else (false, sent.2)

/-- A started manager whose calls, on these frames, never found all buffers busy,
and whose chip serves a mailbox into which at most those frames went. -/
structure Serving (earlier : List Transmission) (frames : List WireFrame)
    (manager : Manager Chip) : Prop where
  started : manager.initialized = true
  answers : ∀ call ∈ manager.sendCalls, call.2 ≠ some .allTxBusy
  serves : ∃ mailbox : Mailbox Transmission,
    (mailbox.submitted.map Transmission.frame).Sublist frames ∧
      Serves earlier mailbox manager.world.device

/-- The same between two calls. -/
structure Waiting (earlier : List Transmission) (frames : List WireFrame)
    (manager : Manager Chip) : Prop where
  started : manager.initialized = true
  answers : ∀ call ∈ manager.sendCalls, call.2 ≠ some .allTxBusy
  models : ∃ mailbox : Mailbox Transmission, mailbox.pending = none ∧
    (mailbox.submitted.map Transmission.frame).Sublist frames ∧
      Models earlier mailbox manager.world.device

section Invariant

variable {earlier : List Transmission} {frames : List WireFrame} {manager : Manager Chip}

theorem Waiting.serving (waiting : Waiting earlier frames manager) :
    Serving earlier frames manager := by
  obtain ⟨started, answers, mailbox, _, submitted, models⟩ := waiting
  exact ⟨started, answers, mailbox, submitted, mailbox, Mailbox.Drains.refl mailbox, models⟩

/-- What went out since is among the frames, in order. -/
theorem Serving.sent (serving : Serving earlier frames manager) :
    ∃ sent, manager.world.device.bus = earlier ++ sent ∧
      (sent.map Transmission.frame).Sublist frames := by
  obtain ⟨_, _, mailbox, submitted, drained, drains, models⟩ := serving
  have delivered := drained.delivered_sublist
  rw [drains.submitted] at delivered
  exact ⟨drained.delivered, models.bus, (delivered.map Transmission.frame).trans submitted⟩

/-- No buffer is pending between two calls, whatever the chip does. -/
theorem Waiting.idle (waiting : Waiting earlier frames manager) (later : List (Chip → Chip))
    (own : ∀ move ∈ later, ∀ chip, Own chip (move chip)) :
    (Peripheral.settle later manager.world.device).Idle := by
  obtain ⟨_, _, mailbox, room, _, models⟩ := waiting
  have serves : Serves earlier mailbox (Peripheral.settle later manager.world.device) := by
    have start : Serves earlier mailbox manager.world.device :=
      ⟨mailbox, Mailbox.Drains.refl mailbox, models⟩
    generalize manager.world.device = chip at start
    induction later generalizing chip with
    | nil => exact start
    | cons move rest ih =>
        exact ih (fun other member => own other (List.mem_cons_of_mem _ member)) (move chip)
          (start.own (own move List.mem_cons_self chip))
  exact (serves.room room).idle room

end Invariant

section Calls

variable (onReset : Chip → Chip) {moves : Nat → List (Chip → Chip)} (clock : Nat → Int)
  (own : OwnMoves moves)

include own

theorem startDriver_cleared (config : Config) (world : World Chip) :
    Mcp2515.Cleared [.txb2, .txb1, .txb0]
      (startDriver (chipEnvironment onReset moves clock) config world).2.device := by
  have reset := Mcp2515.reset_cleared onReset clock own world
  have bitrate := Mcp2515.setBitrate_cleared onReset clock own config.bitrate config.oscillator
    reset
  have normal := Mcp2515.setMode_cleared onReset clock own Mcp2515.canctrlReqopNormal bitrate
  unfold startDriver
  dsimp only
  split
  · exact reset
  · split
    · exact bitrate
    · exact normal

/-- After a successful `begin` no buffer is pending. -/
theorem begin_waiting {config : Config} {spi : SpiSetup} {world : World Chip}
    {started : Manager Chip}
    (begun : begin (chipEnvironment onReset moves clock) spi { config := config, world := world } =
      (espOk, started)) :
    Waiting started.world.device.bus [] started := by
  have cleared := startDriver_cleared onReset clock own config world
  obtain ⟨_, rfl⟩ := begin_driver _ rfl begun
  refine ⟨rfl, fun call member => absurd member List.not_mem_nil, Mailbox.empty, rfl,
    List.Sublist.refl [], ?_⟩
  apply Models.of_idle (List.append_nil _).symm rfl
  exact Mcp2515.cleared_idle cleared

/-- One call between two waits. -/
theorem send_serving (fuel : Nat) (frame : CanFrame) {earlier : List Transmission}
    {frames : List WireFrame} {manager : Manager Chip}
    (waiting : Waiting earlier frames manager) :
    let sent := send (chipEnvironment onReset moves clock) fuel frame manager
    Orderly manager.world sent.2.world ∧ Serving earlier (frames ++ [frame.onWire]) sent.2 ∧
      (sent.1.isSome = true → Waiting earlier (frames ++ [frame.onWire]) sent.2) := by
  obtain ⟨started, answers, mailbox, room, submitted, models⟩ := waiting
  have longer := submitted.trans (List.sublist_append_left frames [frame.onWire])
  by_cases fits : frame.canDlc.toNat ≤ Mcp2515.canMaxDlen
  · rw [send_started _ started fits]
    obtain ⟨orderly, load, serves, returns⟩ := Mcp2515.sendMessage_serves onReset clock own fits
      manager.config.transmitTimeoutMs fuel room ⟨mailbox, Mailbox.Drains.refl mailbox, models⟩
    have grown : ((mailbox.submit ⟨.txb0, load, frame.onWire⟩ room).submitted.map
        Transmission.frame).Sublist (frames ++ [frame.onWire]) := by
      rw [Mailbox.submit_submitted, List.map_append]
      exact submitted.append (List.Sublist.refl _)
    generalize Mcp2515.sendMessage (chipEnvironment onReset moves clock) frame
      manager.config.transmitTimeoutMs fuel manager.world = sent at orderly serves returns ⊢
    obtain ⟨result, after⟩ := sent
    have answered : ∀ call ∈ manager.sendCalls ++ [(frame, result)],
        call.2 ≠ some .allTxBusy := by
      intro call member
      rcases List.mem_append.mp member with earlier | last
      · exact answers call earlier
      · rw [List.mem_singleton.mp last]
        intro busy
        exact (returns .allTxBusy busy).1 rfl
    refine ⟨orderly, ⟨started, answered, _, grown, serves⟩, ?_⟩
    intro returned
    cases result with
    | none => cases returned
    | some error =>
        obtain ⟨_, drained, drains, empty, settled⟩ := returns error rfl
        refine ⟨started, answered, drained, empty, ?_, settled⟩
        rw [drains.submitted]
        exact grown
  · have refused : send (chipEnvironment onReset moves clock) fuel frame manager =
        (some .invalidFrame, manager) := by
      unfold send
      rw [started, if_neg (by decide), if_pos (Nat.not_le.mp fits)]
    have same : Waiting earlier (frames ++ [frame.onWire]) manager :=
      ⟨started, answers, mailbox, room, longer, models⟩
    rw [refused]
    exact ⟨Passes.refl _, same.serving, fun _ => same⟩

theorem sendAll_serving (calls : List (CanFrame × Nat)) {earlier : List Transmission}
    {frames : List WireFrame} {manager : Manager Chip}
    (waiting : Waiting earlier frames manager) :
    let run := sendAll (chipEnvironment onReset moves clock) calls manager
    Orderly manager.world run.2.world ∧
      Serving earlier (frames ++ calls.map (fun call => call.1.onWire)) run.2 ∧
      (run.1 = true → Waiting earlier (frames ++ calls.map (fun call => call.1.onWire)) run.2) := by
  induction calls generalizing frames manager with
  | nil =>
      rw [List.map_nil, List.append_nil]
      exact ⟨Passes.refl _, waiting.serving, fun _ => waiting⟩
  | cons call rest ih =>
      obtain ⟨frame, fuel⟩ := call
      obtain ⟨orderly, serving, next⟩ := send_serving onReset clock own fuel frame waiting
      unfold sendAll
      dsimp only
      by_cases returned :
          (send (chipEnvironment onReset moves clock) fuel frame manager).1.isSome = true
      · obtain ⟨restOrderly, last, settled⟩ := ih (next returned)
        rw [List.append_assoc] at last settled
        rw [if_pos returned]
        exact ⟨orderly.trans restOrderly, last, settled⟩
      · rw [if_neg returned]
        refine ⟨orderly, ?_, fun done => by cases done⟩
        obtain ⟨started, answers, mailbox, submitted, serves⟩ := serving
        refine ⟨started, answers, mailbox, submitted.trans ?_, serves⟩
        exact (List.Sublist.refl frames).append (List.cons_sublist_cons.mpr (List.nil_sublist _))

/-- Sends after a successful `begin` are serialised and ordered, whatever the chip
does by itself and whenever. -/
theorem sends_serialised {config : Config} {spi : SpiSetup} {world : World Chip}
    {started : Manager Chip}
    (begun : begin (chipEnvironment onReset moves clock) spi { config := config, world := world } =
      (espOk, started)) (calls : List (CanFrame × Nat)) :
    let run := sendAll (chipEnvironment onReset moves clock) calls started
    (∃ moments, run.2.world.moments = started.world.moments ++ moments ∧
      ∀ chip ∈ moments, chip.OnePending) ∧
    (run.1 = true → ∀ later : List (Chip → Chip), (∀ move ∈ later, ∀ chip, Own chip (move chip)) →
      (Peripheral.settle later run.2.world.device).Idle) ∧
    (∀ call ∈ run.2.sendCalls, call.2 ≠ some .allTxBusy) ∧
    (∃ record, run.2.world.exchanges = started.world.exchanges ++ record ∧
      ∀ entry ∈ record, Undisturbed entry) ∧
    ∃ sent, run.2.world.device.bus = started.world.device.bus ++ sent ∧
      (sent.map Transmission.frame).Sublist (calls.map (fun call => call.1.onWire)) := by
  obtain ⟨orderly, serving, waiting⟩ :=
    sendAll_serving onReset clock own calls (begin_waiting onReset clock own begun)
  exact ⟨orderly.moments, fun returned => (waiting returned).idle, serving.answers,
    orderly.records, serving.sent⟩

end Calls

def promptEnvironment : Environment Chip :=
  chipEnvironment id Mcp2515.promptMoves (fun access => access)

/-- What `begin` makes of a manager in front of that chip. -/
def promptManager : Manager Chip :=
  (begin promptEnvironment ⟨espOk, espOk⟩
    { config := {}, world := { device := Mcp2515.blankChip } }).2

theorem promptManager_begun :
    begin promptEnvironment ⟨espOk, espOk⟩
      { config := {}, world := { device := Mcp2515.blankChip } } = (espOk, promptManager) := by
  have begun : (begin promptEnvironment ⟨espOk, espOk⟩
      { config := {}, world := { device := Mcp2515.blankChip } }).1 = espOk := by
    decide +kernel
  unfold promptManager
  generalize begin promptEnvironment ⟨espOk, espOk⟩
    { config := {}, world := { device := Mcp2515.blankChip } } = result at begun ⊢
  exact congrArg (fun status => (status, result.2)) begun

theorem sends_serialised_prompt :
    ∃ sent, (sendAll promptEnvironment [({ canId := 0x101 }, 2), ({ canId := 0x102 }, 2)]
        promptManager).2.world.device.bus = promptManager.world.device.bus ++ sent ∧
      (sent.map Transmission.frame).Sublist
        [CanFrame.onWire { canId := 0x101 }, CanFrame.onWire { canId := 0x102 }] := by
  have begun := promptManager_begun
  unfold promptEnvironment at begun ⊢
  have run := sends_serialised id (fun access => access) Mcp2515.promptMoves_own begun
    [({ canId := 0x101 }, 2), ({ canId := 0x102 }, 2)]
  exact run.2.2.2.2

end CanManager
