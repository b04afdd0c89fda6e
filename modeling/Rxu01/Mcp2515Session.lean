import Rxu01.Mcp2515ReceiveRun

set_option autoImplicit false

/- Sessions with a started chip: any calls of the driver that read, send, ask for
flags and clear them, in any order. -/
namespace Mcp2515

open Peripheral (Environment World elapse exchange)

inductive Call where
  | readMessage (frame : CanFrame)
  | readMessageOn (rxbn : RxBuffer) (frame : CanFrame)
  | sendMessage (frame : CanFrame) (timeoutMs : UInt32) (fuel : Nat)
  | sendMessageOn (txbn : TxBuffer) (frame : CanFrame) (timeoutMs : UInt32) (fuel : Nat)
  | getStatus
  | checkReceive
  | checkError
  | getErrorFlags
  | getInterrupts
  | getInterruptMask
  | clearRXnOVRFlags
  | clearInterrupts
  | clearTXInterrupts
  | clearRXnOVR
  | clearMERR
  | clearERRIF
  deriving DecidableEq, Repr

/-- The calls that write zero to all interrupt flags. -/
def Call.clears : Call → Bool
  | .clearInterrupts | .clearRXnOVR => true
  | _ => false

/-- The two overloads of `readMessage`. -/
def Call.reads : Call → Bool
  | .readMessage _ | .readMessageOn _ _ => true
  | _ => false

/-- One call, with what `readMessage` returned and left in the caller's frame. A
`sendMessage` that runs out of fuel stands for one that is still waiting. -/
def perform {δ : Type} (env : Environment δ) (leftovers : Leftovers) (world : World δ)
    (call : Call) : World δ × Option (Error × CanFrame) :=
  match call with
  | .readMessage frame =>
      let read := readMessage env leftovers frame world
      (read.2.2, some (read.1, read.2.1))
  | .readMessageOn rxbn frame =>
      let read := readMessageOn env leftovers rxbn frame world
      (read.2.2, some (read.1, read.2.1))
  | .sendMessage frame timeoutMs fuel => ((sendMessage env frame timeoutMs fuel world).2, none)
  | .sendMessageOn txbn frame timeoutMs fuel =>
      ((sendMessageOn env txbn frame timeoutMs fuel world).2, none)
  | .getStatus => ((getStatus env world).2, none)
  | .checkReceive => ((checkReceive env world).2, none)
  | .checkError => ((checkError env world).2, none)
  | .getErrorFlags => ((getErrorFlags env world).2, none)
  | .getInterrupts => ((getInterrupts env world).2, none)
  | .getInterruptMask => ((getInterruptMask env world).2, none)
  | .clearRXnOVRFlags => (clearRXnOVRFlags env world, none)
  | .clearInterrupts => (clearInterrupts env world, none)
  | .clearTXInterrupts => (clearTXInterrupts env world, none)
  | .clearRXnOVR => (clearRXnOVR env world, none)
  | .clearMERR => (clearMERR env world, none)
  | .clearERRIF => (clearERRIF env world, none)

/-- The frame a call handed to its caller, if it did. -/
def handedOver : Option (Error × CanFrame) → Option CanFrame
  | some (.ok, frame) => some frame
  | _ => none

/-- The frames the session returned, oldest first. -/
def returnedFrames (log : List (Call × Option (Error × CanFrame))) : List CanFrame :=
  log.filterMap (fun entry => handedOver entry.2)

theorem returnedFrames_snoc (log : List (Call × Option (Error × CanFrame))) (call : Call)
    (reply : Option (Error × CanFrame)) :
    returnedFrames (log ++ [(call, reply)]) = returnedFrames log ++ (handedOver reply).toList := by
  unfold returnedFrames
  rw [List.filterMap_append]
  cases answered : handedOver reply <;> simp [answered]

theorem handedOver_some {reply : Option (Error × CanFrame)} {frame : CanFrame}
    (handed : handedOver reply = some frame) : reply = some (.ok, frame) := by
  unfold handedOver at handed
  split at handed
  · rw [Option.some.inj handed]
  · cases handed

/-- A read returns what a buffer holds and empties it, or leaves the caller's frame. -/
inductive ReadEnds (store : SlotStore RxBuffer Arrival) (frame : CanFrame) :
    Error × CanFrame × World Node → Prop where
  | returned {filled : SlotStore RxBuffer Arrival} {after : World Node} {answer : CanFrame}
      {rxbn : RxBuffer} {item : Arrival} (fills : store.Fills filled)
      (held : filled.held rxbn = some item) (wire : answer.onWire = item.frame)
      (mirrors : Mirrors (filled.depart rxbn item true held) after.device) :
      ReadEnds store frame (.ok, answer, after)
  | refused {filled : SlotStore RxBuffer Arrival} {after : World Node} {error : Error}
      (fills : store.Fills filled) (failed : error ≠ .ok) (mirrors : Mirrors filled after.device) :
      ReadEnds store frame (error, frame, after)

theorem ReadEnds.after {store filled : SlotStore RxBuffer Arrival} {frame : CanFrame}
    {result : Error × CanFrame × World Node} (ends : ReadEnds filled frame result)
    (fills : store.Fills filled) : ReadEnds store frame result := by
  cases ends with
  | returned later held wire mirrors =>
      exact ReadEnds.returned (fills.trans later) held wire mirrors
  | refused later failed mirrors => exact ReadEnds.refused (fills.trans later) failed mirrors

section Steps

variable {onReset : Chip → Chip} {env : Environment Node} (bus : OnNode onReset env)
  (leftovers : Leftovers) {store : SlotStore RxBuffer Arrival} {world : World Node}
  (mirrors : Mirrors store world.device)
include bus

/-- Every other call than reading and clearing all flags. -/
theorem perform_carries (call : Call) (other : call.reads = false)
    (keeps : call.clears = false) :
    Carries world.device (perform env leftovers world call).1.device ∧
      (perform env leftovers world call).2 = none := by
  cases call with
  | readMessage => cases other
  | readMessageOn => cases other
  | sendMessage frame timeoutMs fuel =>
      exact ⟨sendMessage_carries bus frame timeoutMs fuel world, rfl⟩
  | sendMessageOn txbn frame timeoutMs fuel =>
      exact ⟨sendMessageOn_carries bus txbn frame timeoutMs fuel world, rfl⟩
  | getStatus => exact ⟨exchange_carries bus world (status_spares onReset), rfl⟩
  | checkReceive => exact ⟨exchange_carries bus world (status_spares onReset), rfl⟩
  | checkError => exact ⟨readRegister_carries bus world eflg, rfl⟩
  | getErrorFlags => exact ⟨readRegister_carries bus world eflg, rfl⟩
  | getInterrupts => exact ⟨readRegister_carries bus world canintf, rfl⟩
  | getInterruptMask => exact ⟨readRegister_carries bus world caninte, rfl⟩
  | clearRXnOVRFlags =>
      exact ⟨exchange_carries bus world (modify_spares onReset eflg _ 0 (by decide) (by decide)), rfl⟩
  | clearInterrupts => cases keeps
  | clearTXInterrupts => exact ⟨exchange_carries bus world (flags_spares onReset _ rfl), rfl⟩
  | clearRXnOVR => cases keeps
  | clearMERR => exact ⟨exchange_carries bus world (flags_spares onReset _ rfl), rfl⟩
  | clearERRIF => exact ⟨exchange_carries bus world (flags_spares onReset _ rfl), rfl⟩

/-- The flag of a buffer shows in the status byte. -/
theorem getStatus_flag (world : World Node) (rxbn : RxBuffer) :
    (getStatus env world).1 &&& rxbn.rxnif ≠ 0 ↔
      (elapse env world).device.chip.full rxbn = true := by
  rw [(getStatus_node bus world).1, status_flag]
  unfold Chip.full
  rw [bne_iff_ne]

include mirrors

/-- Clearing the flag of one buffer throws away what it may hold. -/
theorem clearFlag_discards (rxbn : RxBuffer) :
    ∃ filled, store.Fills filled ∧
      Mirrors (filled.discard rxbn) (modifyRegister env canintf rxbn.rxnif 0 world).device := by
  obtain ⟨filled, fills, mirrors'⟩ := elapse_carries bus world store mirrors
  have device := (exchange_node bus world [instructionBitmod, canintf, rxbn.rxnif, 0]).2
  refine ⟨filled, fills, ?_, ?_⟩
  · unfold modifyRegister
    rw [device, clear_slot, SlotStore.discard_held, mirrors'.slots]
  · unfold modifyRegister
    rw [device, execute_heard, SlotStore.discard_arrived, mirrors'.heard]

/-- Clearing all flags throws both buffers away. -/
theorem clearInterrupts_discards :
    ∃ filled, store.Fills filled ∧
      Mirrors ((filled.discard .rxb0).discard .rxb1) (clearInterrupts env world).device := by
  obtain ⟨filled, fills, mirrors'⟩ := elapse_carries bus world store mirrors
  have device := (exchange_node bus world [instructionWrite, canintf, 0]).2
  refine ⟨filled, fills, ?_, ?_⟩
  · change (exchange env [instructionWrite, canintf, 0] world).2.device.chip.slot = _
    rw [device, execute_write, SlotStore.discard_held, SlotStore.discard_held]
    have clear : (((elapse env world).device.chip).write canintf.toNat [0]).registers
        canintf.toNat = 0 := rfl
    funext rxbn
    have empty : (((elapse env world).device.chip).write canintf.toNat [0]).slot rxbn = none := by
      unfold Chip.slot Chip.full
      rw [clear]
      simp
    rw [empty]
    cases rxbn with
    | rxb0 => rfl
    | rxb1 => rfl
  · change (exchange env [instructionWrite, canintf, 0] world).2.device.heard = _
    rw [device, execute_heard, SlotStore.discard_arrived, SlotStore.discard_arrived]
    exact mirrors'.heard

/-- The calls that clear all flags return nothing. -/
theorem perform_clears (call : Call) (clears : call.clears = true) :
    (perform env leftovers world call).2 = none ∧
      ∃ next : SlotStore RxBuffer Arrival, next.returned = store.returned ∧
        Mirrors next (perform env leftovers world call).1.device := by
  cases call with
  | clearInterrupts =>
      obtain ⟨filled, fills, last⟩ := clearInterrupts_discards bus mirrors
      exact ⟨rfl, _, by simp [fills.returned], last⟩
  | clearRXnOVR =>
      refine ⟨rfl, ?_⟩
      obtain ⟨filled, fills, mirrors'⟩ := readRegister_carries bus world eflg store mirrors
      unfold perform clearRXnOVR
      dsimp only
      split
      · obtain ⟨filled', fills', mirrors''⟩ :=
          exchange_carries bus (getErrorFlags env world).2
            (modify_spares onReset eflg (eflgRx0ovr ||| eflgRx1ovr) 0 (by decide) (by decide))
            filled mirrors'
        obtain ⟨filled'', fills'', last⟩ := clearInterrupts_discards bus mirrors''
        exact ⟨_, by simp [fills''.returned, fills'.returned, fills.returned], last⟩
      · exact ⟨filled, fills.returned, mirrors'⟩
  | _ => cases clears

/-- A read of a given buffer, whether it holds a frame or not. -/
theorem readMessageOn_mirrors (rxbn : RxBuffer) (frame : CanFrame) :
    ∃ next : SlotStore RxBuffer Arrival,
      Mirrors next (readMessageOn env leftovers rxbn frame world).2.2.device := by
  obtain ⟨filled, _, mirrors'⟩ :=
    readRegisters_carries bus leftovers world rxbn.sidh 5 store mirrors
  unfold readMessageOn
  dsimp only
  split
  · exact ⟨filled, mirrors'⟩
  · obtain ⟨filled', _, mirrors''⟩ := readRegister_carries bus _ rxbn.ctrl filled mirrors'
    obtain ⟨filled'', _, last⟩ :=
      readRegisters_carries bus leftovers _ rxbn.data _ filled' mirrors''
    obtain ⟨cleared, _, cleared'⟩ := clearFlag_discards bus last rxbn
    exact ⟨_, cleared'⟩

/-- A buffer whose flag is set is returned or refused. -/
theorem readMessageOn_ends (rxbn : RxBuffer) (full : world.device.chip.full rxbn = true)
    (frame : CanFrame) : ReadEnds store frame (readMessageOn env leftovers rxbn frame world) := by
  have holds : store.held rxbn = some (world.device.chip.arrival rxbn) := by
    rw [← mirrors.slots]
    exact if_pos full
  by_cases long : canMaxDlen < (world.device.chip.arrival rxbn).code
  · obtain ⟨filled, after, fills, last, result⟩ :=
      readMessageOn_long bus leftovers mirrors holds long frame
    rw [result]
    exact ReadEnds.refused fills (by decide) last
  · obtain ⟨filled, after, answer, held, fills, last, result, wire, _⟩ :=
      readMessageOn_short bus leftovers mirrors holds (Nat.not_lt.mp long) frame
    rw [result]
    exact ReadEnds.returned fills held wire last

theorem readMessage_ends (frame : CanFrame) :
    ReadEnds store frame (readMessage env leftovers frame world) := by
  obtain ⟨filled, fills, mirrors'⟩ := elapse_carries bus world store mirrors
  have device := (getStatus_node bus world).2
  have full := getStatus_flag bus world
  rw [← device] at mirrors' full
  unfold readMessage
  dsimp only
  split
  · rename_i flag
    exact (readMessageOn_ends bus leftovers mirrors' .rxb0 ((full .rxb0).mp flag) frame).after fills
  · split
    · rename_i flag
      exact (readMessageOn_ends bus leftovers mirrors' .rxb1 ((full .rxb1).mp flag) frame).after
        fills
    · exact ReadEnds.refused fills (by decide) mirrors'

/-- While the first buffer holds a frame longer than eight bytes, every read fails. -/
theorem readMessage_long {item : Arrival} (holds : store.held .rxb0 = some item)
    (long : canMaxDlen < item.code) (frame : CanFrame) :
    ∃ filled after, store.Fills filled ∧ Mirrors filled after.device ∧
      readMessage env leftovers frame world = (.fail, frame, after) := by
  obtain ⟨filled, fills, mirrors'⟩ := elapse_carries bus world store mirrors
  have flag := (getStatus_flag bus world .rxb0).mpr (mirrors'.arrival (fills.holds holds)).1
  rw [← (getStatus_node bus world).2] at mirrors'
  obtain ⟨filled', after, fills', last, result⟩ :=
    readMessageOn_long bus leftovers mirrors' (fills.holds holds) long frame
  exact ⟨filled', after, fills.trans fills', last, (if_pos flag).trans result⟩

end Steps

/-- With one buffer stuck, the other one takes one more frame at most. -/
theorem fills_one {store filled : SlotStore RxBuffer Arrival} (fills : store.Fills filled)
    {item : Arrival} (holds : store.held .rxb0 = some item) :
    filled.arrived.length ≤ store.arrived.length + 1 := by
  have split : ∀ entries : List (RxBuffer × Arrival), entries.length =
      ((entries.filter (fun entry => entry.1 == .rxb0)).map Prod.snd).length +
        ((entries.filter (fun entry => entry.1 == .rxb1)).map Prod.snd).length := by
    intro entries
    induction entries with
    | nil => rfl
    | cons entry rest ih =>
        obtain ⟨rxbn, arrival⟩ := entry
        cases rxbn <;> simp at ih ⊢ <;> omega
  have first := congrArg List.length (store.arrivedAt_eq .rxb0)
  have second := congrArg List.length (store.arrivedAt_eq .rxb1)
  have first' := congrArg List.length (filled.arrivedAt_eq .rxb0)
  have second' := congrArg List.length (filled.arrivedAt_eq .rxb1)
  unfold SlotStore.arrivedAt SlotStore.departedFrom at first second first' second'
  rw [List.length_append, holds] at first
  rw [List.length_append, fills.departed, fills.holds holds] at first'
  rw [List.length_append] at second
  rw [List.length_append, fills.departed] at second'
  have room : (filled.held .rxb1).toList.length ≤ 1 := by
    cases filled.held .rxb1 <;> simp
  rw [split filled.arrived, split store.arrived]
  omega

/-- How a call ends for the frames behind it: with a read of a buffer, without one, or
with all flags cleared. -/
inductive CallEnds (store : SlotStore RxBuffer Arrival) (call : Call) :
    World Node × Option (Error × CanFrame) → Prop where
  | read {frame answer : CanFrame} {error : Error} {after : World Node}
      (ends : ReadEnds store frame (error, answer, after)) :
      CallEnds store call (after, some (error, answer))
  | quiet {filled : SlotStore RxBuffer Arrival} {after : World Node} (fills : store.Fills filled)
      (mirrors : Mirrors filled after.device) : CallEnds store call (after, none)
  | cleared {next : SlotStore RxBuffer Arrival} {after : World Node} (clears : call.clears = true)
      (same : next.returned = store.returned) (mirrors : Mirrors next after.device) :
      CallEnds store call (after, none)

section Run

variable {onReset : Chip → Chip} {env : Environment Node} (bus : OnNode onReset env)
  (leftovers : Leftovers)

variable (env) in
/-- Each `readMessage(RXBn, ..)` is made while that buffer holds a frame, which its flag
shows. -/
def ReadsHeld (start : World Node) (calls : List Call) : Prop :=
  ∀ before rxbn frame after, calls = before ++ .readMessageOn rxbn frame :: after →
    (Reactive.run (perform env leftovers) start before).device.chip.full rxbn = true

theorem ReadsHeld.front {start : World Node} {calls : List Call} {call : Call}
    (held : ReadsHeld env leftovers start (calls ++ [call])) :
    ReadsHeld env leftovers start calls := by
  intro before rxbn frame after split
  apply held before rxbn frame (after ++ [call])
  rw [split, List.append_assoc, List.cons_append]

variable (env) in
/-- The session so far: what it returned is what left the buffers, and only calls that
clear all flags threw anything away. -/
def Accounts (start : World Node) (calls : List Call) (world : World Node) : Prop :=
  ∃ store : SlotStore RxBuffer Arrival, Mirrors store world.device ∧
    (ReadsHeld env leftovers start calls →
      (returnedFrames (Reactive.history (perform env leftovers) start calls)).map CanFrame.onWire =
          store.returned.map Arrival.frame ∧
        ((∀ call ∈ calls, call.clears = false) →
          ∀ departure ∈ store.departed, departure.returned = true))

include bus

theorem perform_ends {store : SlotStore RxBuffer Arrival} {world : World Node}
    (mirrors : Mirrors store world.device) (call : Call)
    (held : ∀ rxbn frame, call = .readMessageOn rxbn frame →
      world.device.chip.full rxbn = true) :
    CallEnds store call (perform env leftovers world call) := by
  by_cases clears : call.clears = true
  · obtain ⟨none, next, same, last⟩ := perform_clears bus leftovers mirrors call clears
    generalize perform env leftovers world call = result at none last ⊢
    obtain ⟨after, reply⟩ := result
    subst none
    exact CallEnds.cleared clears same last
  by_cases reads : call.reads = true
  · cases call with
    | readMessage frame => exact CallEnds.read (readMessage_ends bus leftovers mirrors frame)
    | readMessageOn rxbn frame =>
        exact CallEnds.read
          (readMessageOn_ends bus leftovers mirrors rxbn (held rxbn frame rfl) frame)
    | _ => cases reads
  · obtain ⟨carries, none⟩ := perform_carries bus leftovers call
      (Bool.not_eq_true _ ▸ reads) (Bool.not_eq_true _ ▸ clears)
    obtain ⟨filled, fills, last⟩ := carries store mirrors
    generalize perform env leftovers world call = result at none last ⊢
    obtain ⟨after, reply⟩ := result
    subst none
    exact CallEnds.quiet fills last

omit bus in
/-- The account of a session grows by the end of its next call. -/
theorem CallEnds.accounts {start : World Node} {calls : List Call} {call : Call}
    {store : SlotStore RxBuffer Arrival} {result : World Node × Option (Error × CanFrame)}
    (ends : CallEnds store call result)
    (performed : perform env leftovers (Reactive.run (perform env leftovers) start calls) call =
      result)
    (account : ReadsHeld env leftovers start calls →
      (returnedFrames (Reactive.history (perform env leftovers) start calls)).map CanFrame.onWire =
          store.returned.map Arrival.frame ∧
        ((∀ call ∈ calls, call.clears = false) →
          ∀ departure ∈ store.departed, departure.returned = true)) :
    Accounts env leftovers start (calls ++ [call]) result.1 := by
  have snoc : returnedFrames (Reactive.history (perform env leftovers) start (calls ++ [call])) =
      returnedFrames (Reactive.history (perform env leftovers) start calls) ++
        (handedOver result.2).toList := by
    rw [Reactive.history_snoc, returnedFrames_snoc, performed]
  have earlier : (∀ other ∈ calls ++ [call], other.clears = false) →
      ∀ other ∈ calls, other.clears = false :=
    fun all other member => all other (List.mem_append_left _ member)
  cases ends with
  | @read frame answer error after ends =>
      cases ends with
      | @returned filled after answer rxbn item fills holds wire last =>
          refine ⟨filled.depart rxbn item true holds, last, fun held => ?_⟩
          obtain ⟨frames, kept⟩ := account held.front
          constructor
          · rw [snoc, SlotStore.depart_returned, List.map_append, List.map_append, frames,
              fills.returned]
            simp [handedOver, wire]
          · intro all departure member
            rcases List.mem_append.mp member with old | new
            · rw [fills.departed] at old
              exact kept (earlier all) departure old
            · rw [List.mem_singleton.mp new]
      | @refused filled after error fills failed last =>
          refine ⟨filled, last, fun held => ?_⟩
          obtain ⟨frames, kept⟩ := account held.front
          constructor
          · have nothing : handedOver (some (error, frame)) = none := by
              cases error <;> first | exact absurd rfl failed | rfl
            rw [snoc, nothing, fills.returned, ← frames]
            simp
          · intro all departure member
            rw [fills.departed] at member
            exact kept (earlier all) departure member
  | @quiet filled after fills last =>
      refine ⟨filled, last, fun held => ?_⟩
      obtain ⟨frames, kept⟩ := account held.front
      constructor
      · rw [snoc, fills.returned, ← frames]
        simp [handedOver]
      · intro all departure member
        rw [fills.departed] at member
        exact kept (earlier all) departure member
  | @cleared next after clears same last =>
      refine ⟨next, last, fun held => ?_⟩
      obtain ⟨frames, _⟩ := account held.front
      constructor
      · rw [snoc, same, ← frames]
        simp [handedOver]
      · intro all
        have keeps := all call (List.mem_append_right _ List.mem_cons_self)
        rw [clears] at keeps
        cases keeps

theorem perform_accounts (start : World Node) (calls : List Call) (call : Call)
    (accounts : Accounts env leftovers start calls
      (Reactive.run (perform env leftovers) start calls)) :
    Accounts env leftovers start (calls ++ [call])
      (perform env leftovers (Reactive.run (perform env leftovers) start calls) call).1 := by
  obtain ⟨store, mirrors, account⟩ := accounts
  by_cases held : ∀ rxbn frame, call = .readMessageOn rxbn frame →
      (Reactive.run (perform env leftovers) start calls).device.chip.full rxbn = true
  · exact (perform_ends bus leftovers mirrors call held).accounts leftovers rfl account
  · -- a direct read of an empty buffer, which `ReadsHeld` excludes
    simp only [not_forall] at held
    obtain ⟨rxbn, frame, rfl, empty⟩ := held
    obtain ⟨next, last⟩ := readMessageOn_mirrors bus leftovers mirrors rxbn frame
    exact ⟨next, last, fun all => absurd (all calls rxbn frame [] rfl) empty⟩

/-- The session so far, from a chip that has heard nothing. -/
theorem session_induction {start : World Node} (fresh : start.device.heard = [])
    (empty : ∀ rxbn, start.device.chip.slot rxbn = none) (calls : List Call) :
    Accounts env leftovers start calls (Reactive.run (perform env leftovers) start calls) := by
  apply Reactive.legal_induction (perform env leftovers) (fun _ => True)
    (Accounts env leftovers start) start
  · exact ⟨{}, ⟨funext empty, fresh⟩, fun _ => ⟨rfl, fun _ departure member => by cases member⟩⟩
  · exact fun _ _ _ => trivial
  · exact fun calls call _ accounts => perform_accounts bus leftovers start calls call accounts
  · trivial

/-- A node that hears two frames: one with two data bytes before the first access, and
one with length code nine before the sixth. -/
def twoFrames (access : Nat) : List (Vector UInt8 13 × Bool) :=
  match access with
  | 0 => [(#v[0x20, 0x20, 0, 0, 2, 7, 9, 0, 0, 0, 0, 0, 0], false)]
  | 5 => [(#v[0x20, 0x48, 1, 2, 9, 1, 2, 3, 4, 5, 6, 7, 8], false)]
  | _ => []

def twoFramesEnvironment : Environment Node :=
  nodeEnvironment id
    (fun access => (twoFrames access).map (fun frame node => node.hear frame.1 frame.2))
    (fun access => access)

def blankLeftovers : Leftovers := ⟨fun _ _ => 0, fun _ _ => 0⟩

def freshNode : World Node := { device := { chip := blankChip } }

def twoFramesRun (calls : List Call) : World Node :=
  Reactive.run (perform twoFramesEnvironment blankLeftovers) freshNode calls

def twoFramesLog (calls : List Call) : List (Call × Option (Error × CanFrame)) :=
  Reactive.history (perform twoFramesEnvironment blankLeftovers) freshNode calls

/-- Whatever calls are made, and whatever the chip stores between any two accesses:
what was stored in a buffer is, in order, what left it and what it still holds. If no
empty buffer is read directly, what left was returned exactly as stored, or thrown
away by a call that clears all flags. -/
theorem session_accounts {start : World Node} (fresh : start.device.heard = [])
    (empty : ∀ rxbn, start.device.chip.slot rxbn = none) (calls : List Call) :
    ∃ departed : List (Departure RxBuffer Arrival),
      (∀ rxbn,
        ((Reactive.run (perform env leftovers) start calls).device.heard.filter
            (fun entry => entry.1 == rxbn)).map Prod.snd =
          (departed.filter (fun entry => entry.slot == rxbn)).map Departure.item ++
            ((Reactive.run (perform env leftovers) start calls).device.chip.slot rxbn).toList) ∧
      (ReadsHeld env leftovers start calls →
        (returnedFrames (Reactive.history (perform env leftovers) start calls)).map
            CanFrame.onWire =
          (departed.filter Departure.returned).map (fun departure => departure.item.frame) ∧
        ((∀ call ∈ calls, call.clears = false) →
          ∀ departure ∈ departed, departure.returned = true)) := by
  obtain ⟨store, mirrors, account⟩ := session_induction bus leftovers fresh empty calls
  refine ⟨store.departed, ?_, fun held => ?_⟩
  · intro rxbn
    rw [mirrors.heard, mirrors.slots]
    exact store.arrivedAt_eq rxbn
  · obtain ⟨frames, kept⟩ := account held
    refine ⟨?_, kept⟩
    rw [frames]
    simp [SlotStore.returned]

omit bus in
/-- Both frames are read, the second one refused. -/
theorem session_accounts_twoFrames :
    ∃ departed : List (Departure RxBuffer Arrival),
      (∀ rxbn,
        ((twoFramesRun [.getStatus, .readMessageOn .rxb0 {}, .readMessage {}]).device.heard.filter
            (fun entry => entry.1 == rxbn)).map Prod.snd =
          (departed.filter (fun entry => entry.slot == rxbn)).map Departure.item ++
            ((twoFramesRun [.getStatus, .readMessageOn .rxb0 {},
              .readMessage {}]).device.chip.slot rxbn).toList) ∧
      (returnedFrames (twoFramesLog [.getStatus, .readMessageOn .rxb0 {}, .readMessage {}])).map
          CanFrame.onWire =
        (departed.filter Departure.returned).map (fun departure => departure.item.frame) ∧
      ∀ departure ∈ departed, departure.returned = true := by
  obtain ⟨departed, accounted, returned⟩ := session_accounts
    (nodeEnvironment_onNode id (schedule_receives twoFrames) (fun access => access))
    blankLeftovers (rfl : freshNode.device.heard = []) (fun rxbn => by cases rxbn <;> rfl)
    [.getStatus, .readMessageOn .rxb0 {}, .readMessage {}]
  have held : ReadsHeld twoFramesEnvironment blankLeftovers freshNode
      [.getStatus, .readMessageOn .rxb0 {}, .readMessage {}] := by
    rintro (_ | ⟨first, _ | ⟨second, _ | ⟨third, before⟩⟩⟩) rxbn frame after split
    · cases split
    · cases split
      decide +kernel
    · cases split
    · simp at split
  obtain ⟨frames, kept⟩ := returned held
  exact ⟨departed, accounted, frames, kept (by decide)⟩

/-- One call while the first buffer holds a frame longer than eight bytes. -/
theorem perform_stuck {store : SlotStore RxBuffer Arrival} {world : World Node} {item : Arrival}
    (mirrors : Mirrors store world.device) (holds : store.held .rxb0 = some item)
    (long : canMaxDlen < item.code) (call : Call) (keeps : call.clears = false)
    (first : ∀ frame, call ≠ .readMessageOn .rxb1 frame) :
    (∃ filled, store.Fills filled ∧
        Mirrors filled (perform env leftovers world call).1.device) ∧
      (∀ frame, call = .readMessage frame ∨ call = .readMessageOn .rxb0 frame →
        (perform env leftovers world call).2 = some (.fail, frame)) ∧
      handedOver (perform env leftovers world call).2 = none := by
  by_cases reads : call.reads = true
  · have refused : ∃ frame filled after, store.Fills filled ∧ Mirrors filled after.device ∧
        perform env leftovers world call = (after, some (.fail, frame)) ∧
        (call = .readMessage frame ∨ call = .readMessageOn .rxb0 frame) := by
      cases call with
      | readMessage frame =>
          obtain ⟨filled, after, fills, last, result⟩ :=
            readMessage_long bus leftovers mirrors holds long frame
          refine ⟨frame, filled, after, fills, last, ?_, Or.inl rfl⟩
          unfold perform
          dsimp only
          rw [result]
      | readMessageOn rxbn frame =>
          cases rxbn with
          | rxb0 =>
              obtain ⟨filled, after, fills, last, result⟩ :=
                readMessageOn_long bus leftovers mirrors holds long frame
              refine ⟨frame, filled, after, fills, last, ?_, Or.inr rfl⟩
              unfold perform
              dsimp only
              rw [result]
          | rxb1 => exact absurd rfl (first frame)
      | _ => cases reads
    obtain ⟨frame, filled, after, fills, last, result, which⟩ := refused
    rw [result]
    refine ⟨⟨filled, fills, last⟩, ?_, rfl⟩
    intro other same
    rcases which with rfl | rfl <;> rcases same with same | same <;> cases same <;> rfl
  · obtain ⟨carries, none⟩ := perform_carries bus leftovers call (Bool.not_eq_true _ ▸ reads) keeps
    refine ⟨carries store mirrors, ?_, ?_⟩
    · rintro frame (rfl | rfl) <;> exact absurd rfl reads
    · rw [none]
      rfl

theorem run_stuck {store : SlotStore RxBuffer Arrival} {world : World Node} {item : Arrival}
    (mirrors : Mirrors store world.device) (holds : store.held .rxb0 = some item)
    (long : canMaxDlen < item.code) (calls : List Call)
    (keeps : ∀ call ∈ calls, call.clears = false)
    (first : ∀ frame, Call.readMessageOn .rxb1 frame ∉ calls) :
    (∃ filled, store.Fills filled ∧
        Mirrors filled (Reactive.run (perform env leftovers) world calls).device) ∧
      (∀ call frame reply, call = .readMessage frame ∨ call = .readMessageOn .rxb0 frame →
        (call, reply) ∈ Reactive.history (perform env leftovers) world calls →
          reply = some (.fail, frame)) ∧
      returnedFrames (Reactive.history (perform env leftovers) world calls) = [] := by
  induction calls generalizing store world with
  | nil =>
      refine ⟨⟨store, SlotStore.Fills.refl store, mirrors⟩, ?_, rfl⟩
      intro call frame reply _ member
      cases member
  | cons call rest ih =>
      obtain ⟨⟨filled, fills, next⟩, fails, nothing⟩ :=
        perform_stuck bus leftovers mirrors holds long call (keeps call List.mem_cons_self)
          (fun frame same => first frame (same ▸ List.mem_cons_self))
      obtain ⟨⟨last, fills', mirrors'⟩, fails', nothing'⟩ := ih next (fills.holds holds)
        (fun other member => keeps other (List.mem_cons_of_mem _ member))
        (fun frame member => first frame (List.mem_cons_of_mem _ member))
      refine ⟨⟨last, fills.trans fills', mirrors'⟩, ?_, ?_⟩
      · intro made frame reply read member
        rw [Reactive.history_cons] at member
        rcases List.mem_cons.mp member with now | later
        · obtain ⟨rfl, rfl⟩ := Prod.mk.inj now
          exact fails frame read
        · exact fails' made frame reply read later
      · unfold returnedFrames at nothing' ⊢
        rw [Reactive.history_cons, List.filterMap_cons, nothing]
        exact nothing'

/-- From the moment the first buffer holds a frame with a length code above eight, and
until the flags are cleared or the second buffer is read directly, every read fails,
nothing is returned any more, and at most one more frame is stored. -/
theorem session_stuck {start : World Node} (fresh : start.device.heard = [])
    (empty : ∀ rxbn, start.device.chip.slot rxbn = none) (before after : List Call)
    {item : Arrival}
    (stored : (Reactive.run (perform env leftovers) start before).device.chip.slot .rxb0 = some item)
    (long : canMaxDlen < item.code) (keeps : ∀ call ∈ after, call.clears = false)
    (first : ∀ frame, Call.readMessageOn .rxb1 frame ∉ after) :
    (∀ call frame reply, call = .readMessage frame ∨ call = .readMessageOn .rxb0 frame →
        (call, reply) ∈ Reactive.history (perform env leftovers)
            (Reactive.run (perform env leftovers) start before) after →
          reply = some (.fail, frame)) ∧
      returnedFrames (Reactive.history (perform env leftovers) start (before ++ after)) =
        returnedFrames (Reactive.history (perform env leftovers) start before) ∧
      (Reactive.run (perform env leftovers) start (before ++ after)).device.chip.slot .rxb0 =
        some item ∧
      (Reactive.run (perform env leftovers) start (before ++ after)).device.heard.length ≤
        (Reactive.run (perform env leftovers) start before).device.heard.length + 1 := by
  obtain ⟨store, mirrors, _⟩ := session_induction bus leftovers fresh empty before
  have holds : store.held .rxb0 = some item := by
    rw [← mirrors.slots]
    exact stored
  obtain ⟨⟨filled, fills, last⟩, fails, nothing⟩ :=
    run_stuck bus leftovers mirrors holds long after keeps first
  refine ⟨fails, ?_, ?_, ?_⟩
  · unfold returnedFrames at nothing ⊢
    rw [Reactive.history_append, List.filterMap_append, nothing, List.append_nil]
  · rw [Reactive.run_append, last.slots]
    exact fills.holds holds
  · rw [Reactive.run_append, last.heard, mirrors.heard]
    exact fills_one fills holds

omit bus in
theorem session_stuck_twoFrames :
    (∀ call frame reply, call = .readMessage frame ∨ call = .readMessageOn .rxb0 frame →
        (call, reply) ∈ Reactive.history (perform twoFramesEnvironment blankLeftovers)
            (twoFramesRun [.readMessage {}, .checkReceive])
            [.readMessage {}, .getStatus, .readMessageOn .rxb0 {}] →
          reply = some (.fail, frame)) ∧
      returnedFrames (twoFramesLog
          [.readMessage {}, .checkReceive, .readMessage {}, .getStatus, .readMessageOn .rxb0 {}]) =
        returnedFrames (twoFramesLog [.readMessage {}, .checkReceive]) ∧
      (twoFramesRun [.readMessage {}, .checkReceive, .readMessage {}, .getStatus,
          .readMessageOn .rxb0 {}]).device.chip.slot .rxb0 =
        some ⟨⟨67633410, true, false, 8, [1, 2, 3, 4, 5, 6, 7, 8]⟩, 9⟩ ∧
      (twoFramesRun [.readMessage {}, .checkReceive, .readMessage {}, .getStatus,
          .readMessageOn .rxb0 {}]).device.heard.length ≤
        (twoFramesRun [.readMessage {}, .checkReceive]).device.heard.length + 1 :=
  session_stuck
    (nodeEnvironment_onNode id (schedule_receives twoFrames) (fun access => access))
    blankLeftovers rfl (fun rxbn => by cases rxbn <;> rfl) [.readMessage {}, .checkReceive]
    [.readMessage {}, .getStatus, .readMessageOn .rxb0 {}] (by decide) (by decide) (by decide)
    (by simp)

/-- At any moment of a session: a buffer that holds what another chip's transmit buffer
denotes after `sendMessage` loaded it gives the frame back, but for bits of the
identifier that are not sent and bytes past the length. -/
theorem readMessageOn_sent {start : World Node} (fresh : start.device.heard = [])
    (empty : ∀ rxbn, start.device.chip.slot rxbn = none) (before : List Call) (sender : Chip)
    (txbn : TxBuffer) (rxbn : RxBuffer) {sent : CanFrame} (fits : sent.canDlc.toNat ≤ canMaxDlen)
    (stored : (Reactive.run (perform env leftovers) start before).device.chip.slot rxbn =
      some ⟨(sender.write txbn.sidh.toNat (loadBytes sent)).frame txbn, sent.canDlc.toNat⟩)
    (frame : CanFrame) :
    ∃ answer after,
      readMessageOn env leftovers rxbn frame (Reactive.run (perform env leftovers) start before) =
        (.ok, answer, after) ∧
      answer.canId = sent.wireId ∧ answer.canDlc = sent.canDlc ∧
      answer.data.toList = sent.data.toList.take sent.canDlc.toNat ++
        frame.data.toList.drop sent.canDlc.toNat ∧
      after.device.chip.slot rxbn = none := by
  obtain ⟨store, mirrors, _⟩ := session_induction bus leftovers fresh empty before
  have denotes : (sender.write txbn.sidh.toNat (loadBytes sent)).frame txbn = sent.onWire := by
    apply readBack_loadBytes sent fits
    intro index inside
    rw [← loadBytes_length sent fits] at inside
    exact overwrite_inside sender.registers inside
  rw [denotes, mirrors.slots] at stored
  obtain ⟨filled, after, answer, held, _, last, read, wire, own, tail⟩ :=
    readMessageOn_short bus leftovers mirrors stored fits frame
  obtain ⟨id, dlc, data⟩ := wireId_of_onWire wire
  refine ⟨answer, after, read, own ▸ id, dlc, ?_, ?_⟩
  · rw [dlc] at data tail
    rw [← data, ← tail, List.take_append_drop]
  · rw [last.slots]
    exact Function.update_self rxbn none filled.held

omit bus in
theorem readMessageOn_sent_twoFrames :
    ∃ answer after,
      readMessageOn twoFramesEnvironment blankLeftovers .rxb0 {} (twoFramesRun [.checkReceive]) =
        (.ok, answer, after) ∧
      answer.canId = CanFrame.wireId ⟨0x101, 2, #v[7, 9, 1, 1, 1, 1, 1, 1]⟩ ∧
      answer.canDlc = 2 ∧
      answer.data.toList = [7, 9, 1, 1, 1, 1, 1, 1].take 2 ++
        (CanFrame.data {}).toList.drop 2 ∧
      after.device.chip.slot .rxb0 = none :=
  readMessageOn_sent
    (nodeEnvironment_onNode id (schedule_receives twoFrames) (fun access => access))
    blankLeftovers rfl (fun rxbn => by cases rxbn <;> rfl) [.checkReceive] blankChip .txb1 .rxb0
    (by decide) (by decide) {}

end Run

section AnyBus

variable {δ : Type} (env : Environment δ) (leftovers : Leftovers)

theorem readMessageOn_wellFormed {rxbn : RxBuffer} {frame answer : CanFrame} {world after : World δ}
    (read : readMessageOn env leftovers rxbn frame world = (.ok, answer, after)) :
    answer.canDlc.toNat ≤ canMaxDlen ∧ answer.wireId = answer.canId := by
  let cell := fun index => (readRegisters env leftovers rxbn.sidh 5 world).1.getD index 0
  let request := (readRegister env rxbn.ctrl
    (readRegisters env leftovers rxbn.sidh 5 world).2).1 &&& rxbnctrlRtr != 0
  unfold readMessageOn at read
  dsimp only at read
  split at read
  · cases read
  · rename_i fits
    cases read
    refine ⟨Nat.not_lt.mp fits, ?_⟩
    have id : (received cell request frame).canId =
        if (readRegister env rxbn.ctrl (readRegisters env leftovers rxbn.sidh 5 world).2).1 &&&
            rxbnctrlRtr ≠ 0 then
          receivedId (cell 0) (cell 1) (cell 2) (cell 3) ||| canRtrFlag
        else receivedId (cell 0) (cell 1) (cell 2) (cell 3) := by
      unfold received
      dsimp only
      split
      · rename_i set
        rw [if_pos (bne_iff_ne.mp set)]
      · rename_i clear
        rw [if_neg (fun set => clear (bne_iff_ne.mpr set))]
    exact ((wireId_congr id).symm.trans (received_wireId cell request frame)).trans id

/-- Whatever answers on the bus, and whatever transactions are lost: every frame a
session returns fits its array and has an identifier that could be sent. -/
theorem session_wellFormed (start : World δ) (calls : List Call) :
    ∀ frame ∈ returnedFrames (Reactive.history (perform env leftovers) start calls),
      frame.canDlc.toNat ≤ canMaxDlen ∧ frame.wireId = frame.canId := by
  intro answer member
  obtain ⟨⟨call, reply⟩, entered, handed⟩ := List.mem_filterMap.mp member
  obtain ⟨before, _, _, output⟩ := Reactive.mem_history _ start calls _ entered
  dsimp only at output handed
  rw [output] at handed
  generalize Reactive.run (perform env leftovers) start before = world at handed
  have reply_ok := handedOver_some handed
  cases call with
  | readMessage frame =>
      have read : readMessage env leftovers frame world =
          (.ok, answer, (readMessage env leftovers frame world).2.2) := by
        obtain ⟨error, kept⟩ := Prod.mk.inj (Option.some.inj reply_ok)
        rw [← error, ← kept]
      unfold readMessage at read
      dsimp only at read
      split at read
      · exact readMessageOn_wellFormed env leftovers read
      · split at read
        · exact readMessageOn_wellFormed env leftovers read
        · cases congrArg Prod.fst read
  | readMessageOn rxbn frame =>
      have read : readMessageOn env leftovers rxbn frame world =
          (.ok, answer, (readMessageOn env leftovers rxbn frame world).2.2) := by
        obtain ⟨error, kept⟩ := Prod.mk.inj (Option.some.inj reply_ok)
        rw [← error, ← kept]
      exact readMessageOn_wellFormed env leftovers read
  | _ => cases reply_ok

theorem session_wellFormed_twoFrames :
    ∃ frame ∈ returnedFrames (twoFramesLog [.readMessage {}]),
      frame.canDlc.toNat ≤ canMaxDlen ∧ frame.wireId = frame.canId := by
  have one : (returnedFrames (twoFramesLog [.readMessage {}])).length = 1 := by
    decide +kernel
  obtain ⟨frame, only⟩ := List.length_eq_one_iff.mp one
  have member : frame ∈ returnedFrames (twoFramesLog [.readMessage {}]) := by
    rw [only]
    exact List.mem_singleton_self frame
  exact ⟨frame, member, session_wellFormed twoFramesEnvironment blankLeftovers freshNode
    [.readMessage {}] frame member⟩

end AnyBus

end Mcp2515
