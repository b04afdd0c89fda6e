import Rxu01.CanManager
import Rxu01.Mcp2515Chip
import Rxu01.Mcp2515Poll

set_option autoImplicit false

/- What a success of `sendMessage` is worth when SPI transactions may fail. -/
namespace Mcp2515

open Peripheral (Environment Exchange Records World elapse readClock)

variable {δ : Type} (env : Environment δ) (txbn : TxBuffer)

/-- The buffer write, the `TXREQ` set and then a clean end reported by the chip,
all of them in transactions that reached it. -/
def Confirmed (frame : CanFrame) (record : List (Exchange δ)) : Prop :=
  ∃ early request late, record = early ++ request :: late ∧
    (∃ load ∈ early, load.sent = instructionWrite :: txbn.sidh :: loadBytes frame ∧
      load.delivered = true) ∧
    (request.sent = [instructionBitmod, txbn.ctrl, txbTxreq, txbTxreq] ∧
      request.delivered = true) ∧
    ∃ report ∈ late, report.sent = [instructionRead, txbn.ctrl, 0x00] ∧
      report.delivered = true ∧ report.received.getD 2 0 &&& txbTxreq = 0 ∧
      report.received.getD 2 0 &&& (txbAbtf ||| txbTxerr) = 0

/-- `ERROR_OK` is returned only for a confirmed transmission. -/
def NoFalseSuccess (frame : CanFrame) (timeoutMs : UInt32) (world : World δ) : Prop :=
  ∀ fuel after, sendMessage env frame timeoutMs fuel world = (some .ok, after) →
    ∃ txbn record, after.exchanges = world.exchanges ++ record ∧ Confirmed txbn frame record

/-- The transactions that a call needs which found its buffer free at the access
before `load`: the buffer write, the `TXREQ` set and each read of the polling loop
that it can get to before its deadline. -/
structure ReliableFrom (delivered : Nat → Bool) (clock : Nat → Int) (timeoutMs : UInt32)
    (load : Nat) : Prop where
  written : delivered load = true
  requested : delivered (load + 2) = true
  read : ∀ turn, (∀ earlier < turn, delivered (load + 4 + 3 * earlier) = true ∧
      clock (load + 5 + 3 * earlier) < clock (load + 3) + timeoutMs.toNat * 1000) →
    delivered (load + 4 + 3 * turn) = true

/-- That for each buffer the scan can get to. A failed read ends the scan. -/
def ReliableCall (delivered : Nat → Bool) (clock : Nat → Int) (timeoutMs : UInt32)
    (first : Nat) : Prop :=
  ∀ scanned < txBuffers.length, (∀ earlier < scanned, delivered (first + earlier) = true) →
    ReliableFrom delivered clock timeoutMs (first + scanned + 1)

/-- A turn ends with success exactly when the register reads clean in it. -/
theorem pollOutcome_ok_iff (turn : Nat) (polls after : World δ) :
    pollOutcome env txbn turn polls = (.ok, after) ↔
      (polled env txbn turn polls &&& txbTxreq = 0 ∧
        polled env txbn turn polls &&& (txbAbtf ||| txbTxerr) = 0) ∧
      after = (readRegister env txbn.ctrl (pollWorld env txbn turn polls)).2 := by
  unfold pollOutcome polled
  dsimp only
  by_cases idle : (readRegister env txbn.ctrl (pollWorld env txbn turn polls)).1 &&& txbTxreq = 0
  · rw [if_pos idle]
    by_cases failed :
        (readRegister env txbn.ctrl (pollWorld env txbn turn polls)).1 &&& (txbAbtf ||| txbTxerr) = 0
    · rw [if_neg (not_not_intro failed)]
      simp [idle, failed, eq_comm]
    · rw [if_pos failed]
      simp [failed]
  · rw [if_neg idle]
    simp [idle]

theorem sendMessage_ok_iff {frame : CanFrame} (fits : frame.canDlc.toNat ≤ canMaxDlen)
    (timeoutMs : UInt32) (fuel : Nat) (world after : World δ) :
    sendMessage env frame timeoutMs fuel world = (some .ok, after) ↔
      ∃ txbn start, findFreeBuffer env txBuffers world = (some txbn, start) ∧
        awaitTransmission env txbn (env.clock (start.accesses + 3) + timeoutMs.toNat * 1000) fuel
          (elapse env (requestTransmission env txbn frame start)) = (some .ok, after) := by
  rcases found : findFreeBuffer env txBuffers world with ⟨free, start⟩
  cases free with
  | none =>
      unfold sendMessage
      rw [if_neg (Nat.not_lt.mpr fits), found]
      simp
  | some txbn =>
      rw [sendMessage_found env txbn fits timeoutMs fuel found]
      simp

section Record

theorem findFreeBuffer_record (buffers : List TxBuffer) (world : World δ) :
    Records (fun entry => ∃ register, entry.sent = [instructionRead, register, 0x00]) world
      (findFreeBuffer env buffers world).2 := by
  induction buffers generalizing world with
  | nil => exact Records.refl world
  | cons buffer rest ih =>
      have read : Records (fun entry => ∃ register, entry.sent = [instructionRead, register, 0x00])
          world (readRegister env buffer.ctrl world).2 :=
        Peripheral.exchange_records env world _ (fun entry sent => ⟨buffer.ctrl, sent⟩)
      unfold findFreeBuffer
      dsimp only
      split
      · exact read
      · exact read.trans (ih _)

theorem requestTransmission_record (frame : CanFrame) (start : World δ) :
    ∃ load clear request,
      (requestTransmission env txbn frame start).exchanges =
        start.exchanges ++ [load, clear, request] ∧
      (load.sent = instructionWrite :: txbn.sidh :: loadBytes frame ∧
        load.delivered = env.delivered start.accesses) ∧
      clear.sent = [instructionBitmod, txbn.ctrl, txbAbtf ||| txbMloa ||| txbTxerr, 0] ∧
      request.sent = [instructionBitmod, txbn.ctrl, txbTxreq, txbTxreq] ∧
      request.delivered = env.delivered (start.accesses + 2) := by
  obtain ⟨load, loaded, loadSent, loadDelivered, _⟩ := Peripheral.exchange_recorded env start
    (instructionWrite :: txbn.sidh :: loadBytes frame)
  obtain ⟨clear, cleared, clearSent, _⟩ := Peripheral.exchange_recorded env
    (setRegisters env txbn.sidh (loadBytes frame) start)
    [instructionBitmod, txbn.ctrl, txbAbtf ||| txbMloa ||| txbTxerr, 0]
  obtain ⟨request, requested, requestSent, requestDelivered, _⟩ :=
    Peripheral.exchange_recorded env
      (modifyRegister env txbn.ctrl (txbAbtf ||| txbMloa ||| txbTxerr) 0
        (setRegisters env txbn.sidh (loadBytes frame) start))
      [instructionBitmod, txbn.ctrl, txbTxreq, txbTxreq]
  rw [modifyRegister_accesses, setRegisters_accesses] at requestDelivered
  refine ⟨load, clear, request, ?_, ⟨loadSent, loadDelivered⟩, clearSent, requestSent,
    requestDelivered⟩
  unfold requestTransmission
  dsimp only
  rw [modifyRegister, requested, modifyRegister, cleared, setRegisters, loaded]
  simp only [List.append_assoc, List.cons_append, List.nil_append]

/-- The turns that go on each read `TXREQ` set. -/
theorem pollWorld_record (turn : Nat) (polls : World δ)
    (pending : ∀ earlier < turn, polled env txbn earlier polls &&& txbTxreq ≠ 0) :
    Records (fun entry => entry.sent = [instructionRead, txbn.ctrl, 0x00] ∧
      entry.received.getD 2 0 &&& txbTxreq ≠ 0) polls (pollWorld env txbn turn polls) := by
  induction turn generalizing polls with
  | zero => exact Records.refl polls
  | succ turn ih =>
      obtain ⟨added, grown, sent, _, received⟩ := Peripheral.exchange_recorded env polls
        [instructionRead, txbn.ctrl, 0x00]
      have read : Records (fun entry : Exchange δ =>
          entry.sent = [instructionRead, txbn.ctrl, 0x00] ∧
            entry.received.getD 2 0 &&& txbTxreq ≠ 0) polls (pollTurn env txbn polls) := by
        refine ⟨[added], ?_, ?_⟩
        · simp only [pollTurn, Peripheral.wait, readClock, Peripheral.elapse_exchanges]
          exact grown
        · intro entry member
          obtain rfl := List.mem_singleton.mp member
          rw [received]
          exact ⟨sent, pending 0 (Nat.succ_pos turn)⟩
      apply read.trans
      apply ih
      intro earlier below
      exact pending (earlier + 1) (Nat.succ_lt_succ below)

/-- A request to send, whichever the buffer. -/
def RequestsSend (entry : Exchange δ) : Prop :=
  ∃ buffer : TxBuffer, entry.sent = [instructionBitmod, buffer.ctrl, txbTxreq, txbTxreq]

/-- The transactions of a call up to the read of one of its turns. -/
structure CallRecord (frame : CanFrame) (scan : List (Exchange δ)) (load clear request : Exchange δ)
    (turns : List (Exchange δ)) (report : Exchange δ) : Prop where
  scanned : ∀ entry ∈ scan, ∃ register, entry.sent = [instructionRead, register, 0x00]
  loaded : load.sent = instructionWrite :: txbn.sidh :: loadBytes frame
  cleared : clear.sent = [instructionBitmod, txbn.ctrl, txbAbtf ||| txbMloa ||| txbTxerr, 0]
  requested : request.sent = [instructionBitmod, txbn.ctrl, txbTxreq, txbTxreq]
  waited : ∀ entry ∈ turns, entry.sent = [instructionRead, txbn.ctrl, 0x00] ∧
    entry.received.getD 2 0 &&& txbTxreq ≠ 0
  read : report.sent = [instructionRead, txbn.ctrl, 0x00]

section CallRecord

variable {txbn} {frame : CanFrame} {scan turns : List (Exchange δ)}
  {load clear request report : Exchange δ}

theorem CallRecord.front_unrequested
    (call : CallRecord txbn frame scan load clear request turns report) :
    ∀ entry ∈ scan ++ [load, clear], ¬ RequestsSend entry := by
  rintro entry member ⟨buffer, marked⟩
  rcases List.mem_append.mp member with scanned | rest
  · obtain ⟨register, read⟩ := call.scanned entry scanned
    rw [read] at marked
    cases marked
  · simp only [List.mem_cons, List.not_mem_nil, or_false] at rest
    rcases rest with rfl | rfl
    · rw [call.loaded] at marked
      cases marked
    · rw [call.cleared] at marked
      have mask := congrArg (fun bytes => bytes.getD 2 0) marked
      exact absurd mask (by change ¬ (0x70 : UInt8) = 0x08; decide)

theorem CallRecord.back_unrequested
    (call : CallRecord txbn frame scan load clear request turns report) :
    ∀ entry ∈ turns ++ [report], ¬ RequestsSend entry := by
  rintro entry member ⟨buffer, marked⟩
  rcases List.mem_append.mp member with turned | last
  · rw [(call.waited entry turned).1] at marked
    cases marked
  · obtain rfl := List.mem_singleton.mp last
    rw [call.read] at marked
    cases marked

/-- The buffer is written once ahead of the request. -/
theorem CallRecord.load_unique
    (call : CallRecord txbn frame scan load clear request turns report)
    {entry : Exchange δ} (member : entry ∈ scan ++ [load, clear])
    (written : entry.sent = instructionWrite :: txbn.sidh :: loadBytes frame) : entry = load := by
  rcases List.mem_append.mp member with scanned | rest
  · obtain ⟨register, read⟩ := call.scanned entry scanned
    rw [read] at written
    cases written
  · simp only [List.mem_cons, List.not_mem_nil, or_false] at rest
    rcases rest with rfl | rfl
    · rfl
    · rw [call.cleared] at written
      cases written

/-- No turn but the last reads `TXREQ` clear. -/
theorem CallRecord.report_unique
    (call : CallRecord txbn frame scan load clear request turns report)
    {entry : Exchange δ} (member : entry ∈ turns ++ [report])
    (idle : entry.received.getD 2 0 &&& txbTxreq = 0) : entry = report := by
  rcases List.mem_append.mp member with turned | last
  · exact absurd idle (call.waited entry turned).2
  · exact List.mem_singleton.mp last

theorem CallRecord.confirmed
    (call : CallRecord txbn frame scan load clear request turns report)
    {other : TxBuffer}
    (confirmed : Confirmed other frame ((scan ++ [load, clear]) ++ request :: (turns ++ [report]))) :
    report.delivered = true ∧ load.delivered = true ∧ request.delivered = true := by
  obtain ⟨early, request', late, shape, ⟨load', loadMember, loadSent, loadReached⟩,
    ⟨requestSent, requestReached⟩, report', reportMember, _, reportReached, reportIdle, _⟩ := confirmed
  -- The request is the only `BIT MODIFY` that sets `TXREQ`, so both splits agree.
  obtain ⟨rfl, rfl, rfl⟩ := Peripheral.record_split_unique RequestsSend shape
    ⟨other, requestSent⟩ call.front_unrequested call.back_unrequested
  have sameBuffer : other = txbn := by
    rw [call.requested] at requestSent
    obtain ⟨_, rest⟩ := List.cons.inj requestSent
    exact ctrl_injective (congrArg UInt8.toNat (List.cons.inj rest).1.symm)
  rw [sameBuffer] at loadSent
  rw [call.load_unique loadMember loadSent] at loadReached
  rw [call.report_unique reportMember reportIdle] at reportReached
  exact ⟨reportReached, loadReached, requestReached⟩

end CallRecord

/-- Everything a call sends up to the read of a turn that its earlier turns let
it get to. -/
theorem call_record (frame : CanFrame) {world start : World δ}
    (found : findFreeBuffer env txBuffers world = (some txbn, start)) (turn : Nat)
    (pending : ∀ earlier < turn,
      polled env txbn earlier (elapse env (requestTransmission env txbn frame start)) &&&
        txbTxreq ≠ 0) :
    ∃ scan load clear request turns report,
      CallRecord txbn frame scan load clear request turns report ∧
      (readRegister env txbn.ctrl (pollWorld env txbn turn
        (elapse env (requestTransmission env txbn frame start)))).2.exchanges =
          world.exchanges ++ ((scan ++ [load, clear]) ++ request :: (turns ++ [report])) ∧
      load.delivered = env.delivered start.accesses ∧
      request.delivered = env.delivered (start.accesses + 2) ∧
      report.delivered = env.delivered (start.accesses + 4 + 3 * turn) ∧
      report.received.getD 2 0 =
        polled env txbn turn (elapse env (requestTransmission env txbn frame start)) := by
  obtain ⟨scan, scanned, reads⟩ := findFreeBuffer_record env txBuffers world
  rw [found] at scanned
  obtain ⟨load, clear, request, requested, ⟨loadSent, loadDelivered⟩, clearSent, requestSent,
    requestDelivered⟩ := requestTransmission_record env txbn frame start
  obtain ⟨turns, went, still⟩ := pollWorld_record env txbn turn _ pending
  obtain ⟨report, grown, sent, delivered, received⟩ := Peripheral.exchange_recorded env
    (pollWorld env txbn turn (elapse env (requestTransmission env txbn frame start)))
    [instructionRead, txbn.ctrl, 0x00]
  refine ⟨scan, load, clear, request, turns, report,
    ⟨reads, loadSent, clearSent, requestSent, still, sent⟩, ?_, loadDelivered, requestDelivered, ?_,
    congrArg (fun bytes => bytes.getD 2 0) received⟩
  · unfold readRegister
    dsimp only at scanned ⊢
    rw [grown, went, Peripheral.elapse_exchanges, requested, scanned]
    simp only [List.append_assoc, List.cons_append, List.nil_append]
  · rw [delivered, pollWorld_accesses, Peripheral.elapse_accesses, requestTransmission_accesses]

/-- A call that ends well at a turn is confirmed exactly when its three
transactions got through. -/
theorem confirmed_iff (frame : CanFrame) {world start after : World δ}
    (found : findFreeBuffer env txBuffers world = (some txbn, start)) (turn : Nat)
    (pending : ∀ earlier < turn,
      polled env txbn earlier (elapse env (requestTransmission env txbn frame start)) &&&
        txbTxreq ≠ 0)
    (outcome : pollOutcome env txbn turn
      (elapse env (requestTransmission env txbn frame start)) = (.ok, after)) :
    (∃ txbn record, after.exchanges = world.exchanges ++ record ∧ Confirmed txbn frame record) ↔
      env.delivered (start.accesses + 4 + 3 * turn) = true ∧
        env.delivered start.accesses = true ∧ env.delivered (start.accesses + 2) = true := by
  obtain ⟨⟨idle, clean⟩, reached⟩ := (pollOutcome_ok_iff ..).mp outcome
  obtain ⟨scan, load, clear, request, turns, report, call, record, loadDelivered, requestDelivered,
    reportDelivered, received⟩ := call_record env txbn frame found turn pending
  rw [← reached] at record
  rw [← reportDelivered, ← loadDelivered, ← requestDelivered]
  constructor
  · rintro ⟨other, record', split, confirmed⟩
    have same := split.symm.trans record
    rw [List.append_cancel_left_eq] at same
    rw [same] at confirmed
    exact call.confirmed confirmed
  · rintro ⟨reportReached, loadReached, requestReached⟩
    rw [← received] at idle clean
    exact ⟨txbn, _, record, scan ++ [load, clear], request, turns ++ [report], rfl,
      ⟨load, by simp, call.loaded, loadReached⟩, ⟨call.requested, requestReached⟩, report, by simp,
      call.read, reportReached, idle, clean⟩

end Record

/-- A call that can end well at a turn has its three transactions delivered. -/
theorem NoFalseSuccess.delivered {frame : CanFrame} (fits : frame.canDlc.toNat ≤ canMaxDlen)
    {timeoutMs : UInt32} {world start : World δ}
    (sound : NoFalseSuccess env frame timeoutMs world)
    (found : findFreeBuffer env txBuffers world = (some txbn, start)) (turn : Nat)
    (going : ∀ earlier < turn, ¬ PollEnds env txbn
      (env.clock (start.accesses + 3) + timeoutMs.toNat * 1000) earlier
      (elapse env (requestTransmission env txbn frame start)))
    (clean : polled env txbn turn (elapse env (requestTransmission env txbn frame start)) = 0) :
    env.delivered (start.accesses + 4 + 3 * turn) = true ∧
      env.delivered start.accesses = true ∧ env.delivered (start.accesses + 2) = true := by
  have idle : polled env txbn turn (elapse env (requestTransmission env txbn frame start)) &&&
      txbTxreq = 0 := by
    rw [clean, UInt8.zero_and]
  have outcome := (pollOutcome_ok_iff env txbn turn
    (elapse env (requestTransmission env txbn frame start)) _).mpr
      ⟨⟨idle, by rw [clean, UInt8.zero_and]⟩, rfl⟩
  have waited := (awaitTransmission_iff env txbn _ (turn + 1) _ _ .ok).mpr
    ⟨turn, Nat.lt_succ_self turn, going, Or.inl idle, outcome⟩
  have success := (sendMessage_ok_iff env fits timeoutMs (turn + 1) world _).mpr
    ⟨txbn, start, found, waited⟩
  exact (confirmed_iff env txbn frame found turn
    (fun earlier below pending => going earlier below (Or.inl pending)) outcome).mp
      (sound (turn + 1) _ success)

theorem readRegister_lost (register : Register) {world : World δ}
    (lost : env.delivered world.accesses = false) : (readRegister env register world).1 = 0 := by
  unfold readRegister
  rw [Peripheral.exchange_lost env _ _ lost]
  rfl

/-- Every buffer before the one found free was read in a transaction that got
through: a failed one reads zero. -/
theorem findFreeBuffer_scanned (buffers : List TxBuffer) {world start : World δ}
    (found : findFreeBuffer env buffers world = (some txbn, start)) :
    ∃ scanned < buffers.length, start.accesses = world.accesses + scanned + 1 ∧
      ∀ earlier < scanned, env.delivered (world.accesses + earlier) = true := by
  induction buffers generalizing world with
  | nil => cases found
  | cons buffer rest ih =>
      unfold findFreeBuffer at found
      dsimp only at found
      split at found
      · obtain ⟨_, rfl⟩ := Prod.mk.inj found
        exact ⟨0, Nat.succ_pos _, readRegister_accesses env buffer.ctrl world,
          fun earlier below => absurd below (Nat.not_lt_zero earlier)⟩
      · rename_i pending
        obtain ⟨scanned, inside, accesses, reached⟩ := ih found
        rw [readRegister_accesses] at accesses reached
        refine ⟨scanned + 1, Nat.succ_lt_succ inside, by omega, ?_⟩
        intro earlier below
        cases earlier with
        | zero =>
            apply Bool.of_not_eq_false
            intro lost
            rw [readRegister_lost env buffer.ctrl lost, UInt8.zero_and] at pending
            exact pending rfl
        | succ earlier =>
            rw [show world.accesses + (earlier + 1) = world.accesses + 1 + earlier by omega]
            exact reached earlier (by omega)

/-- Without a failure that matters a success is confirmed, on every chip. -/
theorem ReliableCall.noFalseSuccess {timeoutMs : UInt32} {world : World δ}
    (reliable : ReliableCall env.delivered env.clock timeoutMs world.accesses) {frame : CanFrame}
    (fits : frame.canDlc.toNat ≤ canMaxDlen) : NoFalseSuccess env frame timeoutMs world := by
  intro fuel after success
  obtain ⟨txbn, start, found, waited⟩ :=
    (sendMessage_ok_iff env fits timeoutMs fuel world after).mp success
  obtain ⟨turn, _, going, _, outcome⟩ :=
    (awaitTransmission_iff env txbn _ fuel _ after .ok).mp waited
  have pending := fun earlier below idle => going earlier below (Or.inl idle)
  obtain ⟨scanned, inside, accesses, reached⟩ := findFreeBuffer_scanned env txbn txBuffers found
  obtain ⟨written, requested, read⟩ := reliable scanned inside reached
  rw [← accesses] at written requested read
  refine (confirmed_iff env txbn frame found turn pending outcome).mpr ⟨?_, written, requested⟩
  -- Each turn up to the last is reached, so its read gets through.
  have each : ∀ latest ≤ turn, env.delivered (start.accesses + 4 + 3 * latest) = true := by
    intro latest
    induction latest using Nat.strong_induction_on with
    | _ latest ih =>
        intro upTo
        apply read latest
        intro earlier below
        refine ⟨ih earlier below (by omega), ?_⟩
        have ends := going earlier (by omega)
        simp only [PollEnds, Peripheral.elapse_accesses, requestTransmission_accesses, not_or] at ends
        rw [show start.accesses + 5 + 3 * earlier = start.accesses + 3 + 1 + 3 * earlier + 1 by omega]
        exact Int.not_le.mp ends.2
  exact each turn (Nat.le_refl turn)

section Scripted

variable (delivered : Nat → Bool) (clock : Nat → Int) (pending : Nat → Bool)

/-- A chip that answers by the number of the access alone: `TXREQ` set where
`pending` says so, and nothing else. -/
def scriptedEnvironment : Environment Nat where
  transact _ access := ([0, 0, if pending access then txbTxreq else 0], access)
  moves access := [fun _ => access]
  delivered := delivered
  clock := clock

theorem scripted_read (register : Register) (world : World Nat) :
    (readRegister (scriptedEnvironment delivered clock pending) register world).1 =
      if delivered world.accesses && pending world.accesses then txbTxreq else 0 := by
  cases reached : delivered world.accesses with
  | true =>
      unfold readRegister
      rw [Peripheral.exchange_delivered (scriptedEnvironment delivered clock pending) world _ reached]
      rfl
  | false => exact readRegister_lost (scriptedEnvironment delivered clock pending) register reached

/-- The scan goes on as long as the script says so. -/
theorem scripted_found (buffers : List TxBuffer) (world : World Nat) {scanned : Nat}
    (inside : scanned < buffers.length)
    (reached : ∀ earlier < scanned, delivered (world.accesses + earlier) = true)
    (busy : ∀ earlier < scanned, pending (world.accesses + earlier) = true)
    (free : pending (world.accesses + scanned) = false) :
    ∃ txbn start, findFreeBuffer (scriptedEnvironment delivered clock pending) buffers world =
        (some txbn, start) ∧ start.accesses = world.accesses + scanned + 1 := by
  induction scanned generalizing buffers world with
  | zero =>
      cases buffers with
      | nil => cases inside
      | cons buffer rest =>
          refine ⟨buffer, _, ?_, readRegister_accesses
            (scriptedEnvironment delivered clock pending) buffer.ctrl world⟩
          unfold findFreeBuffer
          dsimp only
          rw [scripted_read, show pending world.accesses = false from free, Bool.and_false]
          rfl
  | succ scanned ih =>
      cases buffers with
      | nil => cases inside
      | cons buffer rest =>
          have read := readRegister_accesses (scriptedEnvironment delivered clock pending)
            buffer.ctrl world
          have later : ∀ earlier, world.accesses + (earlier + 1) =
              (readRegister (scriptedEnvironment delivered clock pending) buffer.ctrl
                world).2.accesses + earlier := by
            intro earlier
            omega
          obtain ⟨txbn, start, found, accesses⟩ := ih rest
            (readRegister (scriptedEnvironment delivered clock pending) buffer.ctrl world).2
            (Nat.lt_of_succ_lt_succ inside)
            (fun earlier below => later earlier ▸ reached (earlier + 1) (Nat.succ_lt_succ below))
            (fun earlier below => later earlier ▸ busy (earlier + 1) (Nat.succ_lt_succ below))
            (later scanned ▸ free)
          refine ⟨txbn, start, ?_, by omega⟩
          unfold findFreeBuffer
          dsimp only
          have first := reached 0 (Nat.succ_pos scanned)
          have set := busy 0 (Nat.succ_pos scanned)
          rw [Nat.add_zero] at first set
          rw [scripted_read, first, set]
          exact found

theorem scripted_polled (txbn : TxBuffer) (turn : Nat) (world : World Nat) :
    polled (scriptedEnvironment delivered clock pending) txbn turn world =
      if delivered (world.accesses + 3 * turn) && pending (world.accesses + 3 * turn) then txbTxreq
      else 0 := by
  unfold polled
  rw [scripted_read, pollWorld_accesses]

end Scripted

/-- Where a failure matters, some chip makes it a false success: one that is free
when the scan gets to it, and done when the reads are that got through. -/
theorem reliableCall_of_noFalseSuccess {delivered : Nat → Bool} {clock : Nat → Int}
    {timeoutMs : UInt32} {first : Nat} {frame : CanFrame}
    (fits : frame.canDlc.toNat ≤ canMaxDlen)
    (sound : ∀ pending, NoFalseSuccess (scriptedEnvironment delivered clock pending) frame timeoutMs
      { device := 0, accesses := first }) :
    ReliableCall delivered clock timeoutMs first := by
  intro scanned inside reached
  -- The chip that is done in the given turn.
  have each : ∀ turn, (∀ earlier < turn,
      delivered (first + scanned + 1 + 4 + 3 * earlier) = true ∧
        clock (first + scanned + 1 + 5 + 3 * earlier) <
          clock (first + scanned + 1 + 3) + timeoutMs.toNat * 1000) →
      delivered (first + scanned + 1 + 4 + 3 * turn) = true ∧
        delivered (first + scanned + 1) = true ∧ delivered (first + scanned + 1 + 2) = true := by
    intro turn going
    let pending : Nat → Bool := fun access =>
      access != first + scanned && decide (access < first + scanned + 5 + 3 * turn)
    obtain ⟨txbn, start, found, accesses⟩ := scripted_found delivered clock pending txBuffers
      { device := 0, accesses := first } inside reached
      (fun earlier below => by simp [pending]; omega) (by simp [pending])
    have polls : (elapse (scriptedEnvironment delivered clock pending) (requestTransmission
        (scriptedEnvironment delivered clock pending) txbn frame start)).accesses =
          first + scanned + 1 + 4 := by
      rw [Peripheral.elapse_accesses, requestTransmission_accesses, accesses]
    rw [← accesses]
    apply (sound pending).delivered _ txbn fits found turn
    · intro earlier below
      obtain ⟨reached, early⟩ := going earlier below
      have set : pending (first + scanned + 1 + 4 + 3 * earlier) = true := by
        simp [pending]
        omega
      rw [PollEnds, scripted_polled, polls, reached, set, accesses]
      rintro (idle | late)
      · exact absurd idle (by decide)
      · change _ ≤ clock (first + scanned + 1 + 4 + 3 * earlier + 1) at late
        rw [show first + scanned + 1 + 4 + 3 * earlier + 1 = first + scanned + 1 + 5 + 3 * earlier
          by omega] at late
        exact absurd early (Int.not_lt.mpr late)
    · have done : pending (first + scanned + 1 + 4 + 3 * turn) = false := by
        simp [pending]
      rw [scripted_polled, polls, done, Bool.and_false]
      rfl
  obtain ⟨_, written, requested⟩ := each 0 (fun earlier below => absurd below (Nat.not_lt_zero _))
  exact ⟨written, requested, fun turn going => (each turn going).1⟩

/-- Only access 5 fails: the first read of the polling loop, after one read to
find a buffer, three writes and a clock reading. The chip never completes. -/
def lostReadEnvironment : Environment Chip :=
  { chipEnvironment id (fun _ => []) (fun access => access) with
    delivered := fun access => access != 5 }

theorem lostRead_falseSuccess :
    ¬ NoFalseSuccess lostReadEnvironment { canId := 0x101 } 50 { device := blankChip } := by
  intro sound
  have reached := (sound.delivered lostReadEnvironment .txb0 (by decide) (Prod.ext rfl rfl) 0
    (fun earlier below => absurd below (Nat.not_lt_zero earlier)) rfl).1
  cases reached

end Mcp2515
