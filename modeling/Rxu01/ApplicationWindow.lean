import Rxu01.ApplicationRun

set_option autoImplicit false

namespace Application

open EspNowDriver (Mac)
open RemoteProtocol (Message)
open Reactive (run history)

/-- Execution `k` out of `count` still stands in the way of a request with this
sequence number: fewer than `requestCacheSize` requests were cached after it,
and it is not older than the lifetime when its slot is looked at. -/
def Execution.Covers (clock : Nat → Int) (sequenceNumber : UInt16) (count k : Nat)
    (made : Execution) : Prop :=
  made.message.sequenceNumber = sequenceNumber ∧
    count - (k + 1) < requestCacheSize ∧
    clock (k % requestCacheSize) - made.arrival.clock.cached ≤ requestCacheLifetimeUs

/-- Some execution covers the request. -/
def Windowed (executed : List Execution) (arrival : Arrival) (message : Message) : Prop :=
  ∃ (k : Nat) (made : Execution), executed[k]? = some made ∧
    made.Covers arrival.clock.lookup message.sequenceNumber executed.length k

theorem answers_iff {executed : List Execution} {mac : Mac} {clock : Nat → Int}
    {sequenceNumber : UInt16} (senders : ∀ made ∈ executed, made.arrival.packet.sourceMac = mac)
    (k : Nat) (item : CachedRequest) :
    Answers clock mac sequenceNumber (executed.map Execution.entry) k item ↔
      ∃ made : Execution, executed[k]? = some made ∧ item = made.entry ∧
        made.Covers clock sequenceNumber executed.length k := by
  constructor
  · rintro ⟨past, wanted, recent, young⟩
    rw [List.getElem?_map, Option.map_eq_some_iff] at past
    obtain ⟨made, present, rfl⟩ := past
    rw [List.length_map] at recent
    exact ⟨made, present, rfl, wanted.1, recent, young⟩
  · rintro ⟨made, present, rfl, same, recent, young⟩
    refine ⟨?_, ⟨same, senders made (List.mem_of_getElem? present)⟩, ?_, young⟩
    · rw [List.getElem?_map, present]
      rfl
    · rw [List.length_map]
      exact recent

variable {σ : Type}

theorem executions_sender (start : State σ) (log : List Arrival) :
    ∀ made ∈ executions (history processReceivedPacket start log),
      made.arrival.packet.sourceMac = start.txu01Mac := by
  intro made member
  obtain ⟨received, _⟩ := executions_mem start log made member
  exact ((receivedMessage_some _ _ _).mp received).1

theorem chronological_last {log : List Arrival} {arrival : Arrival}
    (chronological : Chronological (log ++ [arrival])) (start : State σ) :
    ∀ entry ∈ history processReceivedPacket start log,
      entry.1.clock.cached ≤ arrival.clock.lookup 0 := by
  intro entry member
  obtain ⟨before, after, split, _⟩ := Reactive.mem_history _ _ _ _ member
  apply (List.pairwise_append.mp chronological.2).2.2 entry.1 _ arrival (by simp)
  rw [split]
  simp

section Request

variable {start : State σ} {log : List Arrival} {arrival : Arrival} {message : Message}

/-- A lookup that finds something finds the entry of a covering execution. -/
theorem lookup_some (empty : start.cache = {}) (chronological : Chronological (log ++ [arrival]))
    (received : receivedMessage start.txu01Mac arrival = some message) (cached : CachedRequest)
    (found : (lookup (run processReceivedPacket start log) arrival message).2 = some cached) :
    ∃ (k : Nat) (made : Execution),
      (executions (history processReceivedPacket start log))[k]? = some made ∧
      cached = made.entry ∧
      made.Covers arrival.clock.lookup message.sequenceNumber
        (executions (history processReceivedPacket start log)).length k := by
  have remembers := run_remembers start empty log (chronological_front chronological)
  have tracks := remembers.tracks _ (chronological_last chronological start)
  obtain ⟨k, answers⟩ := tracks.find_some found
  have source := ((receivedMessage_some _ _ _).mp received).1
  rw [source] at answers
  obtain ⟨made, covered⟩ := (answers_iff (executions_sender start log) k cached).mp answers
  exact ⟨k, made, covered⟩

theorem lookup_none_iff (empty : start.cache = {})
    (chronological : Chronological (log ++ [arrival]))
    (received : receivedMessage start.txu01Mac arrival = some message) :
    (lookup (run processReceivedPacket start log) arrival message).2 = none ↔
      ¬ Windowed (executions (history processReceivedPacket start log)) arrival message := by
  have remembers := run_remembers start empty log (chronological_front chronological)
  have tracks := remembers.tracks _ (chronological_last chronological start)
  have monotone := chronological.1 arrival (by simp)
  have source := ((receivedMessage_some _ _ _).mp received).1
  have forward : ∀ j, j < requestCacheSize → arrival.clock.lookup 0 ≤ arrival.clock.lookup j :=
    fun j inside => monotone.lookup 0 j (Nat.zero_le j) inside
  unfold lookup
  rw [tracks.find_none_iff forward, not_iff_not, source]
  constructor
  · rintro ⟨k, item, answers⟩
    obtain ⟨made, present, _, covers⟩ :=
      (answers_iff (executions_sender start log) k item).mp answers
    exact ⟨k, made, present, covers⟩
  · rintro ⟨k, made, present, covers⟩
    exact ⟨k, made.entry,
      (answers_iff (executions_sender start log) k _).mpr ⟨made, present, rfl, covers⟩⟩

/-- A covered request is only answered; no command is executed for it. -/
theorem process_covered (empty : start.cache = {})
    (chronological : Chronological (log ++ [arrival]))
    (received : receivedMessage start.txu01Mac arrival = some message)
    (requested : acknowledgementRequested message = true)
    (windowed : Windowed (executions (history processReceivedPacket start log)) arrival message) :
    ∃ (k : Nat) (made : Execution),
      (executions (history processReceivedPacket start log))[k]? = some made ∧
      made.Covers arrival.clock.lookup message.sequenceNumber
        (executions (history processReceivedPacket start log)).length k ∧
      (processReceivedPacket (run processReceivedPacket start log) arrival).2 =
        [.send arrival.packet.sourceMac (acknowledgement message
          (if isSameRequest made.entry message then mapAckStatus made.result
            else .invalidMessage)).wire] := by
  cases found : (lookup (run processReceivedPacket start log) arrival message).2 with
  | none => exact absurd windowed ((lookup_none_iff empty chronological received).mp found)
  | some cached =>
      obtain ⟨k, made, present, rfl, covers⟩ :=
        lookup_some empty chronological received cached found
      refine ⟨k, made, present, covers, ?_⟩
      rw [process_cached ((run_fixed start log).1.symm ▸ received) requested _ found,
        sendAcknowledgement_eq]
      rfl

/-- A request that nothing covers is executed. -/
theorem process_uncovered (empty : start.cache = {})
    (chronological : Chronological (log ++ [arrival]))
    (received : receivedMessage start.txu01Mac arrival = some message)
    (requested : acknowledgementRequested message = true)
    (outside : ¬ Windowed (executions (history processReceivedPacket start log)) arrival message) :
    processReceivedPacket (run processReceivedPacket start log) arrival =
      executeMessage arrival message
        { run processReceivedPacket start log with
          cache := (lookup (run processReceivedPacket start log) arrival message).1 } := by
  have absent := (lookup_none_iff empty chronological received).mpr outside
  exact process_fresh ((run_fixed start log).1.symm ▸ received) requested absent

end Request

/-- A step executes at most one request, and then one that nothing covered. -/
theorem executions_step (start : State σ) (empty : start.cache = {}) (log : List Arrival)
    (arrival : Arrival) (chronological : Chronological (log ++ [arrival])) :
    executions (history processReceivedPacket start (log ++ [arrival])) =
        executions (history processReceivedPacket start log) ∨
      ∃ made : Execution, made.arrival = arrival ∧
        executions (history processReceivedPacket start (log ++ [arrival])) =
          executions (history processReceivedPacket start log) ++ [made] ∧
        ¬ Windowed (executions (history processReceivedPacket start log)) arrival made.message := by
  rw [Reactive.history_snoc, executions_snoc]
  cases found : execution
      (arrival, (processReceivedPacket (run processReceivedPacket start log) arrival).2) with
  | none => exact Or.inl (List.append_nil _)
  | some made =>
      apply Or.inr
      have member : made ∈ executions (history processReceivedPacket start (log ++ [arrival])) := by
        rw [Reactive.history_snoc, executions_snoc, found]
        simp
      have same : made.arrival = arrival ∧ made.calls =
          (processReceivedPacket (run processReceivedPacket start log) arrival).2 := by
        obtain ⟨call, _, shape⟩ := List.exists_of_findSome?_eq_some found
        split at shape
        · split at shape
          · cases shape
            exact ⟨rfl, rfl⟩
          · cases shape
        · cases shape
      refine ⟨made, same.1, rfl, ?_⟩
      obtain ⟨received, requested, _, state, _, calls, _⟩ := executions_mem start _ made member
      rw [same.1] at received calls
      rw [same.2] at calls
      intro windowed
      -- A covered request only has its acknowledgement sent, which is no execution.
      obtain ⟨_, _, _, _, answered⟩ :=
        process_covered empty chronological received requested windowed
      obtain ⟨tail, shape, _⟩ := executeMessage_calls arrival made.message state
      rw [answered, shape] at calls
      cases calls

/-- When a request was executed, no earlier execution covered it. -/
def Separated (executed : List Execution) : Prop :=
  ∀ (k later : Nat) (made repeated : Execution), k < later → executed[k]? = some made →
    executed[later]? = some repeated →
    ¬ made.Covers repeated.arrival.clock.lookup repeated.message.sequenceNumber later k

theorem run_separated (start : State σ) (empty : start.cache = {}) (log : List Arrival)
    (chronological : Chronological log) :
    Separated (executions (history processReceivedPacket start log)) := by
  apply Reactive.history_induction processReceivedPacket Chronological
    (fun entries _ => Separated (executions entries)) start
  · intro k later made repeated _ present
    cases present
  · intro inputs input legal
    exact chronological_front legal
  · intro inputs input legal separated
    rw [← Reactive.history_snoc]
    rcases executions_step start empty inputs input legal with same | ⟨last, at_last, grown, outside⟩
    · rw [same]
      exact separated
    · rw [grown]
      intro k later made repeated order present presentLater covers
      have bound := (List.getElem?_eq_some_iff.mp presentLater).1
      rw [List.length_append, List.length_singleton] at bound
      rw [List.getElem?_append_left (by omega)] at present
      by_cases inside : later < (executions (history processReceivedPacket start inputs)).length
      · rw [List.getElem?_append_left inside] at presentLater
        exact separated k later made repeated order present presentLater covers
      · have last_index : later = (executions (history processReceivedPacket start inputs)).length := by
          omega
        subst last_index
        rw [List.getElem?_concat_length, Option.some.injEq] at presentLater
        subst presentLater
        rw [at_last] at covers
        exact outside ⟨k, made, present, covers⟩
  · exact chronological

/-- At most one execution covers a request. -/
theorem covers_unique {start : State σ} {log : List Arrival} {arrival : Arrival}
    (empty : start.cache = {}) (chronological : Chronological (log ++ [arrival]))
    {sequenceNumber : UInt16} {k k' : Nat} {made made' : Execution}
    (present : (executions (history processReceivedPacket start log))[k]? = some made)
    (covers : made.Covers arrival.clock.lookup sequenceNumber
      (executions (history processReceivedPacket start log)).length k)
    (present' : (executions (history processReceivedPacket start log))[k']? = some made')
    (covers' : made'.Covers arrival.clock.lookup sequenceNumber
      (executions (history processReceivedPacket start log)).length k') :
    k = k' := by
  have separated := run_separated start empty log (chronological_front chronological)
  have earlier := chronological_last chronological start
  have monotone := chronological.1 arrival (by simp)
  have apart : ∀ (i j : Nat) (first second : Execution), i < j →
      (executions (history processReceivedPacket start log))[i]? = some first →
      (executions (history processReceivedPacket start log))[j]? = some second →
      first.Covers arrival.clock.lookup sequenceNumber
        (executions (history processReceivedPacket start log)).length i →
      second.message.sequenceNumber = sequenceNumber → False := by
    intro i j first second order atFirst atSecond covered same
    apply separated i j first second order atFirst atSecond
    obtain ⟨received, _, step, _⟩ :=
      executions_mem start log second (List.mem_of_getElem? atSecond)
    have before := earlier _ step
    obtain ⟨past, future, split, _⟩ := Reactive.mem_history _ _ _ _ step
    have clock := chronological.1 second.arrival (by rw [split]; simp)
    have below : i % requestCacheSize < requestCacheSize := Nat.mod_lt _ (by decide)
    have atSlot := clock.cached (i % requestCacheSize) below
    have ahead := monotone.lookup 0 (i % requestCacheSize) (Nat.zero_le _) below
    have bound := (List.getElem?_eq_some_iff.mp atSecond).1
    obtain ⟨sequence, recent, young⟩ := covered
    refine ⟨sequence.trans same.symm, by omega, ?_⟩
    dsimp only at before
    omega
  by_cases less : k < k'
  · exact (apart k k' made made' less present present' covers covers'.1).elim
  · by_cases more : k' < k
    · exact (apart k' k made' made more present' present covers' covers.1).elim
    · omega

/-- The command of a request that asks for an acknowledgement is executed exactly
when no earlier execution covers it, and otherwise nothing is transmitted. -/
theorem request_executed_iff (start : State σ) (empty : start.cache = {}) (log : List Arrival)
    (arrival : Arrival) (chronological : Chronological (log ++ [arrival])) (message : Message)
    (received : receivedMessage start.txu01Mac arrival = some message)
    (requested : acknowledgementRequested message = true) :
    ((∃ result, Call.processMessage message result ∈
        (processReceivedPacket (run processReceivedPacket start log) arrival).2) ↔
      ¬ Windowed (executions (history processReceivedPacket start log)) arrival message) ∧
    (Windowed (executions (history processReceivedPacket start log)) arrival message →
      ∀ frame result, Call.transmit frame result ∉
        (processReceivedPacket (run processReceivedPacket start log) arrival).2) := by
  by_cases windowed :
      Windowed (executions (history processReceivedPacket start log)) arrival message
  · obtain ⟨k, made, _, _, calls⟩ :=
      process_covered empty chronological received requested windowed
    rw [calls]
    simp [windowed]
  · have executed := process_uncovered empty chronological received requested windowed
    obtain ⟨tail, calls, _⟩ := executeMessage_calls arrival message
      { run processReceivedPacket start log with
        cache := (lookup (run processReceivedPacket start log) arrival message).1 }
    rw [executed, calls]
    refine ⟨iff_of_true ⟨_, List.mem_cons_self⟩ windowed, fun inside => absurd inside windowed⟩

/-- A copy is answered from the cache as long as the first is no older than the
lifetime, and executed after that. -/
theorem request_executed_iff_repeated :
    (¬ ∃ result, Call.processMessage versionRequest result ∈
        (processReceivedPacket (run processReceivedPacket sampleState
          [versionArrival 0, versionArrival 7]) (versionArrival 5000000)).2) ∧
      ∃ result, Call.processMessage versionRequest result ∈
        (processReceivedPacket (run processReceivedPacket sampleState
          [versionArrival 0, versionArrival 7]) (versionArrival 5000001)).2 := by
  have once : (executions (history processReceivedPacket sampleState
      [versionArrival 0, versionArrival 7])).map
        (fun made => (made.message, made.arrival.clock.cached)) = [(versionRequest, 0)] := by
    decide +kernel
  obtain ⟨made, alone, same⟩ := List.map_eq_singleton_iff.mp once
  obtain ⟨message, cached⟩ := Prod.mk.inj same
  constructor
  · rw [(request_executed_iff sampleState rfl [versionArrival 0, versionArrival 7]
      (versionArrival 5000000) (version_chronological [0, 7, 5000000] (by decide)) versionRequest
      (versionArrival_received _) versionRequest_requested).1, not_not, alone]
    refine ⟨0, made, rfl, by rw [message], by simp [requestCacheSize], ?_⟩
    rw [cached]
    decide
  · apply (request_executed_iff sampleState rfl [versionArrival 0, versionArrival 7]
      (versionArrival 5000001) (version_chronological [0, 7, 5000001] (by decide)) versionRequest
      (versionArrival_received _) versionRequest_requested).1.mpr
    rw [alone]
    rintro ⟨k, found, present, _, _, young⟩
    obtain rfl := List.mem_singleton.mp (List.mem_of_getElem? present)
    rw [cached] at young
    change (5000001 : Int) - 0 ≤ 5000000 at young
    omega

end Application
