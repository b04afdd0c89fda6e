import Mathlib.Data.List.Forall2
import Rxu01.ApplicationWindow

set_option autoImplicit false

namespace Application

open EspNowCanGateway (TransmitResult)
open EspNowDriver (Mac)
open CanCommandRouter (CanFrame)
open RemoteProtocol (Message)
open Reactive (run history)

/-- Two slots that no lookup from `now` on can tell apart: they may differ in the
flag of an entry whose lifetime has run out. -/
def Alike (now : Int) (left right : CachedRequest) : Prop :=
  left = right ∨
    ({ left with valid := false } : CachedRequest) = { right with valid := false } ∧
      requestCacheLifetimeUs < now - left.cachedAtUs

theorem Alike.cachedAtUs {now : Int} {left right : CachedRequest} (alike : Alike now left right) :
    left.cachedAtUs = right.cachedAtUs := by
  rcases alike with rfl | ⟨same, _⟩
  · rfl
  · have times := congrArg CachedRequest.cachedAtUs same
    exact times

/-- The lazy expiry makes them equal. -/
theorem Alike.expire_eq {now time : Int} {left right : CachedRequest} (alike : Alike now left right)
    (later : now ≤ time) : expire time left = expire time right := by
  have sameTime := alike.cachedAtUs
  rcases alike with rfl | ⟨same, aged⟩
  · rfl
  · have dead : ¬ left.Live time := fun live => by
      have young := live.2
      omega
    have deadRight : ¬ right.Live time := fun live => by
      have young := live.2
      omega
    rw [expire_not_live time left dead, expire_not_live time right deadRight, same]

theorem alike_expire {now time : Int} (entry : CachedRequest) (later : time ≤ now) :
    Alike now (expire time entry) entry := by
  by_cases live : entry.Live time
  · rw [expire_of_live time entry live]
    exact Or.inl rfl
  · rw [expire_not_live time entry live]
    by_cases used : entry.valid = true
    · have aged : requestCacheLifetimeUs < time - entry.cachedAtUs :=
        Int.not_le.mp (fun young => live ⟨used, young⟩)
      apply Or.inr
      refine ⟨rfl, ?_⟩
      dsimp only
      omega
    · apply Or.inl
      rw [Bool.not_eq_true] at used
      rw [← used]

/-- Alike slots give a lookup the same answer and stay alike. -/
theorem scanEntries_alike {now : Int} {clock : Nat → Int} (sourceMac : Mac)
    (sequenceNumber : UInt16) {left right : List CachedRequest}
    (alike : List.Forall₂ (Alike now) left right) (index : Nat)
    (later : ∀ j, j < left.length → now ≤ clock (index + j)) :
    (scanEntries clock sourceMac sequenceNumber index left).2 =
        (scanEntries clock sourceMac sequenceNumber index right).2 ∧
      List.Forall₂ (Alike now) (scanEntries clock sourceMac sequenceNumber index left).1
        (scanEntries clock sourceMac sequenceNumber index right).1 := by
  induction alike generalizing index with
  | nil => exact ⟨rfl, List.Forall₂.nil⟩
  | @cons first second left right alike others ih =>
      have here : expire (clock index) first = expire (clock index) second :=
        alike.expire_eq (later 0 (Nat.zero_lt_succ _))
      have behind : ∀ j, j < left.length → now ≤ clock (index + 1 + j) := by
        intro j inside
        rw [show index + 1 + j = index + (j + 1) by omega]
        exact later (j + 1) (Nat.succ_lt_succ inside)
      obtain ⟨found, entries⟩ := ih (index + 1) behind
      unfold scanEntries
      dsimp only
      rw [here]
      split
      · exact ⟨rfl, List.Forall₂.cons (Or.inl rfl) others⟩
      · exact ⟨found, List.Forall₂.cons (Or.inl rfl) entries⟩

/-- A scan done by `now` leaves slots alike to what they were. -/
theorem alike_scanEntries {now : Int} {clock : Nat → Int} (sourceMac : Mac)
    (sequenceNumber : UInt16) (entries : List CachedRequest) (index : Nat)
    (done : ∀ j, j < entries.length → clock (index + j) ≤ now) :
    List.Forall₂ (Alike now) (scanEntries clock sourceMac sequenceNumber index entries).1
      entries := by
  apply List.forall₂_iff_get.mpr
  refine ⟨scanEntries_length .., ?_⟩
  intro j inside inside'
  have touched := scanEntries_slot clock sourceMac sequenceNumber entries index j _ _
    (List.getElem?_eq_getElem inside') (List.getElem?_eq_getElem inside)
  rw [List.get_eq_getElem, List.get_eq_getElem]
  rcases touched with same | same
  · rw [same]
    exact Or.inl rfl
  · rw [same]
    exact alike_expire _ (done j inside')

/-- Two caches the packets still to come cannot tell apart. -/
structure CacheAlike (now : Int) (left right : RequestCache) : Prop where
  entries : List.Forall₂ (Alike now) left.entries right.entries
  nextEntry : left.nextEntry = right.nextEntry

theorem CacheAlike.insert {now : Int} {left right : RequestCache} (alike : CacheAlike now left right)
    (entry : CachedRequest) : CacheAlike now (cacheRequest entry left) (cacheRequest entry right) := by
  refine ⟨?_, ?_⟩
  · unfold cacheRequest
    dsimp only
    rw [alike.nextEntry]
    obtain ⟨lengths, slots⟩ := List.forall₂_iff_get.mp alike.entries
    apply List.forall₂_iff_get.mpr
    refine ⟨by rw [List.length_set, List.length_set, lengths], ?_⟩
    intro j inside inside'
    rw [List.get_eq_getElem, List.get_eq_getElem, List.getElem_set, List.getElem_set]
    split
    · exact Or.inl rfl
    · rw [List.length_set] at inside inside'
      exact slots j inside inside'
  · simp only [cacheRequest, alike.nextEntry]

theorem CacheAlike.find {now : Int} {left right : RequestCache} (alike : CacheAlike now left right)
    {clock : Nat → Int} (later : ∀ j, j < requestCacheSize → now ≤ clock j) (sourceMac : Mac)
    (sequenceNumber : UInt16) :
    (findCachedRequest clock sourceMac sequenceNumber left).2 =
        (findCachedRequest clock sourceMac sequenceNumber right).2 ∧
      CacheAlike now (findCachedRequest clock sourceMac sequenceNumber left).1
        (findCachedRequest clock sourceMac sequenceNumber right).1 := by
  have bounds : ∀ j, j < left.entries.length → now ≤ clock (0 + j) := by
    intro j inside
    rw [left.size] at inside
    rw [Nat.zero_add]
    exact later j inside
  obtain ⟨found, entries⟩ := scanEntries_alike sourceMac sequenceNumber alike.entries 0 bounds
  exact ⟨found, entries, alike.nextEntry⟩

variable {σ : Type}

/-- The states may differ in their caches, and no later packet shows it. -/
def Indistinguishable (rest : List Arrival) (left right : State σ) : Prop :=
  ∃ now cache, right = { left with cache := cache } ∧ CacheAlike now left.cache cache ∧
    ∀ arrival ∈ rest, ∀ j, j < requestCacheSize → now ≤ arrival.clock.lookup j

/-- Executing a message looks at the cache only to insert the new entry. -/
theorem executeMessage_cache (arrival : Arrival) (message : Message) (state : State σ)
    (cache : RequestCache) :
    ∃ update : RequestCache → RequestCache,
      (∀ now left right, CacheAlike now left right → CacheAlike now (update left) (update right)) ∧
      executeMessage arrival message { state with cache := cache } =
        ({ (executeMessage arrival message state).1 with cache := update cache },
          (executeMessage arrival message state).2) ∧
      (executeMessage arrival message state).1.cache = update state.cache := by
  unfold executeMessage
  dsimp only
  split
  · exact ⟨cacheRequest _, fun now left right alike => alike.insert _, rfl, rfl⟩
  · exact ⟨id, fun now left right alike => alike, rfl, rfl⟩

theorem executeMessage_indistinguishable {rest : List Arrival} {left right : State σ}
    (related : Indistinguishable rest left right) (arrival : Arrival) (message : Message) :
    (executeMessage arrival message left).2 = (executeMessage arrival message right).2 ∧
      Indistinguishable rest (executeMessage arrival message left).1
        (executeMessage arrival message right).1 := by
  obtain ⟨now, cache, rfl, alike, later⟩ := related
  obtain ⟨update, keeps, executed, updated⟩ := executeMessage_cache arrival message left cache
  rw [executed]
  refine ⟨rfl, now, update cache, rfl, ?_, later⟩
  rw [updated]
  exact keeps now _ _ alike

theorem process_indistinguishable :
    Reactive.Simulates (@processReceivedPacket σ) Indistinguishable := by
  intro arrival rest left right related
  obtain ⟨now, cache, rfl, alike, later⟩ := related
  have behind : ∀ arrival ∈ rest, ∀ j, j < requestCacheSize → now ≤ arrival.clock.lookup j :=
    fun arrival member => later arrival (List.mem_cons_of_mem _ member)
  cases received : receivedMessage left.txu01Mac arrival with
  | none =>
      rw [process_ignored left arrival received,
        process_ignored { left with cache := cache } arrival received]
      exact ⟨rfl, now, cache, rfl, alike, behind⟩
  | some message =>
      have receivedRight : receivedMessage
        ({ left with cache := cache } : State σ).txu01Mac arrival = some message := received
      cases requested : acknowledgementRequested message with
      | false =>
          rw [process_plain received requested, process_plain receivedRight requested]
          exact executeMessage_indistinguishable ⟨now, cache, rfl, alike, behind⟩ arrival message
      | true =>
          obtain ⟨answer, found⟩ := alike.find
            (fun j inside => later arrival List.mem_cons_self j inside)
            arrival.packet.sourceMac message.sequenceNumber
          cases hit : (lookup left arrival message).2 with
          | some cached =>
              have hitRight : (lookup { left with cache := cache } arrival message).2 =
                some cached := answer.symm.trans hit
              rw [process_cached received requested cached hit,
                process_cached receivedRight requested cached hitRight]
              exact ⟨rfl, now, _, rfl, found, behind⟩
          | none =>
              have missRight : (lookup { left with cache := cache } arrival message).2 = none :=
                answer.symm.trans hit
              rw [process_fresh received requested hit,
                process_fresh receivedRight requested missRight]
              exact executeMessage_indistinguishable ⟨now, _, rfl, found, behind⟩ arrival message

/-- The step calls `process_message`. -/
def Executes (calls : List Call) : Prop := ∃ message result, Call.processMessage message result ∈ calls

/-- The frames given to the callback over a history, and what it returned. -/
def transmissions (entries : List (Arrival × List Call)) : List (CanFrame × TransmitResult) :=
  entries.flatMap (fun entry => entry.2.filterMap (fun call =>
    match call with
    | .transmit frame result => some (frame, result)
    | _ => none))

theorem executeMessage_executes (arrival : Arrival) (message : Message) (state : State σ) :
    Executes (executeMessage arrival message state).2 := by
  obtain ⟨tail, calls, _⟩ := executeMessage_calls arrival message state
  rw [calls]
  exact ⟨_, _, List.mem_cons_self⟩

/-- What a step without `process_message` does: nothing but the expiry of a
lookup, and at most an acknowledgement. -/
theorem unexecuted_step (state : State σ) (arrival : Arrival)
    (unexecuted : ¬ Executes (processReceivedPacket state arrival).2) :
    (∃ cache, (processReceivedPacket state arrival).1 = { state with cache := cache } ∧
      (cache = state.cache ∨ ∃ sourceMac sequenceNumber,
        cache = (findCachedRequest arrival.clock.lookup sourceMac sequenceNumber state.cache).1)) ∧
    transmissions [(arrival, (processReceivedPacket state arrival).2)] = [] := by
  have taken := step state arrival
  generalize processReceivedPacket state arrival = next at taken unexecuted ⊢
  cases taken with
  | ignored => exact ⟨⟨state.cache, rfl, Or.inl rfl⟩, rfl⟩
  | plain message received plain =>
      exact absurd (executeMessage_executes arrival message state) unexecuted
  | cached message cached received requested found =>
      refine ⟨⟨_, rfl, Or.inr ⟨_, _, rfl⟩⟩, ?_⟩
      rw [sendAcknowledgement_eq]
      rfl
  | fresh message received requested absent =>
      exact absurd (executeMessage_executes arrival message _) unexecuted

/-- A step without `process_message` leaves a state that the later packets
cannot tell from the one before. -/
theorem unexecuted_indistinguishable (state : State σ) (arrival : Arrival) (rest : List Arrival)
    (monotone : arrival.clock.Monotone)
    (later : ∀ next ∈ rest, next.clock.Monotone ∧ arrival.clock.cached ≤ next.clock.lookup 0)
    (unexecuted : ¬ Executes (processReceivedPacket state arrival).2) :
    Indistinguishable rest (processReceivedPacket state arrival).1 state := by
  obtain ⟨⟨cache, after, change⟩, _⟩ := unexecuted_step state arrival unexecuted
  refine ⟨arrival.clock.cached, state.cache, by rw [after], ?_, ?_⟩
  · rw [after]
    rcases change with rfl | ⟨sourceMac, sequenceNumber, rfl⟩
    · exact ⟨List.forall₂_same.mpr (fun entry _ => Or.inl rfl), rfl⟩
    · refine ⟨alike_scanEntries _ _ _ 0 ?_, rfl⟩
      intro j inside
      rw [state.cache.size] at inside
      rw [Nat.zero_add]
      exact monotone.cached j inside
  · intro next member j inside
    obtain ⟨clock, ahead⟩ := later next member
    exact Int.le_trans ahead (clock.lookup 0 j (Nat.zero_le j) inside)

/-- A packet received but not executed asked for an acknowledgement and was covered. -/
theorem unexecuted_windowed {start : State σ} {log : List Arrival} {arrival : Arrival}
    {message : Message} (empty : start.cache = {})
    (chronological : Chronological (log ++ [arrival]))
    (received : receivedMessage start.txu01Mac arrival = some message)
    (unexecuted : ¬ Executes
      (processReceivedPacket (run processReceivedPacket start log) arrival).2) :
    acknowledgementRequested message = true ∧
      Windowed (executions (history processReceivedPacket start log)) arrival message := by
  have receivedRun : receivedMessage (run processReceivedPacket start log).txu01Mac arrival =
      some message := (run_fixed start log).1.symm ▸ received
  cases requested : acknowledgementRequested message with
  | false =>
      rw [process_plain receivedRun requested] at unexecuted
      exact absurd (executeMessage_executes arrival message _) unexecuted
  | true =>
      refine ⟨rfl, ?_⟩
      by_contra outside
      rw [process_uncovered empty chronological received requested outside] at unexecuted
      exact unexecuted (executeMessage_executes arrival message _)

/-- An execution's own acknowledgement, as its step sent it. -/
theorem execution_acknowledged (start : State σ) (log : List Arrival) (made : Execution)
    (member : made ∈ executions (history processReceivedPacket start log)) :
    Call.send start.txu01Mac (acknowledgement made.message (mapAckStatus made.result)).wire ∈
      made.calls := by
  obtain ⟨received, requested, _, state, _, calls, result⟩ := executions_mem start log made member
  obtain ⟨tail, shape, acknowledged⟩ := executeMessage_calls made.arrival made.message state
  have source := ((receivedMessage_some _ _ _).mp received).1
  rw [requested, if_pos rfl, ← result, source] at acknowledged
  rw [calls, shape, acknowledged]
  simp

/-- A covered packet is answered from the one execution that covers it: with that
execution's own acknowledgement when the request is the same, and with
`InvalidMessage` when it is not. -/
theorem covered_answer {start : State σ} {log : List Arrival} {arrival : Arrival}
    {message : Message} (empty : start.cache = {})
    (chronological : Chronological (log ++ [arrival]))
    (received : receivedMessage start.txu01Mac arrival = some message)
    (requested : acknowledgementRequested message = true) {k : Nat} {made : Execution}
    (present : (executions (history processReceivedPacket start log))[k]? = some made)
    (covers : made.Covers arrival.clock.lookup message.sequenceNumber
      (executions (history processReceivedPacket start log)).length k) :
    (made.message = message → ∃ packet,
      (processReceivedPacket (run processReceivedPacket start log) arrival).2 =
        [.send start.txu01Mac packet] ∧ Call.send start.txu01Mac packet ∈ made.calls) ∧
    (made.message ≠ message →
      (processReceivedPacket (run processReceivedPacket start log) arrival).2 =
        [.send start.txu01Mac (acknowledgement message .invalidMessage).wire]) := by
  obtain ⟨k', made', present', covers', calls⟩ :=
    process_covered empty chronological received requested ⟨k, made, present, covers⟩
  have index := covers_unique empty chronological present covers present' covers'
  subst index
  rw [present, Option.some.injEq] at present'
  subst present'
  have member := List.mem_of_getElem? present
  obtain ⟨madeReceived, _⟩ := executions_mem start log made member
  have same : isSameRequest made.entry message = true ↔ made.message = message :=
    isSameRequest_iff (receivedMessage_valid madeReceived).2 (receivedMessage_valid received).2
      covers.1
  have source := ((receivedMessage_some _ _ _).mp received).1
  rw [calls, source]
  constructor
  · intro identical
    have hit : isSameRequest made.entry message = true := same.mpr identical
    rw [if_pos hit, ← identical]
    exact ⟨_, rfl, execution_acknowledged start log made member⟩
  · intro conflicting
    have missed : ¬ isSameRequest made.entry message = true := fun hit => conflicting (same.mp hit)
    rw [if_neg missed]

/-- Deleting a packet that was not executed changes no call made for any other
packet, and neither the gateway nor what is behind the callback at the end. A
received packet that was not executed was covered, and answered by the execution
that covers it. -/
theorem unexecuted_invisible (start : State σ) (before after : List Arrival) (arrival : Arrival)
    (chronological : Chronological (before ++ arrival :: after))
    (unexecuted : ¬ Executes
      (processReceivedPacket (run processReceivedPacket start before) arrival).2) :
    (∃ calls tail,
      history processReceivedPacket start (before ++ arrival :: after) =
        history processReceivedPacket start before ++ (arrival, calls) :: tail ∧
      history processReceivedPacket start (before ++ after) =
        history processReceivedPacket start before ++ tail) ∧
    transmissions (history processReceivedPacket start (before ++ arrival :: after)) =
      transmissions (history processReceivedPacket start (before ++ after)) ∧
    (run processReceivedPacket start (before ++ arrival :: after)).gateway =
      (run processReceivedPacket start (before ++ after)).gateway ∧
    (run processReceivedPacket start (before ++ arrival :: after)).context =
      (run processReceivedPacket start (before ++ after)).context ∧
    (start.cache = {} → ∀ message, receivedMessage start.txu01Mac arrival = some message →
      Windowed (executions (history processReceivedPacket start before)) arrival message ∧
      ∀ (k : Nat) (made : Execution),
        (executions (history processReceivedPacket start before))[k]? = some made →
        made.Covers arrival.clock.lookup message.sequenceNumber
          (executions (history processReceivedPacket start before)).length k →
        (made.message = message → ∃ packet,
          (processReceivedPacket (run processReceivedPacket start before) arrival).2 =
            [.send start.txu01Mac packet] ∧ Call.send start.txu01Mac packet ∈ made.calls) ∧
        (made.message ≠ message →
          (processReceivedPacket (run processReceivedPacket start before) arrival).2 =
            [.send start.txu01Mac (acknowledgement message .invalidMessage).wire])) := by
  have split : before ++ arrival :: after = (before ++ [arrival]) ++ after := by simp
  have upTo : Chronological (before ++ [arrival]) := by
    rw [split] at chronological
    exact chronological_front chronological
  have ahead := (List.pairwise_cons.mp (List.pairwise_append.mp chronological.2).2.1).1
  have invisible := unexecuted_indistinguishable (run processReceivedPacket start before) arrival
    after (chronological.1 arrival (by simp))
    (fun next member => ⟨chronological.1 next (by simp [member]), ahead next member⟩) unexecuted
  obtain ⟨⟨tail, whole, deleted⟩, now, cache, final, _⟩ :=
    Reactive.delete_input _ process_indistinguishable start before after arrival invisible
  have silent := (unexecuted_step _ arrival unexecuted).2
  refine ⟨⟨_, tail, whole, deleted⟩, ?_, by rw [final], by rw [final], ?_⟩
  · rw [whole, deleted, List.append_cons]
    unfold transmissions at silent ⊢
    rw [List.flatMap_append, List.flatMap_append, List.flatMap_append, silent, List.append_nil]
  · intro empty message received
    obtain ⟨requested, windowed⟩ := unexecuted_windowed empty upTo received unexecuted
    exact ⟨windowed, fun k made present covers =>
      covered_answer empty upTo received requested present covers⟩

/-- A copy answered from the cache, between the first and a copy that is executed
again. -/
theorem unexecuted_invisible_repeated :
    transmissions (history processReceivedPacket sampleState
        [versionArrival 0, versionArrival 1, versionArrival 5000001]) =
      transmissions (history processReceivedPacket sampleState
        [versionArrival 0, versionArrival 5000001]) ∧
    ∃ packet, (processReceivedPacket (run processReceivedPacket sampleState [versionArrival 0])
      (versionArrival 1)).2 = [.send sampleMac packet] := by
  have answered : (processReceivedPacket (run processReceivedPacket sampleState [versionArrival 0])
      (versionArrival 1)).2 =
        [Call.send sampleMac (acknowledgement versionRequest .canTransmitted).wire] := by
    decide +kernel
  have unexecuted : ¬ Executes (processReceivedPacket
      (run processReceivedPacket sampleState [versionArrival 0]) (versionArrival 1)).2 := by
    rw [answered]
    rintro ⟨message, result, member⟩
    rw [List.mem_singleton] at member
    cases member
  exact ⟨(unexecuted_invisible sampleState [versionArrival 0] [versionArrival 5000001]
    (versionArrival 1) (version_chronological [0, 1, 5000001] (by decide)) unexecuted).2.1,
    _, answered⟩

end Application
