import Rxu01.ApplicationStep
import Rxu01.ApplicationCache
import Rxu01.Reactive

set_option autoImplicit false

namespace Application

open EspNowCanGateway (ProcessResult TransmitResult processMessage processMessage_cases)
open EspNowDriver (Mac)
open CanCommandRouter (CanFrame buildFrame)
open RemoteProtocol (AcknowledgementStatus Message)
open Reactive (run history)

/-- The readings taken while one packet is processed, in program order. -/
structure Clock.Monotone (clock : Clock) : Prop where
  lookup : ∀ i j, i ≤ j → j < requestCacheSize → clock.lookup i ≤ clock.lookup j
  cached : ∀ j, j < requestCacheSize → clock.lookup j ≤ clock.cached

/-- The clock never goes back over a sequence of packets. -/
def Chronological (log : List Arrival) : Prop :=
  (∀ arrival ∈ log, arrival.clock.Monotone) ∧
    log.Pairwise (fun earlier later => earlier.clock.cached ≤ later.clock.lookup 0)

/-- A request executed with an acknowledgement to send: what `process_message`
returned for it, and everything its step did. -/
structure Execution where
  arrival : Arrival
  message : Message
  result : ProcessResult
  calls : List Call

/-- The execution a step of the history is, if it is one. -/
def execution (entry : Arrival × List Call) : Option Execution :=
  entry.2.findSome? (fun call =>
    match call with
    | .processMessage message result =>
        if acknowledgementRequested message then some ⟨entry.1, message, result, entry.2⟩ else none
    | _ => none)

/-- The executions of a history, oldest first. -/
def executions (entries : List (Arrival × List Call)) : List Execution :=
  entries.filterMap execution

/-- The cache entry made for an execution. -/
def Execution.entry (execution : Execution) : CachedRequest :=
  cachedRequest execution.arrival.packet.sourceMac execution.message
    (mapAckStatus execution.result) execution.arrival.clock.cached

theorem executions_snoc (entries : List (Arrival × List Call)) (entry : Arrival × List Call) :
    executions (entries ++ [entry]) = executions entries ++ (execution entry).toList := by
  unfold executions
  rw [List.filterMap_append]
  cases found : execution entry with
  | none => simp [found]
  | some present => simp [found]

variable {σ : Type}

theorem executeMessage_calls (arrival : Arrival) (message : Message) (state : State σ) :
    ∃ tail, (executeMessage arrival message state).2 =
      .processMessage message (processMessage message state.gateway state.context).result ::
        ((processMessage message state.gateway state.context).transmitted.map
          (fun call => Call.transmit call.1 call.2) ++ tail) ∧
      tail = if acknowledgementRequested message then
        [.cacheRequest (cachedRequest arrival.packet.sourceMac message
          (mapAckStatus (processMessage message state.gateway state.context).result)
          arrival.clock.cached),
        .send arrival.packet.sourceMac (acknowledgement message
          (mapAckStatus (processMessage message state.gateway state.context).result)).wire]
      else [] := by
  unfold executeMessage
  by_cases requested : acknowledgementRequested message = true
  · refine ⟨_, ?_, rfl⟩
    simp only [requested, ↓reduceIte, sendAcknowledgement_eq, List.cons_append]
  · refine ⟨_, ?_, rfl⟩
    simp only [requested, Bool.false_eq_true, ↓reduceIte, List.append_nil]

theorem execution_send (arrival : Arrival) (destination : Mac) (request : Message)
    (status : AcknowledgementStatus) :
    execution (arrival, sendAcknowledgement destination request status) = none := by
  rw [sendAcknowledgement_eq]
  rfl

theorem execution_requested (arrival : Arrival) (message : Message) (state : State σ)
    (requested : acknowledgementRequested message = true) :
    execution (arrival, (executeMessage arrival message state).2) =
      some ⟨arrival, message, (processMessage message state.gateway state.context).result,
        (executeMessage arrival message state).2⟩ := by
  obtain ⟨tail, calls, _⟩ := executeMessage_calls arrival message state
  simp only [execution, calls, List.findSome?_cons, requested, ↓reduceIte]

theorem execution_plain (arrival : Arrival) (message : Message) (state : State σ)
    (plain : acknowledgementRequested message = false) :
    execution (arrival, (executeMessage arrival message state).2) = none := by
  obtain ⟨tail, calls, nothing⟩ := executeMessage_calls arrival message state
  rw [plain] at nothing
  simp only [Bool.false_eq_true, ↓reduceIte] at nothing
  rw [execution, calls, nothing, List.append_nil]
  apply List.findSome?_eq_none_iff.mpr
  intro call member
  rcases List.mem_cons.mp member with rfl | transmitted
  · simp [plain]
  · obtain ⟨made, _, rfl⟩ := List.mem_map.mp transmitted
    rfl

/-- A frame reaches the callback only as the frame built for the message. -/
theorem executeMessage_transmit {arrival : Arrival} {message : Message} {state : State σ}
    {frame : CanFrame} {result : TransmitResult}
    (sent : Call.transmit frame result ∈ (executeMessage arrival message state).2) :
    buildFrame message state.gateway.config.commandRouter = (.ok, frame) := by
  obtain ⟨tail, calls, shape⟩ := executeMessage_calls arrival message state
  rw [calls] at sent
  rcases List.mem_cons.mp sent with other | sent
  · cases other
  rcases List.mem_append.mp sent with transmitted | sent
  · obtain ⟨made, member, same⟩ := List.mem_map.mp transmitted
    obtain ⟨rfl, _⟩ := Call.transmit.inj same
    rcases processMessage_cases message state.gateway state.context with
      ⟨built, transmit, _, _, routed, _, processed⟩ | ⟨_, _, _, _, _, processed⟩
    · rw [processed] at member
      obtain rfl := List.mem_singleton.mp member
      exact routed
    · rw [processed] at member
      cases member
  · rw [shape] at sent
    split at sent
    · simp at sent
    · cases sent

/-- A decoded message that routes is passed to the callback once. -/
theorem executeMessage_transmits {state : State σ} (arrival : Arrival) {message : Message}
    {frame : CanFrame} {transmit : EspNowCanGateway.TransmitCallback σ} (valid : message.Valid)
    (initialized : state.gateway.initialized = true)
    (connected : state.gateway.config.transmit = some transmit)
    (built : buildFrame message state.gateway.config.commandRouter = (.ok, frame)) :
    Call.transmit frame (transmit frame state.context).1 ∈
      (executeMessage arrival message state).2 := by
  obtain ⟨route, ecu, routed, _⟩ := (CanCommandRouter.buildFrame_ok_iff _ _ _).mp built
  have processed := EspNowCanGateway.processMessage_routed state.context initialized
    (rejectsMessage_valid valid routed.request) built connected
  obtain ⟨tail, calls, _⟩ := executeMessage_calls arrival message state
  rw [calls, processed]
  simp

/-- The four ways a packet goes. -/
inductive Step (state : State σ) (arrival : Arrival) : State σ × List Call → Prop where
  | ignored (ignored : receivedMessage state.txu01Mac arrival = none) :
      Step state arrival (state, [])
  | plain (message : Message) (received : receivedMessage state.txu01Mac arrival = some message)
      (plain : acknowledgementRequested message = false) :
      Step state arrival (executeMessage arrival message state)
  | cached (message : Message) (cached : CachedRequest)
      (received : receivedMessage state.txu01Mac arrival = some message)
      (requested : acknowledgementRequested message = true)
      (found : (lookup state arrival message).2 = some cached) :
      Step state arrival ({ state with cache := (lookup state arrival message).1 },
        sendAcknowledgement arrival.packet.sourceMac message
          (if isSameRequest cached message then cached.status else .invalidMessage))
  | fresh (message : Message) (received : receivedMessage state.txu01Mac arrival = some message)
      (requested : acknowledgementRequested message = true)
      (absent : (lookup state arrival message).2 = none) :
      Step state arrival (executeMessage arrival message
        { state with cache := (lookup state arrival message).1 })

theorem step (state : State σ) (arrival : Arrival) :
    Step state arrival (processReceivedPacket state arrival) := by
  cases received : receivedMessage state.txu01Mac arrival with
  | none =>
      rw [process_ignored state arrival received]
      exact Step.ignored received
  | some message =>
      cases requested : acknowledgementRequested message with
      | false =>
          rw [process_plain received requested]
          exact Step.plain message received requested
      | true =>
          cases found : (lookup state arrival message).2 with
          | some cached =>
              rw [process_cached received requested cached found]
              exact Step.cached message cached received requested found
          | none =>
              rw [process_fresh received requested found]
              exact Step.fresh message received requested found

@[simp] theorem executeMessage_txu01Mac (arrival : Arrival) (message : Message) (state : State σ) :
    (executeMessage arrival message state).1.txu01Mac = state.txu01Mac := by
  unfold executeMessage
  dsimp only
  split <;> rfl

theorem processMessage_config (message : Message) (state : State σ) :
    (processMessage message state.gateway state.context).gateway.config = state.gateway.config ∧
      (processMessage message state.gateway state.context).gateway.initialized =
        state.gateway.initialized := by
  rcases processMessage_cases message state.gateway state.context with
    ⟨frame, transmit, _, _, _, _, result⟩ | ⟨result, gateway, _, config, initialized, equal⟩
  · rw [result]
    exact ⟨rfl, rfl⟩
  · rw [equal]
    exact ⟨config, initialized⟩

@[simp] theorem executeMessage_config (arrival : Arrival) (message : Message) (state : State σ) :
    (executeMessage arrival message state).1.gateway.config = state.gateway.config := by
  unfold executeMessage
  dsimp only
  split <;> exact (processMessage_config message state).1

theorem process_transmit {state : State σ} {arrival : Arrival} {frame : CanFrame}
    {result : TransmitResult}
    (sent : Call.transmit frame result ∈ (processReceivedPacket state arrival).2) :
    ∃ message, receivedMessage state.txu01Mac arrival = some message ∧
      buildFrame message state.gateway.config.commandRouter = (.ok, frame) := by
  have taken := step state arrival
  generalize processReceivedPacket state arrival = next at taken sent
  cases taken with
  | ignored => cases sent
  | plain message received plain => exact ⟨message, received, executeMessage_transmit sent⟩
  | cached message cached received requested found =>
      rw [sendAcknowledgement_eq] at sent
      simp at sent
  | fresh message received requested absent =>
      have routed := executeMessage_transmit sent
      exact ⟨message, received, routed⟩

/-- Neither the peer's address nor the gateway's configuration ever changes. -/
theorem step_fixed (state : State σ) (arrival : Arrival) :
    (processReceivedPacket state arrival).1.txu01Mac = state.txu01Mac ∧
      (processReceivedPacket state arrival).1.gateway.config = state.gateway.config := by
  have taken := step state arrival
  generalize processReceivedPacket state arrival = next at taken
  cases taken with
  | ignored => exact ⟨rfl, rfl⟩
  | plain => simp
  | cached => exact ⟨rfl, rfl⟩
  | fresh => simp

theorem run_fixed (start : State σ) (log : List Arrival) :
    (run processReceivedPacket start log).txu01Mac = start.txu01Mac ∧
      (run processReceivedPacket start log).gateway.config = start.gateway.config := by
  apply Reactive.run_induction processReceivedPacket (fun state =>
    state.txu01Mac = start.txu01Mac ∧ state.gateway.config = start.gateway.config)
  · exact ⟨rfl, rfl⟩
  · rintro state arrival ⟨mac, config⟩
    obtain ⟨sameMac, sameConfig⟩ := step_fixed state arrival
    exact ⟨sameMac.trans mac, sameConfig.trans config⟩

theorem chronological_front {earlier later : List Arrival}
    (chronological : Chronological (earlier ++ later)) : Chronological earlier :=
  ⟨fun arrival member => chronological.1 arrival (List.mem_append_left _ member),
    (List.pairwise_append.mp chronological.2).1⟩

/-- Packets that each take no time. -/
theorem instants_chronological {log : List Arrival}
    (instant : ∀ arrival ∈ log,
      arrival.clock = ⟨fun _ => arrival.clock.cached, arrival.clock.cached⟩)
    (ordered : log.Pairwise fun earlier later => earlier.clock.cached ≤ later.clock.cached) :
    Chronological log := by
  constructor
  · intro arrival member
    rw [instant arrival member]
    exact ⟨fun _ _ _ _ => Int.le_refl _, fun _ _ => Int.le_refl _⟩
  · apply ordered.imp_of_mem
    intro earlier later _ member order
    rw [instant later member]
    exact order

theorem version_chronological (times : List Int) (ordered : times.Pairwise (· ≤ ·)) :
    Chronological (times.map versionArrival) := by
  apply instants_chronological
  · intro arrival member
    obtain ⟨now, _, rfl⟩ := List.mem_map.mp member
    rfl
  · exact List.pairwise_map.mpr ordered

/-- What the cache holds after a run: the ring stands for the entries of the
executions so far, at any time not before the last reading. -/
structure Remembers (start : State σ) (entries : List (Arrival × List Call)) (state : State σ) :
    Prop where
  mac : state.txu01Mac = start.txu01Mac
  tracks : ∀ now, (∀ entry ∈ entries, entry.1.clock.cached ≤ now) →
    Tracks now ((executions entries).map Execution.entry) state.cache

theorem lookup_tracks {state : State σ} {past : List CachedRequest} {arrival : Arrival}
    (monotone : arrival.clock.Monotone) (tracks : Tracks (arrival.clock.lookup 0) past state.cache)
    (message : Message) :
    Tracks arrival.clock.cached past (lookup state arrival message).1 :=
  tracks.find (fun j inside => monotone.lookup 0 j (Nat.zero_le j) inside) monotone.cached _ _

theorem remembers_step {start state : State σ} {entries : List (Arrival × List Call)}
    (remembers : Remembers start entries state) (arrival : Arrival)
    (monotone : arrival.clock.Monotone)
    (earlier : ∀ entry ∈ entries, entry.1.clock.cached ≤ arrival.clock.lookup 0) :
    Remembers start (entries ++ [(arrival, (processReceivedPacket state arrival).2)])
      (processReceivedPacket state arrival).1 := by
  have atLookup := remembers.tracks (arrival.clock.lookup 0) earlier
  have kept : ∀ now, arrival.clock.cached ≤ now →
      Tracks now ((executions entries).map Execution.entry) state.cache := by
    intro now after
    have order := Int.le_trans (monotone.cached 0 (by decide)) after
    exact atLookup.later order
  refine ⟨(step_fixed state arrival).1.trans remembers.mac, ?_⟩
  intro now bounds
  have after : arrival.clock.cached ≤ now := bounds (arrival, (processReceivedPacket state arrival).2) (by simp)
  rw [executions_snoc, List.map_append]
  have taken := step state arrival
  generalize processReceivedPacket state arrival = next at taken ⊢
  cases taken with
  | ignored =>
      rw [show execution (arrival, []) = none from rfl]
      simpa using kept now after
  | plain message received plain =>
      rw [execution_plain arrival message state plain]
      simp only [executeMessage, plain, Bool.false_eq_true, ↓reduceIte]
      simpa using kept now after
  | cached message cached received requested found =>
      rw [execution_send]
      simpa using (lookup_tracks monotone atLookup message).later after
  | fresh message received requested absent =>
      rw [execution_requested _ _ _ requested]
      simp only [executeMessage, requested, ↓reduceIte]
      exact ((lookup_tracks monotone atLookup message).insert rfl).later after

theorem run_remembers (start : State σ) (empty : start.cache = {}) (log : List Arrival)
    (chronological : Chronological log) :
    Remembers start (history processReceivedPacket start log)
      (run processReceivedPacket start log) := by
  apply Reactive.history_induction processReceivedPacket Chronological (Remembers start) start
  · refine ⟨rfl, fun now _ => ?_⟩
    rw [empty]
    exact tracks_empty now
  · intro inputs input legal
    exact chronological_front legal
  · intro inputs input legal remembers
    refine remembers_step remembers input (legal.1 input (by simp)) ?_
    intro entry member
    obtain ⟨before, after, split, _⟩ := Reactive.mem_history _ _ _ _ member
    apply (List.pairwise_append.mp legal.2).2.2 entry.1 _ input (by simp)
    rw [split]
    simp
  · exact chronological

/-- An execution of the history ran `execute_message` on a received request, with
the configuration of the start. -/
theorem executions_mem (start : State σ) (log : List Arrival) (made : Execution)
    (member : made ∈ executions (history processReceivedPacket start log)) :
    receivedMessage start.txu01Mac made.arrival = some made.message ∧
      acknowledgementRequested made.message = true ∧
      (made.arrival, made.calls) ∈ history processReceivedPacket start log ∧
      ∃ state : State σ, state.gateway.config = start.gateway.config ∧
        made.calls = (executeMessage made.arrival made.message state).2 ∧
        made.result = (processMessage made.message state.gateway state.context).result := by
  obtain ⟨⟨arrival, calls⟩, present, found⟩ := List.mem_filterMap.mp member
  obtain ⟨before, after, _, output⟩ := Reactive.mem_history _ _ _ _ present
  obtain ⟨mac, config⟩ := run_fixed start before
  dsimp only at output
  have taken := step (run processReceivedPacket start before) arrival
  generalize processReceivedPacket (run processReceivedPacket start before) arrival = next
    at taken output
  subst output
  cases taken with
  | ignored => cases found
  | plain message received plain =>
      rw [execution_plain arrival message _ plain] at found
      cases found
  | cached message cached received requested hit =>
      rw [execution_send] at found
      cases found
  | fresh message received requested absent =>
      rw [execution_requested arrival message _ requested, Option.some.injEq] at found
      subst found
      rw [mac] at received
      exact ⟨received, requested, present,
        { run processReceivedPacket start before with
          cache := (lookup (run processReceivedPacket start before) arrival message).1 },
        config, rfl, rfl⟩

end Application
