import Rxu01.ApplicationWindow

set_option autoImplicit false

namespace Application

open EspNowCanGateway (ProcessResult processMessage processMessage_cases)
open EspNowDriver (Mac)
open CanCommandRouter (buildFrame)
open RemoteProtocol (AcknowledgementStatus Message decode)
open Reactive (run history)

theorem mapAckStatus_canTransmitted (result : ProcessResult) :
    mapAckStatus result = .canTransmitted ↔ result = .ok := by
  cases result <;> decide

variable {σ : Type}

/-- An `Ok` of `process_message` is an `Ok` of the callback, for the frame the
router built. -/
theorem executeMessage_ok (arrival : Arrival) (message : Message) (state : State σ)
    (success : (processMessage message state.gateway state.context).result = .ok) :
    ∃ frame, buildFrame message state.gateway.config.commandRouter = (.ok, frame) ∧
      Call.transmit frame .ok ∈ (executeMessage arrival message state).2 := by
  obtain ⟨tail, calls, _⟩ := executeMessage_calls arrival message state
  rcases processMessage_cases message state.gateway state.context with
    ⟨frame, transmit, _, _, routed, _, processed⟩ | ⟨result, _, failed, _, _, processed⟩
  · rw [processed] at success
    refine ⟨frame, routed, ?_⟩
    rw [calls, processed, (EspNowCanGateway.mapTransmitResult_ok _).mp success]
    simp
  · rw [processed] at success
    exact absurd success failed

theorem executeMessage_send {arrival : Arrival} {message : Message} {state : State σ}
    {destination : Mac} {packet : List UInt8}
    (sent : Call.send destination packet ∈ (executeMessage arrival message state).2) :
    acknowledgementRequested message = true ∧ destination = arrival.packet.sourceMac ∧
      packet = (acknowledgement message (mapAckStatus
        (processMessage message state.gateway state.context).result)).wire := by
  obtain ⟨tail, calls, shape⟩ := executeMessage_calls arrival message state
  rw [calls] at sent
  rcases List.mem_cons.mp sent with other | sent
  · cases other
  rcases List.mem_append.mp sent with transmitted | sent
  · obtain ⟨made, _, other⟩ := List.mem_map.mp transmitted
    cases other
  cases requested : acknowledgementRequested message with
  | false =>
      rw [shape, requested] at sent
      cases sent
  | true =>
      rw [shape, requested, if_pos rfl] at sent
      simp only [List.mem_cons, reduceCtorEq, Call.send.injEq, List.not_mem_nil, or_false,
        false_or] at sent
      exact ⟨rfl, sent⟩

/-- The status a packet claims is the one it was made with. -/
theorem canTransmitted_packet {message acknowledged : Message} {status : AcknowledgementStatus}
    {packet : List UInt8} (carried : packet = (acknowledgement message status).wire)
    (decoded : decode (some packet) {} = (.ok, acknowledged))
    (claimed : acknowledged.payload[0] = AcknowledgementStatus.canTransmitted.value) :
    status = .canTransmitted ∧ acknowledged = acknowledgement message .canTransmitted := by
  rw [carried, acknowledgement_decodes] at decoded
  obtain rfl := (Prod.mk.inj decoded).2
  rw [acknowledgement_status] at claimed
  have named := AcknowledgementStatus.value_injective claimed
  exact ⟨named, by rw [named]⟩

/-- A cached `CanTransmitted` goes back to the earlier execution that cached it. -/
theorem cached_transmitted {start : State σ} (empty : start.cache = {}) {log : List Arrival}
    {arrival : Arrival} (chronological : Chronological (log ++ [arrival])) {message : Message}
    (received : receivedMessage start.txu01Mac arrival = some message) (cached : CachedRequest)
    (hit : (lookup (run processReceivedPacket start log) arrival message).2 = some cached)
    (identical : isSameRequest cached message = true)
    (transmitted : cached.status = .canTransmitted) :
    ∃ frame, buildFrame message start.gateway.config.commandRouter = (.ok, frame) ∧
      ∃ entry ∈ history processReceivedPacket start log,
        receivedMessage start.txu01Mac entry.1 = some message ∧ Call.transmit frame .ok ∈ entry.2 ∧
        ∃ slot < requestCacheSize,
          arrival.clock.lookup slot - entry.1.clock.cached ≤ requestCacheLifetimeUs := by
  obtain ⟨k, made, present, rfl, sequence, _, young⟩ :=
    lookup_some empty chronological received cached hit
  obtain ⟨madeReceived, _, entered, state, stateConfig, calls, result⟩ :=
    executions_mem start log made (List.mem_of_getElem? present)
  have equal := (isSameRequest_iff (receivedMessage_valid madeReceived).2
    (receivedMessage_valid received).2 sequence).mp identical
  have success := (mapAckStatus_canTransmitted made.result).mp transmitted
  rw [result] at success
  obtain ⟨frame, routed, called⟩ := executeMessage_ok made.arrival made.message state success
  rw [stateConfig, equal] at routed
  rw [← calls] at called
  rw [equal] at madeReceived
  exact ⟨frame, routed, _, entered, madeReceived, called, _, Nat.mod_lt k (by decide), young⟩

/-- An acknowledgement that says `CanTransmitted` goes back to a callback call on
the frame of that very command which returned `Ok`: in this step, or in an
earlier one whose result is still cached. -/
theorem canTransmitted_sound (start : State σ) (empty : start.cache = {}) (log : List Arrival)
    (arrival : Arrival) (chronological : Chronological (log ++ [arrival])) (destination : Mac)
    (packet : List UInt8)
    (sent : Call.send destination packet ∈
      (processReceivedPacket (run processReceivedPacket start log) arrival).2)
    (acknowledged : Message) (decoded : decode (some packet) {} = (.ok, acknowledged))
    (status : acknowledged.payload[0] = AcknowledgementStatus.canTransmitted.value) :
    ∃ message frame, receivedMessage start.txu01Mac arrival = some message ∧
      acknowledged = acknowledgement message .canTransmitted ∧
      buildFrame message start.gateway.config.commandRouter = (.ok, frame) ∧
      (Call.transmit frame .ok ∈
          (processReceivedPacket (run processReceivedPacket start log) arrival).2 ∨
        ∃ entry ∈ history processReceivedPacket start log,
          receivedMessage start.txu01Mac entry.1 = some message ∧
          Call.transmit frame .ok ∈ entry.2 ∧
          ∃ slot < requestCacheSize,
            arrival.clock.lookup slot - entry.1.clock.cached ≤ requestCacheLifetimeUs) := by
  obtain ⟨mac, config⟩ := run_fixed start log
  have taken := step (run processReceivedPacket start log) arrival
  generalize found : processReceivedPacket (run processReceivedPacket start log) arrival = next
    at taken sent ⊢
  cases taken with
  | ignored => cases sent
  | plain message received plain =>
      obtain ⟨requested, _⟩ := executeMessage_send sent
      rw [plain] at requested
      cases requested
  | cached message cached received requested hit =>
      rw [mac] at received
      rw [sendAcknowledgement_eq, List.mem_singleton] at sent
      obtain ⟨rfl, carried⟩ := Call.send.inj sent
      obtain ⟨named, answer⟩ := canTransmitted_packet carried decoded status
      by_cases identical : isSameRequest cached message = true
      · rw [if_pos identical] at named
        obtain ⟨frame, routed, earlier⟩ :=
          cached_transmitted empty chronological received cached hit identical named
        exact ⟨message, frame, received, answer, routed, Or.inr earlier⟩
      · rw [if_neg identical] at named
        cases named
  | fresh message received requested absent =>
      rw [mac] at received
      obtain ⟨_, _, carried⟩ := executeMessage_send sent
      obtain ⟨named, answer⟩ := canTransmitted_packet carried decoded status
      have success := (mapAckStatus_canTransmitted _).mp named
      obtain ⟨frame, routed, transmitted⟩ := executeMessage_ok arrival message _ success
      rw [config] at routed
      exact ⟨message, frame, received, answer, routed, Or.inl transmitted⟩

/-- The answer to a copy goes back to the transmission of the first. -/
theorem canTransmitted_sound_repeated :
    ∃ frame, buildFrame versionRequest VehicleCanProtocol.makeCommandRouterConfig = (.ok, frame) ∧
      ∃ entry ∈ history processReceivedPacket sampleState [versionArrival 0],
        receivedMessage sampleMac entry.1 = some versionRequest ∧
        Call.transmit frame .ok ∈ entry.2 := by
  have answered : (processReceivedPacket (run processReceivedPacket sampleState [versionArrival 0])
      (versionArrival 5)).2 =
        [Call.send sampleMac (acknowledgement versionRequest .canTransmitted).wire] := by
    decide +kernel
  obtain ⟨message, frame, received, _, routed, transmitted | ⟨entry, past, first, called, _⟩⟩ :=
    canTransmitted_sound sampleState rfl [versionArrival 0] (versionArrival 5)
      (version_chronological [0, 5] (by decide)) sampleMac _
      (by rw [answered]; exact List.mem_singleton_self _) _ (acknowledgement_decodes _ _ {})
      (acknowledgement_status _ _)
  · rw [answered, List.mem_singleton] at transmitted
    cases transmitted
  · have same := (versionArrival_received 5).symm.trans received
    cases same
    exact ⟨frame, routed, entry, past, first, called⟩

end Application
