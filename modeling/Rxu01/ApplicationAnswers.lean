import Rxu01.ApplicationStatus

set_option autoImplicit false

/- Which packets are answered, and that an answer is answered by nobody. -/
namespace Application

open EspNowCanGateway (processMessage)
open EspNowDriver (Mac)
open RemoteProtocol (AcknowledgementStatus Message decode encode)

variable {σ : Type}

/-- The packet is a request from TXU01 that asks for an acknowledgement. -/
structure Requests (txu01Mac : Mac) (arrival : Arrival) (message : Message) : Prop where
  source : arrival.packet.sourceMac = txu01Mac
  decoded : decode (some arrival.packet.bytes) {} = (.ok, message)
  asked : message.flags &&& RemoteProtocol.flagAckRequested ≠ 0
  request : message.flags &&& RemoteProtocol.flagIsResponse = 0

/-- A packet that any decoder reads as the acknowledgement of a message. -/
structure Acknowledges (message : Message) (packet : List UInt8) : Prop where
  size : packet.length ≤ RemoteProtocol.maxPacketSize
  decoded : ∃ answer : Message, (∀ before, decode (some packet) before = (.ok, answer)) ∧
    answer.type = .acknowledgement ∧ answer.flags = RemoteProtocol.flagIsResponse ∧
    answer.sequenceNumber = message.sequenceNumber ∧ answer.messageId = message.messageId ∧
    answer.payloadLength = 1 ∧ answer.payload[0] ≤ 8

theorem requests_iff (txu01Mac : Mac) (arrival : Arrival) (message : Message) :
    Requests txu01Mac arrival message ↔
      receivedMessage txu01Mac arrival = some message ∧ acknowledgementRequested message = true := by
  rw [receivedMessage_some]
  unfold acknowledgementRequested
  rw [Bool.and_eq_true, bne_iff_ne, beq_iff_eq]
  constructor
  · intro requests
    exact ⟨⟨requests.source, requests.decoded⟩, requests.asked, requests.request⟩
  · rintro ⟨⟨source, decoded⟩, asked, request⟩
    exact ⟨source, decoded, asked, request⟩

theorem status_value_le (status : AcknowledgementStatus) : status.value ≤ 8 := by
  cases status <;> decide

theorem acknowledgement_acknowledges (request : Message) (status : AcknowledgementStatus) :
    Acknowledges request (acknowledgement request status).wire := by
  constructor
  · rw [RemoteProtocol.wire_length _ (acknowledgement_valid request status).payload]
    exact acknowledgement_room request status
  · obtain ⟨answer, decoded, type, flags, sequence, identifier, length, carried⟩ :=
      (acknowledgement_reports request status).decoded
    exact ⟨answer, decoded, type, flags, sequence, identifier, length,
      carried ▸ status_value_le status⟩

theorem acknowledgementRequested_response {message : Message}
    (response : message.flags &&& RemoteProtocol.flagIsResponse ≠ 0) :
    acknowledgementRequested message = false := by
  unfold acknowledgementRequested
  rw [Bool.and_eq_false_iff, beq_eq_false_iff_ne]
  exact Or.inr response

/-- A response is turned down before it reaches the router. -/
theorem executeMessage_response (arrival : Arrival) {message : Message} (state : State σ)
    (response : message.flags &&& RemoteProtocol.flagIsResponse ≠ 0) :
    ∃ result, (executeMessage arrival message state).2 = [.processMessage message result] := by
  have rejected : EspNowCanGateway.rejectsMessage message = true := by
    unfold EspNowCanGateway.rejectsMessage
    rw [bne_iff_ne.mpr response, Bool.or_true, Bool.true_or]
  have quiet : (processMessage message state.gateway state.context).transmitted = [] := by
    unfold processMessage
    rw [rejected]
    split <;> rfl
  obtain ⟨tail, calls, shape⟩ := executeMessage_calls arrival message state
  rw [acknowledgementRequested_response response, if_neg Bool.false_ne_true] at shape
  rw [quiet, shape] at calls
  exact ⟨_, calls⟩

theorem sentPackets_process (state : State σ) (arrival : Arrival) (message : Message)
    (requests : Requests state.txu01Mac arrival message) :
    ∃ status, sentPackets (processReceivedPacket state arrival).2 =
      [(state.txu01Mac, (acknowledgement message status).wire)] := by
  obtain ⟨received, requested⟩ := (requests_iff _ _ _).mp requests
  rw [← requests.source]
  cases found : (lookup state arrival message).2 with
  | some cached =>
      rw [process_cached received requested cached found, sendAcknowledgement_eq]
      exact ⟨_, rfl⟩
  | none =>
      rw [process_fresh received requested found, sentPackets_execute, if_pos requested]
      exact ⟨_, rfl⟩

theorem sentPackets_silent (state : State σ) (arrival : Arrival)
    (other : ¬ ∃ message, Requests state.txu01Mac arrival message) :
    sentPackets (processReceivedPacket state arrival).2 = [] := by
  cases received : receivedMessage state.txu01Mac arrival with
  | none =>
      rw [process_ignored state arrival received]
      rfl
  | some message =>
      cases requested : acknowledgementRequested message with
      | true => exact absurd ⟨message, (requests_iff _ _ _).mpr ⟨received, requested⟩⟩ other
      | false =>
          rw [process_plain received requested, sentPackets_execute, requested]
          rfl

/-- Whoever gets an acknowledgement neither answers it nor transmits anything. -/
theorem acknowledgement_unanswered (request : Message) (status : AcknowledgementStatus)
    (state : State σ) (arrival : Arrival)
    (carried : arrival.packet.bytes = (acknowledgement request status).wire) :
    sentPackets (processReceivedPacket state arrival).2 = [] ∧
      ∀ frame result, Call.transmit frame result ∉ (processReceivedPacket state arrival).2 := by
  cases received : receivedMessage state.txu01Mac arrival with
  | none =>
      rw [process_ignored state arrival received]
      exact ⟨rfl, fun _ _ => List.not_mem_nil⟩
  | some message =>
      obtain ⟨_, decoded⟩ := (receivedMessage_some _ _ _).mp received
      rw [carried, acknowledgement_decodes] at decoded
      obtain rfl := (Prod.mk.inj decoded).2
      have response : (acknowledgement request status).flags &&& RemoteProtocol.flagIsResponse ≠ 0 := by
        change RemoteProtocol.flagIsResponse &&& RemoteProtocol.flagIsResponse ≠ 0
        decide
      obtain ⟨result, calls⟩ := executeMessage_response arrival state response
      rw [process_plain received (acknowledgementRequested_response response), calls]
      exact ⟨rfl, by simp⟩

/-- Requests of TXU01 are answered once and nothing else is. The answer is always
encoded, and whoever receives it neither answers it nor transmits anything. -/
theorem answered_once (state : State σ) (arrival : Arrival) :
    (∀ message, Requests state.txu01Mac arrival message →
      ∃ packet, sentPackets (processReceivedPacket state arrival).2 = [(state.txu01Mac, packet)] ∧
        Acknowledges message packet) ∧
    ((¬ ∃ message, Requests state.txu01Mac arrival message) →
      sentPackets (processReceivedPacket state arrival).2 = []) ∧
    (∀ request status, (encode (acknowledgement request status)
      (some (List.replicate RemoteProtocol.maxPacketSize 0))).result = .ok) ∧
    ∀ destination packet,
      (destination, packet) ∈ sentPackets (processReceivedPacket state arrival).2 →
      ∀ (τ : Type) (receiver : State τ) (echo : Arrival), echo.packet.bytes = packet →
        sentPackets (processReceivedPacket receiver echo).2 = [] ∧
          ∀ frame result, Call.transmit frame result ∉ (processReceivedPacket receiver echo).2 := by
  refine ⟨?_, sentPackets_silent state arrival, acknowledgement_encoded, ?_⟩
  · intro message requests
    obtain ⟨status, sent⟩ := sentPackets_process state arrival message requests
    exact ⟨_, sent, acknowledgement_acknowledges message status⟩
  · intro destination packet sent τ receiver echo carried
    by_cases answered : ∃ message, Requests state.txu01Mac arrival message
    · obtain ⟨message, requests⟩ := answered
      obtain ⟨status, sent'⟩ := sentPackets_process state arrival message requests
      rw [sent', List.mem_singleton] at sent
      obtain ⟨_, rfl⟩ := Prod.mk.inj sent
      exact acknowledgement_unanswered message status receiver echo carried
    · rw [sentPackets_silent state arrival answered] at sent
      cases sent

end Application
