import Rxu01.Application
import Rxu01.RemoteProtocolCodec
import Rxu01.VehicleCanProtocol

set_option autoImplicit false

namespace Application

open EspNowDriver (Mac ReceivedPacket)
open RemoteProtocol (AcknowledgementStatus Message decode)

variable {σ : Type}

/-- The message a packet carries past the source check and the decoder. -/
def receivedMessage (txu01Mac : Mac) (arrival : Arrival) : Option Message :=
  if arrival.packet.sourceMac = txu01Mac then
    match decode (some arrival.packet.bytes) {} with
    | (.ok, message) => some message
    | (_, _) => none
  else none

theorem receivedMessage_some (txu01Mac : Mac) (arrival : Arrival) (message : Message) :
    receivedMessage txu01Mac arrival = some message ↔
      arrival.packet.sourceMac = txu01Mac ∧
        decode (some arrival.packet.bytes) {} = (.ok, message) := by
  unfold receivedMessage
  split
  · rename_i source
    split
    · rename_i decoded found
      rw [found]
      simp [source]
    · rename_i result decoded failed found
      rw [found]
      simp only [source, true_and, reduceCtorEq, false_iff, Prod.mk.injEq, not_and]
      intro success
      exact absurd success failed
  · rename_i source
    simp [source]

/-- Every valid message reaches the application through a packet that carries
its wire form. -/
theorem received_carrying (txu01Mac : Mac) (clock : Clock) (message : Message)
    (valid : message.Valid) :
    receivedMessage txu01Mac ⟨ReceivedPacket.carrying txu01Mac message.wire, clock⟩ =
      some message.trimmed := by
  have fits : message.wire.length ≤ EspNowDriver.maxPayloadSize := by
    have inside : ¬ RemoteProtocol.maxPayloadSize < message.payloadLength.toNat :=
      Nat.not_lt.mpr valid.payload
    rw [RemoteProtocol.wire_length message valid.payload, RemoteProtocol.encodedSize,
      if_neg inside]
    change 10 + message.payloadLength.toNat + 2 ≤ 250
    change ¬ 64 < message.payloadLength.toNat at inside
    omega
  obtain ⟨accepted, read⟩ := RemoteProtocol.wire_accepted message valid
  apply (receivedMessage_some _ _ _).mpr
  refine ⟨rfl, ?_⟩
  rw [ReceivedPacket.carrying_bytes txu01Mac message.wire fits,
    RemoteProtocol.decode_accepted _ _ accepted, read]

def sampleMac : Mac := Vector.replicate EspNowDriver.macAddressSize 0x24

/-- The shipped tables behind a transmit callback that always succeeds. -/
def sampleState : State Unit :=
  { txu01Mac := sampleMac
    gateway :=
      { config :=
          { transmit := some (fun _ context => (.ok, context))
            commandRouter := VehicleCanProtocol.makeCommandRouterConfig }
        initialized := true }
    context := () }

/-- A request for the software version of LMCU100. -/
def versionRequest : Message :=
  { flags := RemoteProtocol.flagAckRequested
    messageId := 0x0101 }

/-- `versionRequest` sent from `sampleMac`, every clock reading taken at `now`. -/
def versionArrival (now : Int) : Arrival :=
  ⟨ReceivedPacket.carrying sampleMac versionRequest.wire, ⟨fun _ => now, now⟩⟩

theorem versionArrival_received (now : Int) :
    receivedMessage sampleMac (versionArrival now) = some versionRequest := by
  have valid : versionRequest.Valid := by
    refine ⟨?_, ?_, ?_⟩
    · change RemoteProtocol.isValidMessageType .command = true
      decide
    · change RemoteProtocol.areValidFlags RemoteProtocol.flagAckRequested = true
      decide
    · exact Nat.zero_le _
  have trimmed : versionRequest.trimmed = versionRequest := rfl
  rw [versionArrival, received_carrying sampleMac _ versionRequest valid, trimmed]

theorem versionRequest_requested : acknowledgementRequested versionRequest = true := rfl

/-- What the application works on is valid and has a zeroed payload tail. -/
theorem receivedMessage_valid {txu01Mac : Mac} {arrival : Arrival} {message : Message}
    (received : receivedMessage txu01Mac arrival = some message) :
    message.Valid ∧ message.trimmed = message := by
  obtain ⟨_, decoded⟩ := (receivedMessage_some _ _ _).mp received
  obtain ⟨valid, trimmed, _⟩ := (RemoteProtocol.decode_ok_iff _ _ _).mp decoded
  exact ⟨valid, trimmed⟩

/-- The first check of `process_message` repeats the decoder's, and the flag. -/
theorem rejectsMessage_valid {message : Message} (valid : message.Valid)
    (request : message.flags &&& RemoteProtocol.flagIsResponse = 0) :
    EspNowCanGateway.rejectsMessage message = false := by
  have inside : ¬ RemoteProtocol.maxPayloadSize < message.payloadLength.toNat :=
    Nat.not_lt.mpr valid.payload
  simp only [EspNowCanGateway.rejectsMessage, valid.type, valid.flags, request, inside,
    Bool.not_true, bne_self_eq_false, decide_false, Bool.or_self]

/-- A packet from another sender, or one that does not decode, does nothing. -/
theorem process_ignored (state : State σ) (arrival : Arrival)
    (ignored : receivedMessage state.txu01Mac arrival = none) :
    processReceivedPacket state arrival = (state, []) := by
  unfold processReceivedPacket
  split
  · rfl
  · rename_i source
    rw [Decidable.not_not] at source
    split
    · rename_i message found
      have received := (receivedMessage_some state.txu01Mac arrival message).mpr ⟨source, found⟩
      rw [ignored] at received
      cases received
    · rfl

section Received

variable {state : State σ} {arrival : Arrival} {message : Message}

theorem process_plain (received : receivedMessage state.txu01Mac arrival = some message)
    (plain : acknowledgementRequested message = false) :
    processReceivedPacket state arrival = executeMessage arrival message state := by
  obtain ⟨source, found⟩ := (receivedMessage_some _ _ _).mp received
  simp [processReceivedPacket, source, found, plain]

/-- The lookup made for a request that asks for an acknowledgement. -/
def lookup (state : State σ) (arrival : Arrival) (message : Message) :
    RequestCache × Option CachedRequest :=
  findCachedRequest arrival.clock.lookup arrival.packet.sourceMac message.sequenceNumber state.cache

theorem process_cached (received : receivedMessage state.txu01Mac arrival = some message)
    (requested : acknowledgementRequested message = true) (cached : CachedRequest)
    (found : (lookup state arrival message).2 = some cached) :
    processReceivedPacket state arrival =
      ({ state with cache := (lookup state arrival message).1 },
        sendAcknowledgement arrival.packet.sourceMac message
          (if isSameRequest cached message then cached.status else .invalidMessage)) := by
  obtain ⟨source, decoded⟩ := (receivedMessage_some _ _ _).mp received
  unfold lookup at found ⊢
  simp only [processReceivedPacket, source, ne_eq, not_true_eq_false, ↓reduceIte, decoded,
    requested]
  rw [source] at found
  rw [found]

theorem process_fresh (received : receivedMessage state.txu01Mac arrival = some message)
    (requested : acknowledgementRequested message = true)
    (absent : (lookup state arrival message).2 = none) :
    processReceivedPacket state arrival =
      executeMessage arrival message
        { state with cache := (lookup state arrival message).1 } := by
  obtain ⟨source, decoded⟩ := (receivedMessage_some _ _ _).mp received
  unfold lookup at absent ⊢
  simp only [processReceivedPacket, source, ne_eq, not_true_eq_false, ↓reduceIte, decoded,
    requested]
  rw [source] at absent
  rw [absent]

end Received

theorem acknowledgement_valid (request : Message) (status : AcknowledgementStatus) :
    (acknowledgement request status).Valid := by
  refine ⟨?_, ?_, ?_⟩
  · change RemoteProtocol.isValidMessageType .acknowledgement = true
    decide
  · change RemoteProtocol.areValidFlags RemoteProtocol.flagIsResponse = true
    decide
  · change (1 : UInt8).toNat ≤ 64
    decide

theorem acknowledgement_trimmed (request : Message) (status : AcknowledgementStatus) :
    (acknowledgement request status).trimmed = acknowledgement request status := by
  have carried : (acknowledgement request status).payloadBytes = [status.value] :=
    RemoteProtocol.copyPayload_take [status.value] (show 1 ≤ 64 by decide)
  rw [Message.trimmed, carried]
  rfl

theorem acknowledgement_room (request : Message) (status : AcknowledgementStatus) :
    RemoteProtocol.encodedSize (acknowledgement request status).payloadLength ≤
      (List.replicate RemoteProtocol.maxPacketSize (0 : UInt8)).length := by
  rw [List.length_replicate]
  change RemoteProtocol.encodedSize 1 ≤ 76
  decide

theorem acknowledgement_encoded (request : Message) (status : AcknowledgementStatus) :
    (RemoteProtocol.encode (acknowledgement request status)
      (some (List.replicate RemoteProtocol.maxPacketSize 0))).result = .ok :=
  (RemoteProtocol.encode_ok_iff _ _).mpr
    ⟨acknowledgement_valid request status, acknowledgement_room request status⟩

/-- The acknowledgement always fits and is always handed to `send`. -/
theorem sendAcknowledgement_eq (destination : Mac) (request : Message)
    (status : AcknowledgementStatus) :
    sendAcknowledgement destination request status =
      [.send destination (acknowledgement request status).wire] := by
  unfold sendAcknowledgement
  dsimp only
  rw [if_neg (not_not_intro (acknowledgement_encoded request status))]
  exact congrArg (fun packet => [Call.send destination packet])
    (RemoteProtocol.encode_bytes _ (acknowledgement_valid request status) _
      (acknowledgement_room request status))

theorem acknowledgement_decodes (request : Message) (status : AcknowledgementStatus)
    (before : Message) :
    decode (some (acknowledgement request status).wire) before =
      (.ok, acknowledgement request status) :=
  (RemoteProtocol.decode_ok_iff _ _ _).mpr
    ⟨acknowledgement_valid request status, acknowledgement_trimmed request status, rfl⟩

theorem acknowledgement_status (request : Message) (status : AcknowledgementStatus) :
    (acknowledgement request status).payload[0] = status.value := by
  simp [acknowledgement, RemoteProtocol.copyPayload]

/-- The entry made for a request matches exactly the messages with the same
contents. -/
theorem isSameRequest_iff {sourceMac : Mac} {status : AcknowledgementStatus} {now : Int}
    {executed message : Message} (trimmed : executed.trimmed = executed)
    (messageTrimmed : message.trimmed = message)
    (sequence : executed.sequenceNumber = message.sequenceNumber) :
    isSameRequest (cachedRequest sourceMac executed status now) message = true ↔
      executed = message := by
  have payload := RemoteProtocol.trimmed_payload executed trimmed
  have messagePayload := RemoteProtocol.trimmed_payload message messageTrimmed
  simp only [isSameRequest, cachedRequest, Bool.and_eq_true, beq_iff_eq, payload]
  constructor
  · rintro ⟨⟨⟨⟨type, flags⟩, messageId⟩, length⟩, bytes⟩
    have same : executed.payload = message.payload := by
      rw [← payload, ← messagePayload, Message.payloadBytes, length, bytes]
    exact Message.ext type flags sequence messageId length same
  · rintro rfl
    exact ⟨⟨⟨⟨rfl, rfl⟩, rfl⟩, rfl⟩, rfl⟩

end Application
