import Rxu01.RemoteProtocol
import Mathlib.Data.List.GetD

set_option autoImplicit false

namespace RemoteProtocol

/-- What `encode` accepts, apart from the output buffer. -/
structure Message.Valid (message : Message) : Prop where
  type : isValidMessageType message.type = true
  flags : areValidFlags message.flags = true
  payload : message.payloadLength.toNat ≤ maxPayloadSize

/-- The same message with the payload bytes past `payload_length` zeroed. -/
def Message.trimmed (message : Message) : Message :=
  { message with payload := copyPayload message.payloadBytes }

theorem trimmed_payload (message : Message) (trimmed : message.trimmed = message) :
    copyPayload message.payloadBytes = message.payload := by
  have payload := congrArg Message.payload trimmed
  exact payload

/-- The CRC register after a whole byte string. -/
def crc16 (bytes : List UInt8) : UInt16 := bytes.foldl crcByte 0xFFFF

/-- Bytes 0 to 9 of the documented wire format. -/
def Message.header (message : Message) : List UInt8 :=
  [magicByte0, magicByte1, protocolVersion, message.type.value, message.flags,
    Bytes.low message.sequenceNumber, Bytes.high message.sequenceNumber,
    Bytes.low message.messageId, Bytes.high message.messageId, message.payloadLength]

/-- Everything the CRC covers. -/
def Message.body (message : Message) : List UInt8 :=
  message.header ++ message.payloadBytes

/-- The documented wire format of a message. -/
def Message.wire (message : Message) : List UInt8 :=
  message.body ++ [Bytes.low (crc16 message.body), Bytes.high (crc16 message.body)]

theorem calculateCrc16_front (front rest : List UInt8) :
    calculateCrc16 (some (front ++ rest)) front.length = crc16 front := by
  simp [calculateCrc16, crc16]

/-- A checksum stored behind what it covers reads back. -/
theorem crc_read (body : List UInt8) (crc : UInt16) :
    readUint16LittleEndian (body ++ [Bytes.low crc, Bytes.high crc]) body.length = crc := by
  rw [readUint16LittleEndian, List.getD_append_right _ _ _ _ (Nat.le_refl _),
    List.getD_append_right _ _ _ (body.length + 1) (Nat.le_add_right _ 1), Nat.sub_self,
    Nat.add_sub_cancel_left]
  exact Bytes.join_low_high crc

theorem payloadBytes_length (message : Message)
    (fits : message.payloadLength.toNat ≤ maxPayloadSize) :
    message.payloadBytes.length = message.payloadLength.toNat := by
  simp only [Message.payloadBytes, List.length_take, Vector.length_toList]
  omega

theorem body_length (message : Message)
    (fits : message.payloadLength.toNat ≤ maxPayloadSize) :
    message.body.length = headerSize + message.payloadLength.toNat := by
  simp only [Message.body, List.length_append, payloadBytes_length message fits]
  rfl

theorem wire_length (message : Message)
    (fits : message.payloadLength.toNat ≤ maxPayloadSize) :
    message.wire.length = encodedSize message.payloadLength := by
  have inside : ¬ maxPayloadSize < message.payloadLength.toNat := by omega
  simp only [Message.wire, List.length_append, body_length message fits, encodedSize, inside,
    ↓reduceIte]
  rfl

/-- The ten writes of the header lay down its bytes in order. -/
theorem header_writes (message : Message) (buffer : List UInt8) :
    Bytes.write (writeUint16LittleEndian (writeUint16LittleEndian
      (Bytes.write (Bytes.write (Bytes.write (Bytes.write (Bytes.write buffer offsetMagic0
        [magicByte0]) offsetMagic1 [magicByte1]) offsetVersion [protocolVersion])
        offsetType [message.type.value]) offsetFlags [message.flags])
        offsetSequence message.sequenceNumber) offsetMessageId message.messageId)
        offsetPayloadLength [message.payloadLength] =
      message.header ++ buffer.drop headerSize := by
  have magic0 : Bytes.write buffer offsetMagic0 [magicByte0] =
      [magicByte0] ++ buffer.drop 1 := Bytes.write_extend [] buffer [magicByte0]
  simp only [writeUint16LittleEndian]
  rw [magic0, Bytes.write_extend_at _ _ _ offsetMagic1 rfl,
    Bytes.write_extend_at _ _ _ offsetVersion rfl, Bytes.write_extend_at _ _ _ offsetType rfl,
    Bytes.write_extend_at _ _ _ offsetFlags rfl, Bytes.write_extend_at _ _ _ offsetSequence rfl,
    Bytes.write_extend_at _ _ _ offsetMessageId rfl,
    Bytes.write_extend_at _ _ _ offsetPayloadLength rfl]
  simp only [List.drop_drop, List.length_cons, List.length_nil]
  rfl

/-- A valid message and enough room: `encode` lays down the documented bytes
and leaves the rest of the buffer alone. -/
theorem encode_valid (message : Message) (valid : message.Valid) (buffer : List UInt8)
    (room : encodedSize message.payloadLength ≤ buffer.length) :
    encode message (some buffer) =
      ⟨.ok, some (message.wire ++ buffer.drop (encodedSize message.payloadLength)),
        encodedSize message.payloadLength⟩ := by
  have inside : ¬ maxPayloadSize < message.payloadLength.toNat := by
    have := valid.payload
    omega
  have enough : ¬ buffer.length < encodedSize message.payloadLength := by omega
  have headerLength : message.header.length = offsetPayload := rfl
  have bodyLength := body_length message valid.payload
  simp only [encode, valid.type, valid.flags, inside, enough, not_true, ↓reduceIte,
    header_writes]
  rw [Bytes.write_extend_at _ _ _ offsetPayload headerLength]
  change (⟨.ok, some (writeUint16LittleEndian (message.body ++ _) _
    (calculateCrc16 (some (message.body ++ _)) _)), _⟩ : Encoded) = _
  rw [← bodyLength, calculateCrc16_front]
  simp only [writeUint16LittleEndian]
  rw [Bytes.write_extend]
  have drained : (List.drop message.payloadBytes.length (buffer.drop headerSize)).drop 2 =
      buffer.drop (encodedSize message.payloadLength) := by
    rw [List.drop_drop, List.drop_drop, payloadBytes_length message valid.payload, encodedSize,
      if_neg inside, Nat.add_assoc]
  simp only [List.length_cons, List.length_nil, drained]
  rfl

/-- Every other call fails and leaves the buffer as it was. -/
theorem encode_cases (message : Message) (buffer : List UInt8) :
    (message.Valid ∧ encodedSize message.payloadLength ≤ buffer.length) ∨
      ∃ reason, reason ≠ .ok ∧ encode message (some buffer) = ⟨reason, some buffer, 0⟩ := by
  by_cases type : isValidMessageType message.type = true
  · by_cases flags : areValidFlags message.flags = true
    · by_cases large : maxPayloadSize < message.payloadLength.toNat
      · exact Or.inr ⟨.payloadTooLarge, by decide, by simp [encode, type, flags, large]⟩
      · by_cases small : buffer.length < encodedSize message.payloadLength
        · exact Or.inr ⟨.outputTooSmall, by decide, by simp [encode, type, flags, large, small]⟩
        · exact Or.inl ⟨⟨type, flags, Nat.le_of_not_lt large⟩, Nat.le_of_not_lt small⟩
    · exact Or.inr ⟨.invalidFlags, by decide, by simp [encode, type, flags]⟩
  · exact Or.inr ⟨.invalidMessageType, by decide, by simp [encode, type]⟩

/-- `encode` succeeds on nothing else. -/
theorem encode_ok_iff (message : Message) (buffer : List UInt8) :
    (encode message (some buffer)).result = .ok ↔
      message.Valid ∧ encodedSize message.payloadLength ≤ buffer.length := by
  constructor
  · intro success
    rcases encode_cases message buffer with accepted | ⟨reason, failed, made⟩
    · exact accepted
    · rw [made] at success
      exact absurd success failed
  · rintro ⟨valid, room⟩
    rw [encode_valid message valid buffer room]

/-- A packet of the length its payload length calls for is its header bytes,
its payload bytes and the two CRC bytes. -/
theorem packet_split (packet : List UInt8) (count : Nat)
    (length : packet.length = count + 12) :
    packet = [packet.getD 0 0, packet.getD 1 0, packet.getD 2 0, packet.getD 3 0,
        packet.getD 4 0, packet.getD 5 0, packet.getD 6 0, packet.getD 7 0, packet.getD 8 0,
        packet.getD 9 0] ++ (packet.drop headerSize).take count ++
      [packet.getD (headerSize + count) 0, packet.getD (headerSize + count + 1) 0] := by
  match packet, length with
  | b0 :: b1 :: b2 :: b3 :: b4 :: b5 :: b6 :: b7 :: b8 :: b9 :: rest, length =>
    have restLength : rest.length = count + 2 := by
      simp only [List.length_cons] at length
      omega
    have tail : rest.drop count = [rest.getD count 0, rest.getD (count + 1) 0] := by
      rw [List.drop_eq_getElem_cons (by omega), List.drop_eq_getElem_cons (by omega),
        List.drop_eq_nil_of_le (by omega), List.getD_eq_getElem _ _ (by omega),
        List.getD_eq_getElem _ _ (by omega)]
    have crcLow : (b0 :: b1 :: b2 :: b3 :: b4 :: b5 :: b6 :: b7 :: b8 :: b9 :: rest).getD
        (headerSize + count) 0 = rest.getD count 0 := by
      rw [Nat.add_comm]
      rfl
    have crcHigh : (b0 :: b1 :: b2 :: b3 :: b4 :: b5 :: b6 :: b7 :: b8 :: b9 :: rest).getD
        (headerSize + count + 1) 0 = rest.getD (count + 1) 0 := by
      rw [show headerSize + count + 1 = count + 1 + headerSize by omega]
      rfl
    rw [crcLow, crcHigh, ← tail]
    change _ = b0 :: b1 :: b2 :: b3 :: b4 :: b5 :: b6 :: b7 :: b8 :: b9 ::
      (rest.take count ++ rest.drop count)
    rw [List.take_append_drop]

/-- The message `decode` assembles once its checks have passed. -/
def parsed (packet : List UInt8) : Message :=
  { type := ⟨packet.getD offsetType 0⟩
    flags := packet.getD offsetFlags 0
    sequenceNumber := readUint16LittleEndian packet offsetSequence
    messageId := readUint16LittleEndian packet offsetMessageId
    payloadLength := packet.getD offsetPayloadLength 0
    payload := copyPayload ((packet.drop offsetPayload).take
      (packet.getD offsetPayloadLength 0).toNat) }

/-- Every check of `decode`, in its order. -/
structure Accepted (packet : List UInt8) : Prop where
  long : minPacketSize ≤ packet.length
  magic0 : packet.getD offsetMagic0 0 = magicByte0
  magic1 : packet.getD offsetMagic1 0 = magicByte1
  version : packet.getD offsetVersion 0 = protocolVersion
  type : isValidMessageType ⟨packet.getD offsetType 0⟩ = true
  flags : areValidFlags (packet.getD offsetFlags 0) = true
  payload : (packet.getD offsetPayloadLength 0).toNat ≤ maxPayloadSize
  length : packet.length = encodedSize (packet.getD offsetPayloadLength 0)
  crc : readUint16LittleEndian packet
      (headerSize + (packet.getD offsetPayloadLength 0).toNat) =
    calculateCrc16 (some packet) (headerSize + (packet.getD offsetPayloadLength 0).toNat)

theorem decode_accepted (packet : List UInt8) (before : Message) (accepted : Accepted packet) :
    decode (some packet) before = (.ok, parsed packet) := by
  have long : ¬ packet.length < minPacketSize := by
    have := accepted.long
    omega
  have inside : ¬ maxPayloadSize < (packet.getD offsetPayloadLength 0).toNat := by
    have := accepted.payload
    omega
  simp only [decode, long, accepted.magic0, accepted.magic1, accepted.version, accepted.type,
    accepted.flags, inside, accepted.crc, ne_eq, not_true, or_self, ↓reduceIte]
  rw [if_neg (by simpa using accepted.length)]
  rfl

theorem decode_ok (packet : List UInt8) (before message : Message)
    (success : decode (some packet) before = (.ok, message)) :
    Accepted packet ∧ message = parsed packet := by
  simp only [decode] at success
  split at success
  · cases success
  rename_i long
  split at success
  · cases success
  rename_i magic
  split at success
  · cases success
  rename_i version
  split at success
  · cases success
  rename_i type
  split at success
  · cases success
  rename_i flags
  split at success
  · cases success
  rename_i payload
  split at success
  · cases success
  rename_i length
  split at success
  · cases success
  rename_i crc
  have same : parsed packet = message := congrArg Prod.snd success
  obtain ⟨magic0, magic1⟩ := not_or.mp magic
  refine ⟨⟨Nat.le_of_not_lt long, ?_, ?_, ?_, ?_, ?_, Nat.le_of_not_lt payload, ?_, ?_⟩, same.symm⟩
  · exact Decidable.not_not.mp magic0
  · exact Decidable.not_not.mp magic1
  · exact Decidable.not_not.mp version
  · exact Decidable.not_not.mp type
  · exact Decidable.not_not.mp flags
  · exact Decidable.not_not.mp length
  · exact Decidable.not_not.mp crc

theorem copyPayload_take (source : List UInt8) (fits : source.length ≤ maxPayloadSize) :
    (copyPayload source).toList.take source.length = source :=
  Bytes.padded_take maxPayloadSize source 0 fits

theorem parsed_payloadBytes (packet : List UInt8) (accepted : Accepted packet) :
    (parsed packet).payloadBytes =
      (packet.drop headerSize).take (packet.getD offsetPayloadLength 0).toNat := by
  have inside : ¬ maxPayloadSize < (packet.getD offsetPayloadLength 0).toNat := by
    have := accepted.payload
    omega
  have length := accepted.length
  rw [encodedSize, if_neg inside] at length
  have count : ((packet.drop headerSize).take (packet.getD offsetPayloadLength 0).toNat).length =
      (packet.getD offsetPayloadLength 0).toNat := by
    simp only [List.length_take, List.length_drop]
    omega
  have copied := copyPayload_take
    ((packet.drop headerSize).take (packet.getD offsetPayloadLength 0).toNat)
    (by rw [count]; exact accepted.payload)
  rw [count] at copied
  exact copied

/-- An accepted packet is the one wire form of the message read from it. -/
theorem accepted_wire (packet : List UInt8) (accepted : Accepted packet) :
    packet = (parsed packet).wire := by
  have inside : ¬ maxPayloadSize < (packet.getD offsetPayloadLength 0).toNat := by
    have := accepted.payload
    omega
  have length := accepted.length
  rw [encodedSize, if_neg inside] at length
  have split := packet_split packet (packet.getD offsetPayloadLength 0).toNat (by
    simp only [headerSize, crcSize] at length
    omega)
  have header : (parsed packet).header =
      [packet.getD 0 0, packet.getD 1 0, packet.getD 2 0, packet.getD 3 0, packet.getD 4 0,
        packet.getD 5 0, packet.getD 6 0, packet.getD 7 0, packet.getD 8 0, packet.getD 9 0] := by
    simp only [Message.header, parsed, readUint16LittleEndian, Bytes.low_join, Bytes.high_join]
    rw [← accepted.magic0, ← accepted.magic1, ← accepted.version]
  rw [← header, ← parsed_payloadBytes packet accepted] at split
  change packet = (parsed packet).body ++ _ at split
  have bodyLength : (parsed packet).body.length =
      headerSize + (packet.getD offsetPayloadLength 0).toNat :=
    body_length (parsed packet) accepted.payload
  have crc := accepted.crc
  rw [← bodyLength] at crc split
  have covered : calculateCrc16 (some packet) (parsed packet).body.length =
      crc16 (parsed packet).body := by
    calc
      calculateCrc16 (some packet) (parsed packet).body.length =
          calculateCrc16 (some ((parsed packet).body ++ [packet.getD (parsed packet).body.length 0,
            packet.getD ((parsed packet).body.length + 1) 0])) (parsed packet).body.length := by
        rw [← split]
      _ = crc16 (parsed packet).body := calculateCrc16_front _ _
  rw [covered] at crc
  rw [Message.wire, ← crc, readUint16LittleEndian, Bytes.low_join, Bytes.high_join]
  exact split

theorem parsed_valid (packet : List UInt8) (accepted : Accepted packet) :
    (parsed packet).Valid :=
  ⟨accepted.type, accepted.flags, accepted.payload⟩

theorem parsed_trimmed (packet : List UInt8) (accepted : Accepted packet) :
    (parsed packet).trimmed = parsed packet := by
  rw [Message.trimmed, parsed_payloadBytes packet accepted]
  rfl

/-- The wire form of a valid message passes every check and reads back. -/
theorem wire_accepted (message : Message) (valid : message.Valid) :
    Accepted message.wire ∧ parsed message.wire = message.trimmed := by
  have inside : ¬ maxPayloadSize < message.payloadLength.toNat := by
    have := valid.payload
    omega
  have total := wire_length message valid.payload
  have bodyLength := body_length message valid.payload
  have payloadLength : message.wire.getD offsetPayloadLength 0 = message.payloadLength := rfl
  have sequenceNumber : readUint16LittleEndian message.wire offsetSequence =
      message.sequenceNumber := Bytes.join_low_high message.sequenceNumber
  have messageId : readUint16LittleEndian message.wire offsetMessageId = message.messageId :=
    Bytes.join_low_high message.messageId
  have payload : (message.wire.drop offsetPayload).take message.payloadLength.toNat =
      message.payloadBytes := by
    change (message.payloadBytes ++ _).take message.payloadLength.toNat = _
    rw [← payloadBytes_length message valid.payload]
    exact List.take_left
  constructor
  · refine ⟨?_, rfl, rfl, rfl, valid.type, valid.flags, ?_, ?_, ?_⟩
    · rw [total, encodedSize, if_neg inside]
      simp only [minPacketSize, headerSize, crcSize]
      omega
    · rw [payloadLength]
      exact valid.payload
    · rw [payloadLength]
      exact total
    · rw [payloadLength, ← bodyLength, show message.wire = message.body ++ _ from rfl, crc_read]
      exact (calculateCrc16_front message.body _).symm
  · simp only [parsed, payloadLength, sequenceNumber, messageId, payload]
    rfl

/-- The packets `decode` accepts, and the message it reads from each. -/
theorem decode_ok_iff (packet : List UInt8) (before message : Message) :
    decode (some packet) before = (.ok, message) ↔
      message.Valid ∧ message.trimmed = message ∧ packet = message.wire := by
  constructor
  · intro success
    obtain ⟨accepted, rfl⟩ := decode_ok packet before message success
    exact ⟨parsed_valid packet accepted, parsed_trimmed packet accepted,
      accepted_wire packet accepted⟩
  · rintro ⟨valid, trimmed, rfl⟩
    obtain ⟨accepted, same⟩ := wire_accepted message valid
    rw [decode_accepted _ before accepted, same, trimmed]

/-- Bytes `encode` has handed over: the first `bytes_written` of its buffer. -/
def Encoded.bytes (encoded : Encoded) : List UInt8 :=
  (encoded.output.getD []).take encoded.bytesWritten

theorem encode_bytes (message : Message) (valid : message.Valid) (buffer : List UInt8)
    (room : encodedSize message.payloadLength ≤ buffer.length) :
    (encode message (some buffer)).bytes = message.wire := by
  rw [encode_valid message valid buffer room, Encoded.bytes, Option.getD_some,
    ← wire_length message valid.payload]
  exact List.take_left

/-- Encoding a valid message and decoding the bytes written returns the message
with its unused payload zeroed; whatever decodes is exactly what its message
encodes to; so the accepted packets are the image of `encode`, one per message. -/
theorem codec_bijection :
    (∀ (message before : Message) (buffer : List UInt8), message.Valid →
      encodedSize message.payloadLength ≤ buffer.length →
        (encode message (some buffer)).result = .ok ∧
        decode (some (encode message (some buffer)).bytes) before = (.ok, message.trimmed)) ∧
    (∀ (packet buffer : List UInt8) (before message : Message),
      decode (some packet) before = (.ok, message) →
        (encodedSize message.payloadLength ≤ buffer.length →
          (encode message (some buffer)).result = .ok ∧
          (encode message (some buffer)).bytes = packet) ∧
        ∀ (other : List UInt8) (before' : Message),
          decode (some other) before' = (.ok, message) → other = packet) ∧
    (∀ (packet : List UInt8) (before : Message),
      (decode (some packet) before).1 = .ok ↔
        ∃ (message : Message) (buffer : List UInt8),
          (encode message (some buffer)).result = .ok ∧
          (encode message (some buffer)).bytes = packet) := by
  refine ⟨?_, ?_, ?_⟩
  · intro message before buffer valid room
    have accepted := wire_accepted message valid
    refine ⟨(encode_ok_iff message buffer).mpr ⟨valid, room⟩, ?_⟩
    rw [encode_bytes message valid buffer room, decode_accepted _ before accepted.1, accepted.2]
  · intro packet buffer before message success
    obtain ⟨valid, _, same⟩ := (decode_ok_iff packet before message).mp success
    constructor
    · intro room
      exact ⟨(encode_ok_iff message buffer).mpr ⟨valid, room⟩,
        (encode_bytes message valid buffer room).trans same.symm⟩
    · intro other before' again
      obtain ⟨_, _, equal⟩ := (decode_ok_iff other before' message).mp again
      exact equal.trans same.symm
  · intro packet before
    constructor
    · intro success
      obtain ⟨valid, _, same⟩ := (decode_ok_iff packet before _).mp (Prod.ext success rfl)
      have room : encodedSize (decode (some packet) before).2.payloadLength ≤ packet.length :=
        Nat.le_of_eq ((wire_length _ valid.payload).symm.trans (congrArg List.length same.symm))
      exact ⟨_, packet, (encode_ok_iff _ packet).mpr ⟨valid, room⟩,
        (encode_bytes _ valid packet room).trans same.symm⟩
    · rintro ⟨message, buffer, success, rfl⟩
      obtain ⟨valid, room⟩ := (encode_ok_iff message buffer).mp success
      rw [encode_bytes message valid buffer room,
        decode_accepted _ before (wire_accepted message valid).1]

end RemoteProtocol
