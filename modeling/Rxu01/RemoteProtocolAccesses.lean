import Rxu01.BufferProgram
import Rxu01.RemoteProtocolCodec

set_option autoImplicit false

/- The codec with every access it makes to the packet or output buffer. -/
namespace RemoteProtocol

open BufferProgram (Access Program Runs load read store write)

/-- `writeUint16LittleEndian` through a pointer into the buffer. -/
def writeUint16At (destination : Nat) (value : UInt16) : Program Unit := do
  write destination (Bytes.low value)
  write (destination + 1) (Bytes.high value)

/-- `readUint16LittleEndian` through a pointer into the buffer. -/
def readUint16At (source : Nat) : Program UInt16 := do
  let first ← read source
  let second ← read (source + 1)
  pure (Bytes.join first second)

/-- The outer loop of `calculate_crc16`, with so many bytes to go. -/
def crcLoop : Nat → Nat → UInt16 → Program UInt16
  | 0, _, crc => pure crc
  | remaining + 1, index, crc => do
      let byte ← read index
      crcLoop remaining (index + 1) (crcByte crc byte)

/-- `calculate_crc16` on the start of the buffer. -/
def calculateCrc16At (length : Nat) : Program UInt16 := crcLoop length 0 0xFFFF

/-- The comparison of the magic bytes, which reads the second one only when the
first is right. -/
def wrongMagic : Program Bool := do
  let magic0 ← read offsetMagic0
  if magic0 ≠ magicByte0 then pure true
  else do
    let magic1 ← read offsetMagic1
    pure (decide (magic1 ≠ magicByte1))

def loadPayload (payloadLength : UInt8) : Program (List UInt8) :=
  if 0 < payloadLength then load offsetPayload payloadLength.toNat else pure []

def storePayload (message : Message) : Program Unit :=
  if 0 < message.payloadLength then store offsetPayload message.payloadBytes else pure ()

/-- `decode` on a packet that is not null. -/
def decodeProgram (packetLength : Nat) (message : Message) : Program (DecodeResult × Message) :=
  if packetLength < minPacketSize then pure (.packetTooShort, message)
  else do
    let wrong ← wrongMagic
    if wrong then pure (.invalidMagic, message)
    else do
      let version ← read offsetVersion
      if version ≠ protocolVersion then pure (.unsupportedVersion, message)
      else do
        let type ← read offsetType
        if ¬ isValidMessageType ⟨type⟩ then pure (.invalidMessageType, message)
        else do
          let flags ← read offsetFlags
          if ¬ areValidFlags flags then pure (.invalidFlags, message)
          else do
            let payloadLength ← read offsetPayloadLength
            if maxPayloadSize < payloadLength.toNat then pure (.payloadTooLarge, message)
            else if packetLength ≠ encodedSize payloadLength then
              pure (.invalidPacketLength, message)
            else do
              let crcOffset := headerSize + payloadLength.toNat
              let receivedCrc ← readUint16At crcOffset
              let calculatedCrc ← calculateCrc16At crcOffset
              if receivedCrc ≠ calculatedCrc then pure (.crcMismatch, message)
              else do
                let sequenceNumber ← readUint16At offsetSequence
                let messageId ← readUint16At offsetMessageId
                let payload ← loadPayload payloadLength
                pure (.ok,
                  { type := ⟨type⟩
                    flags := flags
                    sequenceNumber := sequenceNumber
                    messageId := messageId
                    payloadLength := payloadLength
                    payload := copyPayload payload })

/-- `encode` into a buffer that is not null, with its result and `bytes_written`. -/
def encodeProgram (message : Message) (outputCapacity : Nat) : Program (EncodeResult × Nat) :=
  if ¬ isValidMessageType message.type then pure (.invalidMessageType, 0)
  else if ¬ areValidFlags message.flags then pure (.invalidFlags, 0)
  else if maxPayloadSize < message.payloadLength.toNat then pure (.payloadTooLarge, 0)
  else if outputCapacity < encodedSize message.payloadLength then pure (.outputTooSmall, 0)
  else do
    write offsetMagic0 magicByte0
    write offsetMagic1 magicByte1
    write offsetVersion protocolVersion
    write offsetType message.type.value
    write offsetFlags message.flags
    writeUint16At offsetSequence message.sequenceNumber
    writeUint16At offsetMessageId message.messageId
    write offsetPayloadLength message.payloadLength
    storePayload message
    let crcOffset := headerSize + message.payloadLength.toNat
    let crc ← calculateCrc16At crcOffset
    writeUint16At crcOffset crc
    pure (.ok, encodedSize message.payloadLength)

/-- A call of `decode`, with the accesses it makes to the packet. -/
def decodeCall (packet : Option (List UInt8)) (message : Message) :
    (DecodeResult × Message) × List Access :=
  match packet with
  | none => ((.nullPointer, message), [])
  | some packet =>
      let (decoded, memory) := decodeProgram packet.length message ⟨packet, []⟩
      (decoded, memory.accesses)

/-- A call of `encode`, with the accesses it makes to the output buffer. -/
def encodeCall (message : Message) (output : Option (List UInt8)) : Encoded × List Access :=
  match output with
  | none => (⟨.nullPointer, none, 0⟩, [])
  | some buffer =>
      let ((result, bytesWritten), memory) := encodeProgram message buffer.length ⟨buffer, []⟩
      (⟨result, some memory.bytes, bytesWritten⟩, memory.accesses)

section Reads

variable {packet : List UInt8}

theorem readUint16At_runs {source : Nat} (inside : source + 1 < packet.length) :
    Runs packet packet (readUint16At source) (readUint16LittleEndian packet source) :=
  (Runs.read (by omega)).bind ((Runs.read inside).bind (Runs.pure _))

theorem crcLoop_runs {remaining index : Nat} (inside : index + remaining ≤ packet.length)
    (crc : UInt16) :
    Runs packet packet (crcLoop remaining index crc)
      (((packet.drop index).take remaining).foldl crcByte crc) := by
  induction remaining generalizing index crc with
  | zero => exact Runs.pure crc
  | succ remaining ih =>
      have here : index < packet.length := by omega
      rw [List.drop_eq_getElem_cons here, List.take_succ_cons, List.foldl_cons,
        ← List.getD_eq_getElem _ 0 here]
      exact (Runs.read here).bind (ih (by omega) _)

theorem calculateCrc16At_runs {length : Nat} (inside : length ≤ packet.length) :
    Runs packet packet (calculateCrc16At length) (calculateCrc16 (some packet) length) := by
  have start : 0 + length ≤ packet.length := by omega
  exact crcLoop_runs start 0xFFFF

theorem wrongMagic_runs (long : minPacketSize ≤ packet.length) :
    Runs packet packet wrongMagic
      (decide (packet.getD offsetMagic0 0 ≠ magicByte0 ∨
        packet.getD offsetMagic1 0 ≠ magicByte1)) := by
  have inside0 : offsetMagic0 < packet.length := Nat.lt_of_lt_of_le (by decide) long
  have inside1 : offsetMagic1 < packet.length := Nat.lt_of_lt_of_le (by decide) long
  refine (Runs.read inside0).bind ?_
  by_cases wrong : packet.getD offsetMagic0 0 ≠ magicByte0
  · rw [if_pos wrong, decide_eq_true (Or.inl wrong)]
    exact Runs.pure true
  · rw [if_neg wrong]
    simp only [wrong, false_or]
    exact (Runs.read inside1).bind (Runs.pure _)

theorem payloadLength_zero {payloadLength : UInt8} (empty : ¬ 0 < payloadLength) :
    payloadLength.toNat = 0 := by
  rw [UInt8.lt_iff_toNat_lt] at empty
  exact Nat.eq_zero_of_not_pos empty

theorem loadPayload_runs {payloadLength : UInt8}
    (inside : offsetPayload + payloadLength.toNat ≤ packet.length) :
    Runs packet packet (loadPayload payloadLength)
      ((packet.drop offsetPayload).take payloadLength.toNat) := by
  unfold loadPayload
  split
  · exact Runs.load inside
  · rename_i empty
    rw [payloadLength_zero empty, List.take_zero]
    exact Runs.pure []

theorem decodeProgram_runs (message : Message) :
    Runs packet packet (decodeProgram packet.length message) (decode (some packet) message) := by
  unfold decodeProgram decode
  dsimp only
  refine Runs.ite (fun _ => Runs.pure _) (fun short => ?_)
  have long : minPacketSize ≤ packet.length := Nat.le_of_not_lt short
  have header : ∀ offset, offset < minPacketSize → offset < packet.length := fun offset below =>
    Nat.lt_of_lt_of_le below long
  refine (wrongMagic_runs long).bind ?_
  simp only [decide_eq_true_eq]
  refine Runs.ite (fun _ => Runs.pure _) (fun _ => ?_)
  refine (Runs.read (header offsetVersion (by decide))).bind ?_
  refine Runs.ite (fun _ => Runs.pure _) (fun _ => ?_)
  refine (Runs.read (header offsetType (by decide))).bind ?_
  refine Runs.ite (fun _ => Runs.pure _) (fun _ => ?_)
  refine (Runs.read (header offsetFlags (by decide))).bind ?_
  refine Runs.ite (fun _ => Runs.pure _) (fun _ => ?_)
  refine (Runs.read (header offsetPayloadLength (by decide))).bind ?_
  refine Runs.ite (fun _ => Runs.pure _) (fun fits => ?_)
  refine Runs.ite (fun _ => Runs.pure _) (fun length => ?_)
  -- From here on the length byte is known to agree with the length of the packet.
  have whole : packet.length = 10 + (packet.getD offsetPayloadLength 0).toNat + 2 := by
    rw [Decidable.not_not.mp length, encodedSize, if_neg fits]
  refine (readUint16At_runs (by change 10 + _ + 1 < _; omega)).bind ?_
  refine (calculateCrc16At_runs (by change 10 + _ ≤ _; omega)).bind ?_
  refine Runs.ite (fun _ => Runs.pure _) (fun _ => ?_)
  refine (readUint16At_runs (header (offsetSequence + 1) (by decide))).bind ?_
  refine (readUint16At_runs (header (offsetMessageId + 1) (by decide))).bind ?_
  exact (loadPayload_runs (by change 10 + _ ≤ _; omega)).bind (Runs.pure _)

end Reads

section Writes

variable {buffer : List UInt8}

/-- A write never makes a buffer shorter. -/
theorem room_write {size : Nat} (room : size ≤ buffer.length) (offset : Nat) (bytes : List UInt8) :
    size ≤ (Bytes.write buffer offset bytes).length := by
  simp only [Bytes.write, List.length_append, List.length_take, List.length_drop]
  omega

theorem writeUint16At_runs {destination : Nat} (inside : destination + 1 < buffer.length)
    (value : UInt16) :
    Runs buffer (writeUint16LittleEndian buffer destination value)
      (writeUint16At destination value) () := by
  have both : Runs buffer (Bytes.write buffer destination [Bytes.low value, Bytes.high value])
      (store destination [Bytes.low value, Bytes.high value]) () := Runs.store inside
  exact both

theorem storePayload_runs (message : Message)
    (inside : offsetPayload + message.payloadBytes.length ≤ buffer.length) :
    Runs buffer (Bytes.write buffer offsetPayload message.payloadBytes) (storePayload message) () := by
  unfold storePayload
  split
  · exact Runs.store inside
  · rename_i empty
    have none : message.payloadBytes = [] := by
      rw [Message.payloadBytes, payloadLength_zero empty, List.take_zero]
    rw [none]
    exact Runs.store (by rw [none] at inside; exact inside)

theorem encodeProgram_runs (message : Message) :
    Runs buffer ((encode message (some buffer)).output.getD []) (encodeProgram message buffer.length)
      ((encode message (some buffer)).result, (encode message (some buffer)).bytesWritten) := by
  unfold encodeProgram encode
  dsimp only
  by_cases type : ¬ isValidMessageType message.type
  · rw [if_pos type, if_pos type]
    exact Runs.pure _
  rw [if_neg type, if_neg type]
  by_cases flags : ¬ areValidFlags message.flags
  · rw [if_pos flags, if_pos flags]
    exact Runs.pure _
  rw [if_neg flags, if_neg flags]
  by_cases large : maxPayloadSize < message.payloadLength.toNat
  · rw [if_pos large, if_pos large]
    exact Runs.pure _
  rw [if_neg large, if_neg large]
  by_cases small : buffer.length < encodedSize message.payloadLength
  · rw [if_pos small, if_pos small]
    exact Runs.pure _
  rw [if_neg small, if_neg small]
  have room : 10 + message.payloadLength.toNat + 2 ≤ buffer.length := by
    have size := Nat.le_of_not_lt small
    rw [encodedSize, if_neg large] at size
    exact size
  have count := payloadBytes_length message (Nat.le_of_not_lt large)
  dsimp only [Option.getD_some]
  have header : ∀ {current : List UInt8} {offset : Nat},
      10 + message.payloadLength.toNat + 2 ≤ current.length → offset < headerSize →
        offset < current.length := by
    intro current offset size below
    change offset < 10 at below
    omega
  have room1 := room_write room offsetMagic0 [magicByte0]
  have room2 := room_write room1 offsetMagic1 [magicByte1]
  have room3 := room_write room2 offsetVersion [protocolVersion]
  have room4 := room_write room3 offsetType [message.type.value]
  have room5 := room_write room4 offsetFlags [message.flags]
  have room6 := room_write room5 offsetSequence
    [Bytes.low message.sequenceNumber, Bytes.high message.sequenceNumber]
  have room7 := room_write room6 offsetMessageId
    [Bytes.low message.messageId, Bytes.high message.messageId]
  have room8 := room_write room7 offsetPayloadLength [message.payloadLength]
  have room9 := room_write room8 offsetPayload message.payloadBytes
  refine (Runs.write_byte (header room (by decide)) _).bind ?_
  refine (Runs.write_byte (header room1 (by decide)) _).bind ?_
  refine (Runs.write_byte (header room2 (by decide)) _).bind ?_
  refine (Runs.write_byte (header room3 (by decide)) _).bind ?_
  refine (Runs.write_byte (header room4 (by decide)) _).bind ?_
  refine (writeUint16At_runs (header room5 (by decide)) _).bind ?_
  refine (writeUint16At_runs (header room6 (by decide)) _).bind ?_
  refine (Runs.write_byte (header room7 (by decide)) _).bind ?_
  refine (storePayload_runs message (by rw [count]; change 10 + _ ≤ _; omega)).bind ?_
  refine (calculateCrc16At_runs (by change 10 + _ ≤ _; omega)).bind ?_
  exact (writeUint16At_runs (by change 10 + _ + 1 < _; omega) _).bind (Runs.pure _)

end Writes

theorem decodeCall_inside (packet : Option (List UInt8)) (message : Message) :
    (decodeCall packet message).1 = decode packet message ∧
      ∀ access ∈ (decodeCall packet message).2, access.index < (packet.getD []).length := by
  cases packet with
  | none => exact ⟨rfl, nofun⟩
  | some packet =>
      obtain ⟨_, runs⟩ := @decodeProgram_runs packet message
      obtain ⟨added, made, inside⟩ := runs []
      unfold decodeCall
      dsimp only
      rw [made]
      exact ⟨rfl, inside⟩

theorem encode_output (message : Message) (buffer : List UInt8) :
    some ((encode message (some buffer)).output.getD []) =
      (encode message (some buffer)).output := by
  rcases encode_cases message buffer with ⟨valid, room⟩ | ⟨reason, _, made⟩
  · rw [encode_valid message valid buffer room, Option.getD_some]
  · rw [made, Option.getD_some]

theorem encodeCall_inside (message : Message) (output : Option (List UInt8)) :
    (encodeCall message output).1 = encode message output ∧
      ∀ access ∈ (encodeCall message output).2, access.index < (output.getD []).length := by
  cases output with
  | none => exact ⟨rfl, nofun⟩
  | some buffer =>
      obtain ⟨_, runs⟩ := @encodeProgram_runs buffer message
      obtain ⟨added, made, inside⟩ := runs []
      unfold encodeCall
      dsimp only
      rw [made]
      refine ⟨?_, inside⟩
      dsimp only
      rw [encode_output]

theorem decode_failed (packet : Option (List UInt8)) (message : Message) :
    (decode packet message).1 ≠ .ok → (decode packet message).2 = message := by
  cases packet with
  | none => exact fun _ => rfl
  | some packet =>
      unfold decode
      dsimp only
      repeat' split
      all_goals simp

theorem encode_failed (message : Message) (output : Option (List UInt8))
    (failed : (encode message output).result ≠ .ok) :
    (encode message output).output = output ∧ (encode message output).bytesWritten = 0 := by
  cases output with
  | none => exact ⟨rfl, rfl⟩
  | some buffer =>
      rcases encode_cases message buffer with accepted | ⟨reason, _, made⟩
      · exact absurd ((encode_ok_iff message buffer).mpr accepted) failed
      · rw [made]
        exact ⟨rfl, rfl⟩

/-- A successful `encode` writes the start of the buffer only. -/
theorem encode_kept (message : Message) (output : Option (List UInt8))
    (success : (encode message output).result = .ok) :
    ∃ buffer after, output = some buffer ∧ (encode message output).output = some after ∧
      (encode message output).bytesWritten ≤ buffer.length ∧ after.length = buffer.length ∧
      after.drop (encode message output).bytesWritten =
        buffer.drop (encode message output).bytesWritten := by
  cases output with
  | none => cases success
  | some buffer =>
      obtain ⟨valid, room⟩ := (encode_ok_iff message buffer).mp success
      have size := wire_length message valid.payload
      rw [encode_valid message valid buffer room]
      refine ⟨buffer, _, rfl, rfl, room, ?_, ?_⟩
      · rw [List.length_append, List.length_drop, size]
        omega
      · dsimp only
        rw [← size, List.drop_left]

/-- Every access of the codec is inside the buffer it is given, whatever the bytes
and the message say, and a failed call has no effect. -/
theorem codec_accesses :
    (∀ packet before,
      (decodeCall packet before).1 = decode packet before ∧
      (∀ access ∈ (decodeCall packet before).2, access.index < (packet.getD []).length) ∧
      ((decode packet before).1 ≠ .ok → (decode packet before).2 = before)) ∧
    ∀ message output,
      (encodeCall message output).1 = encode message output ∧
      (∀ access ∈ (encodeCall message output).2, access.index < (output.getD []).length) ∧
      ((encode message output).result ≠ .ok →
        (encode message output).output = output ∧ (encode message output).bytesWritten = 0) ∧
      ((encode message output).result = .ok → ∃ buffer after, output = some buffer ∧
        (encode message output).output = some after ∧
        (encode message output).bytesWritten ≤ buffer.length ∧ after.length = buffer.length ∧
        after.drop (encode message output).bytesWritten =
          buffer.drop (encode message output).bytesWritten) := by
  constructor
  · intro packet before
    obtain ⟨same, inside⟩ := decodeCall_inside packet before
    exact ⟨same, inside, decode_failed packet before⟩
  · intro message output
    obtain ⟨same, inside⟩ := encodeCall_inside message output
    exact ⟨same, inside, encode_failed message output, encode_kept message output⟩

end RemoteProtocol
