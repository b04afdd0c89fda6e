import Rxu01.Bytes

set_option autoImplicit false

/- The packet codec of `remote_protocol.cpp`. A pointer that may be null is an
`Option`; the buffer behind it is a list whose length is the size passed along. -/
namespace RemoteProtocol

abbrev protocolVersion : UInt8 := 1
abbrev magicByte0 : UInt8 := 0x52
abbrev magicByte1 : UInt8 := 0x43

abbrev maxPayloadSize : Nat := 64
abbrev headerSize : Nat := 10
abbrev crcSize : Nat := 2
abbrev minPacketSize : Nat := headerSize + crcSize
abbrev maxPacketSize : Nat := headerSize + maxPayloadSize + crcSize

abbrev offsetMagic0 : Nat := 0
abbrev offsetMagic1 : Nat := 1
abbrev offsetVersion : Nat := 2
abbrev offsetType : Nat := 3
abbrev offsetFlags : Nat := 4
abbrev offsetSequence : Nat := 5
abbrev offsetMessageId : Nat := 7
abbrev offsetPayloadLength : Nat := 9
abbrev offsetPayload : Nat := 10

/-- The scoped enumeration has an 8-bit underlying type, so a value read from
the wire may name none of the five enumerators. -/
structure MessageType where
  value : UInt8
  deriving DecidableEq, Repr

namespace MessageType

def command : MessageType := ⟨1⟩
def telemetry : MessageType := ⟨2⟩
def acknowledgement : MessageType := ⟨3⟩
def configuration : MessageType := ⟨4⟩
def heartbeat : MessageType := ⟨5⟩

end MessageType

abbrev flagNone : UInt8 := 0
abbrev flagAckRequested : UInt8 := 1
abbrev flagIsResponse : UInt8 := 2
abbrev validFlagsMask : UInt8 := flagAckRequested ||| flagIsResponse

inductive AcknowledgementStatus where
  | canTransmitted
  | invalidMessage
  | unsupportedMessage
  | canBusy
  | canTransmitFailed
  | canTimeout
  | unknownCommand
  | invalidPayloadLength
  | invalidPayloadValue
  deriving DecidableEq, Repr

/-- The enumerator's value, as the acknowledgement payload carries it. -/
def AcknowledgementStatus.value : AcknowledgementStatus → UInt8
  | .canTransmitted => 0
  | .invalidMessage => 1
  | .unsupportedMessage => 2
  | .canBusy => 3
  | .canTransmitFailed => 4
  | .canTimeout => 5
  | .unknownCommand => 6
  | .invalidPayloadLength => 7
  | .invalidPayloadValue => 8

theorem AcknowledgementStatus.value_injective {left right : AcknowledgementStatus}
    (same : left.value = right.value) : left = right := by
  revert same
  cases left <;> cases right <;> decide

abbrev Payload : Type := Vector UInt8 maxPayloadSize

@[ext] structure Message where
  type : MessageType := .command
  flags : UInt8 := flagNone
  sequenceNumber : UInt16 := 0
  messageId : UInt16 := 0
  payloadLength : UInt8 := 0
  payload : Payload := Vector.replicate maxPayloadSize 0
  deriving DecidableEq, Repr

/-- The bytes a copy of `payload_length` bytes from the payload takes. -/
def Message.payloadBytes (message : Message) : List UInt8 :=
  message.payload.toList.take message.payloadLength.toNat

/-- A zero-initialised payload after a copy of `source` into its start. -/
def copyPayload (source : List UInt8) : Payload :=
  Vector.ofFn (fun index => source.getD index.val 0)

inductive EncodeResult where
  | ok
  | nullPointer
  | invalidMessageType
  | invalidFlags
  | payloadTooLarge
  | outputTooSmall
  deriving DecidableEq, Repr

inductive DecodeResult where
  | ok
  | nullPointer
  | packetTooShort
  | invalidMagic
  | unsupportedVersion
  | invalidMessageType
  | invalidFlags
  | payloadTooLarge
  | invalidPacketLength
  | crcMismatch
  deriving DecidableEq, Repr

def writeUint16LittleEndian (destination : List UInt8) (offset : Nat) (value : UInt16) :
    List UInt8 :=
  Bytes.write destination offset [Bytes.low value, Bytes.high value]

def readUint16LittleEndian (source : List UInt8) (offset : Nat) : UInt16 :=
  Bytes.join (source.getD offset 0) (source.getD (offset + 1) 0)

def isValidMessageType (type : MessageType) : Bool :=
  type == .command || type == .telemetry || type == .acknowledgement ||
    type == .configuration || type == .heartbeat

def areValidFlags (flags : UInt8) : Bool :=
  flags &&& ~~~validFlagsMask == 0

def encodedSize (payloadLength : UInt8) : Nat :=
  if maxPayloadSize < payloadLength.toNat then 0
  else headerSize + payloadLength.toNat + crcSize

/-- One turn of the inner loop: a truncating shift and a conditional xor. -/
def crcBit (crc : UInt16) : UInt16 :=
  if crc &&& 0x8000 ≠ 0 then (crc <<< 1) ^^^ 0x1021 else crc <<< 1

def crcBits : Nat → UInt16 → UInt16
  | 0, crc => crc
  | bits + 1, crc => crcBits bits (crcBit crc)

/-- One turn of the outer loop. -/
def crcByte (crc : UInt16) (byte : UInt8) : UInt16 :=
  crcBits 8 (crc ^^^ (byte.toUInt16 <<< 8))

def calculateCrc16 (data : Option (List UInt8)) (length : Nat) : UInt16 :=
  if data.isNone ∧ length ≠ 0 then 0
  else ((data.getD []).take length).foldl crcByte 0xFFFF

/-- Return value, output buffer and `bytes_written` after a call of `encode`. -/
structure Encoded where
  result : EncodeResult
  output : Option (List UInt8)
  bytesWritten : Nat
  deriving DecidableEq, Repr

def encode (message : Message) (output : Option (List UInt8)) : Encoded :=
  match output with
  | none => ⟨.nullPointer, none, 0⟩
  | some buffer =>
      if ¬ isValidMessageType message.type then ⟨.invalidMessageType, some buffer, 0⟩
      else if ¬ areValidFlags message.flags then ⟨.invalidFlags, some buffer, 0⟩
      else if maxPayloadSize < message.payloadLength.toNat then
        ⟨.payloadTooLarge, some buffer, 0⟩
      else
        let requiredSize := encodedSize message.payloadLength
        if buffer.length < requiredSize then ⟨.outputTooSmall, some buffer, 0⟩
        else
          let buffer := Bytes.write buffer offsetMagic0 [magicByte0]
          let buffer := Bytes.write buffer offsetMagic1 [magicByte1]
          let buffer := Bytes.write buffer offsetVersion [protocolVersion]
          let buffer := Bytes.write buffer offsetType [message.type.value]
          let buffer := Bytes.write buffer offsetFlags [message.flags]
          let buffer := writeUint16LittleEndian buffer offsetSequence message.sequenceNumber
          let buffer := writeUint16LittleEndian buffer offsetMessageId message.messageId
          let buffer := Bytes.write buffer offsetPayloadLength [message.payloadLength]
          let buffer := Bytes.write buffer offsetPayload message.payloadBytes
          let crcOffset := headerSize + message.payloadLength.toNat
          let crc := calculateCrc16 (some buffer) crcOffset
          ⟨.ok, some (writeUint16LittleEndian buffer crcOffset crc), requiredSize⟩

/-- `message` is the caller's object, returned unchanged on every failure. -/
def decode (packet : Option (List UInt8)) (message : Message) : DecodeResult × Message :=
  match packet with
  | none => (.nullPointer, message)
  | some packet =>
      if packet.length < minPacketSize then (.packetTooShort, message)
      else if packet.getD offsetMagic0 0 ≠ magicByte0 ∨ packet.getD offsetMagic1 0 ≠ magicByte1 then
        (.invalidMagic, message)
      else if packet.getD offsetVersion 0 ≠ protocolVersion then (.unsupportedVersion, message)
      else
        let type : MessageType := ⟨packet.getD offsetType 0⟩
        if ¬ isValidMessageType type then (.invalidMessageType, message)
        else
          let flags := packet.getD offsetFlags 0
          if ¬ areValidFlags flags then (.invalidFlags, message)
          else
            let payloadLength := packet.getD offsetPayloadLength 0
            if maxPayloadSize < payloadLength.toNat then (.payloadTooLarge, message)
            else if packet.length ≠ encodedSize payloadLength then (.invalidPacketLength, message)
            else
              let crcOffset := headerSize + payloadLength.toNat
              let receivedCrc := readUint16LittleEndian packet crcOffset
              let calculatedCrc := calculateCrc16 (some packet) crcOffset
              if receivedCrc ≠ calculatedCrc then (.crcMismatch, message)
              else
                (.ok,
                  { type := type
                    flags := flags
                    sequenceNumber := readUint16LittleEndian packet offsetSequence
                    messageId := readUint16LittleEndian packet offsetMessageId
                    payloadLength := payloadLength
                    payload := copyPayload
                      ((packet.drop offsetPayload).take payloadLength.toNat) })

end RemoteProtocol
