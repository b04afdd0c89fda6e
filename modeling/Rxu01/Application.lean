import Rxu01.EspNowCanGateway
import Rxu01.EspNowDriver

set_option autoImplicit false

/- The packet path of `application.cpp`: the request cache, the acknowledgement
and `process_received_packet`. -/
namespace Application

open EspNowCanGateway (Gateway ProcessResult TransmitResult processMessage)
open EspNowDriver (Mac ReceivedPacket)
open CanCommandRouter (CanFrame)
open RemoteProtocol (AcknowledgementStatus Message MessageType Payload decode encode)

abbrev requestCacheSize : Nat := 16
abbrev requestCacheLifetimeUs : Int := 5 * 1000 * 1000

structure CachedRequest where
  valid : Bool := false
  sourceMac : Mac := Vector.replicate EspNowDriver.macAddressSize 0
  type : MessageType := .command
  flags : UInt8 := RemoteProtocol.flagNone
  sequenceNumber : UInt16 := 0
  messageId : UInt16 := 0
  payloadLength : UInt8 := 0
  payload : Payload := Vector.replicate RemoteProtocol.maxPayloadSize 0
  status : AcknowledgementStatus := .invalidMessage
  cachedAtUs : Int := 0
  deriving DecidableEq, Repr

/-- `g_request_cache` and `g_next_cache_entry`. -/
structure RequestCache where
  entries : List CachedRequest := List.replicate requestCacheSize {}
  size : entries.length = requestCacheSize := by simp
  nextEntry : Nat := 0

/-- What `esp_timer_get_time` returns at the places where the processing of one
packet reads it: at each slot of the lookup loop and in `cache_request`. The
value at a place that is not reached is never used. -/
structure Clock where
  lookup : Nat → Int
  cached : Int

structure Arrival where
  packet : ReceivedPacket
  clock : Clock

/-- The lazy expiry at one slot of the lookup loop. -/
def expire (now : Int) (entry : CachedRequest) : CachedRequest :=
  if entry.valid ∧ requestCacheLifetimeUs < now - entry.cachedAtUs then
    { entry with valid := false }
  else entry

def matchesRequest (sourceMac : Mac) (sequenceNumber : UInt16) (entry : CachedRequest) : Bool :=
  entry.valid && entry.sequenceNumber == sequenceNumber && entry.sourceMac == sourceMac

/-- The loop of `find_cached_request` from slot `index` on. It stops at the first
match and leaves the slots behind it as they are. -/
def scanEntries (clock : Nat → Int) (sourceMac : Mac) (sequenceNumber : UInt16) :
    Nat → List CachedRequest → List CachedRequest × Option CachedRequest
  | _, [] => ([], none)
  | index, entry :: rest =>
      let entry := expire (clock index) entry
      if matchesRequest sourceMac sequenceNumber entry then (entry :: rest, some entry)
      else
        let scanned := scanEntries clock sourceMac sequenceNumber (index + 1) rest
        (entry :: scanned.1, scanned.2)

@[simp] theorem scanEntries_length (clock : Nat → Int) (sourceMac : Mac)
    (sequenceNumber : UInt16) (index : Nat) (entries : List CachedRequest) :
    (scanEntries clock sourceMac sequenceNumber index entries).1.length = entries.length := by
  induction entries generalizing index with
  | nil => rfl
  | cons entry rest ih =>
      unfold scanEntries
      dsimp only
      split
      · rfl
      · simp only [List.length_cons, ih]

def findCachedRequest (clock : Nat → Int) (sourceMac : Mac) (sequenceNumber : UInt16)
    (cache : RequestCache) : RequestCache × Option CachedRequest :=
  let scanned := scanEntries clock sourceMac sequenceNumber 0 cache.entries
  ({ cache with
      entries := scanned.1
      size := (scanEntries_length clock sourceMac sequenceNumber 0 cache.entries).trans cache.size },
    scanned.2)

def isSameRequest (cached : CachedRequest) (message : Message) : Bool :=
  cached.type == message.type && cached.flags == message.flags &&
    cached.messageId == message.messageId && cached.payloadLength == message.payloadLength &&
    cached.payload.toList.take message.payloadLength.toNat == message.payloadBytes

/-- The entry `cache_request` fills in. -/
def cachedRequest (sourceMac : Mac) (message : Message) (status : AcknowledgementStatus)
    (now : Int) : CachedRequest :=
  { valid := true
    sourceMac := sourceMac
    type := message.type
    flags := message.flags
    sequenceNumber := message.sequenceNumber
    messageId := message.messageId
    payloadLength := message.payloadLength
    payload := RemoteProtocol.copyPayload message.payloadBytes
    status := status
    cachedAtUs := now }

def cacheRequest (entry : CachedRequest) (cache : RequestCache) : RequestCache :=
  { entries := cache.entries.set cache.nextEntry entry
    size := (List.length_set ..).trans cache.size
    nextEntry := (cache.nextEntry + 1) % requestCacheSize }

/-- The calls a step makes, in program order. -/
inductive Call where
  | processMessage (message : Message) (result : ProcessResult)
  | transmit (frame : CanFrame) (result : TransmitResult)
  | cacheRequest (entry : CachedRequest)
  | send (destination : Mac) (packet : List UInt8)
  deriving DecidableEq, Repr

def acknowledgement (request : Message) (status : AcknowledgementStatus) : Message :=
  { type := .acknowledgement
    flags := RemoteProtocol.flagIsResponse
    sequenceNumber := request.sequenceNumber
    messageId := request.messageId
    payload := RemoteProtocol.copyPayload [status.value]
    payloadLength := 1 }

/-- The call of `esp_now_driver::send` made by `send_acknowledgement`, if its
`encode` succeeds. The value returned by `send` is only logged. -/
def sendAcknowledgement (destination : Mac) (request : Message)
    (status : AcknowledgementStatus) : List Call :=
  let encoded := encode (acknowledgement request status)
    (some (List.replicate RemoteProtocol.maxPacketSize 0))
  if encoded.result ≠ .ok then []
  else [.send destination ((encoded.output.getD []).take encoded.bytesWritten)]

def mapAckStatus : ProcessResult → AcknowledgementStatus
  | .ok => .canTransmitted
  | .invalidMessage => .invalidMessage
  | .unsupportedMessage => .unsupportedMessage
  | .unknownCommand => .unknownCommand
  | .invalidPayloadLength => .invalidPayloadLength
  | .invalidPayloadValue => .invalidPayloadValue
  | .canBusy => .canBusy
  | .canTimeout => .canTimeout
  | .canTransmitFailed => .canTransmitFailed

variable {σ : Type}

/-- The variables `process_received_packet` works on, with the gateway's and
the state behind the transmit callback. -/
structure State (σ : Type) where
  cache : RequestCache := {}
  txu01Mac : Mac
  gateway : Gateway σ
  context : σ

def acknowledgementRequested (message : Message) : Bool :=
  message.flags &&& RemoteProtocol.flagAckRequested != 0 &&
    message.flags &&& RemoteProtocol.flagIsResponse == 0

/-- `process_received_packet` from the call of `process_message` on. -/
def executeMessage (arrival : Arrival) (message : Message) (state : State σ) :
    State σ × List Call :=
  let processed := processMessage message state.gateway state.context
  let state := { state with gateway := processed.gateway, context := processed.context }
  let calls := .processMessage message processed.result ::
    processed.transmitted.map (fun call => .transmit call.1 call.2)
  if acknowledgementRequested message then
    let status := mapAckStatus processed.result
    let entry := cachedRequest arrival.packet.sourceMac message status arrival.clock.cached
    let state := { state with cache := cacheRequest entry state.cache }
    (state, calls ++ .cacheRequest entry ::
      sendAcknowledgement arrival.packet.sourceMac message status)
  else (state, calls)

def processReceivedPacket (state : State σ) (arrival : Arrival) : State σ × List Call :=
  if arrival.packet.sourceMac ≠ state.txu01Mac then (state, [])
  else
    match decode (some arrival.packet.bytes) {} with
    | (.ok, message) =>
        if acknowledgementRequested message then
          let (cache, found) := findCachedRequest arrival.clock.lookup arrival.packet.sourceMac
            message.sequenceNumber state.cache
          let state := { state with cache := cache }
          match found with
          | some cached =>
              let status := if isSameRequest cached message then cached.status else .invalidMessage
              (state, sendAcknowledgement arrival.packet.sourceMac message status)
          | none => executeMessage arrival message state
        else executeMessage arrival message state
    | (_, _) => (state, [])

end Application
