import Rxu01.BoundedQueue
import Rxu01.Bytes
import Rxu01.EspErr

set_option autoImplicit false

/- `esp_now_driver.cpp`: the packets, the life cycle and the receive path. FreeRTOS
queues are bounded queues; what an ESP-IDF call returns is a parameter. -/
namespace EspNowDriver

open EspIdf (EspErr espErrInvalidArg espErrNoMem espOk)

abbrev macAddressSize : Nat := 6
abbrev maxPayloadSize : Nat := 250

abbrev Mac : Type := Vector UInt8 macAddressSize

/-- `wifi_interface_t`, whose values need not name one of its enumerators. -/
structure WifiInterface where
  value : Nat
  deriving DecidableEq, Repr

namespace WifiInterface

def station : WifiInterface := ⟨0⟩
def accessPoint : WifiInterface := ⟨1⟩

end WifiInterface

structure Config where
  interface : WifiInterface := .station
  defaultPeerChannel : UInt8 := 0
  receiveQueueDepth : UInt8 := 8
  sendResultQueueDepth : UInt8 := 8
  deriving DecidableEq, Repr

structure ReceivedPacket where
  sourceMac : Mac := Vector.replicate macAddressSize 0
  destinationMac : Mac := Vector.replicate macAddressSize 0
  rssi : Int8 := 0
  dataLength : UInt16 := 0
  data : Vector UInt8 maxPayloadSize := Vector.replicate maxPayloadSize 0
  deriving DecidableEq

inductive SendStatus where
  | success
  | fail
  deriving DecidableEq, Repr

structure SendResult where
  destinationMac : Mac := Vector.replicate macAddressSize 0
  status : SendStatus := .fail
  deriving DecidableEq, Repr

/-- The buffer a reader of `data` and `data_length` is handed. -/
def ReceivedPacket.bytes (packet : ReceivedPacket) : List UInt8 :=
  packet.data.toList.take packet.dataLength.toNat

/-- The packet that carries `bytes`, cut to the driver's limit. -/
def ReceivedPacket.carrying (sourceMac : Mac) (bytes : List UInt8) : ReceivedPacket :=
  { sourceMac := sourceMac
    dataLength := UInt16.ofNat (min bytes.length maxPayloadSize)
    data := Vector.ofFn (fun index => bytes.getD index.val 0) }

theorem ReceivedPacket.carrying_bytes (sourceMac : Mac) (bytes : List UInt8)
    (fits : bytes.length ≤ maxPayloadSize) :
    (ReceivedPacket.carrying sourceMac bytes).bytes = bytes := by
  have count : (UInt16.ofNat (min bytes.length maxPayloadSize)).toNat = bytes.length := by
    rw [Nat.min_eq_left fits]
    apply UInt16.toNat_ofNat_of_lt'
    change bytes.length < 65536
    change bytes.length ≤ 250 at fits
    omega
  unfold ReceivedPacket.bytes ReceivedPacket.carrying
  dsimp only
  rw [count]
  exact Bytes.padded_take maxPayloadSize bytes 0 fits

/-- What ESP-NOW itself remembers: whether it runs and which callbacks it has. -/
structure EspNow where
  initialized : Bool := false
  recvRegistered : Bool := false
  sendRegistered : Bool := false
  deriving DecidableEq, Repr

/-- The variables of the module, with the state of ESP-NOW behind it. -/
structure Driver where
  config : Config := {}
  receiveQueue : Option (BoundedQueue ReceivedPacket) := none
  sendResultQueue : Option (BoundedQueue SendResult) := none
  initialized : Bool := false
  droppedReceivePackets : UInt32 := 0
  droppedSendResults : UInt32 := 0
  espNow : EspNow := {}

def isValidInterface (interface : WifiInterface) : Bool :=
  interface == .station || interface == .accessPoint

def isValidChannel (channel : UInt8) : Bool :=
  channel == 0 || (channel ≥ 1 && channel ≤ 13)

/-- The statements of the module that touch shared variables or ESP-IDF, each with
what the call in it returns. The main task runs them; the Wi-Fi task may run in between. -/
inductive Action where
  | createReceiveQueue (depth : UInt8) (created : Bool)
  | createSendResultQueue (depth : UInt8) (created : Bool)
  | deleteReceiveQueue
  | deleteSendResultQueue
  | espNowInit (result : EspErr)
  | espNowDeinit (result : EspErr)
  | registerRecvCb (result : EspErr)
  | registerSendCb (result : EspErr)
  | unregisterRecvCb
  | unregisterSendCb
  | storeConfig (config : Config)
  | storeDroppedReceivePackets
  | storeDroppedSendResults
  | storeInitialized (value : Bool)
  | resetReceiveQueue
  | resetSendResultQueue
  deriving DecidableEq, Repr

/-- A failed ESP-IDF call has no effect; `xQueueCreate` then returns a null handle. -/
def perform (driver : Driver) : Action → Driver
  | .createReceiveQueue depth created =>
      { driver with receiveQueue := if created then some (.empty depth.toNat) else none }
  | .createSendResultQueue depth created =>
      { driver with sendResultQueue := if created then some (.empty depth.toNat) else none }
  | .deleteReceiveQueue => { driver with receiveQueue := none }
  | .deleteSendResultQueue => { driver with sendResultQueue := none }
  | .espNowInit result =>
      if result = espOk then { driver with espNow := { driver.espNow with initialized := true } }
      else driver
  | .espNowDeinit result =>
      if result = espOk then { driver with espNow := { driver.espNow with initialized := false } }
      else driver
  | .registerRecvCb result =>
      if result = espOk then { driver with espNow := { driver.espNow with recvRegistered := true } }
      else driver
  | .registerSendCb result =>
      if result = espOk then { driver with espNow := { driver.espNow with sendRegistered := true } }
      else driver
  | .unregisterRecvCb => { driver with espNow := { driver.espNow with recvRegistered := false } }
  | .unregisterSendCb => { driver with espNow := { driver.espNow with sendRegistered := false } }
  | .storeConfig config => { driver with config := config }
  | .storeDroppedReceivePackets => { driver with droppedReceivePackets := 0 }
  | .storeDroppedSendResults => { driver with droppedSendResults := 0 }
  | .storeInitialized value => { driver with initialized := value }
  | .resetReceiveQueue =>
      { driver with receiveQueue := driver.receiveQueue.map BoundedQueue.reset }
  | .resetSendResultQueue =>
      { driver with sendResultQueue := driver.sendResultQueue.map BoundedQueue.reset }

def performAll (driver : Driver) (actions : List Action) : Driver :=
  actions.foldl perform driver

def deleteQueues : List Action := [.deleteReceiveQueue, .deleteSendResultQueue]

def resetStatistics : List Action := [.storeDroppedReceivePackets, .storeDroppedSendResults]

def clearQueues : List Action := [.resetReceiveQueue, .resetSendResultQueue]

/-- What the calls made by one `init` return. -/
structure InitOutcome where
  receiveQueueCreated : Bool := true
  sendResultQueueCreated : Bool := true
  espNowInit : EspErr := espOk
  registerRecvCb : EspErr := espOk
  registerSendCb : EspErr := espOk
  espNowDeinit : EspErr := espOk
  deriving DecidableEq, Repr

/-- The value `init` returns and the statements it runs. -/
def init (driver : Driver) (config : Config) (outcome : InitOutcome) : EspErr × List Action :=
  if driver.initialized then (espOk, [])
  else if ¬ isValidInterface config.interface ∨ ¬ isValidChannel config.defaultPeerChannel ∨
      config.receiveQueueDepth = 0 ∨ config.sendResultQueueDepth = 0 then
    (espErrInvalidArg, [])
  else
    let created := [Action.createReceiveQueue config.receiveQueueDepth outcome.receiveQueueCreated]
    if ¬ outcome.receiveQueueCreated then (espErrNoMem, created)
    else
      let created := created ++
        [.createSendResultQueue config.sendResultQueueDepth outcome.sendResultQueueCreated]
      if ¬ outcome.sendResultQueueCreated then (espErrNoMem, created ++ deleteQueues)
      else
        let started := created ++ [.espNowInit outcome.espNowInit]
        if outcome.espNowInit ≠ espOk then (outcome.espNowInit, started ++ deleteQueues)
        else
          let receiving := started ++ [.registerRecvCb outcome.registerRecvCb]
          if outcome.registerRecvCb ≠ espOk then
            (outcome.registerRecvCb,
              receiving ++ .espNowDeinit outcome.espNowDeinit :: deleteQueues)
          else
            let sending := receiving ++ [.registerSendCb outcome.registerSendCb]
            if outcome.registerSendCb ≠ espOk then
              (outcome.registerSendCb,
                sending ++ .unregisterRecvCb :: .espNowDeinit outcome.espNowDeinit :: deleteQueues)
            else
              (espOk,
                sending ++ .storeConfig config :: resetStatistics ++ [.storeInitialized true])

/-- `result` is what `esp_now_deinit` returns. -/
def deinit (driver : Driver) (result : EspErr) : EspErr × List Action :=
  if ¬ driver.initialized then (espOk, [])
  else
    (result, .storeInitialized false :: .unregisterRecvCb :: .unregisterSendCb ::
      .espNowDeinit result :: deleteQueues ++ [.storeConfig {}])

/-- `none` is the return value `false`. -/
def receive (driver : Driver) : Option ReceivedPacket × Driver :=
  match driver.initialized, driver.receiveQueue with
  | true, some queue =>
      (queue.receive.1, { driver with receiveQueue := some queue.receive.2 })
  | _, _ => (none, driver)

/-- What `onDataReceived` reads of `esp_now_recv_info_t`; the third pointer leads
to the signal strength. -/
structure RecvInfo where
  srcAddr : Option Mac
  desAddr : Option Mac
  rxCtrl : Option Int8
  deriving DecidableEq, Repr

/-- The arguments of one call of `onDataReceived`. A non-null buffer holds at least
`data_length` bytes. -/
structure Delivery where
  info : Option RecvInfo
  data : Option (List UInt8)
  dataLength : Int
  covered : ∀ bytes ∈ data, dataLength ≤ bytes.length

/-- The part of `onDataReceived` between the load of `g_initialized` and `xQueueSend`: the
other checks, then the packet. -/
def checkDelivery (driver : Driver) (delivery : Delivery) : Option ReceivedPacket :=
  if driver.receiveQueue.isNone then none
  else
    match delivery.info, delivery.data with
    | some info, some data =>
        match info.srcAddr with
        | some source =>
            if delivery.dataLength ≤ 0 ∨ (maxPayloadSize : Int) < delivery.dataLength then none
            else
              some
                { sourceMac := source
                  destinationMac := info.desAddr.getD (Vector.replicate macAddressSize 0)
                  rssi := info.rxCtrl.getD 0
                  dataLength := UInt16.ofNat delivery.dataLength.toNat
                  data := Vector.ofFn (fun index =>
                    (data.take delivery.dataLength.toNat).getD index.val 0) }
        | none => none
    | _, _ => none

/-- The part of `onDataReceived` before `xQueueSend`. -/
def acceptDelivery (driver : Driver) (delivery : Delivery) : Option ReceivedPacket :=
  if driver.initialized then checkDelivery driver delivery else none

/-- `xQueueSend` without waiting; undefined on a null handle. -/
def queueSend (driver : Driver) (packet : ReceivedPacket) : Option (Bool × Driver) :=
  driver.receiveQueue.map fun queue =>
    ((queue.send packet).1, { driver with receiveQueue := some (queue.send packet).2 })

def countDropped (driver : Driver) : Driver :=
  { driver with droppedReceivePackets := driver.droppedReceivePackets + 1 }

/-- The whole callback, undisturbed. -/
def onDataReceived (driver : Driver) (delivery : Delivery) : Driver :=
  match acceptDelivery driver delivery with
  | none => driver
  | some packet =>
      match queueSend driver packet with
      | none => driver
      | some (true, driver) => driver
      | some (false, driver) => countDropped driver

/-- What `onDataSent` reads of `esp_now_send_info_t`. -/
structure SendInfo where
  desAddr : Option Mac
  deriving DecidableEq, Repr

/-- The part of `onDataSent` before `xQueueSend`. -/
def acceptReport (driver : Driver) (txInfo : Option SendInfo) (status : SendStatus) :
    Option SendResult :=
  if ¬ driver.initialized ∨ driver.sendResultQueue.isNone then none
  else (txInfo.bind SendInfo.desAddr).map fun destination => ⟨destination, status⟩

/-- The whole callback, undisturbed. -/
def onDataSent (driver : Driver) (txInfo : Option SendInfo) (status : SendStatus) : Driver :=
  match acceptReport driver txInfo status, driver.sendResultQueue with
  | some result, some queue =>
      let sent := queue.send result
      { driver with
        sendResultQueue := some sent.2
        droppedSendResults := driver.droppedSendResults + if sent.1 then 0 else 1 }
  | _, _ => driver

/-- The statements of an `init` that gives up after its checks, by the call that failed;
`cleanUp` is what `esp_now_deinit` returns. -/
inductive GivesUp (depth depth' : UInt8) (cleanUp : EspErr) : EspErr → List Action → Prop where
  | receiveQueue : GivesUp depth depth' cleanUp espErrNoMem [.createReceiveQueue depth false]
  | sendResultQueue : GivesUp depth depth' cleanUp espErrNoMem
      ([.createReceiveQueue depth true, .createSendResultQueue depth' false] ++ deleteQueues)
  | espNowInit (error : EspErr) : GivesUp depth depth' cleanUp error
      ([.createReceiveQueue depth true, .createSendResultQueue depth' true, .espNowInit error] ++
        deleteQueues)
  | registerRecvCb (error : EspErr) : GivesUp depth depth' cleanUp error
      ([.createReceiveQueue depth true, .createSendResultQueue depth' true, .espNowInit espOk,
        .registerRecvCb error, .espNowDeinit cleanUp] ++ deleteQueues)
  | registerSendCb (error : EspErr) : GivesUp depth depth' cleanUp error
      ([.createReceiveQueue depth true, .createSendResultQueue depth' true, .espNowInit espOk,
        .registerRecvCb espOk, .registerSendCb error, .unregisterRecvCb, .espNowDeinit cleanUp] ++
        deleteQueues)

/-- All that a call of `init` can come to. -/
inductive InitRun (driver : Driver) (config : Config) (cleanUp : EspErr) :
    EspErr × List Action → Prop where
  | repeated (opened : driver.initialized = true) : InitRun driver config cleanUp (espOk, [])
  | refused (closed : driver.initialized = false) :
      InitRun driver config cleanUp (espErrInvalidArg, [])
  | gaveUp (closed : driver.initialized = false) {error : EspErr} (failed : error ≠ espOk)
      {actions : List Action} (gives : GivesUp config.receiveQueueDepth
        config.sendResultQueueDepth cleanUp error actions) :
      InitRun driver config cleanUp (error, actions)
  | opened (closed : driver.initialized = false) : InitRun driver config cleanUp
      (espOk,
        [.createReceiveQueue config.receiveQueueDepth true,
          .createSendResultQueue config.sendResultQueueDepth true, .espNowInit espOk,
          .registerRecvCb espOk, .registerSendCb espOk, .storeConfig config,
          .storeDroppedReceivePackets, .storeDroppedSendResults, .storeInitialized true])

theorem init_run (driver : Driver) (config : Config) (outcome : InitOutcome) :
    InitRun driver config outcome.espNowDeinit (init driver config outcome) := by
  unfold init
  split
  · rename_i opened
    exact .repeated opened
  rename_i opened
  have closed := Bool.of_not_eq_true opened
  split
  · exact .refused closed
  dsimp only
  split
  · rename_i receiveQueue
    rw [Bool.of_not_eq_true receiveQueue]
    exact .gaveUp closed (by decide) .receiveQueue
  rename_i receiveQueue
  rw [Decidable.not_not.mp receiveQueue]
  split
  · rename_i sendResultQueue
    rw [Bool.of_not_eq_true sendResultQueue]
    exact .gaveUp closed (by decide) .sendResultQueue
  rename_i sendResultQueue
  rw [Decidable.not_not.mp sendResultQueue]
  split
  · rename_i started
    exact .gaveUp closed started (.espNowInit _)
  rename_i started
  rw [Decidable.not_not.mp started]
  split
  · rename_i receiving
    exact .gaveUp closed receiving (.registerRecvCb _)
  rename_i receiving
  rw [Decidable.not_not.mp receiving]
  split
  · rename_i sending
    exact .gaveUp closed sending (.registerSendCb _)
  rename_i sending
  rw [Decidable.not_not.mp sending]
  exact .opened closed

/-- A call of `init` that does something and returns `ESP_OK` went through every step. -/
theorem init_ok {driver : Driver} {config : Config} {outcome : InitOutcome}
    (closed : driver.initialized = false) (success : (init driver config outcome).1 = espOk) :
    (init driver config outcome).2 =
      [.createReceiveQueue config.receiveQueueDepth true,
        .createSendResultQueue config.sendResultQueueDepth true, .espNowInit espOk,
        .registerRecvCb espOk, .registerSendCb espOk, .storeConfig config,
        .storeDroppedReceivePackets, .storeDroppedSendResults, .storeInitialized true] := by
  have ended := init_run driver config outcome
  generalize init driver config outcome = result at *
  cases ended with
  | repeated opened => exact absurd (closed.symm.trans opened) Bool.false_ne_true
  | refused => exact absurd success (show espErrInvalidArg ≠ espOk by decide)
  | gaveUp _ failed => exact absurd success failed
  | opened => rfl

/-- What a delivery or a packet carries. -/
structure Content where
  source : Mac
  length : Nat
  bytes : List UInt8
  deriving DecidableEq

/-- A delivery has content when source and data are there and 1 to 250 bytes long. -/
def Delivery.content (delivery : Delivery) : Option Content :=
  match delivery.info.bind RecvInfo.srcAddr, delivery.data with
  | some source, some data =>
      if 1 ≤ delivery.dataLength ∧ delivery.dataLength ≤ maxPayloadSize then
        some ⟨source, delivery.dataLength.toNat, data.take delivery.dataLength.toNat⟩
      else none
  | _, _ => none

def ReceivedPacket.content (packet : ReceivedPacket) : Content :=
  ⟨packet.sourceMac, packet.dataLength.toNat, packet.bytes⟩

/-- While there is a queue the checks pass exactly the deliveries with content, and put
that content into the packet. -/
theorem checkDelivery_content {driver : Driver} (created : driver.receiveQueue.isSome = true)
    (delivery : Delivery) :
    (checkDelivery driver delivery).map ReceivedPacket.content = delivery.content := by
  have inside : ¬ driver.receiveQueue.isNone = true := by
    simp [Option.isSome_iff_ne_none.mp created]
  rw [checkDelivery, if_neg inside, Delivery.content]
  rcases delivery with ⟨info, data, dataLength, covered⟩
  rcases info with _ | ⟨srcAddr, desAddr, rxCtrl⟩
  · rfl
  rcases data with _ | data
  · cases srcAddr <;> rfl
  rcases srcAddr with _ | source
  · rfl
  dsimp only [Option.bind_some]
  by_cases short : 1 ≤ dataLength ∧ dataLength ≤ maxPayloadSize
  · have bound := covered data rfl
    have count : (UInt16.ofNat dataLength.toNat).toNat = dataLength.toNat := by
      apply UInt16.toNat_ofNat_of_lt'
      change dataLength.toNat < 65536
      have limit : dataLength ≤ 250 := short.2
      omega
    have length : (data.take dataLength.toNat).length = dataLength.toNat := by
      rw [List.length_take]
      omega
    rw [if_pos short, if_neg (by omega), Option.map_some]
    simp only [ReceivedPacket.content, ReceivedPacket.bytes, count]
    have copied := Bytes.padded_take maxPayloadSize (data.take dataLength.toNat) 0 (by omega)
    rw [length] at copied
    rw [copied]
  · rw [if_neg short, if_pos (by omega), Option.map_none]

/-- Without a queue they pass nothing. -/
theorem checkDelivery_created {driver : Driver} {delivery : Delivery} {packet : ReceivedPacket}
    (checked : checkDelivery driver delivery = some packet) :
    driver.receiveQueue.isSome = true := by
  cases queue : driver.receiveQueue with
  | none =>
      rw [checkDelivery, queue] at checked
      cases checked
  | some _ => rfl

theorem acceptDelivery_content {driver : Driver} (initialized : driver.initialized = true)
    (created : driver.receiveQueue.isSome = true) (delivery : Delivery) :
    (acceptDelivery driver delivery).map ReceivedPacket.content = delivery.content := by
  rw [acceptDelivery, if_pos initialized]
  exact checkDelivery_content created delivery

theorem acceptDelivery_open {driver : Driver} {delivery : Delivery} {packet : ReceivedPacket}
    (accepted : acceptDelivery driver delivery = some packet) :
    driver.initialized = true ∧ driver.receiveQueue.isSome = true := by
  rw [acceptDelivery] at accepted
  split at accepted
  · rename_i initialized
    exact ⟨initialized, checkDelivery_created accepted⟩
  · cases accepted

theorem acceptDelivery_closed {driver : Driver} (closed : driver.initialized = false)
    (delivery : Delivery) : acceptDelivery driver delivery = none := by
  rw [acceptDelivery, closed, if_neg Bool.false_ne_true]

theorem acceptDelivery_source {driver : Driver} {delivery : Delivery} {packet : ReceivedPacket}
    (accepted : acceptDelivery driver delivery = some packet) :
    delivery.info.bind RecvInfo.srcAddr = some packet.sourceMac := by
  obtain ⟨initialized, created⟩ := acceptDelivery_open accepted
  have content := acceptDelivery_content initialized created delivery
  rw [accepted, Option.map_some, Delivery.content] at content
  split at content
  · rename_i source data address _
    split at content
    · rw [address]
      exact congrArg (Option.map Content.source) content.symm
    · cases content
  · cases content

section Callback

variable {driver : Driver} {delivery : Delivery}

theorem onDataReceived_ignored (ignored : acceptDelivery driver delivery = none) :
    onDataReceived driver delivery = driver := by
  rw [onDataReceived, ignored]

theorem queueSend_created {queue : BoundedQueue ReceivedPacket}
    (created : driver.receiveQueue = some queue) (packet : ReceivedPacket) :
    queueSend driver packet = some ((queue.send packet).1,
      { driver with receiveQueue := some (queue.send packet).2 }) := by
  rw [queueSend, created, Option.map_some]

/-- The callback moves the queue and, when that is full, the count of dropped packets. -/
theorem onDataReceived_queued {queue : BoundedQueue ReceivedPacket} {packet : ReceivedPacket}
    (created : driver.receiveQueue = some queue)
    (accepted : acceptDelivery driver delivery = some packet) :
    (onDataReceived driver delivery).receiveQueue = some (queue.send packet).2 ∧
      (onDataReceived driver delivery).initialized = driver.initialized := by
  rw [onDataReceived, accepted]
  simp only [queueSend_created created]
  cases (queue.send packet).1 with
  | false => exact ⟨rfl, rfl⟩
  | true => exact ⟨rfl, rfl⟩

theorem receive_open {queue : BoundedQueue ReceivedPacket}
    (initialized : driver.initialized = true) (created : driver.receiveQueue = some queue) :
    receive driver = (queue.receive.1, { driver with receiveQueue := some queue.receive.2 }) := by
  simp only [receive, initialized, created]

end Callback

end EspNowDriver
