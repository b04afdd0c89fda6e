import Rxu01.ApplicationLoop
import Rxu01.ApplicationStatus
import Rxu01.EspNowDriverLifeCycle
import Rxu01.EspNowDriverPeers
import Rxu01.WifiManagerLifeCycle

set_option autoImplicit false

/- `application::run` up to its main loop. -/
namespace WifiManager

open EspIdf (espErrInvalidArg espOk)
open Unwinding (Ends attempt_ok_iff ends_attempt performAll)

/-- What the calls of `init` must return for it to go through. -/
structure InitOutcome.Succeeds (config : Config) (outcome : InitOutcome) : Prop where
  nvs : (initNvs outcome).1 = espOk
  netifInit : succeededOrDone outcome.netifInit = true
  eventLoop : succeededOrDone outcome.eventLoopCreateDefault = true
  wifiInit : outcome.wifiInit = espOk
  wifiSetStorage : outcome.wifiSetStorage = espOk
  wifiSetMode : outcome.wifiSetMode = espOk
  wifiSetMac : config.useCustomStationMac = true → outcome.wifiSetMac = espOk
  wifiStart : outcome.wifiStart = espOk
  wifiSetChannel : outcome.wifiSetChannel = espOk
  wifiSetPs : outcome.wifiSetPs = espOk

section Init

variable {manager : Manager} (closed : manager.initialized = false) (config : Config)
  (outcome : InitOutcome)
include closed

theorem init_ok_iff :
    (init manager config outcome).1 = espOk ↔
      isValidChannel config.channel = true ∧
        (config.useCustomStationMac = true → isValidUnicastMac config.stationMac = true) ∧
        outcome.Succeeds config := by
  have custom : (if config.useCustomStationMac = true then
      (outcome.wifiSetMac, [Action.wifiSetMac config.stationMac outcome.wifiSetMac])
        else (espOk, [])).1 = espOk ↔
      (config.useCustomStationMac = true → outcome.wifiSetMac = espOk) := by
    split <;> simp_all
  unfold init
  rw [if_neg (by simp [closed])]
  split
  · rename_i invalid
    constructor
    · intro ok
      exact absurd ok (show espErrInvalidArg ≠ espOk by decide)
    · rintro ⟨channel, mac, _⟩
      rcases invalid with wrong | ⟨use, wrong⟩
      · exact absurd channel wrong
      · exact absurd (mac use) wrong
  · rename_i valid
    have checks : isValidChannel config.channel = true ∧
        (config.useCustomStationMac = true → isValidUnicastMac config.stationMac = true) := by
      simpa using valid
    rw [attempt_ok_iff not_succeeded, attempt_ok_iff not_done, attempt_ok_iff not_done,
      attempt_ok_iff not_succeeded, attempt_ok_iff not_succeeded, attempt_ok_iff not_succeeded,
      attempt_ok_iff not_succeeded, attempt_ok_iff not_succeeded, attempt_ok_iff not_succeeded,
      attempt_ok_iff not_succeeded]
    simp only [succeeded, beq_iff_eq, custom]
    constructor
    · rintro ⟨nvs, netif, loop, wifi, storage, mode, mac, start, channel, ps, _⟩
      exact ⟨checks.1, checks.2, nvs, netif, loop, wifi, storage, mode, mac, start, channel, ps⟩
    · rintro ⟨_, _, nvs, netif, loop, wifi, storage, mode, mac, start, channel, ps⟩
      exact ⟨nvs, netif, loop, wifi, storage, mode, mac, start, channel, ps, trivial⟩

/-- Whatever the clean-up would have returned. -/
theorem init_opens (stops : Bool) (success : (init manager config outcome).1 = espOk) :
    performAll (perform stops) manager (init manager config outcome).2 =
      { initialized := true
        config := config
        radio := { initialized := true, started := true, channel := some config.channel } } := by
  have ended : Ends (perform stops) (fun error after => error = espOk → after =
      { initialized := true
        config := config
        radio := { initialized := true, started := true, channel := some config.channel } })
      manager (init manager config outcome) := by
    rw [init, if_neg (by simp [closed])]
    split
    · exact fun ok => absurd ok (show espErrInvalidArg ≠ espOk by decide)
    apply ends_attempt
    · exact fun rejected ok => absurd ok (not_succeeded rejected)
    rw [initNvs_silent]
    intro _
    apply ends_silent rfl (fun rejected ok => absurd ok (not_done rejected))
    apply ends_silent rfl (fun rejected ok => absurd ok (not_done rejected))
    apply ends_effect Radio.init rfl (fun failed ok => absurd ok failed)
    apply ends_silent rfl (fun rejected ok => absurd ok (not_succeeded rejected))
    apply ends_silent rfl (fun rejected ok => absurd ok (not_succeeded rejected))
    apply ends_attempt
    · exact fun rejected ok => absurd ok (not_succeeded rejected)
    intro _
    have same : performAll (perform stops) { manager with radio := manager.radio.init }
        (if config.useCustomStationMac then
          (outcome.wifiSetMac, [.wifiSetMac config.stationMac outcome.wifiSetMac])
        else (espOk, [])).2 = { manager with radio := manager.radio.init } := by
      split <;> rfl
    rw [same]
    apply ends_effect Radio.start rfl (fun failed ok => absurd ok failed)
    apply ends_effect (Radio.setChannel · config.channel) rfl (fun failed ok => absurd ok failed)
    apply ends_silent rfl (fun rejected ok => absurd ok (not_succeeded rejected))
    exact fun _ => rfl
  exact ended success

end Init

end WifiManager

namespace EspNowDriver

open EspIdf (espErrInvalidArg espErrNoMem espOk)

theorem init_ok_iff {driver : Driver} (closed : driver.initialized = false) (config : Config)
    (outcome : InitOutcome) :
    (init driver config outcome).1 = espOk ↔ config.Acceptable ∧ outcome.NoFailure := by
  constructor
  · intro success
    unfold init at success
    rw [if_neg (by simp [closed])] at success
    split at success
    · exact absurd success (show espErrInvalidArg ≠ espOk by decide)
    rename_i valid
    simp only [not_or, Decidable.not_not] at valid
    obtain ⟨interface, channel, receiveDepth, sendResultDepth⟩ := valid
    refine ⟨⟨interface, channel, receiveDepth, sendResultDepth⟩, ?_⟩
    dsimp only at success
    split at success
    · exact absurd success (show espErrNoMem ≠ espOk by decide)
    rename_i receiveQueue
    split at success
    · exact absurd success (show espErrNoMem ≠ espOk by decide)
    rename_i sendResultQueue
    split at success
    · rename_i failed
      exact absurd success failed
    rename_i started
    split at success
    · rename_i failed
      exact absurd success failed
    rename_i receiving
    split at success
    · rename_i failed
      exact absurd success failed
    rename_i sending
    rw [Decidable.not_not] at receiveQueue sendResultQueue started receiving sending
    exact ⟨receiveQueue, sendResultQueue, started, receiving, sending⟩
  · rintro ⟨acceptable, noFailure⟩
    exact init_acceptable acceptable noFailure

end EspNowDriver

namespace Application

open CanManager (Manager)
open EspIdf (EspErr espErrInvalidArg espOk)
open EspNowCanGateway (Gateway)
open EspNowDriver (Content Delivery Driver Mac PeerConfig PeerTable ReceivedPacket Station
  functionTable onDataReceived peerStep zeroKey zeroMac)
open Mcp2515 (Advancing)
open Peripheral (Environment World)
open Reactive (run)

structure Config where
  espNowChannel : UInt8 := 1
  receiveQueueDepth : UInt8 := 8
  sendResultQueueDepth : UInt8 := 8
  useCustomStationMac : Bool := true
  stationMac : Mac := #v[0x02, 0x52, 0x58, 0x55, 0x00, 0x01]
  txu01Mac : Mac := #v[0x02, 0x52, 0x58, 0x55, 0x00, 0x02]
  commandRouter : CanCommandRouter.Config := VehicleCanProtocol.makeCommandRouterConfig

def isValidUnicastMac (mac : Mac) : Bool :=
  let isZero := mac.toList.all (· == 0)
  !isZero && mac.get 0 &&& 0x01 == 0

def validateConfig (config : Config) : EspErr :=
  if config.espNowChannel < 1 ∨ 13 < config.espNowChannel ∨ config.receiveQueueDepth = 0 ∨
      config.sendResultQueueDepth = 0 ∨ ¬ isValidUnicastMac config.txu01Mac ∨
      ¬ CanCommandRouter.isValidConfig config.commandRouter then
    espErrInvalidArg
  else espOk

/-- All the variables behind `run`. -/
structure Firmware (δ τ : Type) where
  canManager : Manager δ
  gateway : Gateway (Option (Manager δ)) := {}
  wifi : WifiManager.Manager := {}
  station : Station τ
  txu01Mac : Mac := zeroMac
  requestCache : RequestCache

/-- What the ESP-IDF calls made by the start return. -/
structure StartOutcome where
  spi : CanManager.SpiSetup := ⟨espOk, espOk⟩
  wifi : WifiManager.InitOutcome := {}
  espNow : EspNowDriver.InitOutcome := {}
  addPeer : EspErr := espOk

def wifiConfig (config : Config) : WifiManager.Config :=
  { channel := config.espNowChannel
    storage := .ram
    powerSave := .none
    useCustomStationMac := config.useCustomStationMac
    stationMac := config.stationMac }

def espNowConfig (config : Config) : EspNowDriver.Config :=
  { interface := .station
    defaultPeerChannel := 0
    receiveQueueDepth := config.receiveQueueDepth
    sendResultQueueDepth := config.sendResultQueueDepth }

def txu01Peer (config : Config) : PeerConfig :=
  { mac := config.txu01Mac
    channel := 0
    interface := .station
    encrypt := false }

variable {δ τ : Type} (env : Environment δ) (table : PeerTable τ)

def beginCan (spi : CanManager.SpiSetup) (firmware : Firmware δ τ) : EspErr × Firmware δ τ :=
  let begun := CanManager.begin env spi firmware.canManager
  (begun.1, { firmware with canManager := begun.2 })

variable {env}

def initializeGateway (advancing : Advancing env) (config : Config) (firmware : Firmware δ τ) :
    EspErr × Firmware δ τ :=
  let initialised := EspNowCanGateway.init
    { transmit := some (transmitCallback env advancing), commandRouter := config.commandRouter }
    firmware.gateway
  (initialised.1, { firmware with gateway := initialised.2 })

/-- `stops` says whether `esp_wifi_deinit` also stops a driver that runs. -/
def initializeWifi (stops : Bool) (config : Config) (outcome : WifiManager.InitOutcome)
    (firmware : Firmware δ τ) : EspErr × Firmware δ τ :=
  let initialised := WifiManager.init firmware.wifi (wifiConfig config) outcome
  (initialised.1,
    { firmware with
      wifi := Unwinding.performAll (WifiManager.perform stops) firmware.wifi initialised.2 })

def initializeEspNow (config : Config) (outcome : EspNowDriver.InitOutcome)
    (firmware : Firmware δ τ) : EspErr × Firmware δ τ :=
  let initialised := peerStep table firmware.station (.init (espNowConfig config) outcome)
  (initialised.2.returned, { firmware with station := initialised.1 })

def initializeTxu01Peer (config : Config) (result : EspErr) (firmware : Firmware δ τ) :
    EspErr × Firmware δ τ :=
  let added := peerStep table firmware.station (.addPeer (txu01Peer config) result)
  (added.2.returned,
    { firmware with
      station := added.1
      txu01Mac := if added.2.returned = espOk then config.txu01Mac else firmware.txu01Mac })

/-- `ESP_ERROR_CHECK`, which aborts on any other value than `ESP_OK`. -/
def espErrorCheck (done : EspErr × Firmware δ τ) : Except (EspErr × Firmware δ τ) (Firmware δ τ) :=
  if done.1 = espOk then .ok done.2 else .error done

/-- Calls of `onDataReceived` that come in between. -/
def Firmware.deliver (firmware : Firmware δ τ) (arrivals : List Delivery) : Firmware δ τ :=
  { firmware with
    station :=
      { firmware.station with
        driver := arrivals.foldl onDataReceived firmware.station.driver } }

/-- The checks of `run` in order, with the deliveries before each of them and before the main
loop, which starts from the value of `ok`. A delivery inside one of them finds the driver
closed, or is to it like one before or after. -/
def startDuring (advancing : Advancing env) (stops : Bool) (config : Config)
    (outcome : StartOutcome) (arrivals : Nat → List Delivery) (firmware : Firmware δ τ) :
    Except (EspErr × Firmware δ τ) (Firmware δ τ) := do
  let firmware ← espErrorCheck (validateConfig config, firmware.deliver (arrivals 0))
  let firmware ← espErrorCheck (beginCan env outcome.spi (firmware.deliver (arrivals 1)))
  let firmware ← espErrorCheck
    (initializeGateway advancing config (firmware.deliver (arrivals 2)))
  let firmware ← espErrorCheck
    (initializeWifi stops config outcome.wifi (firmware.deliver (arrivals 3)))
  let firmware ← espErrorCheck
    (initializeEspNow table config outcome.espNow (firmware.deliver (arrivals 4)))
  let firmware ← espErrorCheck
    (initializeTxu01Peer table config outcome.addPeer (firmware.deliver (arrivals 5)))
  pure (firmware.deliver (arrivals 6))

/-- The start without deliveries. -/
def start (advancing : Advancing env) (stops : Bool) (config : Config) (outcome : StartOutcome) :
    Firmware δ τ → Except (EspErr × Firmware δ τ) (Firmware δ τ) :=
  startDuring table advancing stops config outcome (fun _ => [])

/-- What `process_received_packet` works on. -/
def Firmware.state (firmware : Firmware δ τ) : State (Option (Manager δ)) :=
  { cache := firmware.requestCache
    txu01Mac := firmware.txu01Mac
    gateway := firmware.gateway
    context := some firmware.canManager }

/-- What the main loop works on. -/
def Firmware.receiver (firmware : Firmware δ τ) : Receiver (Option (Manager δ)) :=
  { driver := firmware.station.driver
    application := firmware.state }

theorem requestCache_blank :
    (List.replicate requestCacheSize ({} : CachedRequest)).length = requestCacheSize :=
  List.length_replicate

/-- The variables before the start. -/
def powerOn (world : World δ) : Firmware δ τ :=
  { canManager := { world := world }
    station := { peers := table.blank }
    requestCache :=
      { entries := List.replicate requestCacheSize {}
        size := requestCache_blank } }

/-- What the main loop finds after those contents arrived. -/
structure Operational (advancing : Advancing env) (config : Config) (arrived : List Content)
    (firmware : Firmware δ τ) : Prop where
  can : Started env config.commandRouter advancing firmware.state
  begun : ∃ spi world, CanManager.begin env spi { world := world } = (espOk, firmware.canManager)
  cache : firmware.requestCache = {}
  txu01Mac : firmware.txu01Mac = config.txu01Mac
  wifi : firmware.wifi.initialized = true ∧ WifiManager.Open firmware.wifi
  channel : firmware.wifi.config.channel = config.espNowChannel
  initialized : firmware.station.driver.initialized = true
  receiveQueue : ∃ queue, firmware.station.driver.receiveQueue = some queue ∧
    queue.depth = config.receiveQueueDepth.toNat ∧
    queue.items.map ReceivedPacket.content = arrived.take config.receiveQueueDepth.toNat
  droppedReceivePackets : firmware.station.driver.droppedReceivePackets =
    UInt32.ofNat (arrived.length - config.receiveQueueDepth.toNat)
  sendResultQueue : firmware.station.driver.sendResultQueue =
    some (.empty config.sendResultQueueDepth.toNat)
  droppedSendResults : firmware.station.driver.droppedSendResults = 0
  peers : table.Documented → table.getPeer firmware.station.peers =
    Function.update (fun _ => none) config.txu01Mac
      (some
        { peerAddr := config.txu01Mac
          lmk := zeroKey
          channel := 0
          ifidx := .station
          encrypt := false })

/-- With no arrivals the queue is empty. -/
theorem Operational.emptyQueue {table : PeerTable τ} {advancing : Advancing env} {config : Config}
    {firmware : Firmware δ τ} (operational : Operational table advancing config [] firmware) :
    firmware.station.driver.receiveQueue = some (.empty config.receiveQueueDepth.toNat) := by
  obtain ⟨⟨depth, items, fits⟩, created, same, contents⟩ := operational.receiveQueue
  rw [List.take_nil, List.map_eq_nil_iff] at contents
  dsimp only at same contents
  subst same contents
  exact created

structure Config.Valid (config : Config) : Prop where
  channel : 1 ≤ config.espNowChannel ∧ config.espNowChannel ≤ 13
  receiveQueue : config.receiveQueueDepth ≠ 0
  sendResultQueue : config.sendResultQueueDepth ≠ 0
  txu01Mac : isValidUnicastMac config.txu01Mac = true
  commandRouter : CanCommandRouter.isValidConfig config.commandRouter = true

theorem validateConfig_ok_iff (config : Config) : validateConfig config = espOk ↔ config.Valid := by
  unfold validateConfig
  split
  · rename_i invalid
    constructor
    · intro ok
      exact absurd ok (show espErrInvalidArg ≠ espOk by decide)
    · rintro ⟨⟨lower, upper⟩, receiveQueue, sendResultQueue, txu01Mac, commandRouter⟩
      simp_all [UInt8.not_lt.mpr lower, UInt8.not_lt.mpr upper]
  · rename_i valid
    simp only [not_or, Decidable.not_not, UInt8.not_lt] at valid
    obtain ⟨lower, upper, receiveQueue, sendResultQueue, txu01Mac, commandRouter⟩ := valid
    exact iff_of_true rfl ⟨⟨lower, upper⟩, receiveQueue, sendResultQueue, txu01Mac, commandRouter⟩

theorem isValidUnicastMac_zero {mac : Mac} (valid : isValidUnicastMac mac = true) :
    EspNowDriver.isZeroAddress mac = false := by
  apply beq_eq_false_iff_ne.mpr
  rintro rfl
  cases valid

variable (env)

/-- What it takes to get into the main loop. -/
structure StartOutcome.Succeeds (config : Config) (outcome : StartOutcome) (world : World δ) :
    Prop where
  valid : config.Valid
  can : (CanManager.begin env outcome.spi { world := world }).1 = espOk
  stationMac : config.useCustomStationMac = true →
    WifiManager.isValidUnicastMac config.stationMac = true
  wifi : outcome.wifi.Succeeds (wifiConfig config)
  espNow : outcome.espNow.NoFailure
  addPeer : outcome.addPeer = espOk

variable {env}

/-- The deliveries that find the driver open. -/
def heard (arrivals : Nat → List Delivery) : List Content :=
  (arrivals 5 ++ arrivals 6).filterMap Delivery.content

/-- The start gets into the main loop with everything in place, or aborts. -/
inductive StartEnds (advancing : Advancing env) (config : Config) (outcome : StartOutcome)
    (arrivals : Nat → List Delivery) (world : World δ) :
    Except (EspErr × Firmware δ τ) (Firmware δ τ) → Prop where
  | looping {firmware : Firmware δ τ} (succeeds : outcome.Succeeds env config world)
      (operational : Operational table advancing config (heard arrivals) firmware) :
      StartEnds advancing config outcome arrivals world (.ok firmware)
  | aborted {error : EspErr} {firmware : Firmware δ τ} (failed : error ≠ espOk)
      (fails : ¬ outcome.Succeeds env config world) :
      StartEnds advancing config outcome arrivals world (.error (error, firmware))

variable {table}

section Checks

variable {done : EspErr × Firmware δ τ}
  {next : Firmware δ τ → Except (EspErr × Firmware δ τ) (Firmware δ τ)}

theorem espErrorCheck_failed (failed : done.1 ≠ espOk) :
    (espErrorCheck done >>= next) = .error done := by
  rw [espErrorCheck, if_neg failed]
  rfl

theorem espErrorCheck_ok {firmware : Firmware δ τ} :
    (espErrorCheck done >>= next) = .ok firmware ↔ done.1 = espOk ∧ next done.2 = .ok firmware := by
  by_cases passed : done.1 = espOk
  · rw [espErrorCheck, if_pos passed]
    exact (and_iff_right passed).symm
  · rw [espErrorCheck, if_neg passed]
    exact iff_of_false nofun (fun both => passed both.1)

theorem espErrorCheck_passed (passed : done.1 = espOk) :
    (espErrorCheck done >>= next) = next done.2 := by
  rw [espErrorCheck, if_pos passed]
  rfl

end Checks

section Deliveries

theorem deliver_closed {firmware : Firmware δ τ}
    (closed : firmware.station.driver.initialized = false) (arrivals : List Delivery) :
    firmware.deliver arrivals = firmware := by
  have same : arrivals.foldl onDataReceived firmware.station.driver = firmware.station.driver := by
    induction arrivals with
    | nil => rfl
    | cons delivery rest ih =>
        rw [List.foldl_cons, EspNowDriver.onDataReceived_ignored
          (EspNowDriver.acceptDelivery_closed closed delivery)]
        exact ih
  unfold Firmware.deliver
  rw [same]

/-- A driver that is open and whose queue nobody has read yet. -/
structure Filling (depth : Nat) (contents : List Content) (before driver : Driver) : Prop where
  initialized : driver.initialized = true
  receives : ∃ queue packets refused, driver =
      { before with receiveQueue := some queue, droppedReceivePackets := refused } ∧
    queue.depth = depth ∧ packets.map ReceivedPacket.content = contents ∧
    queue.Unread packets refused

theorem filling_received {depth : Nat} {contents : List Content} {before driver : Driver}
    (filling : Filling depth contents before driver) (delivery : Delivery) :
    Filling depth (contents ++ delivery.content.toList) before
      (onDataReceived driver delivery) := by
  obtain ⟨initialized, queue, packets, refused, rfl, same, carried, unread⟩ := filling
  have content := EspNowDriver.acceptDelivery_content initialized rfl delivery
  rw [← content]
  cases accepted : EspNowDriver.acceptDelivery
    { before with receiveQueue := some queue, droppedReceivePackets := refused } delivery with
  | none =>
      rw [EspNowDriver.onDataReceived_ignored accepted, Option.map_none, Option.toList_none,
        List.append_nil]
      exact ⟨initialized, queue, packets, refused, rfl, same, carried, unread⟩
  | some packet =>
      refine ⟨?_, (queue.send packet).2, packets ++ [packet],
        refused + if (queue.send packet).1 then 0 else 1, ?_, ?_, ?_, unread.send packet⟩
      · exact (EspNowDriver.onDataReceived_queued rfl accepted).2.trans initialized
      · unfold onDataReceived
        rw [accepted]
        dsimp only
        rw [@EspNowDriver.queueSend_created _ queue rfl]
        cases (queue.send packet).1 with
        | true => simp
        | false => rfl
      · exact (queue.send_depth packet).trans same
      · rw [List.map_append, carried]
        rfl

theorem filling_run {depth : Nat} {contents : List Content} {before driver : Driver}
    (filling : Filling depth contents before driver) (arrivals : List Delivery) :
    Filling depth (contents ++ arrivals.filterMap Delivery.content) before
      (arrivals.foldl onDataReceived driver) := by
  induction arrivals generalizing contents driver with
  | nil =>
      rw [List.filterMap_nil, List.append_nil]
      exact filling
  | cons delivery rest ih =>
      have next := ih (filling_received filling delivery)
      rw [List.append_assoc] at next
      rw [List.filterMap_cons]
      cases content : delivery.content with
      | none => simpa [content] using next
      | some value => simpa [content] using next

theorem onDataReceived_kept (driver : Driver) (delivery : Delivery) :
    (onDataReceived driver delivery).initialized = driver.initialized ∧
      (onDataReceived driver delivery).config = driver.config := by
  unfold onDataReceived EspNowDriver.queueSend
  cases EspNowDriver.acceptDelivery driver delivery with
  | none => exact ⟨rfl, rfl⟩
  | some packet =>
      cases driver.receiveQueue with
      | none => exact ⟨rfl, rfl⟩
      | some queue =>
          dsimp only [Option.map_some]
          cases (queue.send packet).1 with
          | true => exact ⟨rfl, rfl⟩
          | false => exact ⟨rfl, rfl⟩

theorem deliver_kept (firmware : Firmware δ τ) (arrivals : List Delivery) :
    (firmware.deliver arrivals).station.driver.initialized =
        firmware.station.driver.initialized ∧
      (firmware.deliver arrivals).station.driver.config = firmware.station.driver.config := by
  change (arrivals.foldl onDataReceived firmware.station.driver).initialized = _ ∧
    (arrivals.foldl onDataReceived firmware.station.driver).config = _
  generalize firmware.station.driver = driver
  induction arrivals generalizing driver with
  | nil => exact ⟨rfl, rfl⟩
  | cons delivery rest ih =>
      obtain ⟨initialized, config⟩ := onDataReceived_kept driver delivery
      obtain ⟨initialized', config'⟩ := ih (onDataReceived driver delivery)
      exact ⟨initialized'.trans initialized, config'.trans config⟩

theorem deliver_append (firmware : Firmware δ τ) (earlier later : List Delivery) :
    (firmware.deliver earlier).deliver later = firmware.deliver (earlier ++ later) := by
  unfold Firmware.deliver
  rw [List.foldl_append]

/-- Deliveries before the main loop are to it like its first events. -/
theorem deliver_receiver (firmware : Firmware δ τ) (arrivals : List Delivery) :
    (firmware.deliver arrivals).receiver =
      run loopStep firmware.receiver (arrivals.map LoopEvent.deliver) := by
  induction arrivals generalizing firmware with
  | nil => rfl
  | cons delivery rest ih => exact ih (firmware.deliver [delivery])

/-- `add_peer` has no part in the queue. -/
theorem initializeTxu01Peer_deliver (config : Config) (result : EspErr) (firmware : Firmware δ τ)
    (arrivals : List Delivery) :
    initializeTxu01Peer table config result (firmware.deliver arrivals) =
      ((initializeTxu01Peer table config result firmware).1,
        (initializeTxu01Peer table config result firmware).2.deliver arrivals) := by
  obtain ⟨initialized, stored⟩ := deliver_kept firmware arrivals
  have same : EspNowDriver.addPeer table (firmware.deliver arrivals).station (txu01Peer config)
      result = EspNowDriver.addPeer table firmware.station (txu01Peer config) result := by
    unfold EspNowDriver.addPeer
    rw [initialized, stored]
    rfl
  unfold initializeTxu01Peer peerStep EspNowDriver.peerOutput
  dsimp only
  rw [same]
  rfl

end Deliveries

section Steps

variable {config : Config} (valid : config.Valid)
include valid

theorem initializeGateway_ok (advancing : Advancing env) (firmware : Firmware δ τ)
    (fresh : firmware.gateway.initialized = false) :
    (initializeGateway advancing config firmware).1 = espOk ∧
      EspNowCanGateway.init
          { transmit := some (transmitCallback env advancing)
            commandRouter := config.commandRouter } firmware.gateway =
        (espOk, (initializeGateway advancing config firmware).2.gateway) := by
  have initialised : (EspNowCanGateway.init
      { transmit := some (transmitCallback env advancing)
        commandRouter := config.commandRouter } firmware.gateway).1 = espOk := by
    unfold EspNowCanGateway.init
    rw [if_neg (by simp [fresh]), if_neg (by simp [valid.commandRouter])]
  exact ⟨initialised, Prod.ext initialised rfl⟩

theorem initializeWifi_ok_iff (stops : Bool) (outcome : WifiManager.InitOutcome)
    {firmware : Firmware δ τ} (closed : firmware.wifi.initialized = false) :
    (initializeWifi stops config outcome firmware).1 = espOk ↔
      (config.useCustomStationMac = true →
        WifiManager.isValidUnicastMac config.stationMac = true) ∧
      outcome.Succeeds (wifiConfig config) := by
  have channel : WifiManager.isValidChannel config.espNowChannel = true := by
    simpa [WifiManager.isValidChannel] using valid.channel
  exact (WifiManager.init_ok_iff closed (wifiConfig config) outcome).trans (and_iff_right channel)

theorem initializeEspNow_ok_iff (outcome : EspNowDriver.InitOutcome) (firmware : Firmware δ τ)
    (closed : firmware.station.driver.initialized = false) :
    (initializeEspNow table config outcome firmware).1 = espOk ↔ outcome.NoFailure := by
  have acceptable : (espNowConfig config).Acceptable :=
    ⟨rfl, rfl, valid.receiveQueue, valid.sendResultQueue⟩
  exact (EspNowDriver.init_ok_iff closed (espNowConfig config) outcome).trans
    (and_iff_right acceptable)

/-- The driver right after its `init`. -/
def openedDriver (config : Config) : Driver :=
  { config := espNowConfig config
    receiveQueue := some (.empty config.receiveQueueDepth.toNat)
    sendResultQueue := some (.empty config.sendResultQueueDepth.toNat)
    initialized := true
    espNow := ⟨true, true, true⟩ }

omit valid in
theorem openedDriver_filling (config : Config) :
    Filling config.receiveQueueDepth.toNat [] (openedDriver config) (openedDriver config) :=
  ⟨rfl, _, [], 0, rfl, rfl, rfl, BoundedQueue.unread_empty _⟩

omit valid in
theorem initializeEspNow_opened {outcome : EspNowDriver.InitOutcome} {firmware : Firmware δ τ}
    (fresh : firmware.station = { peers := table.blank })
    (success : (initializeEspNow table config outcome firmware).1 = espOk) :
    (initializeEspNow table config outcome firmware).2.station.driver = openedDriver config ∧
      (table.Documented →
        table.getPeer (initializeEspNow table config outcome firmware).2.station.peers =
          fun _ => none) := by
  unfold initializeEspNow at success ⊢
  rw [fresh] at success ⊢
  have statements := @EspNowDriver.init_ok {} (espNowConfig config) outcome rfl success
  unfold peerStep EspNowDriver.peerOutput
  dsimp only
  rw [statements]
  refine ⟨rfl, fun documented => ?_⟩
  rw [List.foldl_nil, documented.life, if_neg (by simp)]
  exact documented.blank

/-- `add_peer` makes its call, since none of its checks fails. -/
theorem initializeTxu01Peer_made (result : EspErr) (firmware : Firmware δ τ)
    (initialized : firmware.station.driver.initialized = true) :
    initializeTxu01Peer table config result firmware =
      (result,
        { firmware with
          station :=
            { driver := firmware.station.driver
              peers := table.perform firmware.station.peers
                (EspNowDriver.putAction table firmware.station (txu01Peer config) result) }
          txu01Mac := if result = espOk then config.txu01Mac else firmware.txu01Mac }) := by
  have unicast : EspNowDriver.isZeroAddress (txu01Peer config).mac = false :=
    isValidUnicastMac_zero valid.txu01Mac
  have made : EspNowDriver.addPeer table firmware.station (txu01Peer config) result =
      (result, [EspNowDriver.putAction table firmware.station (txu01Peer config) result]) := by
    unfold EspNowDriver.addPeer EspNowDriver.putAction
    rw [if_neg (by simp [initialized]), if_neg ?_, if_neg (by simp [txu01Peer])]
    · split
      · rfl
      · rfl
    · rw [unicast]
      change ¬ (¬ true = true ∨ ¬ true = true ∨ false = true)
      decide
  have output : EspNowDriver.peerOutput table firmware.station
      (.addPeer (txu01Peer config) result) =
        { returned := result
          actions :=
            [EspNowDriver.putAction table firmware.station (txu01Peer config) result] } := by
    rw [EspNowDriver.peerOutput, made]
  unfold initializeTxu01Peer
  rw [EspNowDriver.peerStep_eq output]
  rfl

end Steps

variable (table) in
/-- What is there as soon as the callback is live. -/
structure Opened (advancing : Advancing env) (config : Config) (firmware : Firmware δ τ) :
    Prop where
  can : Started env config.commandRouter advancing firmware.state
  begun : ∃ spi world, CanManager.begin env spi { world := world } = (espOk, firmware.canManager)
  cache : firmware.requestCache = {}
  wifi : firmware.wifi.initialized = true ∧ WifiManager.Open firmware.wifi
  channel : firmware.wifi.config.channel = config.espNowChannel
  driver : firmware.station.driver = openedDriver config
  peers : table.Documented → table.getPeer firmware.station.peers = fun _ => none

/-- The last check of `run`, between two rounds of deliveries. -/
theorem Opened.txu01Peer_added {advancing : Advancing env} {config : Config}
    {firmware : Firmware δ τ} (opened : Opened table advancing config firmware)
    (valid : config.Valid) (result : EspErr) (before after : List Delivery) :
    let done := initializeTxu01Peer table config result (firmware.deliver before)
    done.1 = result ∧
      (result = espOk → Operational table advancing config
        ((before ++ after).filterMap Delivery.content) (done.2.deliver after)) := by
  have filling := filling_run (openedDriver_filling config) before
  have live : (firmware.deliver before).station.driver =
      before.foldl onDataReceived (openedDriver config) :=
    congrArg (before.foldl onDataReceived) opened.driver
  rw [← live] at filling
  obtain ⟨_, _, _, halfway, _⟩ := filling.receives
  obtain ⟨initialized, queue, packets, refused, received, depth, carried, unread⟩ :=
    filling_run filling after
  rw [List.nil_append, ← List.filterMap_append] at carried
  dsimp only
  rw [initializeTxu01Peer_made valid result _ filling.initialized]
  refine ⟨rfl, ?_⟩
  rintro rfl
  refine ⟨⟨opened.can.manager, opened.can.gateway⟩, opened.begun, opened.cache, rfl, opened.wifi,
    opened.channel, initialized, ⟨queue, congrArg Driver.receiveQueue received, depth, ?_⟩, ?_,
    congrArg Driver.sendResultQueue received, congrArg Driver.droppedSendResults received, ?_⟩
  · rw [unread.kept, List.map_take, carried, depth]
  · rw [← carried, List.length_map, ← depth, ← unread.counted]
    exact congrArg Driver.droppedReceivePackets received
  · intro documented
    have peers := EspNowDriver.getPeer_put documented (firmware.deliver before).station
      (txu01Peer config)
    rw [halfway, show table.getPeer (firmware.deliver before).station.peers = _ from
      opened.peers documented] at peers
    exact peers

variable (table) in
/-- The checks of the gateway, of the driver and of `add_peer` repeat `validate_config`,
that of the Wi-Fi manager does not. -/
theorem start_ends (advancing : Advancing env) (stops : Bool) (config : Config)
    (outcome : StartOutcome) (arrivals : Nat → List Delivery) (world : World δ) :
    StartEnds table advancing config outcome arrivals world
      (startDuring table advancing stops config outcome arrivals (powerOn table world)) := by
  unfold startDuring
  have off : (powerOn table world).station.driver.initialized = false := rfl
  rw [deliver_closed off]
  by_cases valid : config.Valid
  swap
  · rw [espErrorCheck_failed (fun ok => valid ((validateConfig_ok_iff config).mp ok))]
    exact .aborted (fun ok => valid ((validateConfig_ok_iff config).mp ok))
      (fun succeeds => valid succeeds.valid)
  rw [espErrorCheck_passed ((validateConfig_ok_iff config).mpr valid)]
  dsimp only
  rw [deliver_closed off]
  by_cases can : (CanManager.begin env outcome.spi { world := world }).1 = espOk
  swap
  · have failed : (beginCan env outcome.spi (powerOn table world)).1 ≠ espOk := can
    rw [espErrorCheck_failed failed]
    exact .aborted failed (fun succeeds => can succeeds.can)
  have passed : (beginCan env outcome.spi (powerOn table world)).1 = espOk := can
  rw [espErrorCheck_passed passed]
  generalize begun : (beginCan env outcome.spi (powerOn table world)).2 = second
  have off : second.station.driver.initialized = false := by rw [← begun]; rfl
  rw [deliver_closed off]
  obtain ⟨gateway, initialised⟩ := initializeGateway_ok valid advancing second
    (by rw [← begun]; rfl)
  rw [espErrorCheck_passed gateway]
  generalize routed : (initializeGateway advancing config second).2 = third at initialised ⊢
  have off : third.station.driver.initialized = false := by rw [← routed]; exact off
  rw [deliver_closed off]
  have closed : third.wifi.initialized = false := by
    rw [← routed, ← begun]
    rfl
  have wifiChecks := initializeWifi_ok_iff valid stops outcome.wifi closed
  by_cases wifi : (initializeWifi stops config outcome.wifi third).1 = espOk
  swap
  · rw [espErrorCheck_failed wifi]
    exact .aborted wifi
      (fun succeeds => wifi (wifiChecks.mpr ⟨succeeds.stationMac, succeeds.wifi⟩))
  rw [espErrorCheck_passed wifi]
  have opened := WifiManager.init_opens closed (wifiConfig config) outcome.wifi stops wifi
  change (initializeWifi stops config outcome.wifi third).2.wifi = _ at opened
  generalize joined : (initializeWifi stops config outcome.wifi third).2 = fourth at opened ⊢
  have fresh : fourth.station = { peers := table.blank } := by
    rw [← joined, ← routed, ← begun]
    rfl
  have off : fourth.station.driver.initialized = false := by rw [fresh]
  rw [deliver_closed off]
  have espNowChecks : (initializeEspNow table config outcome.espNow fourth).1 = espOk ↔
      outcome.espNow.NoFailure := initializeEspNow_ok_iff valid outcome.espNow fourth off
  by_cases espNow : (initializeEspNow table config outcome.espNow fourth).1 = espOk
  swap
  · rw [espErrorCheck_failed espNow]
    exact .aborted espNow (fun succeeds => espNow (espNowChecks.mpr succeeds.espNow))
  rw [espErrorCheck_passed espNow]
  have ready : Opened table advancing config
      (initializeEspNow table config outcome.espNow fourth).2 := by
    obtain ⟨driver, noPeers⟩ := initializeEspNow_opened fresh espNow
    have manager : CanManager.begin env outcome.spi { world := world } =
        (espOk, fourth.canManager) := by
      rw [← joined, ← routed, ← begun]
      exact Prod.ext can rfl
    have sameGateway : fourth.gateway = third.gateway := by rw [← joined]; rfl
    refine ⟨⟨⟨outcome.spi, _, fourth.canManager, manager, rfl⟩, second.gateway, ?_, ?_⟩,
      ⟨outcome.spi, world, manager⟩, ?_, ?_, ?_, driver, noPeers⟩
    · rw [← begun]
      rfl
    · rw [initialised]
      exact congrArg _ sameGateway.symm
    · rw [← joined, ← routed, ← begun]
      rfl
    · change fourth.wifi.initialized = true ∧ WifiManager.Open fourth.wifi
      rw [opened]
      exact ⟨rfl, rfl, rfl, rfl⟩
    · change fourth.wifi.config.channel = config.espNowChannel
      rw [opened]
      rfl
  obtain ⟨returned, operational⟩ :=
    ready.txu01Peer_added valid outcome.addPeer (arrivals 5) (arrivals 6)
  by_cases addPeer : outcome.addPeer = espOk
  swap
  · have failed := fun ok => addPeer (returned.symm.trans ok)
    rw [espErrorCheck_failed failed]
    exact .aborted failed (fun succeeds => addPeer succeeds.addPeer)
  obtain ⟨stationMac, wifiCalls⟩ := wifiChecks.mp wifi
  rw [espErrorCheck_passed (returned.trans addPeer)]
  exact .looping ⟨valid, can, stationMac, wifiCalls, espNowChecks.mp espNow, addPeer⟩
    (operational addPeer)

theorem start_operational {advancing : Advancing env} {stops : Bool} {config : Config}
    {outcome : StartOutcome} {world : World δ} {firmware : Firmware δ τ}
    (started : start table advancing stops config outcome (powerOn table world) = .ok firmware) :
    outcome.Succeeds env config world ∧ Operational table advancing config [] firmware := by
  have ends := start_ends table advancing stops config outcome (fun _ => []) world
  rw [show startDuring table advancing stops config outcome (fun _ => []) (powerOn table world) =
    .ok firmware from started] at ends
  cases ends with
  | looping succeeds operational => exact ⟨succeeds, operational⟩

/-- The start ends as it does without deliveries, and then with them. -/
theorem startDuring_start {advancing : Advancing env} {stops : Bool} {config : Config}
    {outcome : StartOutcome} {arrivals : Nat → List Delivery} {world : World δ}
    {firmware : Firmware δ τ}
    (started : startDuring table advancing stops config outcome arrivals (powerOn table world) =
      .ok firmware) :
    ∃ quiet, start table advancing stops config outcome (powerOn table world) = .ok quiet ∧
      firmware = quiet.deliver (arrivals 5 ++ arrivals 6) := by
  have nothing (firmware : Firmware δ τ) : firmware.deliver [] = firmware := rfl
  -- up to the fifth check the driver is as closed as at first
  have closed : (powerOn table world).station.driver.initialized = false := rfl
  unfold startDuring at started
  unfold start startDuring
  simp only [espErrorCheck_ok, nothing] at started ⊢
  rw [deliver_closed closed, deliver_closed closed] at started
  generalize begun : (beginCan env outcome.spi (powerOn table world)).2 = second at started ⊢
  have closed : second.station.driver.initialized = false := by rw [← begun]; rfl
  rw [deliver_closed closed] at started
  generalize routed : (initializeGateway advancing config second).2 = third at started ⊢
  have closed : third.station.driver.initialized = false := by rw [← routed]; exact closed
  rw [deliver_closed closed] at started
  generalize joined : (initializeWifi stops config outcome.wifi third).2 = fourth at started ⊢
  have closed : fourth.station.driver.initialized = false := by rw [← joined]; exact closed
  rw [deliver_closed closed, initializeTxu01Peer_deliver] at started
  obtain ⟨valid, can, gateway, wifi, espNow, peer, entered⟩ := started
  refine ⟨_, ⟨valid, can, gateway, wifi, espNow, peer, rfl⟩, ?_⟩
  rw [← deliver_append]
  exact (Except.ok.inj entered).symm

variable (table) in
/-- Whatever ESP-IDF and the CAN chip do, and whatever packets arrive meanwhile: the main loop
is entered exactly if the configuration is valid, the CAN manager begins and every call succeeds
that may not fail, and then everything is in place, as if the packets came right after a start
without any; else the start aborts with an error. -/
theorem start_iff (advancing : Advancing env) (stops : Bool) (config : Config)
    (outcome : StartOutcome) (arrivals : Nat → List Delivery) (world : World δ) :
    let started := startDuring table advancing stops config outcome arrivals (powerOn table world)
    ((∃ firmware, started = .ok firmware) ↔ outcome.Succeeds env config world) ∧
      (∀ firmware, started = .ok firmware →
        Operational table advancing config (heard arrivals) firmware ∧
        ∃ quiet, start table advancing stops config outcome (powerOn table world) = .ok quiet ∧
          firmware.receiver = run loopStep quiet.receiver
            ((arrivals 5 ++ arrivals 6).map LoopEvent.deliver)) ∧
      ∀ error firmware, started = .error (error, firmware) → error ≠ espOk := by
  intro started
  have ends : StartEnds table advancing config outcome arrivals world started :=
    start_ends table advancing stops config outcome arrivals world
  have early : ∀ firmware, started = .ok firmware →
      ∃ quiet, start table advancing stops config outcome (powerOn table world) = .ok quiet ∧
        firmware.receiver = run loopStep quiet.receiver
          ((arrivals 5 ++ arrivals 6).map LoopEvent.deliver) := by
    intro firmware entered
    obtain ⟨quiet, alone, rfl⟩ := startDuring_start entered
    exact ⟨quiet, alone, deliver_receiver quiet _⟩
  generalize started = result at ends early
  cases ends with
  | looping succeeds operational =>
      refine ⟨iff_of_true ⟨_, rfl⟩ succeeds, ?_, ?_⟩
      · rintro firmware ⟨⟩
        exact ⟨operational, early _ rfl⟩
      · rintro error firmware ⟨⟩
  | aborted failed fails =>
      refine ⟨iff_of_false ?_ fails, ?_, ?_⟩
      · rintro ⟨firmware, ⟨⟩⟩
      · rintro firmware ⟨⟩
      · rintro error firmware ⟨⟩
        exact failed

theorem defaults_valid :
    ({} : Config).Valid ∧ WifiManager.isValidUnicastMac ({} : Config).stationMac = true := by
  refine ⟨⟨by decide, by decide, by decide, by decide, ?_⟩, by decide⟩
  exact VehicleCanProtocol.makeCommandRouterConfig_valid

/-- The shipped configuration in front of a chip that takes it, nothing failing. -/
theorem prompt_succeeds :
    ({} : StartOutcome).Succeeds CanManager.promptEnvironment {}
      { device := Mcp2515.blankChip } := by
  have begun : (CanManager.begin CanManager.promptEnvironment ⟨espOk, espOk⟩
      { world := { device := Mcp2515.blankChip } }).1 = espOk :=
    congrArg Prod.fst CanManager.promptManager_begun
  refine ⟨defaults_valid.1, begun, fun _ => defaults_valid.2, ?_, ?_, rfl⟩
  · exact ⟨rfl, rfl, rfl, rfl, rfl, rfl, fun _ => rfl, rfl, rfl, rfl⟩
  · exact ⟨rfl, rfl, rfl, rfl, rfl⟩

theorem prompt_starts :
    ∃ firmware, start functionTable prompt_advancing true {} {}
      (powerOn functionTable { device := Mcp2515.blankChip }) = .ok firmware := by
  have ends := start_ends functionTable prompt_advancing true {} {} (fun _ => [])
    { device := Mcp2515.blankChip }
  unfold start
  generalize startDuring functionTable prompt_advancing true {} {} (fun _ => []) _ = result
    at ends ⊢
  cases ends with
  | looping _ _ => exact ⟨_, rfl⟩
  | aborted _ fails => exact absurd prompt_succeeds fails

/-- Ten packets before the peer is added, for a queue with room for eight. -/
def earlyArrivals (turn : Nat) : List Delivery :=
  if turn = 5 then List.replicate 10 (requestFrom sampleMac) else []

theorem start_iff_prompt :
    ∃ firmware, startDuring functionTable prompt_advancing true {} {} earlyArrivals
        (powerOn functionTable { device := Mcp2515.blankChip }) = .ok firmware ∧
      firmware.station.driver.droppedReceivePackets = 2 ∧
      (functionTable.getPeer firmware.station.peers ({} : Config).txu01Mac).isSome = true := by
  obtain ⟨entered, ready, _⟩ := start_iff functionTable prompt_advancing true {} {} earlyArrivals
    { device := Mcp2515.blankChip }
  obtain ⟨firmware, started⟩ := entered.mpr prompt_succeeds
  have operational := (ready firmware started).1
  refine ⟨firmware, started, operational.droppedReceivePackets, ?_⟩
  rw [operational.peers EspNowDriver.functionTable_documented, Function.update_self]
  rfl

end Application
