import Rxu01.EspNowDriver
import Rxu01.Unwinding

set_option autoImplicit false

/- `wifi_manager.cpp`: the start-up of Wi-Fi with its unwinding, the tear-down, and
the channel. What an ESP-IDF call returns is a parameter. -/
namespace WifiManager

open EspIdf (EspErr espErrInvalidArg espErrInvalidState espOk)
open EspNowDriver (Mac macAddressSize)
open Unwinding (attempt)

abbrev espErrNvsNoFreePages : EspErr := 0x110D
abbrev espErrNvsNewVersionFound : EspErr := 0x1110

/-- `wifi_storage_t`. -/
structure WifiStorage where
  value : Nat
  deriving DecidableEq, Repr

/-- `wifi_ps_type_t`. -/
structure WifiPsType where
  value : Nat
  deriving DecidableEq, Repr

def WifiStorage.ram : WifiStorage := ⟨1⟩
def WifiPsType.none : WifiPsType := ⟨0⟩

structure Config where
  channel : UInt8 := 1
  storage : WifiStorage := .ram
  powerSave : WifiPsType := .none
  useCustomStationMac : Bool := false
  stationMac : Mac := Vector.replicate macAddressSize 0
  deriving DecidableEq

def isValidChannel (channel : UInt8) : Bool := channel ≥ 1 && channel ≤ 13

def isValidUnicastMac (mac : Mac) : Bool :=
  let isZero := mac.toList.all (· == 0)
  let isMulticast := mac[0] &&& 0x01 != 0
  !isZero && !isMulticast

/-- What the Wi-Fi driver remembers: whether it is there, whether it runs, and the
channel last set. -/
structure Radio where
  initialized : Bool := false
  started : Bool := false
  channel : Option UInt8 := none
  deriving DecidableEq

/-- The variables of the module, with the state of the Wi-Fi driver behind them. -/
structure Manager where
  initialized : Bool := false
  config : Config := {}
  radio : Radio := {}

/-- The ESP-IDF calls, each with what it returns, and the stores to the module's variables. -/
inductive Action where
  | nvsFlashInit (result : EspErr)
  | nvsFlashErase (result : EspErr)
  | netifInit (result : EspErr)
  | eventLoopCreateDefault (result : EspErr)
  | wifiInit (result : EspErr)
  | wifiSetStorage (storage : WifiStorage) (result : EspErr)
  | wifiSetModeSta (result : EspErr)
  | wifiSetMac (mac : Mac) (result : EspErr)
  | wifiStart (result : EspErr)
  | wifiSetChannel (channel : UInt8) (result : EspErr)
  | wifiSetPs (powerSave : WifiPsType) (result : EspErr)
  | wifiStop (result : EspErr)
  | wifiDeinit (result : EspErr)
  | storeConfig (config : Config)
  | storeChannel (channel : UInt8)
  | storeInitialized (value : Bool)
  deriving DecidableEq

def Radio.init (radio : Radio) : Radio := { radio with initialized := true }

def Radio.start (radio : Radio) : Radio := { radio with started := true }

def Radio.setChannel (radio : Radio) (channel : UInt8) : Radio :=
  { radio with channel := some channel }

def Radio.stop (radio : Radio) : Radio := { radio with started := false }

/-- Whether `esp_wifi_deinit` also stops a driver that still runs is a parameter. -/
def Radio.deinit (stops : Bool) (radio : Radio) : Radio :=
  { radio with initialized := false, started := radio.started && !stops }

/-- A call that fails has no effect. -/
def Manager.effect (manager : Manager) (result : EspErr) (change : Radio → Radio) : Manager :=
  if result = espOk then { manager with radio := change manager.radio } else manager

def perform (stops : Bool) (manager : Manager) : Action → Manager
  | .nvsFlashInit _ => manager
  | .nvsFlashErase _ => manager
  | .netifInit _ => manager
  | .eventLoopCreateDefault _ => manager
  | .wifiInit result => manager.effect result Radio.init
  | .wifiSetStorage _ _ => manager
  | .wifiSetModeSta _ => manager
  | .wifiSetMac _ _ => manager
  | .wifiStart result => manager.effect result Radio.start
  | .wifiSetChannel channel result => manager.effect result (Radio.setChannel · channel)
  | .wifiSetPs _ _ => manager
  | .wifiStop result => manager.effect result Radio.stop
  | .wifiDeinit result => manager.effect result (Radio.deinit stops)
  | .storeConfig config => { manager with config := config }
  | .storeChannel channel => { manager with config := { manager.config with channel := channel } }
  | .storeInitialized value => { manager with initialized := value }

/-- What the calls made by one `init` return. -/
structure InitOutcome where
  nvsFlashInit : EspErr := espOk
  nvsFlashErase : EspErr := espOk
  nvsFlashInitAgain : EspErr := espOk
  netifInit : EspErr := espOk
  eventLoopCreateDefault : EspErr := espOk
  wifiInit : EspErr := espOk
  wifiSetStorage : EspErr := espOk
  wifiSetMode : EspErr := espOk
  wifiSetMac : EspErr := espOk
  wifiStart : EspErr := espOk
  wifiSetChannel : EspErr := espOk
  wifiSetPs : EspErr := espOk
  wifiStop : EspErr := espOk
  wifiDeinit : EspErr := espOk
  deriving DecidableEq

def initNvs (outcome : InitOutcome) : EspErr × List Action :=
  if outcome.nvsFlashInit = espErrNvsNoFreePages ∨
      outcome.nvsFlashInit = espErrNvsNewVersionFound then
    if outcome.nvsFlashErase ≠ espOk then
      (outcome.nvsFlashErase,
        [.nvsFlashInit outcome.nvsFlashInit, .nvsFlashErase outcome.nvsFlashErase])
    else
      (outcome.nvsFlashInitAgain,
        [.nvsFlashInit outcome.nvsFlashInit, .nvsFlashErase outcome.nvsFlashErase,
          .nvsFlashInit outcome.nvsFlashInitAgain])
  else (outcome.nvsFlashInit, [.nvsFlashInit outcome.nvsFlashInit])

def cleanupAfterFailedInit (wifiStarted : Bool) (outcome : InitOutcome) : List Action :=
  (if wifiStarted then [.wifiStop outcome.wifiStop] else []) ++ [.wifiDeinit outcome.wifiDeinit]

def succeeded (result : EspErr) : Bool := result == espOk

/-- `ESP_ERR_INVALID_STATE` says that another component was first. -/
def succeededOrDone (result : EspErr) : Bool := result == espOk || result == espErrInvalidState

/-- The value `init` returns and the statements it runs. -/
def init (manager : Manager) (config : Config) (outcome : InitOutcome) : EspErr × List Action :=
  if manager.initialized then (espOk, [])
  else if ¬ isValidChannel config.channel ∨
      (config.useCustomStationMac ∧ ¬ isValidUnicastMac config.stationMac) then
    (espErrInvalidArg, [])
  else
    attempt succeeded [] (initNvs outcome) <|
    attempt succeededOrDone [] (outcome.netifInit, [.netifInit outcome.netifInit]) <|
    attempt succeededOrDone []
      (outcome.eventLoopCreateDefault, [.eventLoopCreateDefault outcome.eventLoopCreateDefault]) <|
    attempt succeeded [] (outcome.wifiInit, [.wifiInit outcome.wifiInit]) <|
    attempt succeeded (cleanupAfterFailedInit false outcome)
      (outcome.wifiSetStorage, [.wifiSetStorage config.storage outcome.wifiSetStorage]) <|
    attempt succeeded (cleanupAfterFailedInit false outcome)
      (outcome.wifiSetMode, [.wifiSetModeSta outcome.wifiSetMode]) <|
    attempt succeeded (cleanupAfterFailedInit false outcome)
      (if config.useCustomStationMac then
        (outcome.wifiSetMac, [.wifiSetMac config.stationMac outcome.wifiSetMac])
      else (espOk, [])) <|
    attempt succeeded (cleanupAfterFailedInit false outcome)
      (outcome.wifiStart, [.wifiStart outcome.wifiStart]) <|
    attempt succeeded (cleanupAfterFailedInit true outcome)
      (outcome.wifiSetChannel, [.wifiSetChannel config.channel outcome.wifiSetChannel]) <|
    attempt succeeded (cleanupAfterFailedInit true outcome)
      (outcome.wifiSetPs, [.wifiSetPs config.powerSave outcome.wifiSetPs])
      (espOk, [.storeConfig config, .storeInitialized true])

/-- `stop` and `deinit` are what the two calls of the tear-down return. -/
def deinit (manager : Manager) (stop deinit : EspErr) : EspErr × List Action :=
  if ¬ manager.initialized then (espOk, [])
  else
    let firstError := if stop ≠ espOk then stop else espOk
    let firstError := if firstError = espOk ∧ deinit ≠ espOk then deinit else firstError
    (firstError,
      [.wifiStop stop, .wifiDeinit deinit, .storeInitialized false, .storeConfig {}])

def isInitialized (manager : Manager) : Bool := manager.initialized

def setChannel (manager : Manager) (channel : UInt8) (result : EspErr) : EspErr × List Action :=
  if ¬ manager.initialized then (espErrInvalidState, [])
  else if ¬ isValidChannel channel then (espErrInvalidArg, [])
  else
    (result,
      .wifiSetChannel channel result :: if result = espOk then [.storeChannel channel] else [])

def getChannel (manager : Manager) : UInt8 :=
  if manager.initialized then manager.config.channel else 0

end WifiManager
