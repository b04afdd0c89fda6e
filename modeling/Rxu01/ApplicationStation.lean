import Rxu01.ApplicationStart

set_option autoImplicit false

/- The main loop beside the send callback, whose results it never reads. -/
namespace Application

open EspNowDriver (Delivery Driver PeerTable ReceivedPacket SendInfo SendResult SendStatus
  acceptDelivery acceptReport functionTable onDataReceived onDataSent queueSend receive)
open Mcp2515 (Advancing)
open Peripheral (Environment World)
open Reactive (Projects history innerEntry run)

variable {σ : Type}

/-- A step of the loop or of the receive callback, or a call of `onDataSent`. -/
inductive StationEvent where
  | loop (event : LoopEvent)
  | sent (txInfo : Option SendInfo) (status : SendStatus)

def stationStep (receiver : Receiver σ) : StationEvent → Receiver σ × Option LoopEffect
  | .loop event => ((loopStep receiver event).1, some (loopStep receiver event).2)
  | .sent txInfo status =>
      ({ receiver with driver := onDataSent receiver.driver txInfo status }, none)

def StationEvent.loopEvent : StationEvent → Option LoopEvent
  | .loop event => some event
  | .sent _ _ => none

/-- What `onDataSent` was told of, as far as it is there. -/
def StationEvent.report : StationEvent → Option SendResult
  | .sent txInfo status =>
      (txInfo.bind SendInfo.desAddr).map fun destination => ⟨destination, status⟩
  | .loop _ => none

/-- Everything but the send results. -/
def driverWithoutResults (driver : Driver) : Driver :=
  { driver with sendResultQueue := none, droppedSendResults := 0 }

def withoutResults (receiver : Receiver σ) : Receiver σ :=
  { receiver with driver := driverWithoutResults receiver.driver }

section Loop

variable (driver : Driver)

theorem queueSend_withoutResults (packet : ReceivedPacket) :
    queueSend (driverWithoutResults driver) packet =
      (queueSend driver packet).map fun sent => (sent.1, driverWithoutResults sent.2) := by
  unfold queueSend
  rw [Option.map_map]
  rfl

theorem onDataReceived_withoutResults (delivery : Delivery) :
    onDataReceived (driverWithoutResults driver) delivery =
      driverWithoutResults (onDataReceived driver delivery) := by
  have accepted : acceptDelivery (driverWithoutResults driver) delivery =
      acceptDelivery driver delivery := rfl
  unfold onDataReceived
  rw [accepted]
  cases acceptDelivery driver delivery with
  | none => rfl
  | some packet =>
      dsimp only
      rw [queueSend_withoutResults]
      rcases queueSend driver packet with _ | ⟨_ | _, after⟩
      · rfl
      · rfl
      · rfl

theorem receive_withoutResults :
    receive (driverWithoutResults driver) =
      ((receive driver).1, driverWithoutResults (receive driver).2) := by
  rcases driver with ⟨config, receiveQueue, sendResultQueue, initialized, _, _, espNow⟩
  cases initialized with
  | false => rfl
  | true =>
      cases receiveQueue with
      | none => rfl
      | some queue => rfl

/-- The loop does not look at the send results. -/
theorem loopStep_withoutResults (receiver : Receiver σ) (event : LoopEvent) :
    loopStep (withoutResults receiver) event =
      (withoutResults (loopStep receiver event).1, (loopStep receiver event).2) := by
  cases event with
  | deliver delivery =>
      unfold loopStep withoutResults arrival
      dsimp only
      simp only [onDataReceived_withoutResults, queueSend_withoutResults, Option.map_map]
      rfl
  | iterate clock =>
      have received := receive_withoutResults receiver.driver
      unfold loopStep withoutResults
      dsimp only
      rw [received]
      rcases receive receiver.driver with ⟨_ | packet, after⟩
      · rfl
      · rfl

end Loop

theorem loopStep_projects :
    Projects loopStep loopStep (withoutResults : Receiver σ → Receiver σ) some some := by
  constructor
  case shown =>
    intro receiver event inner shown
    obtain rfl := Option.some.inj shown
    rw [loopStep_withoutResults]
    exact ⟨rfl, rfl⟩
  case hidden =>
    intro receiver event hidden
    cases hidden

theorem stationStep_projects :
    Projects loopStep stationStep (withoutResults : Receiver σ → Receiver σ)
      StationEvent.loopEvent id := by
  constructor
  case shown =>
    intro receiver event inner shown
    cases event with
    | loop event =>
        obtain rfl := Option.some.inj shown
        rw [loopStep_withoutResults]
        exact ⟨rfl, rfl⟩
    | sent txInfo status => cases shown
  case hidden =>
    intro receiver event hidden
    cases event with
    | loop event => cases hidden
    | sent txInfo status =>
        unfold stationStep withoutResults driverWithoutResults onDataSent
        dsimp only
        split <;> rfl

/-- The send results after those reports: the queue keeps the first of them. -/
structure Unread (depth : Nat) (reports : List SendResult) (driver : Driver) : Prop where
  initialized : driver.initialized = true
  kept : ∃ queue, driver.sendResultQueue = some queue ∧ queue.depth = depth ∧
    queue.Unread reports driver.droppedSendResults

section Results

variable {depth : Nat} {reports : List SendResult} {driver : Driver}

/-- The receive side has no part in it. -/
theorem Unread.beside (unread : Unread depth reports driver) {after : Driver}
    (initialized : after.initialized = driver.initialized)
    (queue : after.sendResultQueue = driver.sendResultQueue)
    (dropped : after.droppedSendResults = driver.droppedSendResults) :
    Unread depth reports after :=
  ⟨initialized.trans unread.initialized, by rw [queue, dropped]; exact unread.kept⟩

theorem unread_received (unread : Unread depth reports driver) (delivery : Delivery) :
    Unread depth reports (onDataReceived driver delivery) := by
  unfold onDataReceived
  cases acceptDelivery driver delivery with
  | none => exact unread
  | some packet =>
      unfold queueSend
      cases driver.receiveQueue with
      | none => exact unread
      | some queue =>
          dsimp only [Option.map_some]
          cases (queue.send packet).1 with
          | true => exact unread.beside rfl rfl rfl
          | false => exact unread.beside rfl rfl rfl

theorem unread_receive (unread : Unread depth reports driver) :
    Unread depth reports (receive driver).2 := by
  unfold receive
  split
  · exact unread.beside rfl rfl rfl
  · exact unread

theorem unread_sent (unread : Unread depth reports driver) (txInfo : Option SendInfo)
    (status : SendStatus) :
    Unread depth (reports ++ (StationEvent.sent txInfo status).report.toList)
      (onDataSent driver txInfo status) := by
  obtain ⟨initialized, queue, created, same, unread⟩ := unread
  have accepted : acceptReport driver txInfo status = (StationEvent.sent txInfo status).report := by
    rw [acceptReport, if_neg (by simp [initialized, created])]
    rfl
  unfold onDataSent
  rw [accepted, created]
  cases (StationEvent.sent txInfo status).report with
  | none =>
      rw [Option.toList_none, List.append_nil]
      exact ⟨initialized, queue, created, same, unread⟩
  | some result =>
      exact ⟨initialized, _, rfl, (queue.send_depth result).trans same, unread.send result⟩

theorem unread_step {receiver : Receiver σ} (unread : Unread depth reports receiver.driver)
    (event : StationEvent) :
    Unread depth (reports ++ event.report.toList) (stationStep receiver event).1.driver := by
  cases event with
  | sent txInfo status => exact unread_sent unread txInfo status
  | loop event =>
      change Unread depth (reports ++ []) (loopStep receiver event).1.driver
      rw [List.append_nil]
      cases event with
      | deliver delivery => exact unread_received unread delivery
      | iterate clock =>
          have received := unread_receive unread
          rw [loopStep]
          generalize receive receiver.driver = taken at received ⊢
          rcases taken with ⟨_ | packet, after⟩
          · exact unread
          · exact received

theorem unread_run (start : Receiver σ) (unread : Unread depth [] start.driver)
    (events : List StationEvent) :
    Unread depth (events.filterMap StationEvent.report) (run stationStep start events).driver := by
  apply Reactive.legal_induction stationStep (fun _ => True)
    (fun events receiver => Unread depth (events.filterMap StationEvent.report) receiver.driver)
    start unread (fun _ _ _ => trivial) _ events trivial
  intro inputs event _ before
  have next := unread_step before event
  rw [List.filterMap_append]
  cases told : event.report with
  | none => simpa [told] using next
  | some result => simpa [told] using next

end Results

section Started

variable {δ τ : Type} {env : Environment δ} {table : PeerTable τ} {advancing : Advancing env}
  {config : Config} {firmware : Firmware δ τ}

/-- From a successful start: however calls of `onDataSent` come between its events, the main
loop does what it does without them; the first send results fill their queue and stay there,
and each later one is counted as dropped. -/
theorem send_results_unread {stops : Bool} {outcome : StartOutcome} {world : World δ}
    (started : start table advancing stops config outcome (powerOn table world) = .ok firmware)
    (events : List StationEvent) :
    let final := run stationStep firmware.receiver events
    let alone := events.filterMap StationEvent.loopEvent
    (history stationStep firmware.receiver events).filterMap
        (innerEntry StationEvent.loopEvent id) = history loopStep firmware.receiver alone ∧
      withoutResults final = withoutResults (run loopStep firmware.receiver alone) ∧
      (∃ queue, final.driver.sendResultQueue = some queue ∧
        queue.items = (events.filterMap StationEvent.report).take
          config.sendResultQueueDepth.toNat) ∧
      final.driver.droppedSendResults = UInt32.ofNat
        ((events.filterMap StationEvent.report).length - config.sendResultQueueDepth.toNat) := by
  obtain ⟨_, operational⟩ := start_operational started
  have opened : Unread config.sendResultQueueDepth.toNat [] firmware.receiver.driver := by
    refine ⟨operational.initialized, _, operational.sendResultQueue, rfl, ?_⟩
    change BoundedQueue.Unread _ [] firmware.station.driver.droppedSendResults
    rw [operational.droppedSendResults]
    exact BoundedQueue.unread_empty _
  have unread := unread_run firmware.receiver opened events
  obtain ⟨queue, created, depth, keeps⟩ := unread.kept
  have alone : ∀ inner : List LoopEvent,
      history loopStep (withoutResults firmware.receiver) inner =
        history loopStep firmware.receiver inner := by
    intro inner
    have entries := loopStep_projects.history_eq firmware.receiver inner
    rw [List.filterMap_some] at entries
    rw [← entries]
    exact List.filterMap_some
  refine ⟨?_, ?_, ⟨queue, created, by rw [← depth]; exact keeps.kept⟩,
    by rw [← depth]; exact keeps.counted⟩
  · rw [stationStep_projects.history_eq, alone]
  · rw [stationStep_projects.run_eq, loopStep_projects.run_eq, List.filterMap_some]

end Started

/-- Ten reports, for a queue with room for eight. -/
def tenReports : List StationEvent :=
  List.replicate 10 (.sent (some ⟨some sampleMac⟩) .success)

theorem send_results_unread_prompt :
    ∃ firmware, start functionTable prompt_advancing true {} {}
        (powerOn functionTable { device := Mcp2515.blankChip }) = .ok firmware ∧
      (run stationStep firmware.receiver tenReports).driver.droppedSendResults = 2 := by
  obtain ⟨firmware, started⟩ := prompt_starts
  exact ⟨firmware, started, (send_results_unread started tenReports).2.2.2⟩

end Application
