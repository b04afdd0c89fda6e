import Rxu01.EspNowDriverTasks
import Rxu01.OwnedHandle

set_option autoImplicit false

/- `init` and `deinit` in any order: what their unwinding leaves behind. -/
namespace EspNowDriver

open EspIdf (EspErr espOk)
open OwnedHandle (Operation Owner Unowned Exclusive Exists)
open Reactive (history)

def isInitialized (driver : Driver) : Bool := driver.initialized

/-- A call, with what the ESP-IDF calls in it return. -/
inductive LifeCall where
  | init (config : Config) (outcome : InitOutcome)
  | deinit (result : EspErr)

def lifeStep (driver : Driver) (call : LifeCall) : Driver × (EspErr × List Action) :=
  let result :=
    match call with
    | .init config outcome => init driver config outcome
    | .deinit result => deinit driver result
  (performAll driver result.2, result)

/-- The unregistrations cannot fail in the model; `esp_now_deinit` can. -/
def LifeCall.CleanUpSucceeds : LifeCall → Prop
  | .init _ outcome => outcome.espNowDeinit = espOk
  | .deinit result => result = espOk

/-- The statements a sequence of calls runs. -/
def statements (driver : Driver) (calls : List LifeCall) : List Action :=
  (history lifeStep driver calls).flatMap fun entry => entry.2.2

inductive QueueKind where
  | receive
  | sendResult
  deriving DecidableEq

def QueueKind.operation : QueueKind → Action → Option Operation
  | .receive, .createReceiveQueue _ created => some (.create created)
  | .sendResult, .createSendResultQueue _ created => some (.create created)
  | .receive, .deleteReceiveQueue => some .delete
  | .sendResult, .deleteSendResultQueue => some .delete
  | _, _ => none

/-- What a sequence of statements does to the handle of one kind. -/
def QueueKind.operations (kind : QueueKind) (actions : List Action) : List Operation :=
  actions.filterMap kind.operation

def QueueKind.handle : QueueKind → Driver → Bool
  | .receive, driver => driver.receiveQueue.isSome
  | .sendResult, driver => driver.sendResultQueue.isSome

structure Config.Acceptable (config : Config) : Prop where
  interface : isValidInterface config.interface = true
  channel : isValidChannel config.defaultPeerChannel = true
  receiveQueue : config.receiveQueueDepth ≠ 0
  sendResultQueue : config.sendResultQueueDepth ≠ 0

structure InitOutcome.NoFailure (outcome : InitOutcome) : Prop where
  receiveQueue : outcome.receiveQueueCreated = true
  sendResultQueue : outcome.sendResultQueueCreated = true
  espNowInit : outcome.espNowInit = espOk
  registerRecvCb : outcome.registerRecvCb = espOk
  registerSendCb : outcome.registerSendCb = espOk

/-- All or nothing: the flag says what the driver holds. -/
structure Settled (driver : Driver) : Prop where
  queues : ∀ kind : QueueKind, kind.handle driver = driver.initialized
  espNow : driver.espNow.initialized = driver.initialized
  recvCb : driver.espNow.recvRegistered = driver.initialized
  sendCb : driver.espNow.sendRegistered = driver.initialized

theorem settled_start : Settled {} :=
  ⟨fun kind => by cases kind <;> rfl, rfl, rfl, rfl⟩

/-- Nothing is left of an `init` that gave up. -/
theorem GivesUp.performAll {driver : Driver} (settled : Settled driver)
    (closed : driver.initialized = false) {depth depth' : UInt8} {error : EspErr}
    {actions : List Action} (gives : GivesUp depth depth' espOk error actions)
    (failed : error ≠ espOk) : performAll driver actions = driver := by
  obtain ⟨queues, espNow, recvCb, sendCb⟩ := settled
  have receiveQueue := queues .receive
  have sendResultQueue := queues .sendResult
  rcases driver with ⟨config, receive, sendResult, initialized, dropped, dropped', now, recv, send⟩
  simp only at closed espNow recvCb sendCb
  subst closed espNow recvCb sendCb
  simp only [QueueKind.handle, Option.isSome_eq_false_iff, Option.isNone_iff_eq_none]
    at receiveQueue sendResultQueue
  subst receiveQueue sendResultQueue
  cases gives with
  | receiveQueue => rfl
  | sendResultQueue => rfl
  | espNowInit =>
      simp [EspNowDriver.performAll, perform, deleteQueues, failed]
  | registerRecvCb =>
      simp [EspNowDriver.performAll, perform, deleteQueues, failed]
  | registerSendCb =>
      simp [EspNowDriver.performAll, perform, deleteQueues, failed]

/-- What the handle of one kind goes through in one call. -/
inductive HandleRun : Bool → List Operation → Bool → Prop where
  | untouched (held : Bool) : HandleRun held [] held
  | failed : HandleRun false [.create false] false
  | unwound (created : Bool) : HandleRun false [.create created, .delete] false
  | kept : HandleRun false [.create true] true
  | deleted : HandleRun true [.delete] false

theorem HandleRun.unowned {held held' : Bool} {operations : List Operation}
    (handleRun : HandleRun held operations held') {owner : Owner}
    (start : owner.handle.isSome = held) :
    Unowned owner operations ∧
      (Reactive.run OwnedHandle.step owner operations).handle.isSome = held' := by
  have empty (unset : owner.handle.isSome = false) : owner.handle = none := by simpa using unset
  cases handleRun with
  | untouched => exact ⟨trivial, start⟩
  | failed => exact ⟨⟨fun _ _ => empty start, trivial⟩, rfl⟩
  | unwound created =>
      refine ⟨⟨fun _ _ => empty start, nofun, trivial⟩, ?_⟩
      cases created <;> rfl
  | kept => exact ⟨⟨fun _ _ => empty start, trivial⟩, rfl⟩
  | deleted => exact ⟨⟨nofun, trivial⟩, rfl⟩

theorem GivesUp.handleRun {depth depth' : UInt8} {cleanUp error : EspErr} {actions : List Action}
    (gives : GivesUp depth depth' cleanUp error actions) (kind : QueueKind) :
    HandleRun false (kind.operations actions) false := by
  cases gives <;> cases kind
  case receiveQueue.receive => exact .failed
  case receiveQueue.sendResult => exact .untouched false
  all_goals exact .unwound _

section Step

variable {driver : Driver}

theorem init_acceptable {config : Config} {outcome : InitOutcome} (acceptable : config.Acceptable)
    (noFailure : outcome.NoFailure) : (init driver config outcome).1 = espOk := by
  obtain ⟨interface, channel, receiveDepth, sendResultDepth⟩ := acceptable
  obtain ⟨receiveQueue, sendResultQueue, started, receiving, sending⟩ := noFailure
  unfold init
  split
  · rfl
  · rw [if_neg (by simp [interface, channel, receiveDepth, sendResultDepth])]
    simp only [receiveQueue, sendResultQueue, started, receiving, sending, not_true_eq_false,
      ne_eq, ↓reduceIte]

theorem init_repeated (opened : driver.initialized = true) (config : Config)
    (outcome : InitOutcome) : init driver config outcome = (espOk, []) := by
  rw [init, if_pos opened]

theorem deinit_repeated (closed : driver.initialized = false) (result : EspErr) :
    deinit driver result = (espOk, []) := by
  rw [deinit, if_pos (by simp [closed])]

theorem deinit_closed (opened : driver.initialized = true) :
    Settled (performAll driver (deinit driver espOk).2) ∧
      (performAll driver (deinit driver espOk).2).initialized = false ∧
      ∀ kind : QueueKind, kind.operations (deinit driver espOk).2 = [.delete] := by
  rw [deinit, if_neg (by simp [opened])]
  refine ⟨⟨fun kind => ?_, rfl, rfl, rfl⟩, rfl, fun kind => ?_⟩
  · cases kind <;> rfl
  · cases kind <;> rfl

theorem init_atomic (settled : Settled driver) (config : Config) {outcome : InitOutcome}
    (cleanUp : outcome.espNowDeinit = espOk) (failed : (init driver config outcome).1 ≠ espOk) :
    performAll driver (init driver config outcome).2 = driver := by
  have ended := init_run driver config outcome
  rw [cleanUp] at ended
  generalize init driver config outcome = result at *
  cases ended with
  | repeated => exact absurd rfl failed
  | refused => rfl
  | gaveUp closed _ gives => exact gives.performAll settled closed failed
  | opened => exact absurd rfl failed

/-- One call keeps the driver settled, and its handles go where the flag goes. -/
theorem settled_step (settled : Settled driver) (call : LifeCall)
    (cleanUp : call.CleanUpSucceeds) :
    Settled (lifeStep driver call).1 ∧ ∀ kind : QueueKind,
      HandleRun driver.initialized (kind.operations (lifeStep driver call).2.2)
        (lifeStep driver call).1.initialized := by
  cases call with
  | init config outcome =>
      have ended := init_run driver config outcome
      rw [show outcome.espNowDeinit = espOk from cleanUp] at ended
      simp only [lifeStep]
      generalize init driver config outcome = result at *
      cases ended with
      | repeated => exact ⟨settled, fun _ => .untouched _⟩
      | refused => exact ⟨settled, fun _ => .untouched _⟩
      | gaveUp closed failed gives =>
          rw [gives.performAll settled closed failed, closed]
          exact ⟨settled, fun kind => gives.handleRun kind⟩
      | opened closed =>
          rw [closed]
          refine ⟨⟨fun kind => ?_, rfl, rfl, rfl⟩, fun kind => ?_⟩
          · cases kind <;> rfl
          · cases kind <;> exact .kept
  | deinit result =>
      cases cleanUp
      simp only [lifeStep]
      cases flag : driver.initialized with
      | false =>
          rw [deinit_repeated flag]
          refine ⟨settled, fun _ => ?_⟩
          have same : (performAll driver []).initialized = false := flag
          rw [same]
          exact .untouched false
      | true =>
          obtain ⟨still, closed, operations⟩ := deinit_closed flag
          refine ⟨still, fun kind => ?_⟩
          rw [closed, operations]
          exact .deleted

end Step

theorem statements_cons (driver : Driver) (call : LifeCall) (rest : List LifeCall) :
    statements driver (call :: rest) =
      (lifeStep driver call).2.2 ++ statements (lifeStep driver call).1 rest := rfl

theorem settled_run {driver : Driver} (settled : Settled driver) (calls : List LifeCall)
    (cleanUp : ∀ call ∈ calls, call.CleanUpSucceeds) :
    Settled (Reactive.run lifeStep driver calls) ∧
      ∀ (kind : QueueKind) (owner : Owner), owner.handle.isSome = driver.initialized →
        Unowned owner (kind.operations (statements driver calls)) ∧
          (Reactive.run OwnedHandle.step owner
            (kind.operations (statements driver calls))).handle.isSome =
              (Reactive.run lifeStep driver calls).initialized := by
  induction calls generalizing driver with
  | nil => exact ⟨settled, fun kind owner start => ⟨trivial, start⟩⟩
  | cons call rest ih =>
      obtain ⟨still, first⟩ := settled_step settled call (cleanUp call List.mem_cons_self)
      obtain ⟨final, later⟩ := ih still fun next member => cleanUp next (List.mem_cons_of_mem _ member)
      refine ⟨final, fun kind owner start => ?_⟩
      obtain ⟨unowned, reached⟩ := (first kind).unowned start
      obtain ⟨unowned', reached'⟩ := later kind _ reached
      rw [statements_cons, QueueKind.operations, List.filterMap_append,
        OwnedHandle.unowned_append, Reactive.run_append]
      exact ⟨⟨unowned, unowned'⟩, reached'⟩

/-- The main task, when nothing disturbs it, performs its program. -/
theorem run_program (driver : Driver) (program : List Action) :
    Reactive.run step { driver := driver, program := program }
        (List.replicate program.length .main) = { driver := performAll driver program } := by
  induction program generalizing driver with
  | nil => rfl
  | cons action rest ih => exact ih (perform driver action)

def LifeCall.event : LifeCall → Event
  | .init config outcome => .init config outcome
  | .deinit result => .deinit result

/-- The calls made by the main task while the Wi-Fi task is silent. -/
def lifeEvents : Driver → List LifeCall → List Event
  | _, [] => []
  | driver, call :: rest =>
      call.event :: List.replicate (lifeStep driver call).2.2.length .main ++
        lifeEvents (lifeStep driver call).1 rest

theorem run_lifeEvents (driver : Driver) (calls : List LifeCall) :
    Reactive.run step { driver := driver } (lifeEvents driver calls) =
      { driver := Reactive.run lifeStep driver calls } := by
  induction calls generalizing driver with
  | nil => rfl
  | cons call rest ih =>
      have entered : (step { driver := driver } call.event).1 =
          { driver := driver, program := (lifeStep driver call).2.2 } := by
        cases call <;> rfl
      rw [lifeEvents, List.cons_append, Reactive.run_cons, Reactive.run_append, entered,
        run_program]
      exact ih (lifeStep driver call).1

/-- The creations and deletions of queues of one kind. -/
def queueEvents (kind : QueueKind) (calls : List LifeCall) : List OwnedHandle.Event :=
  OwnedHandle.events {} (kind.operations (statements {} calls))

/-- After any calls the flag says whether the queues exist, ESP-NOW runs and the
callbacks are registered; queues of a kind exist one at a time and are deleted once;
an `init` that fails changes nothing; one in which nothing fails opens the driver. -/
theorem life_cycle (calls : List LifeCall) (cleanUp : ∀ call ∈ calls, call.CleanUpSucceeds) :
    let driver := Reactive.run lifeStep {} calls
    (∀ kind : QueueKind, kind.handle driver = isInitialized driver) ∧
      driver.espNow.initialized = isInitialized driver ∧
      driver.espNow.recvRegistered = isInitialized driver ∧
      driver.espNow.sendRegistered = isInitialized driver ∧
      (∀ kind, Exclusive (queueEvents kind calls) ∧
        ((∃ queue, Exists (queueEvents kind calls) queue) ↔ isInitialized driver = true)) ∧
      (∀ config outcome, outcome.espNowDeinit = espOk → (init driver config outcome).1 ≠ espOk →
        (lifeStep driver (.init config outcome)).1 = driver) ∧
      ∀ config outcome, config.Acceptable → outcome.NoFailure →
        (init driver config outcome).1 = espOk ∧
          isInitialized (lifeStep driver (.init config outcome)).1 = true := by
  intro driver
  obtain ⟨settled, handles⟩ := settled_run settled_start calls cleanUp
  refine ⟨settled.queues, settled.espNow, settled.recvCb, settled.sendCb, ?_, ?_, ?_⟩
  · intro kind
    obtain ⟨unowned, reached⟩ := handles kind {} rfl
    obtain ⟨exclusive, named⟩ := OwnedHandle.exclusive_run _ unowned
    refine ⟨exclusive, ?_⟩
    rw [isInitialized, ← reached, Option.isSome_iff_exists]
    exact exists_congr named
  · exact fun config outcome clean failed => init_atomic settled config clean failed
  · intro config outcome acceptable noFailure
    have success : (init driver config outcome).1 = espOk := init_acceptable acceptable noFailure
    refine ⟨success, ?_⟩
    cases flag : driver.initialized with
    | true =>
        simp only [lifeStep, init_repeated flag]
        exact flag
    | false =>
        simp only [lifeStep, init_ok flag success]
        rfl

/-- A failure after both queues exist, an opening, a closing and an opening again. -/
def sampleLife : List LifeCall :=
  [.init {} { registerSendCb := 0x306C }, .init {} {}, .deinit espOk, .init {} {}]

theorem life_cycle_sample : Exclusive (queueEvents .receive sampleLife) :=
  have cleanUp : ∀ call ∈ sampleLife, call.CleanUpSucceeds := by
    simp [sampleLife, LifeCall.CleanUpSucceeds]
  ((life_cycle sampleLife cleanUp).2.2.2.2.1 .receive).1

end EspNowDriver
