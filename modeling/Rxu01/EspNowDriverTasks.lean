import Rxu01.EspNowDriver
import Rxu01.Reactive
import Mathlib.Algebra.BigOperators.Group.List.Basic
import Mathlib.Algebra.GroupWithZero.Nat

set_option autoImplicit false

/- The driver under its two tasks: the Wi-Fi task runs the receive callback, the
main task calls the functions of the module, and either may be held up between
any two accesses to what they share. `vQueueDelete` and the store of the null handle
after it are one access here. -/
namespace EspNowDriver

open EspIdf (EspErr espOk)
open Reactive (run history)

/-- Where the Wi-Fi task stands in `onDataReceived`: past the load of `g_initialized`, past
the other checks, or past an `xQueueSend` that was refused. -/
inductive Callback where
  | idle
  | checking (delivery : Delivery)
  | sending (packet : ReceivedPacket)
  | counting

/-- `program` is what is left of the main task's current call. -/
structure Tasks where
  driver : Driver
  callback : Callback := .idle
  program : List Action := []

inductive Event where
  | deliver (delivery : Delivery)
  | callback
  | init (config : Config) (outcome : InitOutcome)
  | deinit (result : EspErr)
  | resetStatistics
  | clearQueues
  | receive
  | main

/-- What an observer sees of a step; a step that cannot be taken shows nothing. -/
inductive Effect where
  | nothing
  | delivered (delivery : Delivery) (initialized : Bool)
  | refused
  | undefined
  | received (packet : Option ReceivedPacket)
  | removed (count : Nat)

def queued (driver : Driver) : Nat :=
  (driver.receiveQueue.map fun queue => queue.items.length).getD 0

/-- The packets a statement of the main task throws away. -/
def removedBy (driver : Driver) : Action → Nat
  | .resetReceiveQueue => queued driver
  | _ => 0

/-- The main task enters a function once it has left the one before. -/
def call (tasks : Tasks) (program : List Action) : Tasks × Effect :=
  if tasks.program = [] then ({ tasks with program := program }, .nothing) else (tasks, .nothing)

def step (tasks : Tasks) : Event → Tasks × Effect
  | .deliver delivery =>
      match tasks.callback with
      | .idle =>
          ({ tasks with callback := if tasks.driver.initialized then .checking delivery else .idle },
            .delivered delivery tasks.driver.initialized)
      | _ => (tasks, .nothing)
  | .callback =>
      match tasks.callback with
      | .idle => (tasks, .nothing)
      | .checking delivery =>
          ({ tasks with callback := (checkDelivery tasks.driver delivery).elim .idle .sending },
            .nothing)
      | .sending packet =>
          match queueSend tasks.driver packet with
          | none => (tasks, .undefined)
          | some (true, driver) => ({ tasks with driver := driver, callback := .idle }, .nothing)
          | some (false, driver) =>
              ({ tasks with driver := driver, callback := .counting }, .refused)
      | .counting => ({ tasks with driver := countDropped tasks.driver, callback := .idle }, .nothing)
  | .init config outcome => call tasks (init tasks.driver config outcome).2
  | .deinit result => call tasks (deinit tasks.driver result).2
  | .resetStatistics => call tasks resetStatistics
  | .clearQueues => call tasks clearQueues
  | .receive =>
      if tasks.program = [] then
        ({ tasks with driver := (receive tasks.driver).2 }, .received (receive tasks.driver).1)
      else (tasks, .nothing)
  | .main =>
      match tasks.program with
      | [] => (tasks, .nothing)
      | action :: rest =>
          ({ tasks with driver := perform tasks.driver action, program := rest },
            .removed (removedBy tasks.driver action))

/-- The callback run without a break is `onDataReceived`. -/
theorem run_callback (driver : Driver) (delivery : Delivery) (program : List Action) :
    run step { driver := driver, program := program }
        [.deliver delivery, .callback, .callback, .callback] =
      { driver := onDataReceived driver delivery, program := program } := by
  rw [onDataReceived, acceptDelivery, Reactive.run_cons, step]
  cases initialized : driver.initialized with
  | false => rfl
  | true =>
      cases checked : checkDelivery driver delivery with
      | none => simp [step, checked]
      | some packet =>
          obtain ⟨queue, created⟩ := Option.isSome_iff_exists.mp (checkDelivery_created checked)
          simp only [if_true, Reactive.run_cons, Reactive.run_nil, step, checked, Option.elim_some,
            queueSend_created created]
          cases (queue.send packet).1 with
          | false => rfl
          | true => rfl

/-- `xQueueSend` by the callback: a packet that is refused is still to be counted. -/
theorem step_sending {tasks : Tasks} {queue : BoundedQueue ReceivedPacket} {packet : ReceivedPacket}
    (created : tasks.driver.receiveQueue = some queue)
    (callback : tasks.callback = .sending packet) :
    step tasks .callback =
      ({ tasks with
          driver := { tasks.driver with receiveQueue := some (queue.send packet).2 }
          callback := if (queue.send packet).1 then .idle else .counting },
        if (queue.send packet).1 then .nothing else .refused) := by
  simp only [step, callback, queueSend_created created]
  cases (queue.send packet).1 with
  | false => rfl
  | true => rfl

section Log

variable (log : List (Event × Effect))

/-- The contents delivered to the open driver, oldest first. -/
def delivered : List Content :=
  log.filterMap fun entry =>
    match entry.2 with
    | .delivered delivery true => delivery.content
    | _ => none

def returned : List Content :=
  log.filterMap fun entry =>
    match entry.2 with
    | .received packet => packet.map ReceivedPacket.content
    | _ => none

def removed : Nat :=
  (log.map fun entry =>
    match entry.2 with
    | .removed count => count
    | _ => 0).sum

end Log

/-- What the Wi-Fi task is about to send, unless the queue is gone. -/
def Callback.contents : Callback → List Content
  | .checking delivery => delivery.content.toList
  | .sending packet => [packet.content]
  | _ => []

/-- A dropped packet that is not yet counted. -/
def Callback.uncounted : Callback → Nat
  | .counting => 1
  | _ => 0

/-- The callbacks in progress, at most one. -/
def Callback.inFlight (callback : Callback) : Nat :=
  callback.contents.length + callback.uncounted

/-- The events of a session: neither `deinit` nor `reset_statistics` is called. -/
def Event.InSession : Event → Prop
  | .deinit _ => False
  | .resetStatistics => False
  | _ => True

/-- The driver right after a successful `init`. -/
structure Opened (config : Config) (driver : Driver) : Prop where
  initialized : driver.initialized = true
  receiveQueue : driver.receiveQueue = some (.empty config.receiveQueueDepth.toNat)
  dropped : driver.droppedReceivePackets = 0

/-- The main task is inside `init`: no packet has been accepted, and what is left of
the call, which marks the driver initialised last of all, opens it. -/
structure Opening (config : Config) (log : List (Event × Effect)) (tasks : Tasks) : Prop where
  closed : tasks.driver.initialized = false
  idle : tasks.callback = .idle
  program : ∃ front, tasks.program = front ++ [.storeInitialized true] ∧
    ∀ action ∈ front, ∀ driver,
      (perform driver action).initialized = driver.initialized ∧ removedBy driver action = 0
  opens : Opened config (performAll tasks.driver tasks.program)
  noneDelivered : delivered log = []
  noneReturned : returned log = []
  noneRemoved : removed log = 0

/-- The driver is open and its queue is the one of the account: everything
delivered was offered to it but the packet on its way there. -/
structure Running (config : Config) (log : List (Event × Effect)) (tasks : Tasks)
    (account : BoundedQueue.Account ReceivedPacket) : Prop where
  initialized : tasks.driver.initialized = true
  receiveQueue : tasks.driver.receiveQueue = some account.queue
  depth : account.queue.depth = config.receiveQueueDepth.toNat
  program : ∀ action ∈ tasks.program, action ∈ clearQueues
  delivered : delivered log =
    account.offered.map ReceivedPacket.content ++ tasks.callback.contents
  returned : returned log = account.taken.map ReceivedPacket.content
  removed : removed log = account.cleared
  dropped : UInt32.ofNat account.refused =
    tasks.driver.droppedReceivePackets + UInt32.ofNat tasks.callback.uncounted

section Appending

variable (log : List (Event × Effect)) (entry : Event × Effect)

theorem delivered_snoc : delivered (log ++ [entry]) = delivered log ++ delivered [entry] :=
  List.filterMap_append

theorem returned_snoc : returned (log ++ [entry]) = returned log ++ returned [entry] :=
  List.filterMap_append

theorem removed_snoc : removed (log ++ [entry]) = removed log + removed [entry] := by
  rw [removed, List.map_append, List.sum_append]
  rfl

variable {entry}

theorem delivered_silent (silent : delivered [entry] = []) :
    delivered (log ++ [entry]) = delivered log := by
  rw [delivered_snoc, silent, List.append_nil]

theorem returned_silent (silent : returned [entry] = []) :
    returned (log ++ [entry]) = returned log := by
  rw [returned_snoc, silent, List.append_nil]

theorem removed_silent (silent : removed [entry] = 0) : removed (log ++ [entry]) = removed log := by
  rw [removed_snoc, silent, Nat.add_zero]

end Appending

theorem delivered_open (event : Event) (delivery : Delivery) :
    delivered [(event, .delivered delivery true)] = delivery.content.toList := by
  cases content : delivery.content with
  | none => simp [delivered, content]
  | some value => simp [delivered, content]

theorem returned_received (event : Event) (packet : Option ReceivedPacket) :
    returned [(event, .received packet)] = (packet.map ReceivedPacket.content).toList := by
  cases packet with
  | none => rfl
  | some packet => rfl

theorem begin_opening {driver : Driver} {config : Config} {outcome : InitOutcome}
    (closed : driver.initialized = false) (success : (init driver config outcome).1 = espOk) :
    Opening config [] { driver := driver, program := (init driver config outcome).2 } := by
  have program := init_ok closed success
  refine ⟨closed, rfl, ?_, ?_, rfl, rfl, rfl⟩
  · refine ⟨_, program.trans (List.dropLast_append_getLast (List.cons_ne_nil _ _)).symm, ?_⟩
    intro action member driver
    simp only [List.dropLast, List.mem_cons, List.not_mem_nil, or_false] at member
    rcases member with rfl | rfl | rfl | rfl | rfl | rfl | rfl | rfl <;> exact ⟨rfl, rfl⟩
  · rw [program]
    exact ⟨rfl, rfl, rfl⟩

theorem opening_unchanged {config : Config} {log : List (Event × Effect)} {tasks : Tasks}
    (opening : Opening config log tasks) {entry : Event × Effect} (silent : delivered [entry] = [])
    (nothing : returned [entry] = []) (none : removed [entry] = 0) :
    Opening config (log ++ [entry]) tasks :=
  { opening with
    noneDelivered := (delivered_silent log silent).trans opening.noneDelivered
    noneReturned := (returned_silent log nothing).trans opening.noneReturned
    noneRemoved := (removed_silent log none).trans opening.noneRemoved }

section Opening

variable {config : Config} {log : List (Event × Effect)} {tasks : Tasks}
  (opening : Opening config log tasks)

include opening

/-- Until `init` is done nothing but its own statements has an effect. -/
theorem opening_waits {event : Event} (other : event ≠ .main) :
    Opening config (log ++ [(event, (step tasks event).2)]) (step tasks event).1 := by
  obtain ⟨front, program, _⟩ := opening.program
  have busy : tasks.program ≠ [] := by
    rw [program]
    exact List.append_ne_nil_of_right_ne_nil _ (List.cons_ne_nil _ _)
  have called : ∀ actions, call tasks actions = (tasks, .nothing) :=
    fun actions => if_neg busy
  cases event with
  | deliver delivery =>
      have still : step tasks (.deliver delivery) = (tasks, .delivered delivery false) := by
        have idle := opening.idle
        rcases tasks with ⟨driver, callback, actions⟩
        dsimp only at idle
        have closed : driver.initialized = false := opening.closed
        rw [idle, step, closed]
        rfl
      rw [still]
      exact opening_unchanged opening rfl rfl rfl
  | callback =>
      rw [step, opening.idle]
      exact opening_unchanged opening rfl rfl rfl
  | init config outcome =>
      rw [step, called]
      exact opening_unchanged opening rfl rfl rfl
  | deinit result =>
      rw [step, called]
      exact opening_unchanged opening rfl rfl rfl
  | resetStatistics =>
      rw [step, called]
      exact opening_unchanged opening rfl rfl rfl
  | clearQueues =>
      rw [step, called]
      exact opening_unchanged opening rfl rfl rfl
  | receive =>
      rw [step, if_neg busy]
      exact opening_unchanged opening rfl rfl rfl
  | main => exact absurd rfl other

/-- The statements of `init`, of which the last opens the driver. -/
theorem opening_main :
    Opening config (log ++ [(.main, (step tasks .main).2)]) (step tasks .main).1 ∨
      Running config (log ++ [(.main, (step tasks .main).2)]) (step tasks .main).1
        (.opening config.receiveQueueDepth.toNat) := by
  obtain ⟨front, program, quiet⟩ := opening.program
  have opens := opening.opens
  rw [program] at opens
  rw [step, program]
  cases front with
  | nil =>
      have opened : Opened config (perform tasks.driver (.storeInitialized true)) := opens
      refine Or.inr ⟨rfl, opened.receiveQueue, rfl, fun action member => ?_, ?_, ?_, ?_, ?_⟩
      · cases member
      · rw [opening.idle]
        exact (delivered_silent log rfl).trans opening.noneDelivered
      · exact (returned_silent log rfl).trans opening.noneReturned
      · exact (removed_silent log rfl).trans opening.noneRemoved
      · change 0 = (perform tasks.driver (.storeInitialized true)).droppedReceivePackets +
          UInt32.ofNat tasks.callback.uncounted
        rw [opened.dropped, opening.idle]
        rfl
  | cons action rest =>
      obtain ⟨first, later⟩ := List.forall_mem_cons.mp quiet
      have moved : Opening config log
          { tasks with
            driver := perform tasks.driver action
            program := rest ++ [.storeInitialized true] } :=
        ⟨(first tasks.driver).1.trans opening.closed, opening.idle, ⟨rest, rfl, later⟩, opens,
          opening.noneDelivered, opening.noneReturned, opening.noneRemoved⟩
      exact Or.inl (opening_unchanged moved rfl rfl (first tasks.driver).2)

theorem opening_step (event : Event) :
    Opening config (log ++ [(event, (step tasks event).2)]) (step tasks event).1 ∨
      Running config (log ++ [(event, (step tasks event).2)]) (step tasks event).1
        (.opening config.receiveQueueDepth.toNat) := by
  by_cases main : event = .main
  · rw [main]
    exact opening_main opening
  · exact Or.inl (opening_waits opening main)

end Opening

section Running

variable {config : Config} {log : List (Event × Effect)} {tasks : Tasks}
  {account : BoundedQueue.Account ReceivedPacket}

theorem running_unchanged (running : Running config log tasks account) {entry : Event × Effect}
    (silent : delivered [entry] = []) (nothing : returned [entry] = [])
    (none : removed [entry] = 0) : Running config (log ++ [entry]) tasks account :=
  { running with
    delivered := (delivered_silent log silent).trans running.delivered
    returned := (returned_silent log nothing).trans running.returned
    removed := (removed_silent log none).trans running.removed }

theorem running_deliver (running : Running config log tasks account) (delivery : Delivery) :
    Running config (log ++ [(.deliver delivery, (step tasks (.deliver delivery)).2)])
      (step tasks (.deliver delivery)).1 account := by
  rw [step]
  cases callback : tasks.callback with
  | checking delivery => exact running_unchanged running rfl rfl rfl
  | sending packet => exact running_unchanged running rfl rfl rfl
  | counting => exact running_unchanged running rfl rfl rfl
  | idle =>
      have before := running.delivered
      have dropped := running.dropped
      rw [callback] at before dropped
      dsimp only
      rw [running.initialized, if_pos rfl]
      refine ⟨running.initialized, running.receiveQueue, running.depth, running.program, ?_, ?_, ?_,
        dropped⟩
      · rw [delivered_snoc, before, delivered_open]
        exact congrArg (· ++ _) (List.append_nil _)
      · exact (returned_silent log rfl).trans running.returned
      · exact (removed_silent log rfl).trans running.removed

/-- The checks of the callback. -/
theorem running_checking (running : Running config log tasks account) {delivery : Delivery}
    (callback : tasks.callback = .checking delivery) :
    Running config (log ++ [(.callback, (step tasks .callback).2)]) (step tasks .callback).1
      account := by
  have content := checkDelivery_content (by rw [running.receiveQueue]; rfl) delivery
  have before := running.delivered
  have dropped := running.dropped
  rw [callback] at before dropped
  rw [step, callback]
  dsimp only
  refine ⟨running.initialized, running.receiveQueue, running.depth, running.program, ?_, ?_, ?_,
    ?_⟩
  · rw [delivered_silent log rfl, before, Callback.contents, ← content]
    cases checkDelivery tasks.driver delivery with
    | none => rfl
    | some packet => rfl
  · exact (returned_silent log rfl).trans running.returned
  · exact (removed_silent log rfl).trans running.removed
  · rw [dropped]
    cases checkDelivery tasks.driver delivery with
    | none => rfl
    | some packet => rfl

theorem running_sending (running : Running config log tasks account) {packet : ReceivedPacket}
    (callback : tasks.callback = .sending packet) :
    Running config (log ++ [(.callback, (step tasks .callback).2)]) (step tasks .callback).1
      (account.offer packet) := by
  have before := running.delivered
  have dropped := running.dropped
  rw [callback] at before dropped
  rw [step_sending running.receiveQueue callback]
  refine ⟨running.initialized, rfl, (BoundedQueue.send_depth _ _).trans running.depth,
    running.program, ?_, ?_, ?_, ?_⟩
  · change _ = (account.offered ++ [packet]).map ReceivedPacket.content ++ _
    rw [delivered_snoc, before]
    cases (account.queue.send packet).1 with
    | false => simp [delivered, Callback.contents]
    | true => simp [delivered, Callback.contents]
  · rw [returned_snoc, running.returned]
    cases (account.queue.send packet).1 with
    | false => exact List.append_nil _
    | true => exact List.append_nil _
  · rw [removed_snoc, running.removed]
    cases (account.queue.send packet).1 with
    | false => rfl
    | true => rfl
  · change UInt32.ofNat (account.refused + if (account.queue.send packet).1 then 0 else 1) = _
    cases (account.queue.send packet).1 with
    | false =>
        rw [if_neg Bool.false_ne_true, UInt32.ofNat_add, dropped]
        exact congrArg (· + 1) (UInt32.add_zero _)
    | true => exact dropped

theorem running_callback (running : Running config log tasks account) :
    ∃ account, Running config (log ++ [(.callback, (step tasks .callback).2)])
      (step tasks .callback).1 account := by
  cases callback : tasks.callback with
  | idle =>
      rw [step, callback]
      exact ⟨account, running_unchanged running rfl rfl rfl⟩
  | checking delivery => exact ⟨account, running_checking running callback⟩
  | sending packet => exact ⟨account.offer packet, running_sending running callback⟩
  | counting =>
      have before := running.delivered
      have dropped := running.dropped
      rw [callback] at before dropped
      rw [step, callback]
      refine ⟨account, running.initialized, running.receiveQueue, running.depth, running.program,
        ?_, ?_, ?_, ?_⟩
      · exact (delivered_silent log rfl).trans before
      · exact (returned_silent log rfl).trans running.returned
      · exact (removed_silent log rfl).trans running.removed
      · rw [dropped]
        exact (UInt32.add_zero _).symm

theorem running_receive (running : Running config log tasks account) :
    ∃ account, Running config (log ++ [(.receive, (step tasks .receive).2)])
      (step tasks .receive).1 account := by
  rw [step]
  by_cases idle : tasks.program = []
  · rw [if_pos idle, receive_open running.initialized running.receiveQueue]
    refine ⟨account.take, running.initialized, rfl, running.depth, running.program, ?_, ?_, ?_,
      running.dropped⟩
    · exact (delivered_silent log rfl).trans running.delivered
    · rw [returned_snoc, running.returned, returned_received]
      change _ = (account.taken ++ account.queue.receive.1.toList).map ReceivedPacket.content
      rw [List.map_append]
      cases account.queue.receive.1 with
      | none => rfl
      | some packet => rfl
    · exact (removed_silent log rfl).trans running.removed
  · rw [if_neg idle]
    exact ⟨account, running_unchanged running rfl rfl rfl⟩

theorem running_main (running : Running config log tasks account) :
    ∃ account, Running config (log ++ [(.main, (step tasks .main).2)]) (step tasks .main).1
      account := by
  rw [step]
  cases program : tasks.program with
  | nil => exact ⟨account, running_unchanged running rfl rfl rfl⟩
  | cons action rest =>
      have members := running.program
      rw [program] at members
      obtain ⟨first, later⟩ := List.forall_mem_cons.mp members
      rcases List.mem_pair.mp first with rfl | rfl
      · refine ⟨account.clear, running.initialized, ?_, running.depth, later, ?_, ?_, ?_,
          running.dropped⟩
        · change tasks.driver.receiveQueue.map BoundedQueue.reset = _
          rw [running.receiveQueue]
          rfl
        · exact (delivered_silent log rfl).trans running.delivered
        · exact (returned_silent log rfl).trans running.returned
        · rw [removed_snoc, running.removed]
          change account.cleared + (queued tasks.driver + 0) = _
          rw [queued, running.receiveQueue]
          rfl
      · have moved : Running config log
            { tasks with
              driver := perform tasks.driver .resetSendResultQueue
              program := rest } account :=
          ⟨running.initialized, running.receiveQueue, running.depth, later, running.delivered,
            running.returned, running.removed, running.dropped⟩
        exact ⟨account, running_unchanged moved rfl rfl rfl⟩

theorem running_call (running : Running config log tasks account) (event : Event)
    (actions : List Action) (members : ∀ action ∈ actions, action ∈ clearQueues) :
    Running config (log ++ [(event, (call tasks actions).2)]) (call tasks actions).1 account := by
  have entered : Running config log { tasks with program := actions } account :=
    ⟨running.initialized, running.receiveQueue, running.depth, members, running.delivered,
      running.returned, running.removed, running.dropped⟩
  rw [call]
  split
  · exact running_unchanged entered rfl rfl rfl
  · exact running_unchanged running rfl rfl rfl

theorem running_step (running : Running config log tasks account) (event : Event)
    (session : event.InSession) :
    ∃ account, Running config (log ++ [(event, (step tasks event).2)]) (step tasks event).1
      account := by
  cases event with
  | deliver delivery => exact ⟨account, running_deliver running delivery⟩
  | callback => exact running_callback running
  | init config outcome =>
      refine ⟨account, running_call running _ _ fun action member => ?_⟩
      rw [init, if_pos running.initialized] at member
      cases member
  | deinit result => cases session
  | resetStatistics => cases session
  | clearQueues => exact ⟨account, running_call running _ _ fun action member => member⟩
  | receive => exact running_receive running
  | main => exact running_main running

end Running

/-- The tasks at the moment the main task enters `init` and the Wi-Fi task is not
in the callback. -/
def entering (driver : Driver) (config : Config) (outcome : InitOutcome) : Tasks :=
  { driver := driver, program := (init driver config outcome).2 }

/-- In a session the main task is inside `init` or the account is kept. -/
theorem session_account {driver : Driver} {config : Config} {outcome : InitOutcome}
    (closed : driver.initialized = false) (success : (init driver config outcome).1 = espOk)
    (session : List Event) (inside : ∀ event ∈ session, event.InSession) :
    Opening config (history step (entering driver config outcome) session)
        (run step (entering driver config outcome) session) ∨
      ∃ account, Running config (history step (entering driver config outcome) session)
        (run step (entering driver config outcome) session) account := by
  refine Reactive.history_induction step (fun session => ∀ event ∈ session, event.InSession)
    (fun log tasks => Opening config log tasks ∨ ∃ account, Running config log tasks account)
    (entering driver config outcome) (Or.inl (begin_opening closed success)) ?_ ?_ session inside
  · intro inputs input legal event member
    exact legal event (List.mem_append_left _ member)
  · intro inputs input legal before
    rcases before with opening | ⟨account, running⟩
    · rcases opening_step opening input with still | opened
      · exact Or.inl still
      · exact Or.inr ⟨_, opened⟩
    · exact Or.inr (running_step running input (legal input (by simp)))

/-- Only the callback's `xQueueSend` is ever refused or undefined. -/
theorem sending_of_effect {tasks : Tasks} {event : Event}
    (effect : (step tasks event).2 = .refused ∨ (step tasks event).2 = .undefined) :
    event = .callback ∧ ∃ packet, tasks.callback = .sending packet := by
  cases event with
  | callback =>
      refine ⟨rfl, ?_⟩
      cases callback : tasks.callback with
      | sending packet => exact ⟨packet, rfl⟩
      | idle => simp [step, callback] at effect
      | checking delivery => simp [step, callback] at effect
      | counting => simp [step, callback] at effect
  | deliver delivery =>
      simp only [step] at effect
      split at effect <;> simp at effect
  | receive =>
      simp only [step] at effect
      split at effect <;> simp at effect
  | main =>
      simp only [step] at effect
      split at effect <;> simp at effect
  | init config outcome =>
      simp only [step, call] at effect
      split at effect <;> simp at effect
  | deinit result =>
      simp only [step, call] at effect
      split at effect <;> simp at effect
  | resetStatistics =>
      simp only [step, call] at effect
      split at effect <;> simp at effect
  | clearQueues =>
      simp only [step, call] at effect
      split at effect <;> simp at effect

section Running

variable {config : Config} {log : List (Event × Effect)} {tasks : Tasks}
  {account : BoundedQueue.Account ReceivedPacket} (running : Running config log tasks account)

include running

theorem running_queued : queued tasks.driver = account.queue.items.length := by
  rw [queued, running.receiveQueue]
  rfl

/-- A refusal means that the queue is as long as it was made. -/
theorem running_refused {packet : ReceivedPacket} (callback : tasks.callback = .sending packet) :
    (step tasks .callback).2 ≠ .undefined ∧
      ((step tasks .callback).2 = .refused →
        queued tasks.driver = config.receiveQueueDepth.toNat) := by
  rw [step_sending running.receiveQueue callback]
  rcases BoundedQueue.send_cases account.queue packet with ⟨_, room, _⟩ | ⟨full, refused⟩
  · simp [room]
  · rw [running_queued running, full, running.depth]
    simp [refused]

theorem running_sublist : (returned log).Sublist (delivered log) := by
  rw [running.returned, running.delivered]
  exact (account.taken_sublist.map _).trans (List.sublist_append_left _ _)

theorem running_balance :
    UInt32.ofNat (delivered log).length =
      UInt32.ofNat ((returned log).length + queued tasks.driver + removed log) +
        tasks.driver.droppedReceivePackets + UInt32.ofNat tasks.callback.inFlight := by
  rw [running.delivered, running.returned, running.removed, running_queued running,
    List.length_map, List.length_append, List.length_map, account.balance, Callback.inFlight]
  simp only [UInt32.ofNat_add, running.dropped]
  ac_rfl

end Running

/-- In a session a packet is refused by a full queue only, and none is sent to a
queue that is not there. -/
theorem session_refused {driver : Driver} {config : Config} {outcome : InitOutcome}
    (closed : driver.initialized = false) (success : (init driver config outcome).1 = espOk)
    (session : List Event) (inside : ∀ event ∈ session, event.InSession) (event : Event) :
    (step (run step (entering driver config outcome) session) event).2 ≠ .undefined ∧
      ((step (run step (entering driver config outcome) session) event).2 = .refused →
        queued (run step (entering driver config outcome) session).driver =
          config.receiveQueueDepth.toNat) := by
  have sending := @sending_of_effect (run step (entering driver config outcome) session) event
  rcases session_account closed success session inside with opening | ⟨account, running⟩
  · have quiet : ¬ ((step (run step (entering driver config outcome) session) event).2 = .refused ∨
        (step (run step (entering driver config outcome) session) event).2 = .undefined) := by
      intro effect
      obtain ⟨_, packet, callback⟩ := sending effect
      rw [opening.idle] at callback
      cases callback
    exact ⟨fun effect => quiet (Or.inr effect), fun effect => absurd (Or.inl effect) quiet⟩
  · constructor
    · intro effect
      obtain ⟨rfl, packet, callback⟩ := sending (Or.inr effect)
      exact (running_refused running callback).1 effect
    · intro effect
      obtain ⟨rfl, packet, callback⟩ := sending (Or.inl effect)
      exact (running_refused running callback).2 effect

/-- From a successful `init` up to the next `deinit`, whatever the two tasks do in
between: the packets returned are a subsequence of the valid deliveries, with their
content; a packet is refused only by a queue that is full, and never sent to a queue
that is not there; once `init` is done the valid deliveries are accounted for modulo
2^32; and a delivery to a driver that is not initialised leaves no trace. -/
theorem receive_queue_account (driver : Driver) (config : Config) (outcome : InitOutcome)
    (closed : driver.initialized = false) (success : (init driver config outcome).1 = espOk)
    (session : List Event) (inside : ∀ event ∈ session, event.InSession) :
    (returned (history step (entering driver config outcome) session)).Sublist
        (delivered (history step (entering driver config outcome) session)) ∧
      (∀ before event after, session = before ++ event :: after →
        (step (run step (entering driver config outcome) before) event).2 ≠ .undefined ∧
        ((step (run step (entering driver config outcome) before) event).2 = .refused →
          queued (run step (entering driver config outcome) before).driver =
            config.receiveQueueDepth.toNat)) ∧
      ((run step (entering driver config outcome) session).driver.initialized = true →
        UInt32.ofNat (delivered (history step (entering driver config outcome) session)).length =
          UInt32.ofNat ((returned (history step (entering driver config outcome) session)).length +
              queued (run step (entering driver config outcome) session).driver +
              removed (history step (entering driver config outcome) session)) +
            (run step (entering driver config outcome) session).driver.droppedReceivePackets +
            UInt32.ofNat (run step (entering driver config outcome) session).callback.inFlight) ∧
      ∀ (tasks : Tasks) (delivery : Delivery), tasks.driver.initialized = false →
        tasks.callback = .idle → (step tasks (.deliver delivery)).1 = tasks := by
  refine ⟨?_, ?_, ?_, ?_⟩
  · rcases session_account closed success session inside with opening | ⟨account, running⟩
    · rw [opening.noneReturned, opening.noneDelivered]
    · exact running_sublist running
  · intro before event after split
    have part : ∀ event ∈ before, event.InSession := by
      intro event member
      exact inside event (by rw [split]; exact List.mem_append_left _ member)
    exact session_refused closed success before part event
  · intro initialized
    rcases session_account closed success session inside with opening | ⟨account, running⟩
    · rw [opening.closed] at initialized
      cases initialized
    · exact running_balance running
  · intro tasks delivery uninitialised idle
    rcases tasks with ⟨driver, callback, program⟩
    dsimp only at uninitialised idle
    rw [idle, step, uninitialised]
    rfl

/-- The nine statements of `init`, then three deliveries to a queue of one packet, of
which the second is dropped and the third has no source, and one call of `receive`. -/
def sampleDelivery (source : Option Mac) : Delivery :=
  { info := some ⟨source, none, some (-40)⟩
    data := some [0x52, 0x43]
    dataLength := 2
    covered := by
      rintro bytes ⟨⟩
      decide }

def sampleSession : List Event :=
  List.replicate 9 .main ++
    [.deliver (sampleDelivery (some (Vector.replicate macAddressSize 2))), .callback, .callback,
      .deliver (sampleDelivery (some (Vector.replicate macAddressSize 4))), .callback, .callback,
      .callback, .deliver (sampleDelivery none), .callback, .receive]

theorem receive_queue_account_sample :
    (run step (entering {} { receiveQueueDepth := 1 } {}) sampleSession).driver.initialized = true ∧
      UInt32.ofNat
          (delivered (history step (entering {} { receiveQueueDepth := 1 } {}) sampleSession)).length =
        UInt32.ofNat
            ((returned
                (history step (entering {} { receiveQueueDepth := 1 } {}) sampleSession)).length +
              queued (run step (entering {} { receiveQueueDepth := 1 } {}) sampleSession).driver +
              removed (history step (entering {} { receiveQueueDepth := 1 } {}) sampleSession)) +
          (run step (entering {} { receiveQueueDepth := 1 } {})
            sampleSession).driver.droppedReceivePackets +
          UInt32.ofNat (run step (entering {} { receiveQueueDepth := 1 } {})
            sampleSession).callback.inFlight := by
  have initialized : (run step (entering {} { receiveQueueDepth := 1 } {})
      sampleSession).driver.initialized = true := by
    decide +kernel
  have inside : ∀ event ∈ sampleSession, event.InSession := by
    simp [sampleSession, Event.InSession]
  exact ⟨initialized, (receive_queue_account {} { receiveQueueDepth := 1 } {} rfl
    (by decide +kernel) sampleSession inside).2.2.1 initialized⟩

end EspNowDriver
