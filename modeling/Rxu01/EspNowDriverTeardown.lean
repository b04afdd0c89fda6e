import Rxu01.EspNowDriverTasks

set_option autoImplicit false

/- The receive queue under both tasks and over any number of `init` and `deinit`: when
the callback can find it deleted. -/
namespace EspNowDriver

open EspIdf (EspErr espOk)
open Reactive (run history)

/-- What is left of a `deinit` once the driver is marked closed. -/
def closing (result : EspErr) : List Action :=
  .unregisterRecvCb :: .unregisterSendCb :: .espNowDeinit result :: deleteQueues ++
    [.storeConfig {}]

/-- The rest of a call on a closed driver, whose queue is there or not: it marks the driver
open last of all, and only with a queue. -/
def ClosedProgram : Bool → List Action → Prop
  | _, [] => True
  | held, action :: rest =>
      match action with
      | .storeInitialized value => value = true ∧ held = true ∧ rest = []
      | .createReceiveQueue _ created => ClosedProgram created rest
      | .deleteReceiveQueue => ClosedProgram false rest
      | _ => ClosedProgram held rest

/-- Where the driver stands between two steps of the tasks. -/
inductive Phase (tasks : Tasks) : Prop where
  | closed (shut : tasks.driver.initialized = false) (quiet : tasks.callback.contents = [])
      (program : ClosedProgram tasks.driver.receiveQueue.isSome tasks.program) : Phase tasks
  | running (opened : tasks.driver.initialized = true)
      (created : tasks.driver.receiveQueue.isSome = true)
      (program : ∀ action ∈ tasks.program, action ∈ clearQueues ++ resetStatistics) : Phase tasks
  | leaving (opened : tasks.driver.initialized = true)
      (created : tasks.driver.receiveQueue.isSome = true) (result : EspErr)
      (program : tasks.program = .storeInitialized false :: closing result) : Phase tasks
  | closing (shut : tasks.driver.initialized = false)
      (created : tasks.driver.receiveQueue.isSome = true) (result : EspErr)
      (program : tasks.program = closing result) : Phase tasks

/-- The main task is about to unregister the callback while that, past the load of
`g_initialized`, has a packet to send. -/
def Overlaps (tasks : Tasks) : Prop :=
  tasks.program.head? = some .unregisterRecvCb ∧ tasks.callback.contents ≠ []

instance (tasks : Tasks) : Decidable (Overlaps tasks) := inferInstanceAs (Decidable (_ ∧ _))

theorem init_closedProgram (driver : Driver) (config : Config) (outcome : InitOutcome)
    (held : Bool) :
    ClosedProgram held (init driver config outcome).2 := by
  have ended := init_run driver config outcome
  generalize init driver config outcome = result at ended ⊢
  cases ended with
  | repeated => trivial
  | refused => trivial
  | gaveUp _ _ gives =>
      cases gives with
      | receiveQueue => trivial
      | sendResultQueue => trivial
      | espNowInit => trivial
      | registerRecvCb => trivial
      | registerSendCb => trivial
  | opened => exact ⟨rfl, rfl, rfl⟩

/-- A statement of a call on a closed driver. -/
theorem ClosedProgram.perform {driver : Driver} {action : Action} {rest : List Action}
    (shut : driver.initialized = false)
    (program : ClosedProgram driver.receiveQueue.isSome (action :: rest)) :
    (perform driver action).initialized = false ∧
        ClosedProgram (perform driver action).receiveQueue.isSome rest ∨
      (perform driver action).initialized = true ∧
        (perform driver action).receiveQueue.isSome = true ∧ rest = [] := by
  cases action with
  | createReceiveQueue depth created =>
      refine Or.inl ⟨shut, ?_⟩
      cases created with
      | true => exact program
      | false => exact program
  | deleteReceiveQueue => exact Or.inl ⟨shut, program⟩
  | storeInitialized value =>
      obtain ⟨rfl, held, last⟩ := program
      exact Or.inr ⟨rfl, held, last⟩
  | resetReceiveQueue =>
      refine Or.inl ⟨shut, ?_⟩
      change ClosedProgram (driver.receiveQueue.map BoundedQueue.reset).isSome rest
      rw [Option.isSome_map]
      exact program
  | espNowInit result | espNowDeinit result | registerRecvCb result | registerSendCb result =>
      unfold EspNowDriver.perform
      dsimp only
      split
      · exact Or.inl ⟨shut, program⟩
      · exact Or.inl ⟨shut, program⟩
  | _ => exact Or.inl ⟨shut, program⟩

section Steps

variable {tasks after : Tasks}

/-- A step that closes nothing, deletes nothing and leaves the program. -/
theorem Phase.keep (phase : Phase tasks)
    (initialized : after.driver.initialized = tasks.driver.initialized)
    (created : after.driver.receiveQueue.isSome = tasks.driver.receiveQueue.isSome)
    (program : after.program = tasks.program)
    (quiet : tasks.driver.initialized = false → tasks.callback.contents = [] →
      after.callback.contents = []) : Phase after := by
  cases phase with
  | closed shut still rest =>
      refine .closed (initialized.trans shut) (quiet shut still) ?_
      rw [created, program]
      exact rest
  | running opened held rest =>
      refine .running (initialized.trans opened) (created.trans held) ?_
      rw [program]
      exact rest
  | leaving opened held result rest =>
      exact .leaving (initialized.trans opened) (created.trans held) result (program.trans rest)
  | closing shut held result rest =>
      exact .closing (initialized.trans shut) (created.trans held) result (program.trans rest)

theorem Phase.held (phase : Phase tasks) {packet : ReceivedPacket}
    (sending : tasks.callback = .sending packet) : tasks.driver.receiveQueue.isSome = true := by
  cases phase with
  | closed _ quiet _ =>
      rw [sending] at quiet
      cases quiet
  | running _ created _ => exact created
  | leaving _ created _ _ => exact created
  | closing _ created _ _ => exact created

/-- A delivery without content passes no check. -/
theorem checked_quiet {delivery : Delivery} (quiet : (Callback.checking delivery).contents = [])
    (driver : Driver) : checkDelivery driver delivery = none := by
  cases checked : checkDelivery driver delivery with
  | none => rfl
  | some packet =>
      have content := checkDelivery_content (checkDelivery_created checked) delivery
      rw [Callback.contents, ← content, checked] at quiet
      cases quiet

/-- A step of the callback uses the queue only while that is there. -/
theorem phase_callback (phase : Phase tasks) :
    Phase (step tasks .callback).1 ∧ (step tasks .callback).2 ≠ .undefined := by
  cases callback : tasks.callback with
  | idle =>
      simp only [step, callback]
      exact ⟨phase, Effect.noConfusion⟩
  | checking delivery =>
      simp only [step, callback]
      refine ⟨phase.keep rfl rfl rfl ?_, Effect.noConfusion⟩
      intro _ quiet
      rw [callback] at quiet
      rw [checked_quiet quiet]
      rfl
  | counting =>
      simp only [step, callback]
      exact ⟨phase.keep rfl rfl rfl (fun _ _ => rfl), Effect.noConfusion⟩
  | sending packet =>
      obtain ⟨queue, created⟩ := Option.isSome_iff_exists.mp (phase.held callback)
      rw [step_sending created callback]
      refine ⟨phase.keep rfl (by rw [created]; rfl) rfl ?_, ?_⟩
      · intro _ quiet
        rw [callback] at quiet
        cases quiet
      · split
        · exact Effect.noConfusion
        · exact Effect.noConfusion

/-- A closed driver turns every callback away. -/
theorem phase_deliver (phase : Phase tasks) (delivery : Delivery) :
    Phase (step tasks (.deliver delivery)).1 := by
  cases callback : tasks.callback with
  | idle =>
      simp only [step, callback]
      refine phase.keep rfl rfl rfl ?_
      intro shut _
      rw [shut]
      rfl
  | checking other =>
      simp only [step, callback]
      exact phase
  | sending packet =>
      simp only [step, callback]
      exact phase
  | counting =>
      simp only [step, callback]
      exact phase

theorem phase_main (phase : Phase tasks) (apart : ¬ Overlaps tasks) :
    Phase (step tasks .main).1 := by
  cases program : tasks.program with
  | nil =>
      simp only [step, program]
      exact phase
  | cons action rest =>
      simp only [step, program]
      cases phase with
      | closed shut quiet closedProgram =>
          rw [program] at closedProgram
          rcases closedProgram.perform shut with ⟨shut', rest'⟩ | ⟨opened, created, last⟩
          · exact .closed shut' quiet rest'
          · refine .running opened created ?_
            rw [last]
            exact List.forall_mem_nil _
      | running opened created statistics =>
          rw [program] at statistics
          have kept : (perform tasks.driver action).initialized = tasks.driver.initialized ∧
              (perform tasks.driver action).receiveQueue.isSome =
                tasks.driver.receiveQueue.isSome := by
            have known := statistics action List.mem_cons_self
            simp only [clearQueues, resetStatistics, List.cons_append, List.nil_append,
              List.mem_cons, List.not_mem_nil, or_false] at known
            rcases known with rfl | rfl | rfl | rfl
            · exact ⟨rfl, Option.isSome_map⟩
            · exact ⟨rfl, rfl⟩
            · exact ⟨rfl, rfl⟩
            · exact ⟨rfl, rfl⟩
          exact .running (kept.1.trans opened) (kept.2.trans created)
            (fun other member => statistics other (List.mem_cons_of_mem _ member))
      | leaving opened created result leaves =>
          rw [program] at leaves
          obtain ⟨rfl, rfl⟩ := List.cons.inj leaves
          exact .closing rfl created result rfl
      | closing shut created result closes =>
          rw [program] at closes
          obtain ⟨rfl, rfl⟩ := List.cons.inj closes
          refine .closed shut ?_ trivial
          by_contra busy
          exact apart ⟨by rw [program]; rfl, busy⟩

/-- A call entered between two others. -/
theorem phase_call (phase : Phase tasks) (program : List Action)
    (closedProgram : tasks.driver.initialized = false →
      ClosedProgram tasks.driver.receiveQueue.isSome program)
    (openProgram : tasks.driver.initialized = true →
      (∀ action ∈ program, action ∈ clearQueues ++ resetStatistics) ∨
        ∃ result, program = .storeInitialized false :: closing result) :
    Phase (call tasks program).1 ∧ (call tasks program).2 ≠ .undefined := by
  unfold call
  split
  · rename_i between
    refine ⟨?_, Effect.noConfusion⟩
    cases phase with
    | closed shut quiet _ => exact .closed shut quiet (closedProgram shut)
    | running opened created _ =>
        rcases openProgram opened with statistics | ⟨result, leaves⟩
        · exact .running opened created statistics
        · exact .leaving opened created result leaves
    | leaving _ _ _ inside =>
        rw [between] at inside
        cases inside
    | closing _ _ _ inside =>
        rw [between] at inside
        cases inside
  · exact ⟨phase, Effect.noConfusion⟩

theorem phase_step (phase : Phase tasks) (event : Event)
    (apart : event = .main → ¬ Overlaps tasks) :
    Phase (step tasks event).1 ∧ (step tasks event).2 ≠ .undefined := by
  cases event with
  | callback => exact phase_callback phase
  | deliver delivery =>
      refine ⟨phase_deliver phase delivery, ?_⟩
      unfold step
      dsimp only
      split
      · exact Effect.noConfusion
      · exact Effect.noConfusion
  | init config outcome =>
      apply phase_call phase
      · exact fun _ => init_closedProgram _ config outcome _
      · intro opened
        unfold init
        rw [if_pos opened]
        exact Or.inl (List.forall_mem_nil _)
  | deinit result =>
      apply phase_call phase
      · intro shut
        unfold deinit
        rw [shut, if_pos Bool.false_ne_true]
        trivial
      · intro opened
        unfold deinit
        rw [opened, if_neg (by decide)]
        exact Or.inr ⟨result, rfl⟩
  | resetStatistics =>
      apply phase_call phase
      · exact fun _ => trivial
      · exact fun _ => Or.inl (fun action member => List.mem_append_right _ member)
  | clearQueues =>
      apply phase_call phase
      · exact fun _ => trivial
      · exact fun _ => Or.inl (fun action member => List.mem_append_left _ member)
  | receive =>
      unfold step
      dsimp only
      split
      · refine ⟨phase.keep ?_ ?_ rfl (fun _ quiet => quiet), Effect.noConfusion⟩
        · unfold receive
          split
          · rfl
          · rfl
        · unfold receive
          split
          · rename_i created
            rw [created]
            rfl
          · rfl
      · exact ⟨phase, Effect.noConfusion⟩
  | main =>
      refine ⟨phase_main phase (apart rfl), ?_⟩
      unfold step
      dsimp only
      split
      · exact Effect.noConfusion
      · exact Effect.noConfusion

end Steps

def Event.isMain : Event → Bool
  | .main => true
  | _ => false

/-- In no step of the schedule does the main task unregister a callback with a packet to
send. -/
def Apart : Tasks → List Event → Prop
  | _, [] => True
  | tasks, event :: rest =>
      (event.isMain = true → ¬ Overlaps tasks) ∧ Apart (step tasks event).1 rest

instance decidableApart : ∀ (tasks : Tasks) (events : List Event), Decidable (Apart tasks events)
  | _, [] => isTrue trivial
  | tasks, event :: rest =>
      have := decidableApart (step tasks event).1 rest
      inferInstanceAs (Decidable (_ ∧ Apart (step tasks event).1 rest))

/-- Before the first `init`. -/
def atRest : Tasks := { driver := {} }

theorem phase_atRest : Phase atRest := .closed rfl rfl trivial

theorem phase_run {tasks : Tasks} (phase : Phase tasks) (events : List Event)
    (apart : Apart tasks events) :
    Phase (run step tasks events) ∧
      ∀ entry ∈ history step tasks events, entry.2 ≠ .undefined := by
  induction events generalizing tasks with
  | nil => exact ⟨phase, List.forall_mem_nil _⟩
  | cons event rest ih =>
      obtain ⟨here, later⟩ := apart
      obtain ⟨next, shown⟩ := phase_step phase event (by
        rintro rfl
        exact here rfl)
      obtain ⟨last, others⟩ := ih next later
      exact ⟨last, List.forall_mem_cons.mpr ⟨shown, others⟩⟩

/-- A `deinit` that overtakes an `xQueueSend` deletes the queue under it. -/
theorem sending_undefined {driver : Driver} {packet : ReceivedPacket} (result : EspErr) :
    ∃ entry ∈ history step ⟨driver, .sending packet, closing result⟩
      [.main, .main, .main, .main, .callback], entry.2 = .undefined := by
  refine ⟨(.callback, .undefined), ?_, rfl⟩
  by_cases succeeds : result = espOk
  · simp [step, closing, deleteQueues, perform, queueSend, succeeds]
  · simp [step, closing, deleteQueues, perform, queueSend, succeeds]

theorem overlap_undefined {tasks : Tasks} (phase : Phase tasks) (overlaps : Overlaps tasks) :
    ∃ later, ∃ entry ∈ history step tasks later, entry.2 = .undefined := by
  obtain ⟨head, busy⟩ := overlaps
  cases phase with
  | closed _ quiet _ => exact absurd quiet busy
  | running _ _ statistics =>
      have known := statistics .unregisterRecvCb (List.mem_of_mem_head? head)
      simp [clearQueues, resetStatistics] at known
  | leaving _ _ _ program =>
      rw [program] at head
      cases head
  | closing _ created result program =>
      rcases tasks with ⟨driver, callback, rest⟩
      dsimp only at program busy created
      subst program
      cases callback with
      | idle => exact absurd rfl busy
      | counting => exact absurd rfl busy
      | sending packet => exact ⟨_, sending_undefined result⟩
      | checking delivery =>
          -- the checks still find the queue
          have content := checkDelivery_content created delivery
          cases checked : checkDelivery driver delivery with
          | none =>
              rw [checked] at content
              rw [Callback.contents, ← content] at busy
              exact absurd rfl busy
          | some packet =>
              obtain ⟨entry, member, undefined⟩ :=
                @sending_undefined driver packet result
              refine ⟨.callback :: [.main, .main, .main, .main, .callback], entry, ?_, undefined⟩
              rw [Reactive.history_cons]
              simp only [step, checked]
              exact List.mem_cons_of_mem _ member

/-- Over any schedule of the two tasks, from before the first `init`, in which no callback with
a packet to send is unregistered, every packet finds its queue; and if `deinit` unregisters
one next, the packet can find the queue deleted. -/
theorem queue_outlives_callback (events : List Event) (apart : Apart atRest events) :
    (∀ entry ∈ history step atRest events, entry.2 ≠ .undefined) ∧
      (Overlaps (run step atRest events) →
        ∃ later, ∃ entry ∈ history step atRest (events ++ later), entry.2 = .undefined) := by
  obtain ⟨phase, shown⟩ := phase_run phase_atRest events apart
  refine ⟨shown, fun overlaps => ?_⟩
  obtain ⟨later, entry, member, undefined⟩ := overlap_undefined phase overlaps
  refine ⟨later, entry, ?_, undefined⟩
  rw [Reactive.history_append]
  exact List.mem_append_right _ member

/-- The Wi-Fi task has loaded `g_initialized` when `deinit` marks the driver closed. -/
def lateDeinit : List Event :=
  .init {} {} :: List.replicate 9 .main ++
    [.deliver (sampleDelivery (some (Vector.replicate macAddressSize 2))), .deinit espOk, .main]

theorem queue_outlives_callback_late :
    ∃ later, ∃ entry ∈ history step atRest (lateDeinit ++ later), entry.2 = .undefined :=
  (queue_outlives_callback lateDeinit (by decide +kernel)).2 (by decide +kernel)

end EspNowDriver
