import Rxu01.Reactive
import Rxu01.WifiManager

set_option autoImplicit false

/- Calls of the module in any order: what its flag and its channel say about the driver. -/
namespace WifiManager

open EspIdf (EspErr espErrInvalidArg espOk)
open Reactive (run)
open Unwinding (Ends attempt ends_attempt ends_call performAll)

/-- A call, with what the ESP-IDF calls in it return. -/
inductive Call where
  | init (config : Config) (outcome : InitOutcome)
  | deinit (stop deinit : EspErr)
  | setChannel (channel : UInt8) (result : EspErr)

def callStep (stops : Bool) (manager : Manager) (call : Call) :
    Manager × (EspErr × List Action) :=
  let result :=
    match call with
    | .init config outcome => init manager config outcome
    | .deinit stop result => deinit manager stop result
    | .setChannel channel result => setChannel manager channel result
  (performAll (perform stops) manager result.2, result)

/-- The calls that clean up inside `init` succeed. -/
def Call.CleanUpSucceeds : Call → Prop
  | .init _ outcome => outcome.wifiStop = espOk ∧ outcome.wifiDeinit = espOk
  | .deinit _ _ => True
  | .setChannel _ _ => True

structure Radio.Down (radio : Radio) : Prop where
  initialized : radio.initialized = false
  started : radio.started = false

/-- The driver runs on the channel the module remembers. -/
structure Open (manager : Manager) : Prop where
  initialized : manager.radio.initialized = true
  started : manager.radio.started = true
  channel : manager.radio.channel = some manager.config.channel

/-- The calls of a `deinit` take a running driver down. -/
def TearsDown (stops : Bool) (stop deinit : EspErr) : Prop :=
  deinit = espOk ∧ (stop = espOk ∨ stops = true)

/-- So does every `deinit` that finds the flag set. -/
def TornDown (stops : Bool) (calls : List Call) : Prop :=
  ∀ before stop deinit after, calls = before ++ .deinit stop deinit :: after →
    isInitialized (run (callStep stops) {} before) = true → TearsDown stops stop deinit

/-- After every call the flag is cleared just when the driver is down. -/
def Tracks (stops : Bool) (calls : List Call) : Prop :=
  ∀ before, before <+: calls →
    (isInitialized (run (callStep stops) {} before) = false ↔
      (run (callStep stops) {} before).radio.Down)

/-- What a call of `init` that finds the module closed leaves behind. -/
inductive InitEnds (manager : Manager) (config : Config) : EspErr → Manager → Prop where
  | opened : InitEnds manager config espOk
      { initialized := true
        config := config
        radio := { initialized := true, started := true, channel := some config.channel } }
  | failed {error : EspErr} (failed : error ≠ espOk) {radio : Radio}
      (down : manager.radio.Down → radio.Down) :
      InitEnds manager config error { manager with radio := radio }

theorem not_succeeded {result : EspErr} (rejected : succeeded result = false) : result ≠ espOk := by
  simpa [succeeded] using rejected

theorem not_done {result : EspErr} (rejected : succeededOrDone result = false) :
    result ≠ espOk := by
  rw [succeededOrDone, Bool.or_eq_false_iff] at rejected
  simpa using rejected.1

theorem of_succeeded {result : EspErr} (accepted : succeeded result = true) : result = espOk := by
  simpa [succeeded] using accepted

section Effects

variable (stops : Bool) (manager : Manager)

theorem effect_ok {result : EspErr} (success : result = espOk) (change : Radio → Radio) :
    manager.effect result change = { manager with radio := change manager.radio } := by
  rw [Manager.effect, if_pos success]

theorem effect_failed {result : EspErr} (failed : result ≠ espOk) (change : Radio → Radio) :
    manager.effect result change = manager := by
  rw [Manager.effect, if_neg failed]

theorem initNvs_silent (outcome : InitOutcome) :
    performAll (perform stops) manager (initNvs outcome).2 = manager := by
  unfold initNvs
  split
  · split
    · rfl
    · rfl
  · rfl

def Radio.cleaned (wifiStarted : Bool) (radio : Radio) : Radio :=
  (if wifiStarted then radio.stop else radio).deinit stops

theorem performAll_cleanup (wifiStarted : Bool) {outcome : InitOutcome}
    (stop : outcome.wifiStop = espOk) (deinit : outcome.wifiDeinit = espOk) :
    performAll (perform stops) manager (cleanupAfterFailedInit wifiStarted outcome) =
      { manager with radio := manager.radio.cleaned stops wifiStarted } := by
  cases wifiStarted with
  | false => exact effect_ok manager deinit _
  | true =>
      have stopped := effect_ok manager stop Radio.stop
      simp only [cleanupAfterFailedInit, ↓reduceIte, List.singleton_append,
        Unwinding.performAll_cons, Unwinding.performAll_nil, perform, stopped]
      exact effect_ok _ deinit _

theorem cleaned_down {wifiStarted : Bool} {radio : Radio}
    (idle : wifiStarted = false → radio.started = false) :
    (radio.cleaned stops wifiStarted).Down := by
  cases wifiStarted with
  | false =>
      refine ⟨rfl, ?_⟩
      rw [Radio.cleaned, if_neg Bool.false_ne_true, Radio.deinit, idle rfl, Bool.false_and]
  | true => exact ⟨rfl, rfl⟩

end Effects

section Init

variable {stops : Bool} {manager : Manager} {post : EspErr → Manager → Prop} {result : EspErr}
variable {action : Action} {cleanUp : List Action} {rest : EspErr × List Action}

theorem ends_silent {accepts : EspErr → Bool} (silent : perform stops manager action = manager)
    (rejected : accepts result = false → post result (performAll (perform stops) manager cleanUp))
    (accepted : Ends (perform stops) post manager rest) :
    Ends (perform stops) post manager (attempt accepts cleanUp (result, [action]) rest) := by
  apply ends_call
  · rw [silent]
    exact rejected
  · rw [silent]
    exact fun _ => accepted

theorem ends_effect (change : Radio → Radio)
    (acts : perform stops manager action = manager.effect result change)
    (rejected : result ≠ espOk → post result (performAll (perform stops) manager cleanUp))
    (accepted : Ends (perform stops) post { manager with radio := change manager.radio } rest) :
    Ends (perform stops) post manager (attempt succeeded cleanUp (result, [action]) rest) := by
  apply ends_call
  · intro failure
    have failed := not_succeeded failure
    rw [acts, effect_failed manager failed change]
    exact rejected failed
  · intro success
    rw [acts, effect_ok manager (of_succeeded success) change]
    exact accepted

variable (config : Config) {outcome : InitOutcome}

/-- Each call of `init` is accepted or ends it, with the clean-up that is due by then. -/
theorem init_ends (closed : manager.initialized = false) (stop : outcome.wifiStop = espOk)
    (deinit : outcome.wifiDeinit = espOk) :
    Ends (perform stops) (InitEnds manager config) manager (init manager config outcome) := by
  have untouched {error : EspErr} (failed : error ≠ espOk) : InitEnds manager config error manager :=
    .failed failed fun down => down
  have cleaned (wifiStarted : Bool) {radio : Radio}
      (idle : manager.radio.Down → wifiStarted = false → radio.started = false) {error : EspErr}
      (failed : error ≠ espOk) : InitEnds manager config error (performAll (perform stops)
        { manager with radio := radio } (cleanupAfterFailedInit wifiStarted outcome)) := by
    rw [performAll_cleanup stops _ wifiStarted stop deinit]
    exact .failed failed fun down => cleaned_down stops (idle down)
  rw [init, if_neg (by simp [closed])]
  split
  · exact untouched (show espErrInvalidArg ≠ espOk by decide)
  apply ends_attempt
  · intro rejected
    rw [initNvs_silent]
    exact untouched (not_succeeded rejected)
  rw [initNvs_silent]
  intro _
  apply ends_silent rfl (fun rejected => untouched (not_done rejected))
  apply ends_silent rfl (fun rejected => untouched (not_done rejected))
  apply ends_effect Radio.init rfl untouched
  -- from here on there is a driver to take down again
  have idle : manager.radio.Down → false = false → manager.radio.init.started = false :=
    fun down _ => down.started
  apply ends_silent rfl (fun rejected => cleaned false idle (not_succeeded rejected))
  apply ends_silent rfl (fun rejected => cleaned false idle (not_succeeded rejected))
  apply ends_attempt
  · split
    · exact fun rejected => cleaned false idle (not_succeeded rejected)
    · exact fun rejected => absurd rfl (not_succeeded rejected)
  intro _
  have same : performAll (perform stops) { manager with radio := manager.radio.init }
      (if config.useCustomStationMac then
        (outcome.wifiSetMac, [.wifiSetMac config.stationMac outcome.wifiSetMac])
      else (espOk, [])).2 = { manager with radio := manager.radio.init } := by
    split
    · rfl
    · rfl
  rw [same]
  apply ends_effect Radio.start rfl (cleaned false idle)
  apply ends_effect (Radio.setChannel · config.channel) rfl
    (cleaned true fun _ impossible => nomatch impossible)
  apply ends_silent rfl
    (fun rejected => cleaned true (fun _ impossible => nomatch impossible) (not_succeeded rejected))
  exact InitEnds.opened

end Init

section Step

variable (stops : Bool) {manager : Manager}

theorem deinit_repeated (closed : manager.initialized = false) (stop result : EspErr) :
    deinit manager stop result = (espOk, []) := by
  rw [deinit, if_pos (by simp [closed])]

theorem init_repeated (flag : manager.initialized = true) (config : Config)
    (outcome : InitOutcome) : init manager config outcome = (espOk, []) := by
  rw [init, if_pos flag]

/-- The flag and the configuration are reset whatever the two calls return. -/
theorem deinit_resets (flag : manager.initialized = true) (stop result : EspErr) :
    (callStep stops manager (.deinit stop result)).1 =
      { initialized := false
        config := {}
        radio := ((manager.effect stop Radio.stop).effect result (Radio.deinit stops)).radio } := by
  simp only [callStep, deinit, flag, not_true_eq_false, ↓reduceIte]
  rfl

theorem deinit_clears (manager : Manager) (stop result : EspErr) :
    (callStep stops manager (.deinit stop result)).1.initialized = false := by
  cases flag : manager.initialized with
  | false =>
      simp only [callStep, deinit_repeated flag]
      exact flag
  | true => rw [deinit_resets stops flag]

theorem deinit_down (opened : Open manager) (flag : manager.initialized = true)
    (stop result : EspErr) :
    (callStep stops manager (.deinit stop result)).1.radio.Down ↔ TearsDown stops stop result := by
  rw [deinit_resets stops flag]
  dsimp only
  by_cases success : result = espOk
  · rw [effect_ok _ success]
    by_cases stopped : stop = espOk
    · rw [effect_ok _ stopped]
      exact ⟨fun _ => ⟨success, Or.inl stopped⟩, fun _ => ⟨rfl, rfl⟩⟩
    · rw [effect_failed _ stopped]
      constructor
      · intro down
        have idle := down.started
        rw [Radio.deinit, opened.started, Bool.true_and] at idle
        exact ⟨success, Or.inr (by simpa using idle)⟩
      · rintro ⟨_, impossible | halted⟩
        · exact absurd impossible stopped
        · refine ⟨rfl, ?_⟩
          rw [Radio.deinit, halted, Bool.not_true, Bool.and_false]
  · rw [effect_failed _ success]
    refine ⟨fun down => ?_, fun tears => absurd tears.1 success⟩
    have absent := down.initialized
    have present : (manager.effect stop Radio.stop).radio.initialized = true := by
      unfold Manager.effect
      split
      · exact opened.initialized
      · exact opened.initialized
    rw [present] at absent
    cases absent

theorem setChannel_step (kept : manager.initialized = true → Open manager) (channel : UInt8)
    (result : EspErr) :
    (callStep stops manager (.setChannel channel result)).1.initialized = manager.initialized ∧
      (manager.initialized = false →
        (callStep stops manager (.setChannel channel result)).1 = manager) ∧
      (manager.initialized = true →
        Open (callStep stops manager (.setChannel channel result)).1) := by
  simp only [callStep]
  unfold setChannel
  split
  · exact ⟨rfl, fun _ => rfl, kept⟩
  rename_i flag
  split
  · exact ⟨rfl, fun _ => rfl, kept⟩
  have opened := kept (Decidable.not_not.mp flag)
  by_cases success : result = espOk
  · have moved := effect_ok manager success (Radio.setChannel · channel)
    dsimp only
    rw [if_pos success, Unwinding.performAll_cons, perform, moved]
    exact ⟨rfl, fun closed => absurd closed (by simpa using flag),
      fun _ => ⟨opened.initialized, opened.started, rfl⟩⟩
  · have same := effect_failed manager success (Radio.setChannel · channel)
    dsimp only
    rw [if_neg success, Unwinding.performAll_cons, perform, same]
    exact ⟨rfl, fun _ => rfl, fun _ => opened⟩

theorem init_step (config : Config) {outcome : InitOutcome} (closed : manager.initialized = false)
    (cleanUp : (Call.init config outcome).CleanUpSucceeds) :
    ∃ error, InitEnds manager config error (callStep stops manager (.init config outcome)).1 :=
  ⟨_, init_ends config closed cleanUp.1 cleanUp.2⟩

/-- Whatever fails, a set flag is right about the driver. -/
theorem open_step (kept : manager.initialized = true → Open manager) (call : Call)
    (cleanUp : call.CleanUpSucceeds) (flag : (callStep stops manager call).1.initialized = true) :
    Open (callStep stops manager call).1 := by
  cases call with
  | init config outcome =>
      cases before : manager.initialized with
      | true =>
          simp only [callStep, init_repeated before]
          exact kept before
      | false =>
          obtain ⟨error, ends⟩ := init_step stops config before cleanUp
          generalize (callStep stops manager (.init config outcome)).1 = after at *
          cases ends with
          | opened => exact ⟨rfl, rfl, rfl⟩
          | failed => exact absurd (before.symm.trans flag) Bool.false_ne_true
  | deinit stop result =>
      rw [deinit_clears] at flag
      cases flag
  | setChannel channel result =>
      obtain ⟨same, _, opened⟩ := setChannel_step stops kept channel result
      rw [same] at flag
      exact opened flag

/-- A cleared flag is right about the driver where the tear-downs succeed. -/
theorem down_step (kept : manager.initialized = true → Open manager)
    (closed : manager.initialized = false → manager.radio.Down) (call : Call)
    (cleanUp : call.CleanUpSucceeds)
    (tears : ∀ stop result, call = .deinit stop result → manager.initialized = true →
      TearsDown stops stop result)
    (flag : (callStep stops manager call).1.initialized = false) :
    (callStep stops manager call).1.radio.Down := by
  cases call with
  | init config outcome =>
      cases before : manager.initialized with
      | true =>
          simp only [callStep, init_repeated before] at flag
          exact absurd (flag.symm.trans before) Bool.false_ne_true
      | false =>
          obtain ⟨error, ends⟩ := init_step stops config before cleanUp
          generalize (callStep stops manager (.init config outcome)).1 = after at *
          cases ends with
          | opened => cases flag
          | failed _ down => exact down (closed before)
  | deinit stop result =>
      cases before : manager.initialized with
      | true => exact (deinit_down stops (kept before) before stop result).mpr (tears stop result rfl before)
      | false =>
          simp only [callStep, deinit_repeated before]
          exact closed before
  | setChannel channel result =>
      obtain ⟨same, unchanged, _⟩ := setChannel_step stops kept channel result
      rw [same] at flag
      rw [unchanged flag]
      exact closed flag

end Step

section Run

variable {stops : Bool} {calls : List Call}

theorem cleanUp_front {call : Call}
    (cleanUp : ∀ other ∈ calls ++ [call], other.CleanUpSucceeds) :
    ∀ other ∈ calls, other.CleanUpSucceeds :=
  fun other member => cleanUp other (List.mem_append_left _ member)

theorem open_run (cleanUp : ∀ call ∈ calls, call.CleanUpSucceeds)
    (flag : (run (callStep stops) {} calls).initialized = true) :
    Open (run (callStep stops) {} calls) := by
  revert flag
  apply Reactive.legal_induction (callStep stops) (fun calls => ∀ call ∈ calls, call.CleanUpSucceeds)
    (fun _ manager => manager.initialized = true → Open manager) {} nofun
    (fun _ _ => cleanUp_front)
  · intro calls call clean kept
    exact open_step stops kept call (clean call List.mem_concat_self)
  · exact cleanUp

theorem tornDown_front {before : List Call} (torn : TornDown stops calls)
    (front : before <+: calls) : TornDown stops before := by
  obtain ⟨rest, rfl⟩ := front
  intro earlier stop result after split
  apply torn earlier stop result (after ++ rest)
  rw [split, List.append_assoc, List.cons_append]

theorem down_run (cleanUp : ∀ call ∈ calls, call.CleanUpSucceeds) (torn : TornDown stops calls)
    (flag : (run (callStep stops) {} calls).initialized = false) :
    (run (callStep stops) {} calls).radio.Down := by
  induction calls using List.reverseRecOn with
  | nil => exact ⟨rfl, rfl⟩
  | append_singleton calls call ih =>
      have clean := cleanUp_front cleanUp
      rw [Reactive.run_append] at flag ⊢
      refine down_step stops (open_run clean) (ih clean (tornDown_front torn (List.prefix_append _ _)))
        call (cleanUp call List.mem_concat_self) ?_ flag
      intro stop result made opened
      subst made
      exact torn calls stop result [] rfl opened

/-- The flag follows the driver exactly through the runs whose tear-downs succeed. -/
theorem tracks_iff (cleanUp : ∀ call ∈ calls, call.CleanUpSucceeds) :
    Tracks stops calls ↔ TornDown stops calls := by
  constructor
  · intro tracks before stop result after split opened
    have clean : ∀ call ∈ before, call.CleanUpSucceeds := fun call member =>
      cleanUp call (split ▸ List.mem_append_left _ member)
    have front : before ++ [.deinit stop result] <+: calls := by
      refine ⟨after, ?_⟩
      rw [split]
      exact (List.append_cons before _ after).symm
    have after := tracks _ front
    rw [Reactive.run_append] at after
    have cleared := after.mp (deinit_clears stops (run (callStep stops) {} before) stop result)
    exact (deinit_down stops (open_run clean opened) opened stop result).mp cleared
  · intro torn before front
    have clean : ∀ call ∈ before, call.CleanUpSucceeds := fun call member =>
      cleanUp call (front.subset member)
    constructor
    · exact down_run clean (tornDown_front torn front)
    · intro down
      cases flag : isInitialized (run (callStep stops) {} before) with
      | false => rfl
      | true =>
          have present := (open_run clean flag).initialized
          rw [down.initialized] at present
          cases present

end Run

/-- After any calls: a set flag means that the driver runs on the channel that
`get_channel` returns; the flag has been cleared just when the driver was down, after
each call, if and only if each `deinit` of a set flag took the driver down; and a
`deinit` clears the flag in any case, so that the next one makes no call. -/
theorem flag_tracks (stops : Bool) (calls : List Call)
    (cleanUp : ∀ call ∈ calls, call.CleanUpSucceeds) :
    let manager := run (callStep stops) {} calls
    (isInitialized manager = true → manager.radio.initialized = true ∧
      manager.radio.started = true ∧ manager.radio.channel = some (getChannel manager)) ∧
      (Tracks stops calls ↔ TornDown stops calls) ∧
      ∀ stop result, isInitialized (callStep stops manager (.deinit stop result)).1 = false ∧
        ∀ stop' result', deinit (callStep stops manager (.deinit stop result)).1 stop' result' =
          (espOk, []) := by
  intro manager
  refine ⟨fun flag => ?_, tracks_iff cleanUp, fun stop result => ?_⟩
  · obtain ⟨initialized, started, channel⟩ := open_run cleanUp flag
    have running : manager.initialized = true := flag
    rw [getChannel, if_pos running]
    exact ⟨initialized, started, channel⟩
  · have cleared := deinit_clears stops manager stop result
    exact ⟨cleared, deinit_repeated cleared⟩

/-- Wi-Fi is started, neither call of the tear-down succeeds, and it is started again. -/
def sampleCalls : List Call := [.init {} {}, .deinit (-1) 0x3003, .init {} {}]

theorem flag_tracks_sample :
    (run (callStep true) {} sampleCalls).radio.channel =
      some (getChannel (run (callStep true) {} sampleCalls)) :=
  have cleanUp : ∀ call ∈ sampleCalls, call.CleanUpSucceeds := by
    simp [sampleCalls, Call.CleanUpSucceeds]
  ((flag_tracks true sampleCalls cleanUp).1 rfl).2.2

/-- When both calls of a tear-down fail, the flag is cleared while Wi-Fi runs on, and the
next `deinit` reports success without a call. -/
theorem tear_down_not_retried :
    let manager := run (callStep true) {} [.init {} {}, .deinit (-1) 0x3003]
    isInitialized manager = false ∧
      manager.radio = { initialized := true, started := true, channel := some 1 } ∧
      ∀ stop result, deinit manager stop result = (espOk, []) :=
  ⟨rfl, rfl, fun _ _ => rfl⟩

end WifiManager
