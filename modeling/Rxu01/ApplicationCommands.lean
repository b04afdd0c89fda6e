import Rxu01.ApplicationBus
import Rxu01.Mcp2515Punctual

set_option autoImplicit false

/- What reaches the CAN bus: frames that were ordered, and in front of a chip that sends in
time all of them. -/
namespace Application

open CanCommandRouter (CanFrame buildFrame)
open CanManager (Manager)
open EspNowCanGateway (TransmitCallback TransmitResult)
open EspNowDriver (Content Mac PeerTable functionTable receive)
open Mcp2515 (Advancing Chip Enters ObeyingMoves PersistentMoves Punctual Transmission Unerring
  canctrlReqopNormal)
open Peripheral (World)
open Reactive (run history)
open RemoteProtocol (Message)

variable {τ : Type} {table : PeerTable τ}

def transmitCallsIn (log : List (LoopEvent × LoopEffect)) : List (CanFrame × TransmitResult) :=
  (handed log).flatMap fun entry => transmitCalls entry.2

theorem transmitCallsIn_snoc (log : List (LoopEvent × LoopEffect))
    (entry : LoopEvent × LoopEffect) :
    transmitCallsIn (log ++ [entry]) = transmitCallsIn log ++ transmitCallsIn [entry] := by
  rw [transmitCallsIn, handed_snoc, List.flatMap_append]
  rfl

theorem transmittedIn_calls (log : List (LoopEvent × LoopEffect)) :
    transmittedIn log = (transmitCallsIn log).map Prod.fst :=
  List.map_flatMap.symm

/-- The sequence numbers of the requests among some contents. -/
def requestNumbers (config : Config) (contents : List Content) : List UInt16 :=
  (contents.filterMap (asked config)).map Message.sequenceNumber

theorem requestNumbers_append (config : Config) (earlier later : List Content) :
    requestNumbers config (earlier ++ later) =
      requestNumbers config earlier ++ requestNumbers config later := by
  rw [requestNumbers, List.filterMap_append, List.map_append]
  rfl

/-- The cache knows no request but those. -/
def Recalls (numbers : List UInt16) (entries : List CachedRequest) : Prop :=
  ∀ entry ∈ entries, entry.valid = true → entry.sequenceNumber ∈ numbers

section Cache

variable {numbers : List UInt16} {entries : List CachedRequest}

theorem Recalls.grow (recalls : Recalls numbers entries) (more : List UInt16) :
    Recalls (numbers ++ more) entries :=
  fun entry member valid => List.mem_append_left more (recalls entry member valid)

/-- The scan makes no entry valid. -/
theorem Recalls.scan (recalls : Recalls numbers entries) (clock : Nat → Int) (sourceMac : Mac)
    (sequenceNumber : UInt16) (index : Nat) :
    Recalls numbers (scanEntries clock sourceMac sequenceNumber index entries).1 := by
  intro entry member valid
  obtain ⟨slot, inside, found⟩ := List.mem_iff_getElem.mp member
  rw [scanEntries_length] at inside
  have before : entries[slot]? = some entries[slot] := List.getElem?_eq_getElem inside
  have after : (scanEntries clock sourceMac sequenceNumber index entries).1[slot]? =
      some entry := by
    rw [List.getElem?_eq_some_iff]
    exact ⟨_, found⟩
  have known := recalls entries[slot] (List.getElem_mem inside)
  rcases scanEntries_slot clock sourceMac sequenceNumber entries index slot _ _ before after with
    same | expired
  · rw [same] at valid ⊢
    exact known valid
  · rw [expired] at valid ⊢
    unfold expire at valid ⊢
    split at valid
    · cases valid
    · rename_i kept
      rw [if_neg kept]
      exact known valid

theorem Recalls.found (recalls : Recalls numbers entries) {clock : Nat → Int} {sourceMac : Mac}
    {sequenceNumber : UInt16} {index : Nat} {cached : CachedRequest}
    (hit : (scanEntries clock sourceMac sequenceNumber index entries).2 = some cached) :
    sequenceNumber ∈ numbers := by
  obtain ⟨slot, present, live, wanted⟩ :=
    scanEntries_some clock sourceMac sequenceNumber entries index cached hit
  rw [← wanted.1]
  exact recalls cached (List.mem_of_getElem? present) live.1

theorem Recalls.insert (recalls : Recalls numbers entries) (entry : CachedRequest) (slot : Nat) :
    Recalls (numbers ++ [entry.sequenceNumber]) (entries.set slot entry) := by
  intro other member valid
  rcases List.mem_or_eq_of_mem_set member with old | rfl
  · exact recalls.grow _ other old valid
  · exact List.mem_append_right _ List.mem_cons_self

end Cache

section Packet

variable {σ : Type} {config : Config} {state : State σ} (arrival : Arrival)

/-- A connected gateway passes on what the router builds. -/
theorem transmitted_connected {message : Message} (valid : message.Valid)
    (initialized : state.gateway.initialized = true) {transmit : TransmitCallback σ}
    (connected : state.gateway.config.transmit = some transmit) :
    transmitted (executeMessage arrival message state).2 =
      match buildFrame message state.gateway.config.commandRouter with
        | (.ok, frame) => [frame]
        | (_, _) => [] := by
  rw [transmitted, transmitCalls_execute]
  split
  · rename_i frame built
    obtain ⟨route, ecu, routed, _⟩ := (CanCommandRouter.buildFrame_ok_iff _ _ _).mp built
    rw [EspNowCanGateway.processMessage_routed state.context initialized
      (rejectsMessage_valid valid routed.request) built connected]
    rfl
  · rename_i result frame failed other
    rcases EspNowCanGateway.processMessage_cases message state.gateway state.context with
      ⟨_, _, _, _, built, _, _⟩ | ⟨_, _, _, _, _, processed⟩
    · rw [other] at built
      cases built
      exact absurd rfl failed
    · rw [processed]
      rfl

/-- The cache after a request was executed. -/
theorem recalls_execute {numbers : List UInt16} {message : Message}
    (recalls : Recalls numbers state.cache.entries) :
    Recalls (numbers ++ if acknowledgementRequested message then [message.sequenceNumber] else [])
      (executeMessage arrival message state).1.cache.entries := by
  unfold executeMessage
  dsimp only
  split
  · exact recalls.insert _ _
  · rw [List.append_nil]
    exact recalls

/-- A packet passes on what it orders, unless its number is known. -/
theorem process_passes (mac : state.txu01Mac = config.txu01Mac)
    (router : state.gateway.config.commandRouter = config.commandRouter)
    (initialized : state.gateway.initialized = true) {transmit : TransmitCallback σ}
    (connected : state.gateway.config.transmit = some transmit) {numbers : List UInt16}
    (recalls : Recalls numbers state.cache.entries) :
    let next := processReceivedPacket state arrival
    (transmitted next.2 = (ordered config arrival.packet.content).toList ∨
      ∃ number ∈ requestNumbers config [arrival.packet.content], number ∈ numbers) ∧
    Recalls (numbers ++ requestNumbers config [arrival.packet.content]) next.1.cache.entries := by
  have known : messageOf config arrival.packet.content =
      receivedMessage state.txu01Mac arrival := by
    rw [messageOf_received, mac]
  have requests : ∀ message, receivedMessage state.txu01Mac arrival = some message →
      requestNumbers config [arrival.packet.content] =
        if acknowledgementRequested message then [message.sequenceNumber] else [] := by
    intro message received
    rw [requestNumbers, List.filterMap_cons, asked, known, received, Option.filter_some]
    by_cases requested : acknowledgementRequested message = true
    · rw [if_pos requested, if_pos requested]
      rfl
    · rw [if_neg requested, if_neg requested]
      rfl
  have taken := step state arrival
  dsimp only
  generalize processReceivedPacket state arrival = next at taken ⊢
  cases taken with
  | ignored ignored =>
      refine ⟨Or.inl ?_, recalls.grow _⟩
      rw [ordered, known, ignored]
      rfl
  | plain message received plain =>
      rw [ordered_received arrival mac router received, requests message received]
      exact ⟨Or.inl (transmitted_connected arrival (receivedMessage_valid received).1 initialized
        connected), recalls_execute arrival recalls⟩
  | cached message cached received requested found =>
      rw [requests message received, if_pos requested]
      exact ⟨Or.inr ⟨message.sequenceNumber, List.mem_cons_self, recalls.found found⟩,
        (recalls.scan _ _ _ 0).grow _⟩
  | fresh message received requested absent =>
      have scanned : Recalls numbers
          { state with cache := (lookup state arrival message).1 }.cache.entries :=
        recalls.scan _ _ _ 0
      rw [ordered_received arrival mac router received, requests message received]
      exact ⟨Or.inl (transmitted_connected arrival (receivedMessage_valid received).1 initialized
        connected), recalls_execute arrival scanned⟩

end Packet

section Chip

variable {onReset : Chip → Chip} {moves : Nat → List (Chip → Chip)} {clock : Nat → Int}
  (persistent : PersistentMoves moves)
  (advancing : Advancing (Mcp2515.chipEnvironment onReset moves clock))

/-- The frames of the calls that did not run out of time. -/
def settledFrames (calls : List (CanFrame × TransmitResult)) : List CanFrame :=
  (calls.filter fun call => call.2 ≠ .timeout).map Prod.fst

theorem settledFrames_append (earlier later : List (CanFrame × TransmitResult)) :
    settledFrames (earlier ++ later) = settledFrames earlier ++ settledFrames later := by
  rw [settledFrames, List.filter_append, List.map_append]
  rfl

theorem settledFrames_all {calls : List (CanFrame × TransmitResult)}
    (inTime : ∀ call ∈ calls, call.2 ≠ .timeout) : settledFrames calls = calls.map Prod.fst := by
  rw [settledFrames, List.filter_eq_self.mpr]
  intro call member
  exact decide_eq_true (inTime call member)

/-- The manager rests, in normal mode if the chip keeps to it, and of those calls the frames
went out since `earlier`: all but perhaps some of the calls that ran out of time. -/
def Sent (moves : Nat → List (Chip → Chip)) (earlier : List Transmission) (calls : List (CanFrame × TransmitResult))
    (context : Option (Manager Chip)) : Prop :=
  ∃ manager sent, context = some manager ∧ manager.config = {} ∧ manager.world.device.Idle ∧
    (ObeyingMoves moves → Enters canctrlReqopNormal manager.world.device) ∧
    manager.world.device.bus = earlier ++ sent ∧
    ((settledFrames calls).map wireFrame).Sublist (sent.map Transmission.frame) ∧
    (sent.map Transmission.frame).Sublist ((calls.map Prod.fst).map wireFrame)

/-- If no call ran out of time, they all went out. -/
theorem Sent.all {earlier : List Transmission} {calls : List (CanFrame × TransmitResult)}
    {context : Option (Manager Chip)} (sent : Sent moves earlier calls context)
    (inTime : ∀ call ∈ calls, call.2 ≠ .timeout) :
    ∃ manager out, context = some manager ∧ manager.world.device.bus = earlier ++ out ∧
      out.map Transmission.frame = (calls.map Prod.fst).map wireFrame := by
  obtain ⟨manager, out, context, _, _, _, bus, atLeast, atMost⟩ := sent
  rw [settledFrames_all inTime] at atLeast
  exact ⟨manager, out, context, bus, atMost.antisymm atLeast⟩

/-- What is known of the answers: only a late chip times out, and only an erring one fails. -/
structure Outcomes (moves : Nat → List (Chip → Chip)) (clock : Nat → Int)
    (calls : List (CanFrame × TransmitResult)) : Prop where
  inTime : ∀ latency, Punctual moves clock ({} : CanManager.Config).transmitTimeoutMs latency →
    ∀ call ∈ calls, call.2 ≠ .timeout
  ok : Unerring moves → ∀ call ∈ calls, call.2 ≠ .timeout → call.2 = .ok

theorem Outcomes.append {earlier later : List (CanFrame × TransmitResult)}
    (first : Outcomes moves clock earlier) (second : Outcomes moves clock later) :
    Outcomes moves clock (earlier ++ later) := by
  constructor
  case inTime =>
    intro latency punctual call member
    rcases List.mem_append.mp member with old | new
    · exact first.inTime latency punctual call old
    · exact second.inTime latency punctual call new
  case ok =>
    intro unerring call member
    rcases List.mem_append.mp member with old | new
    · exact first.ok unerring call old
    · exact second.ok unerring call new

theorem timeout_iff (error : Mcp2515.Error) :
    mapSendResult (CanManager.mapError error) = .timeout ↔ error = .txTimeout := by
  cases error <;> decide

include persistent

theorem transmitCallback_sent {manager : Manager Chip} (settings : manager.config = {})
    (started : manager.initialized = true) (idle : manager.world.device.Idle)
    (normal : ObeyingMoves moves → Enters canctrlReqopNormal manager.world.device)
    (frame : CanFrame) (fits : frame.dataLength.toNat ≤ Mcp2515.canMaxDlen) :
    let called := transmitCallback _ advancing frame (some manager)
    Outcomes moves clock [(frame, called.1)] ∧
      ∃ after, called.2 = some after ∧ after.config = {} ∧ after.world.device.Idle ∧
        (ObeyingMoves moves → Enters canctrlReqopNormal after.world.device) ∧
        ((∃ load, after.world.device.bus =
          manager.world.device.bus ++ [⟨.txb0, load, (destinationFrame frame).onWire⟩]) ∨
          called.1 = .timeout ∧ after.world.device.bus = manager.world.device.bus) := by
  obtain ⟨fuel, error, after, sent, made⟩ := transmitCallback_sends _ advancing started fits
  have fits' : (destinationFrame frame).canDlc.toNat ≤ Mcp2515.canMaxDlen := fits
  obtain ⟨rests, bus, result⟩ :=
    Mcp2515.sendMessage_sends onReset clock persistent fits' idle sent
  dsimp only
  rw [made]
  constructor
  · constructor
    case inTime =>
      intro latency punctual call member
      obtain rfl := List.mem_singleton.mp member
      rw [← settings] at punctual
      rw [ne_eq, timeout_iff]
      exact Mcp2515.sendMessage_inTime onReset clock persistent fits' idle sent punctual
        (normal punctual.obeys)
    case ok =>
      intro unerring call member waited
      obtain rfl := List.mem_singleton.mp member
      rw [ne_eq, timeout_iff] at waited
      rw [result unerring waited]
      rfl
  · refine ⟨_, rfl, settings, rests, ?_, ?_⟩
    · intro obeying
      have kept := Mcp2515.sendMessage_keeps
        (Mcp2515.sending_enters onReset clock obeying (destinationFrame frame))
        manager.config.transmitTimeoutMs fuel (normal obeying)
      rwa [sent] at kept
    rcases bus with ⟨load, out⟩ | ⟨late, same⟩
    · exact Or.inl ⟨load, out⟩
    · exact Or.inr ⟨(timeout_iff error).mpr late, same⟩

/-- A packet adds the call it makes. -/
theorem process_sent {tables : CanCommandRouter.Config}
    {state : State (Option (Manager Chip))} (ready : Ready _ tables advancing state)
    {earlier : List Transmission} {calls : List (CanFrame × TransmitResult)}
    (sent : Sent moves earlier calls state.context) {next : State (Option (Manager Chip)) × List Call}
    (made : Transmits state next) :
    Sent moves earlier (calls ++ transmitCalls next.2) next.1.context ∧
      Outcomes moves clock (transmitCalls next.2) := by
  obtain ⟨manager, out, context, settings, idle, normal, bus, atLeast, atMost⟩ := sent
  cases made with
  | none nothing unchanged =>
      rw [nothing, List.append_nil]
      exact ⟨⟨manager, out, unchanged.trans context, settings, idle, normal, bus, atLeast, atMost⟩,
        ⟨fun _ _ => List.forall_mem_nil _, fun _ => List.forall_mem_nil _⟩⟩
  | once message frame callback connected built only moved =>
      rw [ready.transmit] at connected
      obtain rfl := Option.some.inj connected
      obtain ⟨identifier, length⟩ := CanCommandRouter.buildFrame_bounds built
      obtain ⟨started, running, initialized⟩ := ready.manager
      rw [context] at running moved only
      obtain rfl := Option.some.inj running
      obtain ⟨outcomes, after, called, kept, rests, stays, grown⟩ :=
        transmitCallback_sent persistent advancing settings initialized idle normal frame length
      rw [destinationFrame_onWire frame identifier length] at grown
      rw [only]
      refine ⟨?_, outcomes⟩
      rcases grown with ⟨load, grown⟩ | ⟨late, same⟩
      · refine ⟨after, out ++ [⟨.txb0, load, wireFrame frame⟩], moved.trans called, kept, rests,
          stays, ?_, ?_, ?_⟩
        · rw [grown, bus, List.append_assoc]
        · rw [settledFrames_append, List.map_append, List.map_append]
          refine atLeast.append ?_
          exact (List.filter_sublist.map Prod.fst).map wireFrame
        · rw [List.map_append, List.map_append, List.map_append]
          exact atMost.append (List.Sublist.refl _)
      · refine ⟨after, out, moved.trans called, kept, rests, stays, same.trans bus, ?_, ?_⟩
        · rw [settledFrames_append, List.map_append]
          have dropped : settledFrames [(frame, (transmitCallback _ advancing frame
              (some manager)).1)] = [] := by
            rw [late]
            rfl
          rw [dropped, List.map_nil, List.append_nil]
          exact atLeast
        · rw [List.map_append, List.map_append]
          exact atMost.trans (List.sublist_append_left _ _)

omit persistent

/-- The loop between two packets: what became of the calls made, and that all that was
ordered was handed over, unless a request came with the number of an earlier one. -/
structure Commands (earlier : List Transmission) (config : Config)
    (log : List (LoopEvent × LoopEffect)) (receiver : Receiver (Option (Manager Chip))) : Prop where
  loops : Loops config log receiver
  ready : Ready _ config.commandRouter advancing receiver.application
  recalls : Recalls (requestNumbers config (handedContents log)) receiver.application.cache.entries
  sent : Sent moves earlier (transmitCallsIn log) receiver.application.context
  outcomes : Outcomes moves clock (transmitCallsIn log)
  passed : (requestNumbers config (handedContents log)).Nodup →
    transmittedIn log = (handedContents log).filterMap (ordered config)

/-- An event without a packet. -/
theorem Commands.silent {earlier : List Transmission} {config : Config}
    {log : List (LoopEvent × LoopEffect)} {receiver next : Receiver (Option (Manager Chip))}
    (commands : Commands advancing earlier config log receiver) {entry : LoopEvent × LoopEffect}
    (nothing : handed [entry] = []) (loops : Loops config (log ++ [entry]) next)
    (same : next.application = receiver.application) :
    Commands advancing earlier config (log ++ [entry]) next := by
  obtain ⟨_, ready, recalls, sent, outcomes, passed⟩ := commands
  have contents : handedContents (log ++ [entry]) = handedContents log := by
    rw [handedContents, handed_snoc, nothing, List.append_nil]
    rfl
  have frames : transmittedIn (log ++ [entry]) = transmittedIn log := by
    rw [transmittedIn, handed_snoc, nothing, List.append_nil]
    rfl
  have calls : transmitCallsIn (log ++ [entry]) = transmitCallsIn log := by
    rw [transmitCallsIn, handed_snoc, nothing, List.append_nil]
    rfl
  refine ⟨loops, by rw [same]; exact ready, by rw [same, contents]; exact recalls, ?_, ?_, ?_⟩
  · rw [same, calls]
    exact sent
  · rw [calls]
    exact outcomes
  · rw [contents, frames]
    exact passed

include persistent

theorem commands_step {earlier : List Transmission} {config : Config}
    {log : List (LoopEvent × LoopEffect)} {receiver : Receiver (Option (Manager Chip))}
    (commands : Commands advancing earlier config log receiver) (event : LoopEvent) :
    Commands advancing earlier config (log ++ [(event, (loopStep receiver event).2)])
      (loopStep receiver event).1 := by
  have loops := loops_step commands.loops event
  cases event with
  | deliver delivery =>
      exact commands.silent advancing (handed_deliver receiver delivery) loops rfl
  | iterate reading =>
      cases head : (receive receiver.driver).1 with
      | none =>
          rw [loopStep_waiting reading head] at loops ⊢
          exact commands.silent _ rfl loops rfl
      | some packet =>
          rw [loopStep_handed reading head] at loops ⊢
          obtain ⟨before, ready, recalls, sent, outcomes, passed⟩ := commands
          have next : Ready _ config.commandRouter advancing
              (processReceivedPacket receiver.application ⟨packet, reading⟩).1 :=
            ready_operate _ _ ready (.receive ⟨packet, reading⟩)
          obtain ⟨passes, remembered⟩ := process_passes ⟨packet, reading⟩ before.mac ready.router
            ready.initialized ready.transmit recalls
          obtain ⟨delivered, answered⟩ := process_sent persistent advancing ready sent
            (process_transmits receiver.application ⟨packet, reading⟩)
          generalize processReceivedPacket receiver.application ⟨packet, reading⟩ = result at *
          have contents : handedContents (log ++ [(LoopEvent.iterate reading,
              LoopEffect.handed packet result.2)]) = handedContents log ++ [packet.content] :=
            handedContents_snoc _ _
          have frames : transmittedIn (log ++ [(LoopEvent.iterate reading,
              LoopEffect.handed packet result.2)]) = transmittedIn log ++ transmitted result.2 := by
            rw [transmittedIn_snoc]
            exact congrArg _ (List.append_nil _)
          have calls : transmitCallsIn (log ++ [(LoopEvent.iterate reading,
              LoopEffect.handed packet result.2)]) =
                transmitCallsIn log ++ transmitCalls result.2 := by
            rw [transmitCallsIn_snoc]
            exact congrArg _ (List.append_nil _)
          refine ⟨loops, next, ?_, ?_, ?_, ?_⟩
          · rw [contents, requestNumbers_append]
            exact remembered
          · rw [calls]
            exact delivered
          · rw [calls]
            exact outcomes.append answered
          · rw [contents, frames, requestNumbers_append, List.filterMap_append]
            intro distinct
            obtain ⟨front, _, apart⟩ := List.nodup_append.mp distinct
            rw [passed front]
            rcases passes with all | ⟨number, new, old⟩
            · rw [all]
              cases made : ordered config packet.content with
              | none => simp [made]
              | some frame => simp [made]
            · exact absurd rfl (apart number old number new)

theorem commands_run {earlier : List Transmission} {config : Config}
    {start : Receiver (Option (Manager Chip))}
    (commands : Commands advancing earlier config [] start) (events : List LoopEvent) :
    Commands advancing earlier config (history loopStep start events)
      (run loopStep start events) :=
  Reactive.history_induction loopStep (fun _ => True) (Commands advancing earlier config) start
    commands (fun _ _ _ => trivial)
    (fun _ event _ before => commands_step persistent advancing before event) events trivial

theorem commands_start {config : Config} {firmware : Firmware Chip τ}
    (operational : Operational table advancing config [] firmware) :
    Commands advancing firmware.canManager.world.device.bus config [] firmware.receiver := by
  obtain ⟨spi, world, begun⟩ := operational.begun
  have waiting := CanManager.begin_waiting onReset clock persistent.own begun
  refine ⟨loops_start operational, ready_start _ _ operational.can, ?_, ?_, ?_, fun _ => rfl⟩
  · intro entry member valid
    change entry ∈ firmware.requestCache.entries at member
    rw [operational.cache] at member
    rw [List.eq_of_mem_replicate member] at valid
    cases valid
  · refine ⟨firmware.canManager, [], rfl, ?_, waiting.idle [] (List.forall_mem_nil _),
      fun obeying => CanManager.begin_normal obeying rfl begun, (List.append_nil _).symm,
      List.Sublist.refl _, List.Sublist.refl _⟩
    have settings := CanManager.begin_config (Mcp2515.chipEnvironment onReset moves clock) spi
      { world := world }
    rwa [begun] at settings
  · exact ⟨fun _ _ => List.forall_mem_nil _, fun _ => List.forall_mem_nil _⟩

end Chip

/-- In front of the prompt chip the request goes out. -/
theorem prompt_sends {firmware : Firmware Chip _}
    (started : start functionTable prompt_advancing true {} {}
      (powerOn functionTable { device := Mcp2515.blankChip }) = .ok firmware) :
    ∃ manager sent,
      (run loopStep firmware.receiver requestEvents).application.context = some manager ∧
      manager.world.device.bus = firmware.canManager.world.device.bus ++ sent ∧
      sent.length = 1 := by
  obtain ⟨_, operational⟩ := start_operational started
  have commands := commands_run Mcp2515.promptMoves_persistent prompt_advancing
    (commands_start Mcp2515.promptMoves_persistent prompt_advancing operational) requestEvents
  have carries : (requestFrom ({} : Config).txu01Mac).content =
      some (requestContent ({} : Config).txu01Mac) := by
    decide +kernel
  have opened : firmware.receiver.driver.initialized = true := operational.initialized
  obtain ⟨⟨packet, calls, content, log⟩, _⟩ :=
    served opened operational.emptyQueue (by decide) carries ⟨fun _ => 0, 0⟩
  have contents : handedContents (history loopStep firmware.receiver requestEvents) =
      [requestContent ({} : Config).txu01Mac] := by
    rw [requestEvents, log, ← content]
    rfl
  obtain ⟨manager, sent, context, bus, frames⟩ := commands.sent.all
    (commands.outcomes.inTime 1 Mcp2515.promptMoves_punctual)
  have passed := commands.passed
  rw [contents] at passed
  have transmits := passed (by decide +kernel)
  rw [← transmittedIn_calls, transmits] at frames
  refine ⟨manager, sent, context, bus, ?_⟩
  have length := congrArg List.length frames
  rw [List.length_map, List.length_map] at length
  rw [length]
  decide +kernel

section Bus

variable {onReset : Chip → Chip} {moves : Nat → List (Chip → Chip)} {clock : Nat → Int}
  (own : Mcp2515.OwnMoves moves)
  (advancing : Advancing (Mcp2515.chipEnvironment onReset moves clock))
  {earlier : List Transmission} {frames : List Mcp2515.WireFrame} {manager : Manager Chip}

include own

theorem transmitCallback_waiting (waiting : CanManager.Waiting earlier frames manager)
    (frame : CanFrame) (fits : frame.dataLength.toNat ≤ Mcp2515.canMaxDlen) :
    ∃ after, (transmitCallback _ advancing frame (some manager)).2 = some after ∧
      CanManager.Waiting earlier (frames ++ [(destinationFrame frame).onWire]) after := by
  obtain ⟨fuel, made⟩ := transmitCallback_eq _ advancing frame (some manager)
  unfold transmitCanFrame at made
  dsimp only at made
  rw [if_neg (Nat.not_lt.mpr fits)] at made
  obtain ⟨result, context⟩ := Prod.mk.inj made
  obtain ⟨_, _, settled⟩ := CanManager.send_serving onReset clock own fuel (destinationFrame frame)
    waiting
  refine ⟨_, context.symm, settled ?_⟩
  obtain ⟨_, returned, _⟩ := Option.map_eq_some_iff.mp result
  rw [returned]
  rfl

/-- The loop between two packets: the chip serves the frames handed over so far. -/
structure Drives (earlier : List Transmission) (config : Config)
    (log : List (LoopEvent × LoopEffect)) (receiver : Receiver (Option (Manager Chip))) : Prop where
  loops : Loops config log receiver
  transmit : receiver.application.gateway.config.transmit = some (transmitCallback _ advancing)
  waiting : ∃ manager, receiver.application.context = some manager ∧
    CanManager.Waiting earlier
      ((transmittedIn log).map fun frame => (destinationFrame frame).onWire) manager

theorem drives_step {config : Config} {log : List (LoopEvent × LoopEffect)}
    {receiver : Receiver (Option (Manager Chip))}
    (drives : Drives advancing earlier config log receiver) (event : LoopEvent) :
    Drives advancing earlier config (log ++ [(event, (loopStep receiver event).2)])
      (loopStep receiver event).1 := by
  obtain ⟨loops, transmit, manager, context, waiting⟩ := drives
  have next := loops_step loops event
  have silent : ∀ effect : LoopEffect, handed [(event, effect)] = [] →
      transmittedIn (log ++ [(event, effect)]) = transmittedIn log := by
    intro effect none
    rw [transmittedIn_snoc]
    simp [transmittedIn, none]
  cases event with
  | deliver delivery =>
      have same := silent (loopStep receiver (.deliver delivery)).2
        (handed_deliver receiver delivery)
      exact ⟨next, transmit, manager, context, by rw [same]; exact waiting⟩
  | iterate clock =>
      cases head : (receive receiver.driver).1 with
      | none =>
          rw [loopStep_waiting clock head] at next ⊢
          exact ⟨next, transmit, manager, context, by rw [silent .waiting rfl]; exact waiting⟩
      | some packet =>
          rw [loopStep_handed clock head] at next ⊢
          have config' := (step_fixed receiver.application ⟨packet, clock⟩).2
          have made := process_transmits receiver.application ⟨packet, clock⟩
          refine ⟨next, by rw [config', transmit], ?_⟩
          rw [transmittedIn_snoc, List.map_append]
          generalize processReceivedPacket receiver.application ⟨packet, clock⟩ = result at made ⊢
          cases made with
          | none nothing same =>
              refine ⟨manager, same.trans context, ?_⟩
              simpa [transmittedIn, handed, transmitted, nothing] using waiting
          | once message frame callback connected built only moved =>
              rw [transmit] at connected
              obtain rfl := Option.some.inj connected
              obtain ⟨after, sent, later⟩ := transmitCallback_waiting own advancing waiting frame
                (CanCommandRouter.buildFrame_bounds built).2
              refine ⟨after, ?_, ?_⟩
              · rw [context] at moved
                exact moved.trans sent
              · simpa [transmittedIn, handed, transmitted, only] using later

theorem drives_run {config : Config} {start : Receiver (Option (Manager Chip))}
    (drives : Drives advancing earlier config [] start) (events : List LoopEvent) :
    Drives advancing earlier config (history loopStep start events)
      (run loopStep start events) :=
  Reactive.history_induction loopStep (fun _ => True) (Drives advancing earlier config) start
    drives (fun _ _ _ => trivial) (fun _ event _ before => drives_step own advancing before event)
    events trivial

theorem drives_start {config : Config} {firmware : Firmware Chip τ}
    (operational : Operational table advancing config [] firmware) :
    Drives advancing firmware.canManager.world.device.bus config [] firmware.receiver := by
  obtain ⟨prior, fresh, initialised⟩ := operational.can.gateway
  obtain ⟨_, stored, _⟩ := EspNowCanGateway.init_ok fresh initialised
  obtain ⟨spi, world, begun⟩ := operational.begun
  refine ⟨loops_start operational, ?_, firmware.canManager, rfl, ?_⟩
  · change firmware.gateway.config.transmit = _
    rw [show firmware.gateway.config = _ from stored]
  · exact CanManager.begin_waiting onReset clock own begun

omit own in
/-- The frames of a run come from the router. -/
theorem Drives.built {config : Config} {log : List (LoopEvent × LoopEffect)}
    {receiver : Receiver (Option (Manager Chip))}
    (drives : Drives advancing earlier config log receiver) :
    ((transmittedIn log).map fun frame => (destinationFrame frame).onWire) =
      (transmittedIn log).map wireFrame := by
  apply List.map_congr_left
  intro frame member
  obtain ⟨content, _, orders⟩ := List.mem_filterMap.mp (drives.loops.ordered.subset member)
  obtain ⟨_, _, built⟩ := ordered_some.mp orders
  obtain ⟨identifier, length⟩ := CanCommandRouter.buildFrame_bounds built
  exact destinationFrame_onWire frame identifier length

/-- From a successful start, over any deliveries and turns of the loop and whatever the
chip does by itself: what goes out on the bus are frames ordered by deliveries of TXU01,
in the order of the deliveries and at most one for each; with the shipped tables they are
commands of the language; and between two turns the chip is idle. -/
theorem vehicle_bus {stops : Bool} {config : Config} {outcome : StartOutcome}
    {world : World Chip} {firmware : Firmware Chip τ}
    (started : start table advancing stops config outcome (powerOn table world) = .ok firmware)
    (events : List LoopEvent) :
    ∃ manager sent,
      (run loopStep firmware.receiver events).application.context = some manager ∧
      manager.world.device.bus = firmware.canManager.world.device.bus ++ sent ∧
      (sent.map Transmission.frame).Sublist
        (((deliveries events).filterMap (ordered config)).map wireFrame) ∧
      (config.commandRouter = VehicleCanProtocol.makeCommandRouterConfig →
        ∀ transmission ∈ sent, ∃ bytes, VehicleCanProtocol.CommandData bytes ∧
          transmission.frame = wireFrame (VehicleCanProtocol.lmcu100Frame bytes)) ∧
      ∀ later : List (Chip → Chip), (∀ move ∈ later, ∀ chip, Mcp2515.Own chip (move chip)) →
        (Peripheral.settle later manager.world.device).Idle := by
  have drives := drives_run own advancing
    (drives_start own advancing (start_operational started).2) events
  obtain ⟨manager, context, waiting⟩ := drives.waiting
  obtain ⟨sent, bus, among⟩ := waiting.serving.sent
  rw [drives.built] at among
  have handedOver := drives.loops.fed.sublist
  rw [Reactive.history_inputs] at handedOver
  have orders := among.trans
    ((drives.loops.ordered.trans (handedOver.filterMap (ordered config))).map wireFrame)
  refine ⟨manager, sent, context, bus, orders, ?_, waiting.idle⟩
  intro shipped transmission member
  have ordered := orders.subset (List.mem_map_of_mem member)
  obtain ⟨frame, made, same⟩ := List.mem_map.mp ordered
  obtain ⟨content, _, found⟩ := List.mem_filterMap.mp made
  obtain ⟨_, _, built⟩ := ordered_some.mp found
  rw [shipped] at built
  obtain ⟨bytes, command, rfl⟩ := VehicleCanProtocol.buildFrame_command built
  exact ⟨bytes, command, same.symm⟩

end Bus

theorem vehicle_bus_prompt :
    ∃ (firmware : Firmware Chip _) (manager : Manager Chip) (sent : List Transmission),
      start functionTable prompt_advancing true {} {}
        (powerOn functionTable { device := Mcp2515.blankChip }) = .ok firmware ∧
      manager.world.device.bus = firmware.canManager.world.device.bus ++ sent ∧
      sent.length = 1 ∧
      (sent.map Transmission.frame).Sublist
        (((deliveries requestEvents).filterMap (ordered {})).map wireFrame) := by
  obtain ⟨firmware, started⟩ := prompt_starts
  obtain ⟨manager, sent, context, bus, among, _⟩ := vehicle_bus Mcp2515.promptMoves_own
    prompt_advancing started requestEvents
  obtain ⟨_, out, same, grown, one⟩ := prompt_sends started
  obtain rfl := Option.some.inj (context.symm.trans same)
  obtain rfl := List.append_cancel_left (bus.symm.trans grown)
  exact ⟨firmware, manager, sent, started, bus, one, among⟩

section Started

variable {onReset : Chip → Chip} {moves : Nat → List (Chip → Chip)} {clock : Nat → Int}
  (persistent : PersistentMoves moves)
  (advancing : Advancing (Mcp2515.chipEnvironment onReset moves clock))
  {stops : Bool} {config : Config} {outcome : StartOutcome} {world : World Chip}
  {firmware : Firmware Chip τ}
  (started : start table advancing stops config outcome (powerOn table world) = .ok firmware)
  (events : List LoopEvent)

include persistent started

/-- From a successful start, over any deliveries and turns of the loop, with a chip that gives
up no request: every call to the CAN manager that does not run out of time has its frame on the
bus, in the order of the calls, and there is nothing there but frames of calls. -/
theorem answers_on_bus :
    ∃ manager sent,
      (run loopStep firmware.receiver events).application.context = some manager ∧
      manager.world.device.bus = firmware.canManager.world.device.bus ++ sent ∧
      ((settledFrames (transmitCallsIn (history loopStep firmware.receiver events))).map
        wireFrame).Sublist (sent.map Transmission.frame) ∧
      (sent.map Transmission.frame).Sublist
        ((transmittedIn (history loopStep firmware.receiver events)).map wireFrame) := by
  have commands := commands_run persistent advancing
    (commands_start persistent advancing (start_operational started).2) events
  obtain ⟨manager, sent, context, _, _, _, bus, atLeast, atMost⟩ := commands.sent
  rw [← transmittedIn_calls] at atMost
  exact ⟨manager, sent, context, bus, atLeast, atMost⟩

end Started

theorem answers_on_bus_prompt :
    ∃ (firmware : Firmware Chip _) (manager : Manager Chip) (sent : List Transmission),
      start functionTable prompt_advancing true {} {}
        (powerOn functionTable { device := Mcp2515.blankChip }) = .ok firmware ∧
      manager.world.device.bus = firmware.canManager.world.device.bus ++ sent ∧
      sent.length = 1 ∧
      ((settledFrames (transmitCallsIn (history loopStep firmware.receiver requestEvents))).map
        wireFrame).Sublist (sent.map Transmission.frame) := by
  obtain ⟨firmware, started⟩ := prompt_starts
  obtain ⟨manager, sent, context, bus, atLeast, _⟩ := answers_on_bus
    Mcp2515.promptMoves_persistent prompt_advancing started requestEvents
  obtain ⟨_, out, same, grown, one⟩ := prompt_sends started
  obtain rfl := Option.some.inj (context.symm.trans same)
  obtain rfl := List.append_cancel_left (bus.symm.trans grown)
  exact ⟨firmware, manager, sent, started, bus, one, atLeast⟩

section Punctual

variable {onReset : Chip → Chip} {moves : Nat → List (Chip → Chip)} {clock : Nat → Int}
  (persistent : PersistentMoves moves)
  (advancing : Advancing (Mcp2515.chipEnvironment onReset moves clock))
  {stops : Bool} {config : Config} {outcome : StartOutcome} {world : World Chip}
  {firmware : Firmware Chip τ}
  (started : start table advancing stops config outcome (powerOn table world) = .ok firmware)
  (events : List LoopEvent)

include persistent started

end Punctual

end Application
