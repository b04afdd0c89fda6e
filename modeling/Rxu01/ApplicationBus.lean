import Rxu01.ApplicationAnswers
import Rxu01.ApplicationStart

set_option autoImplicit false

/- From the deliveries of ESP-NOW to the CAN manager and back to ESP-NOW. -/
namespace Application

open BoundedQueue (Account)
open CanCommandRouter (CanFrame buildFrame)
open EspIdf (EspErr)
open EspNowCanGateway (TransmitResult)
open EspNowDriver (Content Delivery Driver Mac PeerTable ReceivedPacket acceptDelivery
  functionTable onDataReceived receive)
open Mcp2515 (Advancing)
open Peripheral (Environment World)
open Reactive (run history)
open RemoteProtocol (Message decode)

section Log

/-- What the callback was given, as far as it is valid. -/
def deliveries (events : List LoopEvent) : List Content :=
  events.filterMap fun event =>
    match event with
    | .deliver delivery => delivery.content
    | .iterate _ => none

/-- The packets taken from the queue, with the calls made for each. -/
def handed (log : List (LoopEvent × LoopEffect)) : List (ReceivedPacket × List Call) :=
  log.filterMap fun entry =>
    match entry.2 with
    | .handed packet calls => some (packet, calls)
    | _ => none

def handedContents (log : List (LoopEvent × LoopEffect)) : List Content :=
  (handed log).map fun entry => entry.1.content

/-- The frames handed to the CAN manager, with what it answered. -/
def transmitCalls (calls : List Call) : List (CanFrame × TransmitResult) :=
  calls.filterMap fun call =>
    match call with
    | .transmit frame result => some (frame, result)
    | _ => none

def transmitted (calls : List Call) : List CanFrame := (transmitCalls calls).map Prod.fst

def transmittedIn (log : List (LoopEvent × LoopEffect)) : List CanFrame :=
  (handed log).flatMap fun entry => transmitted entry.2

/-- The packets handed to `esp_now_driver::send`. -/
def sentIn (log : List (LoopEvent × LoopEffect)) : List (Mac × List UInt8) :=
  (handed log).flatMap fun entry => sentPackets entry.2

end Log

/-- The message a content carries past the source check and the decoder. -/
def messageOf (config : Config) (content : Content) : Option Message :=
  if content.source = config.txu01Mac then
    match decode (some content.bytes) {} with
    | (.ok, message) => some message
    | (_, _) => none
  else none

/-- The frame a content orders. -/
def ordered (config : Config) (content : Content) : Option CanFrame :=
  (messageOf config content).bind fun message =>
    match buildFrame message config.commandRouter with
    | (.ok, frame) => some frame
    | (_, _) => none

/-- The message of a content that asks for an acknowledgement. -/
def asked (config : Config) (content : Content) : Option Message :=
  (messageOf config content).filter fun message => acknowledgementRequested message

/-- The packet is an acknowledgement of the message, to TXU01. -/
def AnswersTo (config : Config) (message : Message) (packet : Mac × List UInt8) : Prop :=
  packet.1 = config.txu01Mac ∧ Acknowledges message packet.2

theorem messageOf_received (config : Config) (arrival : Arrival) :
    messageOf config arrival.packet.content = receivedMessage config.txu01Mac arrival := rfl

theorem ordered_some {config : Config} {content : Content} {frame : CanFrame} :
    ordered config content = some frame ↔ ∃ message, messageOf config content = some message ∧
      buildFrame message config.commandRouter = (.ok, frame) := by
  unfold ordered
  rw [Option.bind_eq_some_iff]
  refine exists_congr fun message => and_congr_right fun _ => ?_
  constructor
  · intro made
    split at made
    · rename_i built found
      obtain rfl := Option.some.inj made
      exact found
    · cases made
  · intro built
    rw [built]

section Appending

variable (log : List (LoopEvent × LoopEffect)) (entry : LoopEvent × LoopEffect)

theorem handed_snoc : handed (log ++ [entry]) = handed log ++ handed [entry] :=
  List.filterMap_append

theorem handedContents_snoc :
    handedContents (log ++ [entry]) = handedContents log ++ handedContents [entry] := by
  rw [handedContents, handed_snoc, List.map_append]
  rfl

theorem transmittedIn_snoc :
    transmittedIn (log ++ [entry]) = transmittedIn log ++ transmittedIn [entry] := by
  rw [transmittedIn, handed_snoc, List.flatMap_append]
  rfl

theorem sentIn_snoc : sentIn (log ++ [entry]) = sentIn log ++ sentIn [entry] := by
  rw [sentIn, handed_snoc, List.flatMap_append]
  rfl

theorem deliveries_snoc (events : List LoopEvent) (event : LoopEvent) :
    deliveries (events ++ [event]) = deliveries events ++ deliveries [event] :=
  List.filterMap_append

end Appending

variable {σ : Type}

/-- The callback hands over nothing itself. -/
theorem handed_deliver (receiver : Receiver σ) (delivery : Delivery) :
    handed [(.deliver delivery, (loopStep receiver (.deliver delivery)).2)] = [] := by
  rw [loopStep, arrival]
  split <;> rfl

/-- The queue between the callback and the loop: what was handed over is what left it. -/
structure Fed (log : List (LoopEvent × LoopEffect)) (receiver : Receiver σ) : Prop where
  initialized : receiver.driver.initialized = true
  account : ∃ account : Account ReceivedPacket,
    receiver.driver.receiveQueue = some account.queue ∧
      account.offered.map ReceivedPacket.content = deliveries (log.map Prod.fst) ∧
      account.taken.map ReceivedPacket.content = handedContents log

section Fed

variable {log : List (LoopEvent × LoopEffect)} {receiver : Receiver σ}

/-- In order, without repetition. -/
theorem Fed.sublist (fed : Fed log receiver) :
    (handedContents log).Sublist (deliveries (log.map Prod.fst)) := by
  obtain ⟨account, _, offered, taken⟩ := fed.account
  rw [← offered, ← taken]
  exact account.taken_sublist.map _

theorem fed_deliver (fed : Fed log receiver) (delivery : Delivery) :
    Fed (log ++ [(.deliver delivery, (loopStep receiver (.deliver delivery)).2)])
      (loopStep receiver (.deliver delivery)).1 := by
  obtain ⟨initialized, account, created, offered, taken⟩ := fed
  have content := EspNowDriver.acceptDelivery_content initialized (by rw [created]; rfl) delivery
  have silent : handedContents [(LoopEvent.deliver delivery, arrival receiver.driver delivery)] =
      [] := congrArg (List.map _) (handed_deliver receiver delivery)
  have grown : deliveries ((log ++ [(LoopEvent.deliver delivery,
      arrival receiver.driver delivery)]).map Prod.fst) =
        deliveries (log.map Prod.fst) ++ delivery.content.toList := by
    rw [List.map_append, List.map_singleton, deliveries_snoc]
    cases found : delivery.content <;> simp [deliveries, found]
  rw [loopStep]
  cases accepted : acceptDelivery receiver.driver delivery with
  | none =>
      rw [accepted, Option.map_none] at content
      rw [EspNowDriver.onDataReceived_ignored accepted]
      refine ⟨initialized, account, created, ?_, ?_⟩
      · rw [grown, ← content, offered]
        exact (List.append_nil _).symm
      · rw [handedContents_snoc, silent, taken, List.append_nil]
  | some packet =>
      rw [accepted, Option.map_some] at content
      obtain ⟨moved, same⟩ := EspNowDriver.onDataReceived_queued created accepted
      refine ⟨same.trans initialized, account.offer packet, moved, ?_, ?_⟩
      · rw [grown, ← content, ← offered]
        exact List.map_append
      · rw [handedContents_snoc, silent, List.append_nil]
        exact taken

theorem fed_iterate (fed : Fed log receiver) (clock : Clock) :
    Fed (log ++ [(.iterate clock, (loopStep receiver (.iterate clock)).2)])
      (loopStep receiver (.iterate clock)).1 := by
  obtain ⟨initialized, account, created, offered, taken⟩ := fed
  have received := EspNowDriver.receive_open initialized created
  have grown : ∀ effect : LoopEffect, deliveries ((log ++ [(LoopEvent.iterate clock,
      effect)]).map Prod.fst) = deliveries (log.map Prod.fst) := by
    intro effect
    rw [List.map_append, List.map_singleton, deliveries_snoc]
    exact List.append_nil _
  cases head : account.queue.receive.1 with
  | none =>
      rw [loopStep_waiting clock (by rw [received]; exact head)]
      refine ⟨initialized, account, created, by rw [grown, offered], ?_⟩
      rw [handedContents_snoc, taken]
      exact (List.append_nil _).symm
  | some packet =>
      rw [loopStep_handed clock (by rw [received]; exact head), received]
      refine ⟨initialized, account.take, rfl, by rw [grown, ← offered]; rfl, ?_⟩
      rw [handedContents_snoc, ← taken]
      change (account.taken ++ account.queue.receive.1.toList).map _ = _
      rw [head, List.map_append]
      rfl

theorem fed_step (fed : Fed log receiver) (event : LoopEvent) :
    Fed (log ++ [(event, (loopStep receiver event).2)]) (loopStep receiver event).1 := by
  cases event with
  | deliver delivery => exact fed_deliver fed delivery
  | iterate clock => exact fed_iterate fed clock

end Fed

section Packet

variable {config : Config} {state : State σ} (arrival : Arrival)

theorem transmitCalls_execute (message : Message) :
    transmitCalls (executeMessage arrival message state).2 =
      (EspNowCanGateway.processMessage message state.gateway state.context).transmitted := by
  obtain ⟨tail, calls, shape⟩ := executeMessage_calls arrival message state
  have quiet : transmitCalls tail = [] := by
    rw [shape]
    split <;> rfl
  have made : ∀ frames : List (CanFrame × TransmitResult),
      transmitCalls (frames.map fun call => Call.transmit call.1 call.2) = frames := by
    intro frames
    induction frames with
    | nil => rfl
    | cons frame rest ih => exact congrArg (frame :: ·) ih
  rw [calls]
  change transmitCalls (_ ++ tail) = _
  rw [transmitCalls, List.filterMap_append]
  change transmitCalls _ ++ transmitCalls tail = _
  rw [made, quiet, List.append_nil]

/-- At most the frame the router built. -/
theorem transmitted_built (message : Message) :
    (transmitted (executeMessage arrival message state).2).Sublist
      (match buildFrame message state.gateway.config.commandRouter with
        | (.ok, frame) => [frame]
        | (_, _) => []) := by
  rw [transmitted, transmitCalls_execute]
  rcases EspNowCanGateway.processMessage_cases message state.gateway state.context with
    ⟨frame, transmit, _, _, built, _, processed⟩ | ⟨_, _, _, _, _, processed⟩
  · rw [processed, built]
    exact List.Sublist.refl _
  · rw [processed]
    exact List.nil_sublist _

theorem executeMessage_context (message : Message) :
    (executeMessage arrival message state).1.context =
      (EspNowCanGateway.processMessage message state.gateway state.context).context := by
  unfold executeMessage
  dsimp only
  split <;> rfl

/-- The callback runs once, on a frame of the router, or not at all. -/
inductive Transmits (state : State σ) : State σ × List Call → Prop where
  | none {after : State σ} {calls : List Call} (nothing : transmitCalls calls = [])
      (same : after.context = state.context) : Transmits state (after, calls)
  | once {after : State σ} {calls : List Call} (message : Message) (frame : CanFrame)
      (transmit : EspNowCanGateway.TransmitCallback σ)
      (connected : state.gateway.config.transmit = some transmit)
      (built : buildFrame message state.gateway.config.commandRouter = (.ok, frame))
      (only : transmitCalls calls = [(frame, (transmit frame state.context).1)])
      (next : after.context = (transmit frame state.context).2) : Transmits state (after, calls)

theorem executeMessage_transmits_once (message : Message) :
    Transmits state (executeMessage arrival message state) := by
  have calls : transmitCalls (executeMessage arrival message state).2 = _ :=
    transmitCalls_execute arrival message
  have context : (executeMessage arrival message state).1.context = _ :=
    executeMessage_context arrival message
  rcases EspNowCanGateway.processMessage_cases message state.gateway state.context with
    ⟨frame, transmit, _, _, built, connected, processed⟩ | ⟨_, _, _, _, _, processed⟩
  · rw [processed] at calls context
    exact .once message frame transmit connected built calls context
  · rw [processed] at calls context
    exact .none calls context

theorem process_transmits (state : State σ) (arrival : Arrival) :
    Transmits state (processReceivedPacket state arrival) := by
  have taken := step state arrival
  generalize processReceivedPacket state arrival = next at taken ⊢
  cases taken with
  | ignored => exact .none rfl rfl
  | plain message => exact executeMessage_transmits_once arrival message
  | cached message =>
      rw [sendAcknowledgement_eq]
      exact .none rfl rfl
  | fresh message =>
      have made : Transmits { state with cache := (lookup state arrival message).1 }
          (executeMessage arrival message
            { state with cache := (lookup state arrival message).1 }) :=
        executeMessage_transmits_once arrival message
      generalize executeMessage arrival message
        { state with cache := (lookup state arrival message).1 } = next at made ⊢
      cases made with
      | none nothing same => exact .none nothing same
      | once message frame transmit connected built only next =>
          exact .once message frame transmit connected built only next

variable (mac : state.txu01Mac = config.txu01Mac)
include mac

theorem ordered_received
    (router : state.gateway.config.commandRouter = config.commandRouter) {message : Message}
    (received : receivedMessage state.txu01Mac arrival = some message) :
    (ordered config arrival.packet.content).toList =
      match buildFrame message state.gateway.config.commandRouter with
        | (.ok, frame) => [frame]
        | (_, _) => [] := by
  rw [mac] at received
  rw [ordered, messageOf_received, received, router, Option.bind_some]
  split <;> rfl

theorem transmitted_process
    (router : state.gateway.config.commandRouter = config.commandRouter) :
    (transmitted (processReceivedPacket state arrival).2).Sublist
      (ordered config arrival.packet.content).toList := by
  have taken := step state arrival
  generalize processReceivedPacket state arrival = next at taken ⊢
  cases taken with
  | ignored => exact List.nil_sublist _
  | plain message received plain =>
      rw [ordered_received arrival mac router received]
      exact transmitted_built arrival message
  | cached message cached received requested found =>
      rw [sendAcknowledgement_eq]
      exact List.nil_sublist _
  | fresh message received requested absent =>
      rw [ordered_received arrival mac router received]
      exact transmitted_built arrival message

/-- A request is answered once, and nothing else is. -/
theorem sentPackets_answers :
    List.Forall₂ (AnswersTo config) (asked config arrival.packet.content).toList
      (sentPackets (processReceivedPacket state arrival).2) := by
  have known : messageOf config arrival.packet.content =
      receivedMessage state.txu01Mac arrival := by
    rw [messageOf_received, mac]
  unfold asked
  rw [known]
  by_cases answered : ∃ message, Requests state.txu01Mac arrival message
  · obtain ⟨message, requests⟩ := answered
    obtain ⟨status, sent⟩ := sentPackets_process state arrival message requests
    obtain ⟨received, requested⟩ := (requests_iff _ _ _).mp requests
    rw [sent, received, Option.filter_some, if_pos requested]
    exact .cons ⟨mac, acknowledgement_acknowledges message status⟩ .nil
  · rw [sentPackets_silent state arrival answered]
    cases received : receivedMessage state.txu01Mac arrival with
    | none => exact .nil
    | some message =>
        have plain : acknowledgementRequested message ≠ true := fun requested =>
          answered ⟨message, (requests_iff _ _ _).mpr ⟨received, requested⟩⟩
        rw [Option.filter_some, if_neg plain]
        exact .nil

end Packet

/-- What the run keeps of the application: its peer and its tables. -/
structure Loops (config : Config) (log : List (LoopEvent × LoopEffect)) (receiver : Receiver σ) :
    Prop where
  fed : Fed log receiver
  mac : receiver.application.txu01Mac = config.txu01Mac
  router : receiver.application.gateway.config.commandRouter = config.commandRouter
  ordered : (transmittedIn log).Sublist ((handedContents log).filterMap (ordered config))
  answers : List.Forall₂ (AnswersTo config) ((handedContents log).filterMap (asked config))
    (sentIn log)

theorem loops_step {config : Config} {log : List (LoopEvent × LoopEffect)}
    {receiver : Receiver σ} (loops : Loops config log receiver) (event : LoopEvent) :
    Loops config (log ++ [(event, (loopStep receiver event).2)]) (loopStep receiver event).1 := by
  obtain ⟨fed, mac, router, soFar, answers⟩ := loops
  have next := fed_step fed event
  have silent : ∀ effect : LoopEffect, handed [(event, effect)] = [] →
      (transmittedIn (log ++ [(event, effect)])).Sublist
          ((handedContents (log ++ [(event, effect)])).filterMap (ordered config)) ∧
        List.Forall₂ (AnswersTo config)
          ((handedContents (log ++ [(event, effect)])).filterMap (asked config))
          (sentIn (log ++ [(event, effect)])) := by
    intro effect none
    rw [transmittedIn_snoc, handedContents_snoc, sentIn_snoc]
    simp only [transmittedIn, handedContents, sentIn, none, List.flatMap_nil, List.map_nil,
      List.append_nil]
    exact ⟨soFar, answers⟩
  cases event with
  | deliver delivery =>
      obtain ⟨transmits, replies⟩ := silent (loopStep receiver (.deliver delivery)).2
        (handed_deliver receiver delivery)
      exact ⟨next, mac, router, transmits, replies⟩
  | iterate clock =>
      cases head : (receive receiver.driver).1 with
      | none =>
          rw [loopStep_waiting clock head] at next ⊢
          obtain ⟨transmits, replies⟩ := silent .waiting rfl
          exact ⟨next, mac, router, transmits, replies⟩
      | some packet =>
          rw [loopStep_handed clock head] at next ⊢
          obtain ⟨sameMac, sameConfig⟩ := step_fixed receiver.application ⟨packet, clock⟩
          refine ⟨next, sameMac.trans mac, by rw [sameConfig, router], ?_, ?_⟩
          · rw [transmittedIn_snoc, handedContents_snoc, List.filterMap_append]
            refine soFar.append ?_
            have transmits := transmitted_process ⟨packet, clock⟩ mac router
            cases made : ordered config packet.content with
            | none =>
                rw [made] at transmits
                simpa [transmittedIn, handedContents, handed, made] using transmits
            | some frame =>
                rw [made] at transmits
                simpa [transmittedIn, handedContents, handed, made] using transmits
          · rw [sentIn_snoc, handedContents_snoc, List.filterMap_append]
            refine List.rel_append answers ?_
            have replies := sentPackets_answers ⟨packet, clock⟩ mac
            cases made : asked config packet.content with
            | none =>
                rw [made] at replies
                simpa [sentIn, handedContents, handed, made] using replies
            | some message =>
                rw [made] at replies
                simpa [sentIn, handedContents, handed, made] using replies

theorem loops_run {config : Config} {start : Receiver σ} (loops : Loops config [] start)
    (events : List LoopEvent) :
    Loops config (history loopStep start events) (run loopStep start events) :=
  Reactive.history_induction loopStep (fun _ => True) (Loops config) start loops
    (fun _ _ _ => trivial) (fun _ event _ before => loops_step before event) events trivial

section Started

variable {δ τ : Type} {env : Environment δ} {table : PeerTable τ} {advancing : Advancing env}
  {config : Config} {firmware : Firmware δ τ}

theorem loops_start (operational : Operational table advancing config [] firmware) :
    Loops config [] firmware.receiver := by
  obtain ⟨prior, fresh, initialised⟩ := operational.can.gateway
  obtain ⟨_, stored, _⟩ := EspNowCanGateway.init_ok fresh initialised
  refine ⟨⟨operational.initialized, Account.opening config.receiveQueueDepth.toNat, ?_, rfl, rfl⟩,
    operational.txu01Mac, ?_, List.Sublist.refl _, .nil⟩
  · exact operational.emptyQueue
  · change firmware.gateway.config.commandRouter = _
    rw [show firmware.gateway.config = _ from stored]

/-- Nothing `send` checks can be wrong with an acknowledgement. -/
theorem send_answer (documented : table.Documented)
    (operational : Operational table advancing config [] firmware) {driver : Driver} {peers : τ}
    (initialized : driver.initialized = true)
    (kept : table.getPeer peers = table.getPeer firmware.station.peers) {message : Message}
    {packet : Mac × List UInt8} (answers : AnswersTo config message packet) (result : EspErr) :
    EspNowDriver.send table { driver := driver, peers := peers } (some packet.1) (some packet.2)
        result =
      (result, [.send packet.1 packet.2 result]) := by
  obtain ⟨destination, size, answer, decoded, _⟩ := answers
  have long : ¬ (packet.2.length = 0 ∨ EspNowDriver.maxPayloadSize < packet.2.length) := by
    rintro (empty | tooLong)
    · rw [List.length_eq_zero_iff.mp empty] at decoded
      cases congrArg Prod.fst (decoded {})
    · change packet.2.length ≤ 76 at size
      change 250 < packet.2.length at tooLong
      omega
  have known : table.isPeerExist peers packet.1 = true := by
    rw [documented.isPeerExist, kept, operational.peers documented, destination,
      Function.update_self]
    rfl
  unfold EspNowDriver.send
  rw [if_neg (by simp [initialized])]
  dsimp only
  rw [if_neg long, if_neg (by simp [known])]

/-- From a successful start, whatever is delivered and whenever the loop turns: the packets
handed over are valid deliveries in order, each once; the acknowledgements are those of the
handed packets that ask for one, in order, one for each; and `esp_now_driver::send` passes
every one of them on to ESP-NOW, to TXU01, while the peers stay as they are. -/
theorem answers_passed_on (documented : table.Documented) {stops : Bool} {outcome : StartOutcome}
    {world : World δ}
    (started : start table advancing stops config outcome (powerOn table world) = .ok firmware)
    (events : List LoopEvent) :
    (handedContents (history loopStep firmware.receiver events)).Sublist (deliveries events) ∧
      List.Forall₂ (AnswersTo config)
        ((handedContents (history loopStep firmware.receiver events)).filterMap (asked config))
        (sentIn (history loopStep firmware.receiver events)) ∧
      ∀ packet ∈ sentIn (history loopStep firmware.receiver events), ∀ (moment : List LoopEvent)
        (peers : τ), table.getPeer peers = table.getPeer firmware.station.peers →
        ∀ result : EspErr,
          EspNowDriver.send table
              { driver := (run loopStep firmware.receiver moment).driver
                peers := peers }
              (some packet.1) (some packet.2) result =
            (result, [.send packet.1 packet.2 result]) := by
  obtain ⟨_, operational⟩ := start_operational started
  have loops := loops_run (loops_start operational) events
  refine ⟨?_, loops.answers, ?_⟩
  · have handedOver := loops.fed.sublist
    rwa [Reactive.history_inputs] at handedOver
  · intro packet member moment peers kept result
    obtain ⟨index, inside, rfl⟩ := List.mem_iff_getElem.mp member
    have answers := loops.answers.get (by rw [loops.answers.length_eq]; exact inside) inside
    have initialized := (loops_run (loops_start operational) moment).fed.initialized
    exact send_answer documented operational initialized kept answers result

end Started

section Served

variable {σ : Type} {receiver : Receiver σ} {depth : Nat}

/-- A delivery that is handed over before the next one comes. -/
theorem served (initialized : receiver.driver.initialized = true)
    (created : receiver.driver.receiveQueue = some (.empty depth)) (room : 0 < depth)
    {delivery : EspNowDriver.Delivery} {content : Content}
    (carries : delivery.content = some content) (clock : Clock) :
    let events := [LoopEvent.deliver delivery, .iterate clock]
    (∃ (packet : ReceivedPacket) (calls : List Call), packet.content = content ∧
      history loopStep receiver events =
        [(.deliver delivery, .queued packet true), (.iterate clock, .handed packet calls)]) ∧
    (run loopStep receiver events).driver.initialized = true ∧
    (run loopStep receiver events).driver.receiveQueue = some (.empty depth) := by
  have contents := EspNowDriver.acceptDelivery_content initialized (by rw [created]; rfl) delivery
  rw [carries] at contents
  obtain ⟨packet, accepted, same⟩ := Option.map_eq_some_iff.mp contents
  obtain ⟨moved, kept⟩ := EspNowDriver.onDataReceived_queued created accepted
  have sent : (BoundedQueue.empty depth).send packet = (true, ⟨depth, [packet], room⟩) :=
    dif_pos room
  rw [sent] at moved
  have received := EspNowDriver.receive_open (kept.trans initialized) moved
  have delivered : loopStep receiver (.deliver delivery) =
      (⟨onDataReceived receiver.driver delivery, receiver.application⟩, .queued packet true) := by
    rw [loopStep, arrival_queued created accepted, sent]
  have head : (receive (Receiver.mk (onDataReceived receiver.driver delivery)
      receiver.application).driver).1 = some packet := by
    rw [received]
    rfl
  have handedOver := loopStep_handed clock head
  dsimp only at handedOver ⊢
  rw [Reactive.history_cons, Reactive.run_cons, delivered, Reactive.history_cons,
    Reactive.run_cons, handedOver, received]
  exact ⟨⟨packet, _, same, rfl⟩, kept.trans initialized, rfl⟩

end Served

/-- A request of TXU01 and a turn of the loop. -/
def requestEvents : List LoopEvent :=
  [.deliver (requestFrom ({} : Config).txu01Mac), .iterate ⟨fun _ => 0, 0⟩]

def requestContent (source : EspNowDriver.Mac) : Content :=
  ⟨source, versionRequest.wire.length, versionRequest.wire⟩

theorem answers_passed_on_prompt :
    ∃ firmware, start functionTable prompt_advancing true {} {}
        (powerOn functionTable { device := Mcp2515.blankChip }) = .ok firmware ∧
      (handedContents (history loopStep firmware.receiver requestEvents)).Sublist
        (deliveries requestEvents) := by
  obtain ⟨firmware, started⟩ := prompt_starts
  exact ⟨firmware, started,
    (answers_passed_on EspNowDriver.functionTable_documented started requestEvents).1⟩

end Application
