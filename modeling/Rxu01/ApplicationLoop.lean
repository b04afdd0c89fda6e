import Rxu01.ApplicationRun
import Rxu01.Reactive

set_option autoImplicit false

/- The main loop of `application.cpp` behind the driver's receive queue: what packets
from other senders can and cannot do to those of TXU01. -/
namespace Application

open EspNowDriver (Delivery Driver Mac ReceivedPacket acceptDelivery onDataReceived queueSend receive)
open Reactive (run history)

/-- The driver and the application that reads from it. -/
structure Receiver (σ : Type) where
  driver : Driver
  application : State σ

/-- The callback and the loop share only the queue, of which each takes one step. -/
inductive LoopEvent where
  | deliver (delivery : Delivery)
  | iterate (clock : Clock)

inductive LoopEffect where
  | ignored
  | queued (packet : ReceivedPacket) (room : Bool)
  | waiting
  | handed (packet : ReceivedPacket) (calls : List Call)

variable {σ : Type}

/-- What becomes of a delivery. -/
def arrival (driver : Driver) (delivery : Delivery) : LoopEffect :=
  match acceptDelivery driver delivery with
  | none => .ignored
  | some packet => .queued packet (((queueSend driver packet).map Prod.fst).getD false)

/-- One callback, or one turn of `run_main_loop`, which waits while there is no packet. -/
def loopStep (receiver : Receiver σ) : LoopEvent → Receiver σ × LoopEffect
  | .deliver delivery =>
      ({ receiver with driver := onDataReceived receiver.driver delivery },
        arrival receiver.driver delivery)
  | .iterate clock =>
      match receive receiver.driver with
      | (none, _) => (receiver, .waiting)
      | (some packet, driver) =>
          let processed := processReceivedPacket receiver.application ⟨packet, clock⟩
          ({ driver := driver, application := processed.1 }, .handed packet processed.2)

def sentBy (source : Mac) (delivery : Delivery) : Bool :=
  delivery.info.bind EspNowDriver.RecvInfo.srcAddr == some source

def fromMac (source : Mac) (packet : ReceivedPacket) : Bool :=
  packet.sourceMac == source

/-- Deliveries from other senders, and the turns that hand over their packets, are foreign. -/
def foreign (receiver : Receiver σ) : LoopEvent → Bool
  | .deliver delivery => !sentBy receiver.application.txu01Mac delivery
  | .iterate _ =>
      ((receive receiver.driver).1.map fun packet =>
        !fromMac receiver.application.txu01Mac packet).getD false

/-- The schedule without its foreign events. -/
def withoutForeign : Receiver σ → List LoopEvent → List LoopEvent
  | _, [] => []
  | receiver, event :: rest =>
      (if foreign receiver event then [] else [event]) ++
        withoutForeign (loopStep receiver event).1 rest

/-- A valid delivery from TXU01 finds the queue full, with a foreign packet in it. -/
def Displaced (receiver : Receiver σ) : LoopEvent → Prop
  | .deliver delivery =>
      sentBy receiver.application.txu01Mac delivery = true ∧
        (acceptDelivery receiver.driver delivery).isSome = true ∧
        ∃ queue, receiver.driver.receiveQueue = some queue ∧
          BoundedQueue.Displaces (fromMac receiver.application.txu01Mac) queue
  | .iterate _ => False

/-- No delivery of the run is displaced. -/
def Undisplaced : Receiver σ → List LoopEvent → Prop
  | _, [] => True
  | receiver, event :: rest =>
      ¬ Displaced receiver event ∧ Undisplaced (loopStep receiver event).1 rest

section Log

variable (source : Mac) (log : List (LoopEvent × LoopEffect))

/-- The packets of a sender that reached the queue, each with whether there was room. -/
def queuedFrom : List (ReceivedPacket × Bool) :=
  log.filterMap fun entry =>
    match entry.2 with
    | .queued packet room => if fromMac source packet then some (packet, room) else none
    | _ => none

/-- The packets of a sender handed to `process_received_packet`, with the calls made. -/
def handedFrom : List (ReceivedPacket × List Call) :=
  log.filterMap fun entry =>
    match entry.2 with
    | .handed packet calls => if fromMac source packet then some (packet, calls) else none
    | _ => none

end Log

/-- The receiver of the full run and that of the run without foreign events. -/
structure Paired (full reduced : Receiver σ) : Prop where
  application : reduced.application = full.application
  initialized : full.driver.initialized = true ∧ reduced.driver.initialized = true
  queues : ∃ queue thinned, full.driver.receiveQueue = some queue ∧
    reduced.driver.receiveQueue = some thinned ∧
    BoundedQueue.Thinned (fromMac full.application.txu01Mac) queue thinned

theorem sentBy_fromMac {driver : Driver} {delivery : Delivery} {packet : ReceivedPacket}
    (accepted : acceptDelivery driver delivery = some packet) (source : Mac) :
    sentBy source delivery = fromMac source packet := by
  rw [sentBy, EspNowDriver.acceptDelivery_source accepted]
  rfl

theorem arrival_queued {driver : Driver} {delivery : Delivery} {packet : ReceivedPacket}
    {queue : BoundedQueue ReceivedPacket} (created : driver.receiveQueue = some queue)
    (accepted : acceptDelivery driver delivery = some packet) :
    arrival driver delivery = .queued packet (queue.send packet).1 := by
  rw [arrival, accepted]
  simp only [EspNowDriver.queueSend_created created, Option.map_some, Option.getD_some]

theorem loopStep_waiting {receiver : Receiver σ} (clock : Clock)
    (none : (receive receiver.driver).1 = none) :
    loopStep receiver (.iterate clock) = (receiver, .waiting) := by
  rw [loopStep]
  generalize receive receiver.driver = received at none
  obtain ⟨packet, driver⟩ := received
  dsimp only at none
  subst none
  rfl

theorem loopStep_handed {receiver : Receiver σ} {packet : ReceivedPacket} (clock : Clock)
    (head : (receive receiver.driver).1 = some packet) :
    loopStep receiver (.iterate clock) =
      ({ driver := (receive receiver.driver).2
         application := (processReceivedPacket receiver.application ⟨packet, clock⟩).1 },
        .handed packet (processReceivedPacket receiver.application ⟨packet, clock⟩).2) := by
  rw [loopStep]
  generalize receive receiver.driver = received at head ⊢
  obtain ⟨packet, driver⟩ := received
  dsimp only at head
  subst head
  rfl

theorem processReceivedPacket_foreign (state : State σ) {packet : ReceivedPacket} (clock : Clock)
    (other : fromMac state.txu01Mac packet = false) :
    processReceivedPacket state ⟨packet, clock⟩ = (state, []) := by
  rw [processReceivedPacket, if_pos]
  intro same
  rw [fromMac, same, beq_self_eq_true] at other
  cases other

section Pairing

variable {full reduced : Receiver σ} (paired : Paired full reduced)

include paired

theorem paired_accept (delivery : Delivery) :
    acceptDelivery reduced.driver delivery = acceptDelivery full.driver delivery := by
  obtain ⟨queue, thinned, created, created', _⟩ := paired.queues
  rw [acceptDelivery, acceptDelivery, paired.initialized.1, paired.initialized.2,
    EspNowDriver.checkDelivery, EspNowDriver.checkDelivery, created, created']
  rfl

/-- A foreign delivery changes the full queue at most, by a packet that is not kept. -/
theorem paired_deliver_foreign {delivery : Delivery}
    (other : sentBy full.application.txu01Mac delivery = false) :
    Paired { full with driver := onDataReceived full.driver delivery } reduced ∧
      queuedFrom full.application.txu01Mac
        [(.deliver delivery, arrival full.driver delivery)] = [] := by
  cases accepted : acceptDelivery full.driver delivery with
  | none =>
      rw [EspNowDriver.onDataReceived_ignored accepted, arrival, accepted]
      exact ⟨paired, rfl⟩
  | some packet =>
      obtain ⟨queue, thinned, created, created', related⟩ := paired.queues
      have dropped := other
      rw [sentBy_fromMac accepted] at dropped
      obtain ⟨moved, same⟩ := EspNowDriver.onDataReceived_queued created accepted
      constructor
      · exact ⟨paired.application, ⟨same.trans paired.initialized.1, paired.initialized.2⟩, _, _,
          moved, created', BoundedQueue.thinned_send_dropped related dropped⟩
      · rw [arrival_queued created accepted]
        simp [queuedFrom, dropped]

/-- A foreign event happens to the full run alone and shows nothing of TXU01. -/
theorem paired_foreign {event : LoopEvent} (alien : foreign full event = true) :
    Paired (loopStep full event).1 reduced ∧ ¬ Displaced full event ∧
      queuedFrom full.application.txu01Mac [(event, (loopStep full event).2)] = [] ∧
      handedFrom full.application.txu01Mac [(event, (loopStep full event).2)] = [] := by
  cases event with
  | deliver delivery =>
      have other : sentBy full.application.txu01Mac delivery = false := by
        simpa [foreign] using alien
      obtain ⟨next, silent⟩ := paired_deliver_foreign paired other
      refine ⟨next, fun displaced => ?_, silent, ?_⟩
      · rw [displaced.1] at other
        cases other
      · rw [loopStep, arrival]
        cases acceptDelivery full.driver delivery <;> rfl
  | iterate clock =>
      obtain ⟨queue, thinned, created, created', related⟩ := paired.queues
      have received := EspNowDriver.receive_open paired.initialized.1 created
      rw [foreign, received] at alien
      cases head : queue.receive.1 with
      | none =>
          rw [head] at alien
          cases alien
      | some packet =>
          have dropped : fromMac full.application.txu01Mac packet = false := by
            rw [head] at alien
            simpa using alien
          rw [loopStep_handed clock (by rw [received]; exact head),
            processReceivedPacket_foreign full.application clock dropped]
          refine ⟨⟨paired.application, ?_, queue.receive.2, thinned, ?_, created', ?_⟩, id, rfl, ?_⟩
          · rw [received]
            exact paired.initialized
          · rw [received]
          · exact BoundedQueue.thinned_receive_dropped related head dropped
          · simp [handedFrom, dropped]

/-- Any other event happens to both runs, which show the same unless it is displaced. -/
theorem paired_own {event : LoopEvent} (own : foreign full event = false)
    (undisplaced : ¬ Displaced full event) :
    Paired (loopStep full event).1 (loopStep reduced event).1 ∧
      (loopStep reduced event).2 = (loopStep full event).2 := by
  obtain ⟨queue, thinned, created, created', related⟩ := paired.queues
  cases event with
  | deliver delivery =>
      have sent : sentBy full.application.txu01Mac delivery = true := by
        simpa [foreign] using own
      have agree := paired_accept paired delivery
      rw [loopStep, loopStep]
      cases accepted : acceptDelivery full.driver delivery with
      | none =>
          rw [accepted] at agree
          rw [EspNowDriver.onDataReceived_ignored accepted,
            EspNowDriver.onDataReceived_ignored agree, arrival, arrival, accepted, agree]
          exact ⟨paired, rfl⟩
      | some packet =>
          rw [accepted] at agree
          have kept := sent
          rw [sentBy_fromMac accepted] at kept
          have room : ¬ BoundedQueue.Displaces (fromMac full.application.txu01Mac) queue :=
            fun displaces => undisplaced ⟨sent, by rw [accepted]; rfl, queue, created, displaces⟩
          obtain ⟨same, next⟩ := BoundedQueue.thinned_send_kept related kept room
          obtain ⟨moved, still⟩ := EspNowDriver.onDataReceived_queued created accepted
          obtain ⟨moved', still'⟩ := EspNowDriver.onDataReceived_queued created' agree
          rw [arrival_queued created accepted, arrival_queued created' agree, same]
          exact ⟨⟨paired.application,
            ⟨still.trans paired.initialized.1, still'.trans paired.initialized.2⟩, _, _, moved,
            moved', next⟩, rfl⟩
  | iterate clock =>
      have received := EspNowDriver.receive_open paired.initialized.1 created
      have received' := EspNowDriver.receive_open paired.initialized.2 created'
      cases head : queue.receive.1 with
      | none =>
          have none := BoundedQueue.thinned_receive_none related head
          rw [loopStep_waiting clock (by rw [received]; exact head),
            loopStep_waiting clock (by rw [received']; exact none)]
          exact ⟨paired, rfl⟩
      | some packet =>
          have kept : fromMac full.application.txu01Mac packet = true := by
            rw [foreign, received] at own
            simpa [head] using own
          obtain ⟨head', next⟩ := BoundedQueue.thinned_receive_kept related head kept
          rw [loopStep_handed clock (by rw [received]; exact head),
            loopStep_handed clock (by rw [received']; exact head'), paired.application]
          refine ⟨⟨rfl, ?_, queue.receive.2, thinned.receive.2, ?_, ?_, ?_⟩, rfl⟩
          · rw [received, received']
            exact paired.initialized
          · rw [received]
          · rw [received']
          · rw [(step_fixed full.application ⟨packet, clock⟩).1]
            exact next

/-- A displaced packet is dropped in the full run and queued in the other. -/
theorem paired_displaced {event : LoopEvent} (displaced : Displaced full event) :
    foreign full event = false ∧ ∃ packet,
      queuedFrom full.application.txu01Mac [(event, (loopStep full event).2)] = [(packet, false)] ∧
      queuedFrom full.application.txu01Mac [(event, (loopStep reduced event).2)] =
        [(packet, true)] := by
  cases event with
  | iterate clock => cases displaced
  | deliver delivery =>
      obtain ⟨sent, valid, other, found, displaces⟩ := displaced
      obtain ⟨packet, accepted⟩ := Option.isSome_iff_exists.mp valid
      obtain ⟨queue, thinned, created, created', related⟩ := paired.queues
      rw [created] at found
      obtain rfl := Option.some.inj found
      have agree := paired_accept paired delivery
      rw [accepted] at agree
      have kept := sent
      rw [sentBy_fromMac accepted] at kept
      obtain ⟨dropped, room⟩ := BoundedQueue.thinned_send_displaced related displaces packet
      refine ⟨by simp [foreign, sent], packet, ?_, ?_⟩
      · rw [loopStep, arrival_queued created accepted, dropped]
        simp [queuedFrom, kept]
      · rw [loopStep, arrival_queued created' agree, room]
        simp [queuedFrom, kept]

end Pairing

section Log

variable (source : Mac) (entry : LoopEvent × LoopEffect) (log : List (LoopEvent × LoopEffect))

theorem queuedFrom_cons :
    queuedFrom source (entry :: log) = queuedFrom source [entry] ++ queuedFrom source log := by
  rw [← List.singleton_append]
  exact List.filterMap_append

theorem handedFrom_cons :
    handedFrom source (entry :: log) = handedFrom source [entry] ++ handedFrom source log := by
  rw [← List.singleton_append]
  exact List.filterMap_append

end Log

theorem loopStep_txu01Mac (receiver : Receiver σ) (event : LoopEvent) :
    (loopStep receiver event).1.application.txu01Mac = receiver.application.txu01Mac := by
  cases event with
  | deliver delivery => rfl
  | iterate clock =>
      cases head : (receive receiver.driver).1 with
      | none => rw [loopStep_waiting clock head]
      | some packet =>
          rw [loopStep_handed clock head]
          exact (step_fixed receiver.application ⟨packet, clock⟩).1

/-- Deleting the foreign events changes the fate of TXU01's packets in exactly the
runs in which one of them is displaced. -/
theorem paired_run {full reduced : Receiver σ} (paired : Paired full reduced)
    (events : List LoopEvent) :
    (queuedFrom full.application.txu01Mac (history loopStep reduced (withoutForeign full events)) =
        queuedFrom full.application.txu01Mac (history loopStep full events) ↔
      Undisplaced full events) ∧
    (Undisplaced full events →
      handedFrom full.application.txu01Mac (history loopStep reduced (withoutForeign full events)) =
        handedFrom full.application.txu01Mac (history loopStep full events) ∧
      Paired (run loopStep full events)
        (run loopStep reduced (withoutForeign full events))) := by
  induction events generalizing full reduced with
  | nil => exact ⟨⟨fun _ => trivial, fun _ => rfl⟩, fun _ => ⟨rfl, paired⟩⟩
  | cons event rest ih =>
      have mac := loopStep_txu01Mac full event
      rw [Undisplaced, withoutForeign, Reactive.history_cons, queuedFrom_cons, handedFrom_cons]
      cases alien : foreign full event with
      | true =>
          obtain ⟨next, undisplaced, silent, nothing⟩ := paired_foreign paired alien
          have later := ih next
          rw [mac] at later
          rw [if_pos rfl, List.nil_append, silent, nothing, List.nil_append, List.nil_append]
          simp only [undisplaced, not_false_iff, true_and]
          exact later
      | false =>
          rw [if_neg Bool.false_ne_true, List.singleton_append, Reactive.history_cons,
            queuedFrom_cons, handedFrom_cons]
          by_cases displaced : Displaced full event
          · obtain ⟨_, packet, dropped, room⟩ := paired_displaced paired displaced
            rw [dropped, room]
            refine ⟨⟨fun same => ?_, fun undisplaced => absurd displaced undisplaced.1⟩,
              fun undisplaced => absurd displaced undisplaced.1⟩
            have heads := (List.cons.inj same).1
            cases heads
          · obtain ⟨next, same⟩ := paired_own paired alien displaced
            have later := ih next
            rw [mac] at later
            rw [same, List.append_cancel_left_eq, List.append_cancel_left_eq]
            simp only [displaced, not_false_iff, true_and]
            exact later

/-- Take away the foreign deliveries and the turns that hand over their packets. The
same packets of TXU01 are queued and the same dropped, in exactly the runs in which
none of them finds the queue full with a foreign packet in it; and in these the same
packets of TXU01 are handed over with the same calls, and leave the same state. -/
theorem foreign_traffic_iff (receiver : Receiver σ) (queue : BoundedQueue ReceivedPacket)
    (initialized : receiver.driver.initialized = true)
    (created : receiver.driver.receiveQueue = some queue)
    (own : ∀ packet ∈ queue.items, packet.sourceMac = receiver.application.txu01Mac)
    (events : List LoopEvent) :
    (queuedFrom receiver.application.txu01Mac
          (history loopStep receiver (withoutForeign receiver events)) =
        queuedFrom receiver.application.txu01Mac (history loopStep receiver events) ↔
      Undisplaced receiver events) ∧
    (Undisplaced receiver events →
      handedFrom receiver.application.txu01Mac
          (history loopStep receiver (withoutForeign receiver events)) =
        handedFrom receiver.application.txu01Mac (history loopStep receiver events) ∧
      (run loopStep receiver (withoutForeign receiver events)).application =
        (run loopStep receiver events).application) := by
  have paired : Paired receiver receiver := by
    refine ⟨rfl, ⟨initialized, initialized⟩, queue, queue, created, created, rfl, ?_⟩
    refine (List.filter_eq_self.mpr fun packet member => ?_).symm
    exact beq_iff_eq.mpr (own packet member)
  obtain ⟨queued, handed⟩ := paired_run paired events
  refine ⟨queued, fun undisplaced => ?_⟩
  obtain ⟨same, final⟩ := handed undisplaced
  exact ⟨same, final.application⟩

/-- A queue of one packet, and a request that arrives behind a foreign packet. -/
def crowdedReceiver : Receiver Unit :=
  { driver := { initialized := true, receiveQueue := some (.empty 1) }
    application := sampleState }

def requestFrom (source : Mac) : Delivery :=
  { info := some ⟨some source, none, none⟩
    data := some versionRequest.wire
    dataLength := versionRequest.wire.length
    covered := by simp }

def crowdedEvents : List LoopEvent :=
  [.deliver (requestFrom (Vector.replicate EspNowDriver.macAddressSize 0x55)),
    .deliver (requestFrom sampleMac), .iterate ⟨fun _ => 0, 0⟩, .iterate ⟨fun _ => 0, 0⟩]

/-- Without the foreign packet the request is handed over, with it nothing is. -/
theorem foreign_displaces :
    ¬ ∀ (receiver : Receiver Unit) (queue : BoundedQueue ReceivedPacket),
      receiver.driver.initialized = true → receiver.driver.receiveQueue = some queue →
      (∀ packet ∈ queue.items, packet.sourceMac = receiver.application.txu01Mac) →
      ∀ (events : List LoopEvent) (packet : ReceivedPacket) (calls : List Call),
        (packet, calls) ∈ handedFrom receiver.application.txu01Mac
            (history loopStep receiver (withoutForeign receiver events)) →
        ∃ calls, (packet, calls) ∈ handedFrom receiver.application.txu01Mac
          (history loopStep receiver events) := by
  intro undisturbed
  have alone : (handedFrom crowdedReceiver.application.txu01Mac (history loopStep crowdedReceiver
      (withoutForeign crowdedReceiver crowdedEvents))).length = 1 := by
    decide +kernel
  have crowded : (handedFrom crowdedReceiver.application.txu01Mac
      (history loopStep crowdedReceiver crowdedEvents)).length = 0 := by
    decide +kernel
  obtain ⟨⟨packet, calls⟩, only⟩ := List.length_eq_one_iff.mp alone
  obtain ⟨calls', member⟩ := undisturbed crowdedReceiver (.empty 1) rfl rfl
    (fun _ member => nomatch member) crowdedEvents packet calls (by rw [only]; simp)
  rw [List.length_eq_zero_iff.mp crowded] at member
  cases member

theorem foreign_traffic_iff_crowded :
    (queuedFrom crowdedReceiver.application.txu01Mac
          (history loopStep crowdedReceiver (withoutForeign crowdedReceiver crowdedEvents)) =
        queuedFrom crowdedReceiver.application.txu01Mac
          (history loopStep crowdedReceiver crowdedEvents) ↔
      Undisplaced crowdedReceiver crowdedEvents) :=
  (foreign_traffic_iff crowdedReceiver (.empty 1) rfl rfl (fun _ member => nomatch member)
    crowdedEvents).1

end Application
