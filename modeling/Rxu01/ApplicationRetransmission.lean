import Rxu01.ApplicationCommands
import Rxu01.ApplicationWindow
import Rxu01.Stutter

set_option autoImplicit false

/- A sender that repeats each request until it goes on to the next message. -/
namespace Application

open CanCommandRouter (CanFrame buildFrame)
open EspNowCanGateway (TransmitCallback mapRouteResult processMessage)
open EspNowDriver (Mac)
open Reactive (run history)
open RemoteProtocol (Message)

/-- The message asks again for what the one before it asked for. -/
def Repeats (earlier later : Message) : Prop :=
  acknowledgementRequested later = true ∧ later = earlier

instance (earlier later : Message) : Decidable (Repeats earlier later) :=
  inferInstanceAs (Decidable (_ ∧ _))

/-- A message as it was handed over, with the readings of the clock. -/
structure Attempt where
  message : Message
  clock : Clock

def attempt (mac : Mac) (arrival : Arrival) : Option Attempt :=
  (receivedMessage mac arrival).map fun message => ⟨message, arrival.clock⟩

/-- The attempts that repeat no other. -/
def firstAttempts (mac : Mac) (arrivals : List Arrival) : List Attempt :=
  (arrivals.filterMap (attempt mac)).destutter fun earlier later =>
    ¬ Repeats earlier.message later.message

def firstRequests (mac : Mac) (arrivals : List Arrival) : List Attempt :=
  (firstAttempts mac arrivals).filter fun attempt => acknowledgementRequested attempt.message

/-- What the protocol asks of TXU01: no request has the sequence number of one of the
`requestCacheSize` before it, and a request is repeated before the gateway forgets it. -/
structure StopAndWait (mac : Mac) (arrivals : List Arrival) : Prop where
  chronological : Chronological arrivals
  apart : ∀ (earlier later : Nat) (first second : Attempt), earlier < later →
    later ≤ earlier + requestCacheSize → (firstRequests mac arrivals)[earlier]? = some first →
    (firstRequests mac arrivals)[later]? = some second →
    first.message.sequenceNumber ≠ second.message.sequenceNumber
  inTime : ∀ (before after : List Arrival) (arrival : Arrival),
    arrivals = before ++ arrival :: after →
    ∀ (first : Attempt) (again : Message), (firstAttempts mac before).getLast? = some first →
      receivedMessage mac arrival = some again → Repeats first.message again →
      ∀ slot, slot < requestCacheSize →
        arrival.clock.lookup slot - first.clock.cached ≤ requestCacheLifetimeUs

/-- The frame of a message. -/
def frameFor (tables : CanCommandRouter.Config) (message : Message) : Option CanFrame :=
  match buildFrame message tables with
  | (.ok, frame) => some frame
  | (_, _) => none

/-- The answer to a request if the CAN manager sends what it is given. -/
def answerFor (mac : Mac) (tables : CanCommandRouter.Config) (message : Message) :
    Mac × List UInt8 :=
  (mac, (acknowledgement message
    (mapAckStatus (mapRouteResult (buildFrame message tables).1))).wire)

section Firsts

variable (mac : Mac) (arrivals : List Arrival) {arrival : Arrival}

theorem StopAndWait.front {mac : Mac} {arrivals more : List Arrival}
    (traffic : StopAndWait mac (arrivals ++ more)) : StopAndWait mac arrivals := by
  obtain ⟨chronological, apart, inTime⟩ := traffic
  have longer : (firstRequests mac arrivals).IsPrefix (firstRequests mac (arrivals ++ more)) := by
    unfold firstRequests firstAttempts
    rw [List.filterMap_append]
    exact (Stutter.destutter_prefix _ _ _).filter _
  have kept : ∀ (index : Nat) (first : Attempt),
      (firstRequests mac arrivals)[index]? = some first →
      (firstRequests mac (arrivals ++ more))[index]? = some first := by
    intro index first present
    obtain ⟨rest, split⟩ := longer
    rw [← split]
    exact List.getElem?_append_left (List.getElem?_eq_some_iff.mp present).1 ▸ present
  refine ⟨chronological_front chronological, ?_, ?_⟩
  · intro earlier later first second order near atFirst atSecond
    exact apart earlier later first second order near (kept _ _ atFirst) (kept _ _ atSecond)
  · intro before after arrival split
    apply inTime before (after ++ more) arrival
    rw [split, List.append_assoc]
    rfl

end Firsts

section Gateway

variable {σ : Type}

variable {state : State σ} (arrival : Arrival) {message : Message}

end Gateway

section Conforms

variable {σ : Type} (start : State σ)

/-- What was done for the packets so far: each request was executed at its first attempt and
answered at every one. -/
structure Conforms (log : List Arrival) : Prop where
  executed : (executions (history processReceivedPacket start log)).map
      (fun made => Attempt.mk made.message made.arrival.clock) =
    firstRequests start.txu01Mac log
  results : ∀ made ∈ executions (history processReceivedPacket start log),
    made.result = mapRouteResult (buildFrame made.message start.gateway.config.commandRouter).1
  frames : (history processReceivedPacket start log).flatMap (fun entry => transmitted entry.2) =
    ((firstAttempts start.txu01Mac log).map Attempt.message).filterMap
      (frameFor start.gateway.config.commandRouter)
  answers : (history processReceivedPacket start log).flatMap (fun entry => sentPackets entry.2) =
    ((log.filterMap (receivedMessage start.txu01Mac)).filter
      fun message => acknowledgementRequested message).map
        (answerFor start.txu01Mac start.gateway.config.commandRouter)

section Step

variable {start} {log : List Arrival} {arrival : Arrival}

/-- A packet with the attempts it adds and the calls it makes. -/
theorem Conforms.snoc (conforms : Conforms start log) {calls : List Call}
    (made : (processReceivedPacket (run processReceivedPacket start log) arrival).2 = calls)
    {more : List Attempt} (attempts : firstAttempts start.txu01Mac (log ++ [arrival]) =
      firstAttempts start.txu01Mac log ++ more)
    (executed : (execution (arrival, calls)).toList.map
        (fun made => Attempt.mk made.message made.arrival.clock) =
      more.filter fun attempt => acknowledgementRequested attempt.message)
    (results : ∀ made ∈ execution (arrival, calls),
      made.result = mapRouteResult (buildFrame made.message start.gateway.config.commandRouter).1)
    (frames : transmitted calls = (more.map Attempt.message).filterMap
      (frameFor start.gateway.config.commandRouter))
    (answers : sentPackets calls = ((receivedMessage start.txu01Mac arrival).toList.filter
      fun message => acknowledgementRequested message).map
        (answerFor start.txu01Mac start.gateway.config.commandRouter)) :
    Conforms start (log ++ [arrival]) := by
  constructor
  case executed =>
    rw [Reactive.history_snoc, executions_snoc, List.map_append, conforms.executed, made, executed,
      firstRequests, firstRequests, attempts, List.filter_append]
  case results =>
    rw [Reactive.history_snoc, executions_snoc, made]
    intro execution member
    rcases List.mem_append.mp member with old | new
    · exact conforms.results execution old
    · exact results execution (Option.mem_toList.mp new)
  case frames =>
    rw [Reactive.history_snoc, List.flatMap_append, conforms.frames, attempts, List.map_append,
      List.filterMap_append, ← frames, ← made]
    exact congrArg _ (List.append_nil _)
  case answers =>
    have received : (log ++ [arrival]).filterMap (receivedMessage start.txu01Mac) =
        log.filterMap (receivedMessage start.txu01Mac) ++
          (receivedMessage start.txu01Mac arrival).toList := by
      rw [List.filterMap_append]
      cases found : receivedMessage start.txu01Mac arrival <;> simp [found]
    rw [Reactive.history_snoc, List.flatMap_append, conforms.answers, received, List.filter_append,
      List.map_append, ← answers, ← made]
    exact congrArg _ (List.append_nil _)

variable {message : Message} (conforms : Conforms start log)
  (initialized : start.gateway.initialized = true) {transmit : TransmitCallback σ}
  (connected : start.gateway.config.transmit = some transmit)

include conforms initialized connected

omit initialized connected

include initialized connected

end Step

end Conforms

end Application
