import Rxu01.ApplicationRetransmission

set_option autoImplicit false

/- What TXU01 sends and what the CAN bus sees of it. -/
namespace Application

open CanManager (Manager)
open EspNowDriver (Content Driver PeerTable ReceivedPacket acceptDelivery functionTable
  receive)
open Mcp2515 (Advancing Chip PersistentMoves Punctual Transmission Unerring)
open Peripheral (World)
open Reactive (run history)
open RemoteProtocol (Message)

section Packets

variable {σ : Type} (receiver : Receiver σ) (events : List LoopEvent)

end Packets

section Queue

/-- What is still in the queue. -/
def pending (driver : Driver) : List Content :=
  (driver.receiveQueue.map fun queue => queue.items.map ReceivedPacket.content).getD []

variable {σ : Type} {log : List (LoopEvent × LoopEffect)} {receiver : Receiver σ}

end Queue

section Started

variable {τ : Type} {table : PeerTable τ} {onReset : Chip → Chip}
  {moves : Nat → List (Chip → Chip)} {clock : Nat → Int}
  (persistent : PersistentMoves moves)
  (advancing : Advancing (Mcp2515.chipEnvironment onReset moves clock)) {stops : Bool}
  {config : Config} {outcome : StartOutcome} {world : World Chip} {firmware : Firmware Chip τ}
  (started : start table advancing stops config outcome (powerOn table world) = .ok firmware)
  (events : List LoopEvent)

include persistent started

end Started

end Application
