import Rxu01.Bytes
import Rxu01.Reactive
import Rxu01.CyclicStore
import Rxu01.RemoteProtocol
import Rxu01.RemoteProtocolCodec
import Rxu01.KeyedTable
import Rxu01.CanCommandRouter
import Rxu01.CanCommandRouterTables
import Rxu01.CanCommandRouterFrames
import Rxu01.VehicleCanProtocol
import Rxu01.EspNowCanGateway
import Rxu01.EspNowDriver
import Rxu01.Application
import Rxu01.ApplicationCache
import Rxu01.ApplicationStep
import Rxu01.ApplicationRun
import Rxu01.ApplicationWindow
import Rxu01.ApplicationAcknowledgement
import Rxu01.ApplicationInvisible
import Rxu01.VehicleCanLanguage
import Rxu01.Peripheral
import Rxu01.Mailbox
import Rxu01.Mcp2515
import Rxu01.Mcp2515Failures
import Rxu01.Mcp2515Frame
import Rxu01.CanManager
import Rxu01.ApplicationCan
import Rxu01.FrameDelivery
import Rxu01.Mcp2515Chip
import Rxu01.Mcp2515Poll
import Rxu01.Mcp2515Faults
import Rxu01.Mcp2515Transmission
import Rxu01.Mcp2515Mailbox
import Rxu01.Mcp2515Service
import Rxu01.Mcp2515Start
import Rxu01.CanSession
import Rxu01.ApplicationStatus
import Rxu01.EspNowCanGatewayStatistics
import Rxu01.ApplicationAnswers
import Rxu01.BufferProgram
import Rxu01.RemoteProtocolAccesses
import Rxu01.BinaryPolynomial
import Rxu01.ShiftRegister
import Rxu01.RemoteProtocolChecksum
import Rxu01.RemoteProtocolErrors
import Rxu01.RemoteProtocolBursts
import Rxu01.EspNowDriverTasks
import Rxu01.ApplicationLoop
import Rxu01.ApplicationRing
import Rxu01.OwnedHandle
import Rxu01.EspNowDriverLifeCycle
import Rxu01.Unwinding
import Rxu01.WifiManager
import Rxu01.WifiManagerLifeCycle
import Rxu01.Mcp2515Receive
import Rxu01.Mcp2515ReceiveFrame
import Rxu01.SlotStore
import Rxu01.Mcp2515ReceiveRun
import Rxu01.Mcp2515Session
import Rxu01.Mcp2515Configured
import Rxu01.CanConfiguration
import Rxu01.CanStartup
import Rxu01.CanSpi
import Rxu01.EspNowDriverPeers
import Rxu01.ApplicationStart
import Rxu01.ApplicationBus
import Rxu01.ApplicationCommands
import Rxu01.ApplicationStation
import Rxu01.EspNowDriverTeardown
import Rxu01.ApplicationRetransmission
import Rxu01.ApplicationChannel
import Rxu01.ApplicationFaults
