import SocketLayer.AddressSource
import SocketLayer.Duration
import SocketLayer.Endpoint
import SocketLayer.Errno
import SocketLayer.Host.Answer
import SocketLayer.Host.Basic
import SocketLayer.Host.Inet
import SocketLayer.Host.PairEnd
import SocketLayer.Host.Ports
import SocketLayer.Host.Settings
import SocketLayer.Host.Table
import SocketLayer.Host.Watch
import SocketLayer.Ipv4
import SocketLayer.Lifecycle
import SocketLayer.LogRecord
import SocketLayer.NetError
import SocketLayer.OptionProfile
import SocketLayer.Program
import SocketLayer.Session.Answer
import SocketLayer.Session.Payload
import SocketLayer.Session.PortNames
import SocketLayer.Session.Run
import SocketLayer.Session.Step
import SocketLayer.Socket.Basic
import SocketLayer.Socket.Connection
import SocketLayer.Socket.Data
import SocketLayer.Socket.Multicast
import SocketLayer.Socket.Operation
import SocketLayer.Socket.Options
import SocketLayer.Socket.Peer
import SocketLayer.Socket.Readiness
import SocketLayer.SocketAddress
import SocketLayer.StatusCode
import SocketLayer.SystemCall
import SocketLayer.Text.Decimal
import SocketLayer.Text.Layout
import SocketLayer.Transfer
import SocketLayer.Proofs.Ensures
import SocketLayer.Proofs.World
import SocketLayer.Proofs.BlockingMode
import SocketLayer.Proofs.LifecycleHistory
import SocketLayer.Proofs.LifecycleOrder
import SocketLayer.Proofs.ProfilePlan
import SocketLayer.Proofs.Observation
import SocketLayer.Proofs.Frame
import SocketLayer.Proofs.ByteStream
import SocketLayer.Proofs.Datagrams
import SocketLayer.Proofs.CodeCollisions
import SocketLayer.Proofs.FailureReports
import SocketLayer.Proofs.OptionRegisters
import SocketLayer.Proofs.ProfileMerge
import SocketLayer.Proofs.LastWrite
import SocketLayer.Proofs.CallDiscipline
import SocketLayer.Proofs.LogReplay
import SocketLayer.Proofs.Backlog
import SocketLayer.Proofs.Independence
import SocketLayer.Proofs.EntryPoints
import SocketLayer.Proofs.DescriptorState
import SocketLayer.Proofs.ByteOrder
import SocketLayer.Proofs.HostOrder
import SocketLayer.Proofs.LocalBinding
import SocketLayer.Proofs.ConstructorOutcomes
import SocketLayer.Proofs.TransferOutcomes
import SocketLayer.Proofs.Memberships
import SocketLayer.Proofs.Handover
import SocketLayer.Proofs.AddressFamilies
import SocketLayer.Proofs.FlagWord
import SocketLayer.Proofs.LingerTimes
import SocketLayer.Proofs.AddressText
