import SimpleSocket.Interact.Medium
import SimpleSocket.Verify.CanBus
import SimpleSocket.Verify.CanFilters
import SimpleSocket.Verify.CanNames
import SimpleSocket.Verify.CanOptions
import SimpleSocket.Verify.DatagramLoss
import SimpleSocket.Verify.DescriptorOwnership
import SimpleSocket.Verify.ErrorCodes
import SimpleSocket.Verify.HardwareAddress
import SimpleSocket.Verify.Independence
import SimpleSocket.Verify.InetNames
import SimpleSocket.Verify.InterfaceList
import SimpleSocket.Verify.InterfaceSettings
import SimpleSocket.Verify.LibraryOwnership
import SimpleSocket.Verify.MiniIfconfig
import SimpleSocket.Verify.Multicast
import SimpleSocket.Verify.NameEncoders
import SimpleSocket.Verify.NameResolution
import SimpleSocket.Verify.PeerNames
import SimpleSocket.Verify.ProgramDescriptors
import SimpleSocket.Verify.SctpStreams
import SimpleSocket.Verify.SendReport
import SimpleSocket.Verify.SignalTransparency
import SimpleSocket.Verify.TcpExample
import SimpleSocket.Verify.TimeoutBudget
import SimpleSocket.Verify.UdpNetwork
import SimpleSocket.Verify.UnixBind
import SimpleSocket.Verify.UnparsedAddress
import SimpleSocket.Verify.WaitAll
