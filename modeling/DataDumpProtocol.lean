import DataDumpProtocol.Packet.Codec
import DataDumpProtocol.Packet.Sizes
import DataDumpProtocol.Packet.Metadata
import DataDumpProtocol.Frames.Residue
import DataDumpProtocol.Frames.Sending
import DataDumpProtocol.Frames.BitErrors
import DataDumpProtocol.Frames.ControlMessages
import DataDumpProtocol.Timers.Btimer
import DataDumpProtocol.Machines.Transitions
import DataDumpProtocol.Server.Settlement
import DataDumpProtocol.Server.PacketLength
import DataDumpProtocol.Server.Coverage
import DataDumpProtocol.Server.Stopping
import DataDumpProtocol.Server.Reporting
import DataDumpProtocol.Client.Progress
import DataDumpProtocol.Client.Overlap
import DataDumpProtocol.Client.Reporting
import DataDumpProtocol.Handshake.Agreement
import DataDumpProtocol.Network.Terms
import DataDumpProtocol.Network.Staleness
import DataDumpProtocol.Network.Rejection
import DataDumpProtocol.Network.Delivery
import DataDumpProtocol.Transfer.EndToEnd
import DataDumpProtocol.Series.EndToEnd
import DataDumpProtocol.Server.Pointer
import DataDumpProtocol.Timers.Starting
import DataDumpProtocol.Timers.Stopping
import DataDumpProtocol.Network.Deadlock
import DataDumpProtocol.Program.Resources
import DataDumpProtocol.Client.Termination
import DataDumpProtocol.Server.Termination
