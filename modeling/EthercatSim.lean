import EthercatSim.Lib.Bytes
import EthercatSim.Lib.Cells
import EthercatSim.Lib.Writes
import EthercatSim.Lib.Run
import EthercatSim.Lib.Loop
import EthercatSim.Lib.Checked
import EthercatSim.Lib.Slot
import EthercatSim.Lib.Wire
import EthercatSim.Lib.Debounce
import EthercatSim.Lib.Fallible
import EthercatSim.Lib.Decimal
import EthercatSim.Lib.UnixSocket
import EthercatSim.Lib.References
import EthercatSim.Lib.Descriptors
import EthercatSim.Kickcat.Protocol
import EthercatSim.VirtualSlave.Model
import EthercatSim.VirtualSlave.Steps
import EthercatSim.VirtualSlave.Checked
import EthercatSim.VirtualSlave.SyncManager
import EthercatSim.VirtualSlave.EscMemory
import EthercatSim.VirtualSlave.EepromStream
import EthercatSim.VirtualSlave.Bounds
import EthercatSim.VirtualSlave.StationAddress
import EthercatSim.VirtualSlave.AlLadder
import EthercatSim.VirtualSlave.AlStatus
import EthercatSim.VirtualSlave.AlDescent
import EthercatSim.VirtualSlave.MailboxStatus
import EthercatSim.VirtualSlave.Sii
import EthercatSim.VirtualSlave.Mailbox
import EthercatSim.VirtualSlave.SdoReply
import EthercatSim.El1258.Model
import EthercatSim.El1258.PdoGate
import EthercatSim.El1258.Readback
import EthercatSim.Slaves.EL1258
import EthercatSim.Network.Simulator
import EthercatSim.Network.Link
import EthercatSim.Network.Datagram
import EthercatSim.Network.Broadcast
import EthercatSim.Network.Isolation
import EthercatSim.Network.Steps
import EthercatSim.Network.WorkingCounter
import EthercatSim.Network.Registry
import EthercatSim.Network.ProcessImage
import EthercatSim.Network.ImageShifts
import EthercatSim.Network.AbsentSlaves
import EthercatSim.El1258.InputImage
import EthercatSim.El1258.Settling
import EthercatSim.Slaves.InputMapping
import EthercatSim.Slaves.ObjectDictionary
import EthercatSim.Slaves.Debounce
import EthercatSim.Slaves.Observation
import EthercatSim.Slaves.Controls
import EthercatSim.Slaves.SdoRefusal
import EthercatSim.Slaves.MailboxDownload
import EthercatSim.Network.AddressAssignment
import EthercatSim.Network.Interpreters
import EthercatSim.Network.ReadWrite
import EthercatSim.Network.Frame
import EthercatSim.Network.Bus
import EthercatSim.Network.Delivery
import EthercatSim.Network.BringUp
import EthercatSim.Network.SdoTransfer
import EthercatSim.Network.SocketRuns
import EthercatSim.Network.IdentityReads
import EthercatSim.Transport.EndpointParser
import EthercatSim.Transport.SocketAddress
import EthercatSim.Transport.SystemCalls
import EthercatSim.Transport.SocketFactory
import EthercatSim.Transport.MasterSocket
import EthercatSim.Transport.SocketLifetime
import EthercatSim.Transport.SlavesEndpoint
import EthercatSim.Transport.HandleClient
import EthercatSim.Transport.Sessions
import EthercatSim.Transport.ImageHistory
import EthercatSim.Transport.Connection
import EthercatSim.Transport.Interleaving
import EthercatSim.Transport.StopFlag
import EthercatSim.Transport.ServerRun
import EthercatSim.Slaves.Controller
import EthercatSim.Master.Controller
import EthercatSim.Master.Truth
import EthercatSim.Master.Steps
import EthercatSim.Master.Answers
import EthercatSim.Master.TakenForGranted
import EthercatSim.Master.SlaveTable
import EthercatSim.Master.Program
import EthercatSim.Master.AutoSequence
