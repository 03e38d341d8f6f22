import Oscpack.Bytes
import Oscpack.Packet
import Oscpack.BundleTree
import Oscpack.Message
import Oscpack.ArgumentStream
import Oscpack.Endpoint
import Oscpack.UdpSocket
import Oscpack.TimerQueue
import Oscpack.Multiplexer
import Oscpack.Registry
import Oscpack.Transition
import Oscpack.AsynchronousBreak
import Oscpack.Pipe
import Oscpack.TimerPhase
import Oscpack.Dispatch
import Oscpack.SocketLoop
import Oscpack.Stop
import Oscpack.Termination
