import Sponge.Sequencing
import Sponge.Wire.Datagram
import Sponge.Wire.Adapter
import Sponge.Wire.Buffers
import Sponge.Wire.Ethernet
import Sponge.Reassembly.EndOfStream
import Sponge.Reception.Stray
import Sponge.Reception.SynData
import Sponge.Transmission.Backoff
import Sponge.Transmission.Greedy
import Sponge.Transmission.Summary
import Sponge.Connection.CleanClose
import Sponge.Connection.BeforeSyn
import Sponge.Connection.Linger
import Sponge.Connection.Silence
import Sponge.Connection.Diagram
import Sponge.Connection.Patience
import Sponge.Network.Recovery
import Sponge.Network.FlowControl
import Sponge.Runtime.Stack
import Sponge.Runtime.StreamCopy
import Sponge.Runtime.Benchmark
