import Mosn.Lib.BigEndian
import Mosn.Lib.GoMap
import Mosn.Lib.Strconv
import Mosn.Lib.Loop
import Mosn.Lib.Transition
import Mosn.Lib.Framing
import Mosn.Lib.Table
import Mosn.Lib.Slice
import Mosn.Lib.Trie
import Mosn.Lib.Threads
import Mosn.Network.IoBuffer
import Mosn.Network.RawBuffer
import Mosn.Network.WriteLoop
import Mosn.Network.ByteQueue
import Mosn.Network.Transfer
import Mosn.Network.TransferIsolation
import Mosn.Network.TransferOrder
import Mosn.Network.TransferLoops
import Mosn.Network.FilterManager
import Mosn.Network.ReadFrom
import Mosn.Protocol.Serialize
import Mosn.Protocol.Http.Query
import Mosn.Protocol.SofaRpc.Types
import Mosn.Protocol.SofaRpc.Adapter
import Mosn.Protocol.SofaRpc.Codec.BoltV1
import Mosn.Protocol.SofaRpc.Codec.BoltV2
import Mosn.Protocol.SofaRpc.Codec.Frame
import Mosn.Protocol.SofaRpc.Codec.RoundTrip
import Mosn.Protocol.SofaRpc.Protocols
import Mosn.Protocol.SofaRpc.Handler
import Mosn.Protocol.SofaRpc.DecodeLoop
import Mosn.Protocol.SofaRpc.Segmentation
import Mosn.Protocol.SofaRpc.Codec.RoundTripV2
import Mosn.Protocol.SofaRpc.PropertyMap
import Mosn.Protocol.SofaRpc.EncodeHeaders
import Mosn.Protocol.SofaRpc.WellFramed
import Mosn.Protocol.SofaRpc.EncodeFaults
import Mosn.Stream.SofaRpc.Stream
import Mosn.Stream.SofaRpc.DecodeError
import Mosn.Stream.SofaRpc.Send
import Mosn.Stream.SofaRpc.Forward
import Mosn.Stream.SofaRpc.Receive
import Mosn.Stream.SofaRpc.Forgery
import Mosn.Stream.SofaRpc.Offer
import Mosn.Stream.SofaRpc.ClientDispatch
import Mosn.Stream.SofaRpc.StreamMap
import Mosn.Stream.SofaRpc.Isolation
import Mosn.Stream.Xprotocol.Stream
import Mosn.Stream.Xprotocol.InFlight
import Mosn.Stream.SofaRpc.ConnPool
import Mosn.Stream.CodecClient
import Mosn.Stream.RequestSlots
import Mosn.Stream.RequestLimit
import Mosn.Proxy.Event
import Mosn.Proxy.LocalReply
import Mosn.Proxy.System
import Mosn.Proxy.Invariant
import Mosn.Proxy.Correlation
import Mosn.Proxy.DownStream
import Mosn.Proxy.Release
import Mosn.Proxy.Dispatch
import Mosn.Proxy.StreamView
import Mosn.Proxy.StreamOrder
import Mosn.Proxy.FinalResponse
import Mosn.Proxy.Filters.Chain
import Mosn.Proxy.Filters.Receiver
import Mosn.Proxy.Filters.Sender
import Mosn.Proxy.Filters.Headers
import Mosn.Proxy.Filters.RequestBuffering
import Mosn.Proxy.Cleaned
import Mosn.Proxy.Retries
import Mosn.Proxy.RetrySlots
import Mosn.Proxy.RetryLimit
import Mosn.Proxy.Resend
import Mosn.Proxy.Timeouts
import Mosn.Proxy.TcpRoutes
import Mosn.Server.HandOff
import Mosn.Upstream.Cluster
import Mosn.Upstream.RemoveHost
import Mosn.Upstream.Reconcile
import Mosn.Upstream.SubsetLoadBalancer
import Mosn.Upstream.SubsetUpdate
import Mosn.Upstream.SubsetTable
import Mosn.Upstream.SubsetChoice
import Mosn.Upstream.SubsetHealth
import Mosn.Upstream.HostHealth
import Mosn.Upstream.HealthyHosts
import Mosn.HealthCheck.Session
import Mosn.HealthCheck.Timer
import Mosn.HealthCheck.Heartbeat
import Mosn.HealthCheck.HealthyCount
import Mosn.HealthCheck.Silence
import Mosn.HealthCheck.Factory
import Mosn.Config.Endpoints
import Mosn.Config.Listeners
import Mosn.Config.ConvertXds
import Mosn.Filter.FaultInject
import Mosn.Lib.Strings
import Mosn.Lib.FirstMatch
import Mosn.Lib.Url
import Mosn.Router.Rules
import Mosn.Router.RouteChoice
import Mosn.Router.Matcher
import Mosn.Router.HeaderMatch
import Mosn.Router.Domains
import Mosn.Tls.ContextManager
import Mosn.Stream.Http2.Stream
