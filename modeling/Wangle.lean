import Wangle.Incremental.Tokenizer
import Wangle.Numeral.Endian
import Wangle.Transition.Run
import Wangle.Intrusive.Iterator
import Wangle.Intrusive.Sweep
import Wangle.Codec.ByteToMessageDecoder
import Wangle.Codec.LineBasedFrameDecoder
import Wangle.Codec.LengthFieldBasedFrameDecoder
import Wangle.Codec.LengthFieldPrepender
import Wangle.Acceptor.ConnectionManager
import Wangle.Spec.Lines
import Wangle.Spec.Roster
import Wangle.Proof.Codec.Reading
import Wangle.Proof.Codec.LineTerminators
import Wangle.Proof.Codec.LineLimit
import Wangle.Proof.Codec.FrameLength
import Wangle.Proof.Codec.Frames
import Wangle.Proof.Codec.FrameBoundary
import Wangle.Proof.Codec.FrameChunking
import Wangle.Proof.Codec.Layouts
import Wangle.Proof.Acceptor.Effects
import Wangle.Proof.Acceptor.DrainTurn
import Wangle.Proof.Acceptor.Steps
import Wangle.Proof.Acceptor.DrainCheck
import Wangle.Proof.Acceptor.IdlePartition
import Wangle.Proof.Acceptor.IdleShedding
import Wangle.Proof.Acceptor.Traces
import Wangle.Proof.Acceptor.Notifications
import Wangle.Proof.Acceptor.Progress
import Wangle.Proof.Acceptor.GracefulShutdown
import Wangle.Proof.Acceptor.PartialDrain
import Wangle.Proof.Acceptor.DrainPass
import Wangle.Proof.Acceptor.PartialOperations
import Wangle.Proof.Service.ServerDispatcher
import Wangle.Service.ClientDispatcher
import Wangle.Service.ServerDispatcher
import Wangle.Proof.Service.ClientDispatcher
import Wangle.Proof.Acceptor.HandshakeStack
import Wangle.Proof.Acceptor.Peeking
import Wangle.Proof.Acceptor.Observer
import Wangle.Proof.Acceptor.Draining
import Wangle.Proof.Acceptor.HandshakeManager
import Wangle.Service.ExpiringFilter
import Wangle.Proof.Service.SerialDispatcher
import Wangle.Proof.Service.ExpiringFilter
import Wangle.Linked.Chain
import Wangle.Linked.Order
import Wangle.Channel.Pipeline
import Wangle.Proof.Channel.Structure
import Wangle.Proof.Channel.Attachment
import Wangle.Recency.CacheMap
import Wangle.Client.LRUInMemoryCache
import Wangle.Client.LRUPersistentCache
import Wangle.Proof.Client.RoundTrip
import Wangle.Proof.Client.Sync
import Wangle.Proof.Client.GivingUp
import Wangle.Keyed.Insertions
import Wangle.Numeral.Hex
import Wangle.Ssl.TLSTicketKeySeeds
import Wangle.Ssl.TLSTicketKeyManager
import Wangle.Spec.SeedRing
import Wangle.Proof.Ssl.TicketKeys
import Wangle.Proof.Ssl.Rotation
import Wangle.Proof.Ssl.CurrentSeeds
import Wangle.Proof.Ssl.Reapply
import Wangle.Spec.HostNames
import Wangle.Ssl.SSLContextSelectionMisc
import Wangle.Ssl.SSLContextManager
import Wangle.Proof.Ssl.NameMap
import Wangle.Proof.Ssl.Selection
import Wangle.Proof.Ssl.ContextConfigs
import Wangle.Proof.Ssl.FailedReloads
import Wangle.Recency.CullingMap
import Wangle.Ssl.SSLSessionCacheManager
import Wangle.Proof.Ssl.SessionSteps
import Wangle.Proof.Ssl.References
import Wangle.Proof.Ssl.PendingLookups
import Wangle.Util.FilePoller
import Wangle.Util.MultiFilePoller
import Wangle.Proof.Util.PollerSteps
import Wangle.Proof.Util.Registry
import Wangle.Proof.Util.Delivery
import Wangle.Proof.Util.Changes
import Wangle.Channel.BroadcastHandler
import Wangle.Proof.Channel.Subscriptions
import Wangle.Bootstrap.ServerWorkerPool
import Wangle.Bootstrap.AcceptRoutingHandler
import Wangle.Proof.Bootstrap.WorkerMap
import Wangle.Proof.Bootstrap.AcceptCallbacks
import Wangle.Proof.Bootstrap.HandOver
import Wangle.Bootstrap.RoutingServer
import Wangle.Proof.Bootstrap.Affinity
import Wangle.Proxy.ProviderAgent
import Wangle.Proof.Proxy.Forwarding
import Wangle.Proof.Proxy.HalfDead
import Wangle.Channel.ObservingHandler
import Wangle.Proof.Channel.Observers
import Wangle.Channel.BroadcastPool
import Wangle.Proof.Channel.PoolLifecycle
import Wangle.Proof.Channel.PoolManagers
import Wangle.Channel.FileRegion
import Wangle.Proof.Channel.FileTransfer
import Wangle.Channel.OutputBufferingHandler
import Wangle.Proof.Channel.Batching
import Wangle.Rx.Observable
import Wangle.Proof.Rx.Rounds
import Wangle.Delimited.Cuts
import Wangle.Proxy.Utility
import Wangle.Proof.Proxy.StringSplit
import Wangle.Client.Destruction
import Wangle.Proof.Client.DamagedLoad
import Wangle.Proof.Client.Shutdown
import Wangle.Proof.Channel.ShortFile
import Wangle.Proof.Ssl.ShardedCache
import Wangle.Ssl.TLSCredProcessor
import Wangle.Proof.Ssl.CredentialFiles
import Wangle.Channel.AsyncSocketHandler
import Wangle.Proof.Channel.ActivityPairs
import Wangle.Client.FilePersistentCache
import Wangle.Proof.Client.CrashRecovery
import Wangle.Client.SSLSessionPersistentCache
import Wangle.Proof.Client.SessionCache
