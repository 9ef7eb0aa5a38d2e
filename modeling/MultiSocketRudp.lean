import MultiSocketRudp.Lib.TransitionSystem
import MultiSocketRudp.Lib.SerialNumber
import MultiSocketRudp.Lib.Aead
import MultiSocketRudp.Lib.WriteBuffer
import MultiSocketRudp.Lib.ExclusiveOwnership
import MultiSocketRudp.Lib.Tally
import MultiSocketRudp.Protocol
import MultiSocketRudp.Common.PacketCrypto
import MultiSocketRudp.Common.PacketAuthenticity
import MultiSocketRudp.Server.SendStream
import MultiSocketRudp.Common.FlowController
import MultiSocketRudp.Server.KarnsRule
import MultiSocketRudp.Server.Ticker
import MultiSocketRudp.Server.RttSampling
import MultiSocketRudp.Server.SendFlow
import MultiSocketRudp.Server.PacketLayout
import MultiSocketRudp.Server.PendingQueue
import MultiSocketRudp.Common.ReceiveWindow
import MultiSocketRudp.Server.ReceivePath
import MultiSocketRudp.Client.SendPath
import MultiSocketRudp.Server.ReceiveInvariant
import MultiSocketRudp.Client.SendInvariant
import MultiSocketRudp.Connection
import MultiSocketRudp.Reliability
import MultiSocketRudp.Handshake
import MultiSocketRudp.Server.Retransmission
import MultiSocketRudp.Server.PacketFlow
import MultiSocketRudp.Server.PacketPlaces
import MultiSocketRudp.Server.CallSteps
import MultiSocketRudp.Server.SendPathSteps
import MultiSocketRudp.Server.RetransmissionSteps
import MultiSocketRudp.Server.StaysScheduled
import MultiSocketRudp.Server.Generations
import MultiSocketRudp.Server.GenerationInvariant
import MultiSocketRudp.Server.GenerationSteps
import MultiSocketRudp.Server.GenerationIsolation
import MultiSocketRudp.Server.SessionRelease
import MultiSocketRudp.Server.ReleaseAccounting
import MultiSocketRudp.Server.NothingForgotten
import MultiSocketRudp.Server.OperationCounts
import MultiSocketRudp.Server.DrainTest
import MultiSocketRudp.Server.ReleaseOrder
import MultiSocketRudp.Server.SessionPool
import MultiSocketRudp.Server.SessionBroker
import MultiSocketRudp.Server.ReceiveSlots
import MultiSocketRudp.Server.CompletionQueues
import MultiSocketRudp.Server.QueueCapacity
import MultiSocketRudp.Server.SessionManager
import MultiSocketRudp.Server.ReleaseReason
import MultiSocketRudp.Server.ConnectedUserCount
import MultiSocketRudp.Lib.ReferenceCounting
import MultiSocketRudp.Server.ReferenceCounts
import MultiSocketRudp.Server.ReferenceConservation
import MultiSocketRudp.Server.SendWakeups
import MultiSocketRudp.ServerToClient
import MultiSocketRudp.Client.PendingPackets
import MultiSocketRudp.Client.Lifecycle
import MultiSocketRudp.Client.Restart
import MultiSocketRudp.Common.PacketFrame
import MultiSocketRudp.Server.AdvertisedWindow
import MultiSocketRudp.Server.ReceiveLockstep
import MultiSocketRudp.Server.TruthfulWindow
import MultiSocketRudp.NonceDiscipline
import MultiSocketRudp.Common.PacketFraming
import MultiSocketRudp.BotTester.NetBuffer
import MultiSocketRudp.BotTester.PacketCodec
import MultiSocketRudp.CodecInteroperability
import MultiSocketRudp.Lib.Dictionary
import MultiSocketRudp.Server.SessionPacketOrderer
import MultiSocketRudp.BotTester.ReceivePacketOrderer
import MultiSocketRudp.BotTester.SessionLifecycle
import MultiSocketRudp.BotTester.OneWayLifecycle
import MultiSocketRudp.BotTester.BotTest
import MultiSocketRudp.BotTester.BotTestCompletion
import MultiSocketRudp.BotTester.DatagramFramer
import MultiSocketRudp.Client.RecvStream
import MultiSocketRudp.Client.ServerAliveChecker
import MultiSocketRudp.OrdererAgreement
import MultiSocketRudp.Server.DatagramSize
import MultiSocketRudp.Lib.Ring
import MultiSocketRudp.Common.WindowRefinement
import MultiSocketRudp.Server.OrdererRuns
import MultiSocketRudp.Server.CongestionWindow
import MultiSocketRudp.Server.ReservationTimeout
import MultiSocketRudp.Client.SessionInfo
import MultiSocketRudp.ReceivedBytes
import MultiSocketRudp.Common.TlsDecryption
import MultiSocketRudp.Common.TlsStream
import MultiSocketRudp.EncodingFailures
import MultiSocketRudp.Server.DeferredPacket
import MultiSocketRudp.Lib.CheckedArithmetic
import MultiSocketRudp.Server.RetransmissionTimeoutEstimator
import MultiSocketRudp.BotTester.GraphValidator
import MultiSocketRudp.BotTester.CycleVerdict
import MultiSocketRudp.BotTester.NodeConfigurations
import MultiSocketRudp.BotTester.ActionGraphBuilder
import MultiSocketRudp.BotTester.BuildActionGraph
import MultiSocketRudp.BotTester.ValidationCoverage
import MultiSocketRudp.BotTester.CountedLoop
import MultiSocketRudp.BotTester.NodeExecution
import MultiSocketRudp.BotTester.AssertNode
import MultiSocketRudp.BotTester.RetryNode
import MultiSocketRudp.BotTester.LoopNode
import MultiSocketRudp.Client.BufferReferences
import MultiSocketRudp.Client.BufferAccounting
import MultiSocketRudp.Client.BufferConservation
import MultiSocketRudp.Lib.BoundedQueue
import MultiSocketRudp.Lib.DataRefinement
import MultiSocketRudp.Common.RingBuffer
import MultiSocketRudp.Lib.ForkingCalls
import MultiSocketRudp.BotTester.ExecutionEnds
import MultiSocketRudp.Contents.Player
import MultiSocketRudp.Server.DisconnectSteps
import MultiSocketRudp.RequestResponse
import MultiSocketRudp.Contents.TestClient
import MultiSocketRudp.BotTester.RudpSession
import MultiSocketRudp.BotConnection
import MultiSocketRudp.BotTester.Transmissions
import MultiSocketRudp.ServerToBot
import MultiSocketRudp.Logger
import MultiSocketRudp.Lib.GraphSearch
import MultiSocketRudp.BotTester.GraphEditor
import MultiSocketRudp.BotTester.EditedGraphs
import MultiSocketRudp.BotTester.GraphFiles
import MultiSocketRudp.BotTester.EditorRuns
import MultiSocketRudp.BotTester.BuiltConnections
import MultiSocketRudp.BotTester.GraphBuilds
