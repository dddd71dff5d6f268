import ZeroDpi.Interceptor
import ZeroDpi.Flow
import ZeroDpi.Config.Validate
import ZeroDpi.Methods.Basic
import ZeroDpi.Methods.Sni
import ZeroDpi.Methods.Handshake
import ZeroDpi.Methods.Data
import ZeroDpi.Methods.Composite
import ZeroDpi.Handler
import ZeroDpi.Lib.Run
import ZeroDpi.Lib.Table
import ZeroDpi.Lib.Json
import ZeroDpi.Lib.Checksum
import ZeroDpi.Lib.SeqSpace
import ZeroDpi.Platform.Fragment
import ZeroDpi.Platform.Segment
import ZeroDpi.Platform.Headers
import ZeroDpi.Platform.Codec
import ZeroDpi.Platform.Linux
import ZeroDpi.Platform.Windows
import ZeroDpi.Platform.Receiver
import ZeroDpi.Platform.Capture
import ZeroDpi.Helper.Protocol
import ZeroDpi.Helper.Codec
import ZeroDpi.Helper.Session
import ZeroDpi.Helper.Client
import ZeroDpi.Helper.Recovery
import ZeroDpi.Proofs.Packet
import ZeroDpi.Proofs.Emission
import ZeroDpi.Proofs.Steps
import ZeroDpi.Proofs.Config
import ZeroDpi.Proofs.Methods
import ZeroDpi.Proofs.Build
import ZeroDpi.Proofs.Sequence
import ZeroDpi.Proofs.Outcome
import ZeroDpi.Proofs.Composed
import ZeroDpi.Proofs.FirstDataAck
import ZeroDpi.Proofs.HandshakeStage
import ZeroDpi.Proofs.DataStage
import ZeroDpi.Methods.Socket
import ZeroDpi.Proxy
import ZeroDpi.Proofs.Socket
import ZeroDpi.Proofs.FirstWrite
import ZeroDpi.Proofs.Recovery
import ZeroDpi.Proofs.SequenceSpace
import ZeroDpi.Runtime.Coordinator
import ZeroDpi.Runtime.LocalPlane
import ZeroDpi.Proofs.Coordinator
import ZeroDpi.Proofs.LocalPlane
import ZeroDpi.Proofs.Session
import ZeroDpi.Proofs.Client
import ZeroDpi.Proofs.FrameSize
import ZeroDpi.Proofs.Framing
import ZeroDpi.Proofs.Wire
import ZeroDpi.Proofs.DataRequests
import ZeroDpi.Proofs.WireMethod
import ZeroDpi.Helper.Exchange
import ZeroDpi.Proofs.Exchange
import ZeroDpi.Proofs.Uninterrupted
import ZeroDpi.Helper.Controller
import ZeroDpi.Proofs.Controller
import ZeroDpi.Helper.Progress
import ZeroDpi.Proofs.Progress
import ZeroDpi.Lib.Reads
import ZeroDpi.Connection
import ZeroDpi.Proofs.Connection
import ZeroDpi.Proofs.StreamIntegrity
import ZeroDpi.Proofs.PathsAlike
import ZeroDpi.Proofs.Transcript
import ZeroDpi.Proofs.Capture
import ZeroDpi.Proofs.Feedback
import ZeroDpi.Proofs.RecoveryCalls
import ZeroDpi.Runtime.Netmon
import ZeroDpi.Lib.Task
import ZeroDpi.ConnectionTask
import ZeroDpi.Proofs.ConnectionEvents
import ZeroDpi.Proofs.FlowRelease
import ZeroDpi.Runtime.Reload
import ZeroDpi.Proofs.Reload
import ZeroDpi.Proofs.Netmon
import ZeroDpi.Runtime.LowTtl
import ZeroDpi.Proofs.LowTtl
import ZeroDpi.FlowReset
import ZeroDpi.Proofs.FlowReset
import ZeroDpi.Lib.Choice
import ZeroDpi.TargetPool
import ZeroDpi.IpScanner
import ZeroDpi.Runtime.HotSwap
import ZeroDpi.Proofs.HotSwap
import ZeroDpi.Proofs.StageOrder
import ZeroDpi.Proofs.Backends
import ZeroDpi.Proofs.TargetPool
import ZeroDpi.Proofs.Selection
import ZeroDpi.Proofs.IpScanner
import ZeroDpi.RelayEvents
import ZeroDpi.Proofs.RelayEvents
import ZeroDpi.TlsTemplate
import ZeroDpi.SniScanner
import ZeroDpi.Runtime.SniTargets
import ZeroDpi.Proofs.SniScanner
import ZeroDpi.Proofs.SniTargets
import ZeroDpi.PingMonitor
import ZeroDpi.Proofs.PingMonitor
import ZeroDpi.Lib.Throwing
import ZeroDpi.Lib.Kotlin
import ZeroDpi.Android.Profile
import ZeroDpi.Android.Files
import ZeroDpi.Android.ProfileRepository
import ZeroDpi.Android.ProfileUpdate
import ZeroDpi.Proofs.Storage
import ZeroDpi.Proofs.ProfileStore
import ZeroDpi.Proofs.ProfileUpdate
import ZeroDpi.IpList
import ZeroDpi.Android.ListValidator
import ZeroDpi.Proofs.InetAddress
import ZeroDpi.Proofs.ListValidator
import ZeroDpi.Lib.JsonText
import ZeroDpi.Runtime.Events
import ZeroDpi.Android.RunnerEvent
import ZeroDpi.Proofs.EventLines
import ZeroDpi.Lib.Threads
import ZeroDpi.Android.ProcessRunner
import ZeroDpi.Proofs.ProcessRunner
import ZeroDpi.Android.Service
import ZeroDpi.Proofs.ServiceStop
import ZeroDpi.Lib.Vectors
import ZeroDpi.ClientHello
import ZeroDpi.Proofs.TlsTemplate
import ZeroDpi.Proofs.SniBoundary
import ZeroDpi.Proofs.TlsPadding
import ZeroDpi.Proofs.Fragmentation
import ZeroDpi.Lib.TcpReceiver
import ZeroDpi.Proofs.Segmentation
import ZeroDpi.Proofs.WrongChecksum
import ZeroDpi.Proofs.RejectedFakes
import ZeroDpi.Proofs.BuildPanics
import ZeroDpi.Proofs.AutoUpdate
import ZeroDpi.RecordLayer
import ZeroDpi.Proofs.RecordFrag
import ZeroDpi.Proofs.RecordSplit
import ZeroDpi.Proofs.MixedCase
import ZeroDpi.Proofs.UrgByte
import ZeroDpi.Lib.TcpOptions
import ZeroDpi.Proofs.Timestamp
import ZeroDpi.Proofs.Md5Option
import ZeroDpi.Proofs.Rebuild
import ZeroDpi.Proofs.StagedFake
import ZeroDpi.Proofs.LaterPackets
import ZeroDpi.LowTtlDiscover
import ZeroDpi.Proofs.LowTtlDiscover
import ZeroDpi.IpText
import ZeroDpi.Proofs.IpText
import ZeroDpi.Proofs.ScanList
import ZeroDpi.Lib.Quoting
import ZeroDpi.Lib.KotlinDouble
import ZeroDpi.Android.TomlText
import ZeroDpi.Android.ConfigSchema
import ZeroDpi.Android.ConfigToml
import ZeroDpi.Android.ConfigAnalysis
import ZeroDpi.Proofs.TomlText
import ZeroDpi.Proofs.ConfigAnalysis
import ZeroDpi.Proofs.ConfigLiteral
import ZeroDpi.Proofs.ConfigEditor
import ZeroDpi.Proofs.ConfigTotal
import ZeroDpi.Proofs.ProfileClock
import ZeroDpi.Proofs.RemoteUpdate
import ZeroDpi.Proofs.Checksum
import ZeroDpi.Proofs.RandomIndex
import ZeroDpi.Proofs.MethodScan
import ZeroDpi.Proofs.ProxyUrl
import ZeroDpi.Proofs.HttpProbe
import ZeroDpi.Proofs.SupportBundle
