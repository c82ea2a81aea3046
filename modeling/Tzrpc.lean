import Tzrpc.Activation
import Tzrpc.AsyncCallAnswers
import Tzrpc.AsyncCallReport
import Tzrpc.AsyncCallWorld
import Tzrpc.Buffer
import Tzrpc.BufferQueue
import Tzrpc.CallResults
import Tzrpc.ClientConnAsync
import Tzrpc.ClientConnAsyncLife
import Tzrpc.ClientConnAsyncSenders
import Tzrpc.ClientConnSync
import Tzrpc.ClientReceive
import Tzrpc.ConnWindDown
import Tzrpc.DispatcherRegistration
import Tzrpc.DispatcherReload
import Tzrpc.Executor
import Tzrpc.ExecutorAdjust
import Tzrpc.ExecutorAnswers
import Tzrpc.ExecutorDrains
import Tzrpc.Framing
import Tzrpc.HeaderCodec
import Tzrpc.ListUpdate
import Tzrpc.Machine
import Tzrpc.Message
import Tzrpc.NetConf
import Tzrpc.NetConn
import Tzrpc.NetServer
import Tzrpc.NetServerAdmission
import Tzrpc.NetServerRuntime
import Tzrpc.NetServerToken
import Tzrpc.NetServerWhiteList
import Tzrpc.Pipe
import Tzrpc.ReadDrain
import Tzrpc.ReceiveLength
import Tzrpc.ReceiveOverrun
import Tzrpc.RejectStatus
import Tzrpc.ReplyFrames
import Tzrpc.RpcClient
import Tzrpc.RpcClientAsyncCall
import Tzrpc.RpcClientAsyncConns
import Tzrpc.RpcClientDeadline
import Tzrpc.RpcClientImpl
import Tzrpc.RpcClientLeak
import Tzrpc.RpcClientLifetime
import Tzrpc.RpcClientReport
import Tzrpc.RpcClientTimeout
import Tzrpc.RpcClientTimer
import Tzrpc.RpcInstance
import Tzrpc.RpcMessage
import Tzrpc.RpcServiceBase
import Tzrpc.SendPipeline
import Tzrpc.SendWakeups
import Tzrpc.SentFrames
import Tzrpc.Server
import Tzrpc.ServerProgress
import Tzrpc.ServerReadChains
import Tzrpc.ServerReplies
import Tzrpc.ServerWindDown
import Tzrpc.SteadyTimer
import Tzrpc.SyncCallClient
import Tzrpc.SyncCallLink
import Tzrpc.SyncCallMatching
import Tzrpc.SyncCallOrder
import Tzrpc.SyncCallServer
import Tzrpc.SyncCallWorld
import Tzrpc.TcpConnAsync
import Tzrpc.TcpConnAsyncChain
import Tzrpc.TcpConnAsyncClosed
import Tzrpc.TcpConnAsyncFraming
import Tzrpc.TcpConnAsyncLife
import Tzrpc.TcpConnAsyncReads
import Tzrpc.TcpConnAsyncSenders
import Tzrpc.TcpConnAsyncTimeout
import Tzrpc.TcpConnAsyncUpdates
import Tzrpc.TcpConnAsyncUpdatesReads
import Tzrpc.TcpConnAsyncUpdatesRefinement
import Tzrpc.WireFormat
import Tzrpc.WordBytes
import Tzrpc.XtraTaskConf
import Tzrpc.ServedCalls
