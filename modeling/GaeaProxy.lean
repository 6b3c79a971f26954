import GaeaProxy.Server.Namespace
import GaeaProxy.Server.UserManager
import GaeaProxy.Server.Manager
import GaeaProxy.Server.ReloadProtocol
import GaeaProxy.Server.Handshake
import GaeaProxy.Server.CloseSafety
import GaeaProxy.Server.UserRepresentation
import GaeaProxy.Server.Session
import GaeaProxy.Server.SessionWindow
import GaeaProxy.Server.Admission
import GaeaProxy.Server.LoadNamespaces
import GaeaProxy.Server.LoadResult
import GaeaProxy.Util.BucketPool
import GaeaProxy.Util.BucketIndex
import GaeaProxy.Util.BucketPoolRun
import GaeaProxy.Util.BucketNew
import GaeaProxy.Server.Executor
import GaeaProxy.Server.SetVariable
import GaeaProxy.Server.PreparedStmt
import GaeaProxy.Server.MultiStmts
import GaeaProxy.Server.ReadPacket
import GaeaProxy.Server.FieldList
import GaeaProxy.Server.Statistics
import GaeaProxy.Server.SQLTiming
import GaeaProxy.Log.Clean
import GaeaProxy.Log.Spliter
import GaeaProxy.Log.Init
import GaeaProxy.Strings
import GaeaProxy.Server.MyCatHint
