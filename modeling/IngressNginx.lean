import IngressNginx.Lib.Go
import IngressNginx.Lib.Matching
import IngressNginx.Lib.Transducer
import IngressNginx.Lib.Lines
import IngressNginx.Api
import IngressNginx.Sets
import IngressNginx.Annotations
import IngressNginx.Lib.Regex
import IngressNginx.Annotations.Parser
import IngressNginx.Annotations.Authtls
import IngressNginx.Annotations.Sessionaffinity
import IngressNginx.Annotations.Proxyssl
import IngressNginx.Annotations.Extract
import IngressNginx.Types
import IngressNginx.TypesEquals
import IngressNginx.Controller.Basic
import IngressNginx.Controller.Upstreams
import IngressNginx.Controller.Servers
import IngressNginx.Controller.BackendServers
import IngressNginx.Controller.ServerMap
import IngressNginx.Controller.Location
import IngressNginx.Controller.Admission
import IngressNginx.Admission.Review
import IngressNginx.Status
import IngressNginx.Controller.DefaultBackendOrder
import IngressNginx.Lib.Lua
import IngressNginx.Lib.LuaSyntax
import IngressNginx.Controller.Certificates
import IngressNginx.Lua.Certificate
import IngressNginx.Lua.LuaIngress
import IngressNginx.Lua.Dns
import IngressNginx.Lua.Balancer
import IngressNginx.Lua.Ewma
import IngressNginx.Lua.Sync
import IngressNginx.Lua.Sticky
import IngressNginx.Controller.ObjectRef
import IngressNginx.Controller.Store
import IngressNginx.Controller.IngressInformer
import IngressNginx.Template.Configmap
import IngressNginx.Template.CleanConf
import IngressNginx.Template.LuaTable
import IngressNginx.Annotations.Upstreamhashby
import IngressNginx.Lib.Chunks
import IngressNginx.Lua.Chashsubset
import IngressNginx.Lib.WorkQueue
import IngressNginx.Task.Queue
import IngressNginx.Lib.Bits
import IngressNginx.Controller.Nginx
import IngressNginx.Lib.LuaPattern
import IngressNginx.Lua.Split
import IngressNginx.Lua.Util
import IngressNginx.Lua.Monitor
import IngressNginx.Lua.Nodemap
import IngressNginx.Lib.Submatch
import IngressNginx.Metric.NginxStatus
import IngressNginx.Lib.Random
import IngressNginx.Lua.Routing
import IngressNginx.Lua.EwmaStats
import IngressNginx.Lua.Configuration
import IngressNginx.Lua.TcpUdp
import IngressNginx.Controller.Dynamic
import IngressNginx.Controller.SyncCertificates
