import IngressNginx.Annotations

/-!
# The controller's configuration types

`internal/ingress/types.go` and `sslcert.go`: the upstreams (`Backend`), virtual servers
(`Server`) and their `Location`s that the controller computes from the ingresses, and the
`Configuration` it hands to nginx.

The source links these by pointers (`[]*Server`, `[]*Location`, `*Backend` in maps). No two
of them ever share an object, so each is a value here and an update through a pointer is a
functional update of the value it points to. The pointers that the source compares by
identity (`Location.Denied`) are `Go.Ptr`s.
-/

namespace IngressNginx

/-- The x509 certificate of an `SSLCert`, as the hostname checks of `createServers` use it. -/
structure X509Certificate where
  dnsNames : List String
  commonName : String
deriving DecidableEq, Inhabited

/-- `ingress.SSLCert`: a certificate read from a secret; `expireTime` is a time instant. -/
structure SSLCert where
  name : String
  ns : String
  certificate : Option X509Certificate
  caFileName : String
  caSHA : String
  crlFileName : String
  crlSHA : String
  pemFileName : String
  pemSHA : String
  cn : Go.Slice String
  expireTime : Int
  pemCertKey : String
  uid : String
deriving DecidableEq, Inhabited

/-- `ingress.Ingress`: an ingress with the annotations `Extract` parsed from it. -/
structure Ingress where
  ingress : Networking.Ingress
  parsedAnnotations : Annotations.Ingress
deriving DecidableEq, Inhabited

/-- `ingress.Endpoint`: one address of an upstream. -/
structure Endpoint where
  address : String
  port : String
  target : Option Core.ObjectReference
deriving DecidableEq, Inhabited

/-- `ingress.TrafficShapingPolicy` of a canary upstream. -/
structure TrafficShapingPolicy where
  weight : Int
  header : String
  headerValue : String
  headerPattern : String
  cookie : String
deriving DecidableEq, Inhabited

/-- `ingress.CookieSessionAffinity`; `locations` is a map that may be `nil`. -/
structure CookieSessionAffinity where
  name : String
  expires : String
  maxAge : String
  locations : Option (Go.Map String (List String))
  path : String
  sameSite : String
  conditionalSameSiteNone : Bool
  changeOnFailure : Bool
deriving DecidableEq, Inhabited

/-- `ingress.SessionAffinityConfig`. -/
structure SessionAffinityConfig where
  affinityType : String
  affinityMode : String
  cookieSessionAffinity : CookieSessionAffinity
deriving DecidableEq, Inhabited

/-- `ingress.UpstreamHashByConfig`. -/
structure UpstreamHashByConfig where
  upstreamHashBy : String
  upstreamHashBySubset : Bool
  upstreamHashBySubsetSize : Int
deriving DecidableEq, Inhabited

/-- `ingress.Backend`: an upstream, named after the namespace, service and port it serves. -/
structure Backend where
  name : String
  service : Option Core.Service
  port : IntOrString
  sslPassthrough : Bool
  endpoints : Go.Slice Endpoint
  sessionAffinity : SessionAffinityConfig
  upstreamHashBy : UpstreamHashByConfig
  loadBalancing : String
  noServer : Bool
  trafficShapingPolicy : TrafficShapingPolicy
  alternativeBackends : Go.Slice String
deriving DecidableEq, Inhabited

/-- `ingress.Location`: a path of a server and the upstream and settings that serve it. -/
structure Location where
  path : String
  pathType : Option Networking.PathType
  isDefBackend : Bool
  ingress : Option Ingress
  ingressPath : String
  backend : String
  service : Option Core.Service
  port : IntOrString
  upstreamVhost : String
  basicDigestAuth : Auth.Config
  denied : Option (Go.Ptr String)
  corsConfig : Cors.Config
  externalAuth : Authreq.Config
  enableGlobalAuth : Bool
  http2PushPreload : Bool
  rateLimit : Ratelimit.Config
  globalRateLimit : Globalratelimit.Config
  redirect : Redirect.Config
  rewrite : Rewrite.Config
  whitelist : Ipwhitelist.SourceRange
  proxy : Proxy.Config
  proxySSL : Proxyssl.Config
  usePortInRedirects : Bool
  configurationSnippet : String
  connection : Connection.Config
  clientBodyBufferSize : String
  defaultBackend : Option Core.Service
  defaultBackendUpstreamName : String
  xForwardedPrefix : String
  logs : Log.Config
  influxDB : Influxdb.Config
  backendProtocol : String
  fastCGI : Fastcgi.Config
  customHTTPErrors : Go.Slice Int
  modSecurity : Modsecurity.Config
  satisfy : String
  mirror : Mirror.Config
  opentracing : Opentracing.Config
deriving DecidableEq, Inhabited

/-- `ingress.Server`: a virtual host and its locations. -/
structure Server where
  hostname : String
  sslPassthrough : Bool
  sslCert : Option SSLCert
  locations : List Location
  aliases : List String
  redirectFromToWWW : Bool
  certificateAuth : Authtls.Config
  proxySSL : Proxyssl.Config
  serverSnippet : String
  sslCiphers : String
  sslPreferServerCiphers : String
  authTLSError : String
deriving DecidableEq, Inhabited

/-- `ingress.SSLPassthroughBackend`. -/
structure SSLPassthroughBackend where
  service : Option Core.Service
  port : IntOrString
  backend : String
  hostname : String
deriving DecidableEq, Inhabited

/-- `ingress.ProxyProtocol`. -/
structure ProxyProtocol where
  decode : Bool
  encode : Bool
deriving DecidableEq, Inhabited

/-- `ingress.L4Backend`. -/
structure L4Backend where
  port : IntOrString
  name : String
  ns : String
  protocol : String
  proxyProtocol : ProxyProtocol
deriving DecidableEq, Inhabited

/-- `ingress.L4Service`: a TCP or UDP stream service. -/
structure L4Service where
  port : Int
  backend : L4Backend
  endpoints : Go.Slice Endpoint
  service : Option Core.Service
deriving DecidableEq, Inhabited

/-- `ingress.Configuration`: everything nginx is configured from. -/
structure Configuration where
  backends : Go.Slice Backend
  servers : List Server
  tcpEndpoints : Go.Slice L4Service
  udpEndpoints : Go.Slice L4Service
  passthroughBackends : List SSLPassthroughBackend
  backendConfigChecksum : String
  configurationChecksum : String
  defaultSSLCertificate : Option SSLCert
deriving DecidableEq, Inhabited

end IngressNginx
