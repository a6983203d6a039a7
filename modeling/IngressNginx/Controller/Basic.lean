import IngressNginx.Types

/-!
# The controller and its store

`NGINXController` with the parts of its flags (`n.cfg`) and of its store (`store.Storer`)
that the configuration builder reads, and the helpers of `controller.go`, `util.go` and
`endpoints.go` that `getBackendServers` calls: naming of upstreams, the endpoints of a
service port, the default upstream, and the copy of an ingress's annotations into a
location.

The functions of Go's standard library and of third-party packages that these helpers call
(IP parsing, DNS name validation, x509 hostname checks) are the fields of `Externals`.
-/

namespace IngressNginx

namespace Defaults

/-- `defaults.Backend`: the proxy settings of the global configuration that a default
location starts from. -/
structure Backend where
  proxyBodySize : String
  proxyConnectTimeout : Int
  proxySendTimeout : Int
  proxyReadTimeout : Int
  proxyBuffersNumber : Int
  proxyBufferSize : String
  proxyCookieDomain : String
  proxyCookiePath : String
  proxyNextUpstream : String
  proxyNextUpstreamTimeout : Int
  proxyNextUpstreamTries : Int
  proxyRequestBuffering : String
  proxyRedirectFrom : String
  proxyBuffering : String
  proxyHTTPVersion : String
  proxyMaxTempFileSize : String
deriving DecidableEq, Inhabited

end Defaults

/-- `ngx_config.Configuration`, as the configuration builder reads it. -/
structure BackendConfiguration where
  backend : Defaults.Backend
  loadBalancing : String
  proxySSLLocationOnly : Bool
  enableAccessLogForDefaultBackend : Bool
  checksum : String
deriving DecidableEq, Inhabited

/-- The controller's store: the informers' services and endpoints, the local store of
certificates, and the global configuration, each read by `namespace/name` key. -/
structure Store where
  services : Go.Map String Core.Service
  endpoints : Go.Map String Core.Endpoints
  sslCerts : Go.Map String SSLCert
  backendConfig : BackendConfiguration
deriving Inhabited

/-- `store.GetService`; `none` is the not-found error. -/
def Store.getService (s : Store) (key : String) : Option Core.Service := s.services.lookup key

/-- `store.GetServiceEndpoints`. -/
def Store.getServiceEndpoints (s : Store) (key : String) : Option Core.Endpoints :=
  s.endpoints.lookup key

/-- `store.GetLocalSSLCert`. -/
def Store.getLocalSSLCert (s : Store) (key : String) : Option SSLCert := s.sslCerts.lookup key

/-- The controller's flags (`controller.Configuration`) that the builder reads. -/
structure Config where
  defaultService : String
  disableServiceExternalName : Bool
  defaultSSLCertificate : String
  fakeCertificate : Option SSLCert
  listenPortsDefault : Int
deriving Inhabited

/-- Library functions called by the controller: `net.ParseIP` followed by `IsLoopback`
(`none` when the text is no IP address), `validation.IsDNS1123Subdomain`, and the hostname
checks of an x509 certificate (`Certificate.VerifyHostname`, then `verifyHostname`). -/
structure Externals where
  parseIPIsLoopback : String → Option Bool
  isDNS1123Subdomain : String → Bool
  verifyHostname : X509Certificate → String → Bool

/-- `NGINXController`: flags, store and the library functions it calls. -/
structure NGINXController where
  cfg : Config
  store : Store
  ext : Externals

/-! ### Names -/

/-- `defUpstreamName`. -/
def defUpstreamName : String := "upstream-default-backend"

/-- `defServerName`, the catch-all server. -/
def defServerName : String := "_"

/-- `rootLocation`. -/
def rootLocation : String := "/"

/-- `upstreamName`: `namespace-service-port`. -/
def upstreamName (ns service : String) (port : IntOrString) : String :=
  ns ++ "-" ++ service ++ "-" ++ port.toString

/-- `newUpstream`: an upstream without servers, with an empty non-`nil` endpoint slice, an
empty service and an empty map of cookie locations. -/
def newUpstream (name : String) : Backend :=
  { (default : Backend) with
    name := name
    endpoints := some []
    service := some default
    sessionAffinity :=
      { (default : SessionAffinityConfig) with
        cookieSessionAffinity :=
          { (default : CookieSessionAffinity) with locations := some ∅ } } }

/-! ### Endpoints -/

/-- `IntOrString.IntValue()`: a named port that is no number reads as `0`. -/
def IntOrString.intValue : IntOrString → Int
  | .int v => v
  | .str v => (Go.atoi v).getD 0

/-- `n.DefaultEndpoint()`: the controller's own default server. -/
def NGINXController.defaultEndpoint (n : NGINXController) : Endpoint :=
  { address := "127.0.0.1", port := toString n.cfg.listenPortsDefault, target := some default }

/-- The loop of `getEndpoints` over the subsets of an `Endpoints` object: every address of
every port of protocol `proto` and matching name, each `host:port` at most once. -/
def collectEndpoints (port : Core.ServicePort) (proto : String)
    (subsets : List Core.EndpointSubset) : List Endpoint :=
  let step (st : List Endpoint × List String) (ss : Core.EndpointSubset) :=
    ss.ports.foldl (fun st epPort =>
      let targetPort : Int :=
        if port.name = "" then epPort.port else if port.name = epPort.name then epPort.port else 0
      if epPort.protocol ≠ proto ∨ targetPort ≤ 0 then st
      else
        ss.addresses.foldl (fun (ups, processed) epAddress =>
          let ep := Go.joinHostPort epAddress.ip (toString targetPort)
          if ep ∈ processed then (ups, processed)
          else (ups ++ [⟨epAddress.ip, toString targetPort, epAddress.targetRef⟩],
            processed ++ [ep])) st) st
  (subsets.foldl step ([], [])).1

/-- `getEndpoints`: the endpoints of a service port. An `ExternalName` service is its own
single endpoint unless its name is a loopback address or no valid DNS name. -/
def getEndpoints (ext : Externals) (s : Core.Service) (port : Core.ServicePort) (proto : String)
    (getServiceEndpoints : String → Option Core.Endpoints) : List Endpoint :=
  if s.type = Core.serviceTypeExternalName then
    if s.externalName = "localhost" ∨ ext.parseIPIsLoopback s.externalName = some true then []
    else if ext.parseIPIsLoopback s.externalName = none ∧
        !ext.isDNS1123Subdomain (Go.trimSuffix s.externalName ".") then []
    else [⟨s.externalName, toString port.targetPort.intValue, none⟩]
  else
    match getServiceEndpoints (metaNamespaceKey s.ns s.name) with
    | none => []
    | some ep => collectEndpoints port proto ep.subsets

/-- `getDefaultUpstream`; `none` is the panic of `&svc.Spec.Ports[0]` on a default service
without ports. -/
def NGINXController.getDefaultUpstream (n : NGINXController) : Option Backend :=
  let upstream : Backend := { (default : Backend) with name := defUpstreamName }
  let svcKey := n.cfg.defaultService
  if svcKey = "" then
    some { upstream with endpoints := Go.append upstream.endpoints [n.defaultEndpoint] }
  else
    match n.store.getService svcKey with
    | none => some { upstream with endpoints := Go.append upstream.endpoints [n.defaultEndpoint] }
    | some svc =>
      match svc.ports with
      | [] => none
      | port :: _ =>
        let endps := getEndpoints n.ext svc port Core.protocolTCP n.store.getServiceEndpoints
        let endps := if endps.isEmpty then [n.defaultEndpoint] else endps
        some { upstream with service := some svc, endpoints := Go.append upstream.endpoints endps }

/-- `externalNamePorts`: the port of an `ExternalName` service that a backend port names,
by number or by name, or a bare TCP port of that number. -/
def externalNamePorts (name : String) (svc : Core.Service) : Core.ServicePort :=
  let byName : Option Core.ServicePort :=
    match Go.atoi name with
    | some _ => none
    | none =>
      (svc.ports.find? (·.name = name)).map fun svcPort =>
        let tp := if svcPort.targetPort.intValue = 0 then .int svcPort.port else svcPort.targetPort
        { name := "", protocol := "TCP", port := svcPort.port, targetPort := tp }
  let port := (Go.atoi name).getD 0
  match byName with
  | some p => p
  | none =>
    match svc.ports.find? (·.port = port) with
    | some svcPort =>
      { name := "", protocol := "TCP", port := svcPort.port, targetPort := svcPort.targetPort }
    | none => { name := "", protocol := "TCP", port := port, targetPort := .int port }

/-- `n.serviceEndpoints(svcKey, backendPort)`: the endpoints of the service port that
`backendPort` names by number, target port or name; `.error` when the service is missing. -/
def NGINXController.serviceEndpoints (n : NGINXController) (svcKey backendPort : String) :
    Except String (Go.Slice Endpoint) :=
  match n.store.getService svcKey with
  | none => .error ("service " ++ svcKey ++ " not found")
  | some svc =>
    if svc.type = Core.serviceTypeExternalName then
      if n.cfg.disableServiceExternalName then .ok none
      else
        let endps := getEndpoints n.ext svc (externalNamePorts backendPort svc) Core.protocolTCP
          n.store.getServiceEndpoints
        .ok (Go.append none endps)
    else
      match svc.ports.find? (fun sp => toString sp.port = backendPort ∨
          sp.targetPort.toString = backendPort ∨ sp.name = backendPort) with
      | none => .ok none
      | some servicePort =>
        .ok (Go.append none
          (getEndpoints n.ext svc servicePort Core.protocolTCP n.store.getServiceEndpoints))

/-- `n.getServiceClusterEndpoint(svcKey, backend)`: the service's ClusterIP as its single
endpoint, the port looked up by name when the backend names it. -/
def NGINXController.getServiceClusterEndpoint (n : NGINXController) (svcKey : String)
    (backend : Networking.IngressBackend) : Except String Endpoint :=
  match n.store.getService svcKey with
  | none => .error ("service " ++ svcKey ++ " does not exist")
  | some svc =>
    if svc.clusterIP = "" ∨ svc.clusterIP = "None" then
      .error ("no ClusterIP found for Service " ++ svcKey)
    else
      match backend.servicePort with
      | .str portName =>
        match svc.ports.find? (·.name = portName) with
        | none => .error ("service " ++ svc.name ++ " does not have a port named " ++ portName)
        | some svcPort => .ok ⟨svc.clusterIP, toString svcPort.port, none⟩
      | .int _ => .ok ⟨svc.clusterIP, backend.servicePort.toString, none⟩

/-- `n.getDefaultSSLCertificate()`: the custom default certificate when it is in the local
store, else the generated one. -/
def NGINXController.getDefaultSSLCertificate (n : NGINXController) : Option SSLCert :=
  if n.cfg.defaultSSLCertificate ≠ "" then
    match n.store.getLocalSSLCert n.cfg.defaultSSLCertificate with
    | some cert => some cert
    | none => n.cfg.fakeCertificate
  else n.cfg.fakeCertificate

/-! ### Locations -/

/-- `locationApplyAnnotations`: copy an ingress's annotations into a location, which then
uses the default upstream for its custom errors. -/
def locationApplyAnnotations (loc : Location) (anns : Annotations.Ingress) : Location :=
  { loc with
    basicDigestAuth := anns.basicDigestAuth
    clientBodyBufferSize := anns.clientBodyBufferSize
    configurationSnippet := anns.configurationSnippet
    corsConfig := anns.corsConfig
    externalAuth := anns.externalAuth
    enableGlobalAuth := anns.enableGlobalAuth
    http2PushPreload := anns.http2PushPreload
    opentracing := anns.opentracing
    proxy := anns.proxy
    proxySSL := anns.proxySSL
    rateLimit := anns.rateLimit
    globalRateLimit := anns.globalRateLimit
    redirect := anns.redirect
    rewrite := anns.rewrite
    upstreamVhost := anns.upstreamVhost
    whitelist := anns.whitelist
    denied := anns.denied
    xForwardedPrefix := anns.xForwardedPrefix
    usePortInRedirects := anns.usePortInRedirects
    connection := anns.connection
    logs := anns.logs
    influxDB := anns.influxDB
    defaultBackend := anns.defaultBackend
    backendProtocol := anns.backendProtocol
    fastCGI := anns.fastCGI
    customHTTPErrors := anns.customHTTPErrors
    modSecurity := anns.modSecurity
    satisfy := anns.satisfy
    mirror := anns.mirror
    defaultBackendUpstreamName := defUpstreamName }

@[simp] lemma locationApplyAnnotations_path (loc : Location) (anns : Annotations.Ingress) :
    (locationApplyAnnotations loc anns).path = loc.path := rfl

@[simp] lemma locationApplyAnnotations_pathType (loc : Location) (anns : Annotations.Ingress) :
    (locationApplyAnnotations loc anns).pathType = loc.pathType := rfl

/-- `shouldCreateUpstreamForLocationDefaultBackend`: a location of `upstream` with a custom
default backend needs its own upstream when `upstream` has no endpoints or the location
has custom errors. -/
def shouldCreateUpstreamForLocationDefaultBackend (upstream : Backend) (location : Location) :
    Bool :=
  upstream.name == location.backend &&
    (upstream.endpoints.elems.isEmpty || !location.customHTTPErrors.elems.isEmpty) &&
    location.defaultBackend.isSome

end IngressNginx
