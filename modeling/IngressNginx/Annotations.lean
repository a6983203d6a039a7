import IngressNginx.Api
import IngressNginx.Sets

/-!
# Parsed annotations

The configuration types of the annotation packages under `internal/ingress/annotations`,
each with the `Equal` method its package defines, and `annotations.Ingress`, the record
`Extract` fills from an ingress's annotations.

Every `Equal` of the source starts with `if a == b { return true }` and a `nil` check on its
two receivers. The receivers are always addresses of fields (`&l1.Rewrite`), never `nil`,
and two equal addresses hold the same value, which each comparison below relates to
itself; so a configuration is compared by value here. A field that a source `Equal` leaves
out is left out of its comparison here too.
-/

namespace IngressNginx

namespace Auth

/-- `auth.Config`: basic or digest authentication. -/
structure Config where
  type : String
  realm : String
  file : String
  secured : Bool
  fileSHA : String
  secret : String
  secretType : String
deriving DecidableEq, Inhabited

/-- `(*auth.Config).Equal`; `SecretType` is not compared. -/
def Config.equal (bd1 bd2 : Config) : Bool :=
  bd1.type == bd2.type && bd1.realm == bd2.realm && bd1.file == bd2.file &&
    bd1.secured == bd2.secured && bd1.fileSHA == bd2.fileSHA && bd1.secret == bd2.secret

@[simp] lemma Config.equal_refl (x : Config) : x.equal x = true := by
  simp [Config.equal]

end Auth

namespace Cors

/-- `cors.Config`. -/
structure Config where
  corsEnabled : Bool
  corsAllowOrigin : String
  corsAllowMethods : String
  corsAllowHeaders : String
  corsAllowCredentials : Bool
  corsExposeHeaders : String
  corsMaxAge : Int
deriving DecidableEq, Inhabited

/-- `(*cors.Config).Equal`. -/
def Config.equal (c1 c2 : Config) : Bool :=
  c1.corsMaxAge == c2.corsMaxAge && c1.corsExposeHeaders == c2.corsExposeHeaders &&
    c1.corsAllowCredentials == c2.corsAllowCredentials &&
    c1.corsAllowHeaders == c2.corsAllowHeaders && c1.corsAllowMethods == c2.corsAllowMethods &&
    c1.corsAllowOrigin == c2.corsAllowOrigin && c1.corsEnabled == c2.corsEnabled

@[simp] lemma Config.equal_refl (x : Config) : x.equal x = true := by
  simp [Config.equal]

end Cors

namespace Authreq

/-- `authreq.Config`: external authentication. -/
structure Config where
  url : String
  host : String
  signinURL : String
  signinURLRedirectParam : String
  method : String
  responseHeaders : Go.Slice String
  requestRedirect : String
  authSnippet : String
  authCacheKey : String
  authCacheDuration : Go.Slice String
  proxySetHeaders : Go.Map String String
deriving DecidableEq, Inhabited

/-- `(*authreq.Config).Equal`; `ProxySetHeaders` is not compared. -/
def Config.equal (e1 e2 : Config) : Bool :=
  e1.url == e2.url && e1.host == e2.host && e1.signinURL == e2.signinURL &&
    e1.signinURLRedirectParam == e2.signinURLRedirectParam && e1.method == e2.method &&
    Sets.stringElementsMatch e1.responseHeaders e2.responseHeaders &&
    e1.requestRedirect == e2.requestRedirect && e1.authSnippet == e2.authSnippet &&
    e1.authCacheKey == e2.authCacheKey &&
    Sets.stringElementsMatch e1.authCacheDuration e2.authCacheDuration

@[simp] lemma Config.equal_refl (x : Config) : x.equal x = true := by
  simp [Config.equal]

end Authreq

namespace Ratelimit

/-- `ratelimit.Zone`. -/
structure Zone where
  name : String
  limit : Int
  burst : Int
  sharedSize : Int
deriving DecidableEq, Inhabited

/-- `(*ratelimit.Zone).Equal`. -/
def Zone.equal (z1 z2 : Zone) : Bool :=
  z1.name == z2.name && z1.limit == z2.limit && z1.burst == z2.burst &&
    z1.sharedSize == z2.sharedSize

@[simp] lemma Zone.equal_refl (x : Zone) : x.equal x = true := by
  simp [Zone.equal]

/-- `ratelimit.Config`. -/
structure Config where
  connections : Zone
  rps : Zone
  rpm : Zone
  limitRate : Int
  limitRateAfter : Int
  name : String
  id : String
  whitelist : Go.Slice String
deriving DecidableEq, Inhabited

/-- `(*ratelimit.Config).Equal`. -/
def Config.equal (rt1 rt2 : Config) : Bool :=
  rt1.connections.equal rt2.connections && rt1.rpm.equal rt2.rpm && rt1.rps.equal rt2.rps &&
    rt1.limitRate == rt2.limitRate && rt1.limitRateAfter == rt2.limitRateAfter &&
    rt1.id == rt2.id && rt1.name == rt2.name &&
    rt1.whitelist.elems.length == rt2.whitelist.elems.length &&
    Sets.stringElementsMatch rt1.whitelist rt2.whitelist

@[simp] lemma Config.equal_refl (x : Config) : x.equal x = true := by
  simp [Config.equal]

end Ratelimit

namespace Globalratelimit

/-- `globalratelimit.Config`. -/
structure Config where
  ns : String
  limit : Int
  windowSize : Int
  key : String
  ignoredCIDRs : Go.Slice String
deriving DecidableEq, Inhabited

/-- `(*globalratelimit.Config).Equal`. -/
def Config.equal (l r : Config) : Bool :=
  l.ns == r.ns && l.limit == r.limit && l.windowSize == r.windowSize && l.key == r.key &&
    l.ignoredCIDRs.elems.length == r.ignoredCIDRs.elems.length &&
    Sets.stringElementsMatch l.ignoredCIDRs r.ignoredCIDRs

@[simp] lemma Config.equal_refl (x : Config) : x.equal x = true := by
  simp [Config.equal]

end Globalratelimit

namespace Redirect

/-- `redirect.Config`. -/
structure Config where
  url : String
  code : Int
  fromToWWW : Bool
deriving DecidableEq, Inhabited

/-- `(*redirect.Config).Equal`. -/
def Config.equal (r1 r2 : Config) : Bool :=
  r1.url == r2.url && r1.code == r2.code && r1.fromToWWW == r2.fromToWWW

@[simp] lemma Config.equal_refl (x : Config) : x.equal x = true := by
  simp [Config.equal]

end Redirect

namespace Rewrite

/-- `rewrite.Config`. -/
structure Config where
  target : String
  sslRedirect : Bool
  forceSSLRedirect : Bool
  preserveTrailingSlash : Bool
  appRoot : String
  useRegex : Bool
deriving DecidableEq, Inhabited

/-- `(*rewrite.Config).Equal`; `PreserveTrailingSlash` is not compared. -/
def Config.equal (r1 r2 : Config) : Bool :=
  r1.target == r2.target && r1.sslRedirect == r2.sslRedirect &&
    r1.forceSSLRedirect == r2.forceSSLRedirect && r1.appRoot == r2.appRoot &&
    r1.useRegex == r2.useRegex

@[simp] lemma Config.equal_refl (x : Config) : x.equal x = true := by
  simp [Config.equal]

end Rewrite

namespace Ipwhitelist

/-- `ipwhitelist.SourceRange`. -/
structure SourceRange where
  cidr : Go.Slice String
deriving DecidableEq, Inhabited

/-- `(*ipwhitelist.SourceRange).Equal`. -/
def SourceRange.equal (sr1 sr2 : SourceRange) : Bool :=
  Sets.stringElementsMatch sr1.cidr sr2.cidr

@[simp] lemma SourceRange.equal_refl (x : SourceRange) : x.equal x = true := by
  simp [SourceRange.equal]

end Ipwhitelist

namespace Proxy

/-- `proxy.Config`. -/
structure Config where
  bodySize : String
  connectTimeout : Int
  sendTimeout : Int
  readTimeout : Int
  buffersNumber : Int
  bufferSize : String
  cookieDomain : String
  cookiePath : String
  nextUpstream : String
  nextUpstreamTimeout : Int
  nextUpstreamTries : Int
  proxyRedirectFrom : String
  proxyRedirectTo : String
  requestBuffering : String
  proxyBuffering : String
  proxyHTTPVersion : String
  proxyMaxTempFileSize : String
deriving DecidableEq, Inhabited

/-- `(*proxy.Config).Equal`. -/
def Config.equal (l1 l2 : Config) : Bool :=
  l1.bodySize == l2.bodySize && l1.connectTimeout == l2.connectTimeout &&
    l1.sendTimeout == l2.sendTimeout && l1.readTimeout == l2.readTimeout &&
    l1.buffersNumber == l2.buffersNumber && l1.bufferSize == l2.bufferSize &&
    l1.cookieDomain == l2.cookieDomain && l1.cookiePath == l2.cookiePath &&
    l1.nextUpstream == l2.nextUpstream && l1.nextUpstreamTimeout == l2.nextUpstreamTimeout &&
    l1.nextUpstreamTries == l2.nextUpstreamTries && l1.requestBuffering == l2.requestBuffering &&
    l1.proxyRedirectFrom == l2.proxyRedirectFrom && l1.proxyRedirectTo == l2.proxyRedirectTo &&
    l1.proxyBuffering == l2.proxyBuffering && l1.proxyHTTPVersion == l2.proxyHTTPVersion &&
    l1.proxyMaxTempFileSize == l2.proxyMaxTempFileSize

@[simp] lemma Config.equal_refl (x : Config) : x.equal x = true := by
  simp [Config.equal]

end Proxy

namespace Resolver

/-- `resolver.AuthSSLCert`: the files of a CA or client certificate secret. -/
structure AuthSSLCert where
  secret : String
  caFileName : String
  caSHA : String
  crlFileName : String
  crlSHA : String
  pemFileName : String
deriving DecidableEq, Inhabited

/-- `(*resolver.AuthSSLCert).Equal`; `PemFileName` is not compared. -/
def AuthSSLCert.equal (asslc1 assl2 : AuthSSLCert) : Bool :=
  asslc1.secret == assl2.secret && asslc1.caFileName == assl2.caFileName &&
    asslc1.caSHA == assl2.caSHA && asslc1.crlFileName == assl2.crlFileName &&
    asslc1.crlSHA == assl2.crlSHA

@[simp] lemma AuthSSLCert.equal_refl (x : AuthSSLCert) : x.equal x = true := by
  simp [AuthSSLCert.equal]

end Resolver

namespace Proxyssl

/-- `proxyssl.Config`: TLS towards the upstream. -/
structure Config where
  authSSLCert : Resolver.AuthSSLCert
  ciphers : String
  protocols : String
  proxySSLName : String
  verify : String
  verifyDepth : Int
  proxySSLServerName : String
deriving DecidableEq, Inhabited

/-- `(*proxyssl.Config).Equal`; `ProxySSLName` is not compared. -/
def Config.equal (pssl1 pssl2 : Config) : Bool :=
  pssl1.authSSLCert.equal pssl2.authSSLCert && pssl1.ciphers == pssl2.ciphers &&
    pssl1.protocols == pssl2.protocols && pssl1.verify == pssl2.verify &&
    pssl1.verifyDepth == pssl2.verifyDepth &&
    pssl1.proxySSLServerName == pssl2.proxySSLServerName

@[simp] lemma Config.equal_refl (x : Config) : x.equal x = true := by
  simp [Config.equal]

end Proxyssl

namespace Authtls

/-- `authtls.Config`: client certificate authentication. -/
structure Config where
  authSSLCert : Resolver.AuthSSLCert
  verifyClient : String
  validationDepth : Int
  errorPage : String
  passCertToUpstream : Bool
  authTLSError : String
deriving DecidableEq, Inhabited

/-- `(*authtls.Config).Equal`; `AuthTLSError` is not compared. -/
def Config.equal (assl1 assl2 : Config) : Bool :=
  assl1.authSSLCert.equal assl2.authSSLCert && assl1.verifyClient == assl2.verifyClient &&
    assl1.validationDepth == assl2.validationDepth && assl1.errorPage == assl2.errorPage &&
    assl1.passCertToUpstream == assl2.passCertToUpstream

@[simp] lemma Config.equal_refl (x : Config) : x.equal x = true := by
  simp [Config.equal]

end Authtls

namespace Connection

/-- `connection.Config`. -/
structure Config where
  header : String
  enabled : Bool
deriving DecidableEq, Inhabited

/-- `(*connection.Config).Equal`. -/
def Config.equal (r1 r2 : Config) : Bool :=
  r1.enabled == r2.enabled && r1.header == r2.header

@[simp] lemma Config.equal_refl (x : Config) : x.equal x = true := by
  simp [Config.equal]

end Connection

namespace Log

/-- `log.Config`. -/
structure Config where
  access : Bool
  rewrite : Bool
deriving DecidableEq, Inhabited

/-- `(*log.Config).Equal`. -/
def Config.equal (bd1 bd2 : Config) : Bool :=
  bd1.access == bd2.access && bd1.rewrite == bd2.rewrite

@[simp] lemma Config.equal_refl (x : Config) : x.equal x = true := by
  simp [Config.equal]

end Log

namespace Influxdb

/-- `influxdb.Config`. -/
structure Config where
  influxDBEnabled : Bool
  influxDBMeasurement : String
  influxDBPort : String
  influxDBHost : String
  influxDBServerName : String
deriving DecidableEq, Inhabited

/-- `(*influxdb.Config).Equal`; `InfluxDBMeasurement` is not compared. -/
def Config.equal (e1 e2 : Config) : Bool :=
  e1.influxDBEnabled == e2.influxDBEnabled && e1.influxDBPort == e2.influxDBPort &&
    e1.influxDBHost == e2.influxDBHost && e1.influxDBServerName == e2.influxDBServerName

@[simp] lemma Config.equal_refl (x : Config) : x.equal x = true := by
  simp [Config.equal]

end Influxdb

namespace Fastcgi

/-- `fastcgi.Config`; `Params` is a map that may be `nil`. -/
structure Config where
  index : String
  params : Option (Go.Map String String)
deriving DecidableEq, Inhabited

/-- `(*fastcgi.Config).Equal`: `Params` by `reflect.DeepEqual`. -/
def Config.equal (l1 l2 : Config) : Bool :=
  l1.index == l2.index && Go.Map.deepEqualNil l1.params l2.params

@[simp] lemma Config.equal_refl (x : Config) : x.equal x = true := by
  simp [Config.equal]

end Fastcgi

namespace Modsecurity

/-- `modsecurity.Config`. -/
structure Config where
  enable : Bool
  enableSet : Bool
  owaspRules : Bool
  transactionID : String
  snippet : String
deriving DecidableEq, Inhabited

/-- `(*modsecurity.Config).Equal`. -/
def Config.equal (modsec1 modsec2 : Config) : Bool :=
  modsec1.enable == modsec2.enable && modsec1.enableSet == modsec2.enableSet &&
    modsec1.owaspRules == modsec2.owaspRules && modsec1.transactionID == modsec2.transactionID &&
    modsec1.snippet == modsec2.snippet

@[simp] lemma Config.equal_refl (x : Config) : x.equal x = true := by
  simp [Config.equal]

end Modsecurity

namespace Opentracing

/-- `opentracing.Config`. -/
structure Config where
  enabled : Bool
  set : Bool
deriving DecidableEq, Inhabited

/-- `(*opentracing.Config).Equal`. -/
def Config.equal (bd1 bd2 : Config) : Bool :=
  bd1.set == bd2.set && bd1.enabled == bd2.enabled

@[simp] lemma Config.equal_refl (x : Config) : x.equal x = true := by
  simp [Config.equal]

end Opentracing

namespace Mirror

/-- `mirror.Config`. -/
structure Config where
  source : String
  requestBody : String
  target : String
deriving DecidableEq, Inhabited

/-- `(*mirror.Config).Equal`. -/
def Config.equal (m1 m2 : Config) : Bool :=
  m1.source == m2.source && m1.requestBody == m2.requestBody && m1.target == m2.target

@[simp] lemma Config.equal_refl (x : Config) : x.equal x = true := by
  simp [Config.equal]

end Mirror

namespace Canary

/-- `canary.Config`. -/
structure Config where
  enabled : Bool
  weight : Int
  header : String
  headerValue : String
  headerPattern : String
  cookie : String
deriving DecidableEq, Inhabited

end Canary

namespace Sessionaffinity

/-- `sessionaffinity.Cookie`. -/
structure Cookie where
  name : String
  expires : String
  maxAge : String
  path : String
  changeOnFailure : Bool
  sameSite : String
  conditionalSameSiteNone : Bool
deriving DecidableEq, Inhabited

/-- `sessionaffinity.Config`. -/
structure Config where
  type : String
  mode : String
  cookie : Cookie
deriving DecidableEq, Inhabited

end Sessionaffinity

namespace Upstreamhashby

/-- `upstreamhashby.Config`. -/
structure Config where
  upstreamHashBy : String
  upstreamHashBySubset : Bool
  upstreamHashBySubsetSize : Int
deriving DecidableEq, Inhabited

end Upstreamhashby

namespace Sslcipher

/-- `sslcipher.Config`. -/
structure Config where
  sslCiphers : String
  sslPreferServerCiphers : String
deriving DecidableEq, Inhabited

end Sslcipher

namespace Annotations

/-- `annotations.Ingress`: what `Extract` parsed from an ingress's annotations. `Denied`
is the pointer `Extract` allocates for the first location-denied error. -/
structure Ingress where
  backendProtocol : String
  aliases : List String
  basicDigestAuth : Auth.Config
  canary : Canary.Config
  certificateAuth : Authtls.Config
  clientBodyBufferSize : String
  configurationSnippet : String
  connection : Connection.Config
  corsConfig : Cors.Config
  customHTTPErrors : Go.Slice Int
  defaultBackend : Option Core.Service
  fastCGI : Fastcgi.Config
  denied : Option (Go.Ptr String)
  externalAuth : Authreq.Config
  enableGlobalAuth : Bool
  http2PushPreload : Bool
  opentracing : Opentracing.Config
  proxy : Proxy.Config
  proxySSL : Proxyssl.Config
  rateLimit : Ratelimit.Config
  globalRateLimit : Globalratelimit.Config
  redirect : Redirect.Config
  rewrite : Rewrite.Config
  satisfy : String
  serverSnippet : String
  serviceUpstream : Bool
  sessionAffinity : Sessionaffinity.Config
  sslPassthrough : Bool
  usePortInRedirects : Bool
  upstreamHashBy : Upstreamhashby.Config
  loadBalancing : String
  upstreamVhost : String
  whitelist : Ipwhitelist.SourceRange
  xForwardedPrefix : String
  sslCipher : Sslcipher.Config
  logs : Log.Config
  influxDB : Influxdb.Config
  modSecurity : Modsecurity.Config
  mirror : Mirror.Config
deriving DecidableEq, Inhabited

end Annotations

end IngressNginx
