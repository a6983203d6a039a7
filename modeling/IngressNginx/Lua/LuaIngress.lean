import IngressNginx.Lua.Certificate

/-!
# The ssl-redirect and the HSTS header

`lua_ingress.rewrite` runs in every location: it sets the scheme, host and port the request
is passed on with, trusting the `X-Forwarded-*` headers when `use-forwarded-headers` is on,
and redirects to `https` when the location asks for it. A location with `ssl-redirect` (and
not `force-ssl-redirect`) is redirected only when `certificate.configured_for_current_request`
holds: `get_pem_cert_uid` finds a UID for the request's host, by its name or its wildcard.
`lua_ingress.header` adds `Strict-Transport-Security` to responses over `https`.

`header` tests `certificate_configured_for_current_request` without calling it: the operand
is the function itself, which Lua counts as true, so every response over `https` gets the
header when HSTS is on, for hosts without a certificate too
(`header_sets_hsts_without_certificate`), while the redirect does consult the certificates
(`rewrite_redirect_iff`).
-/

namespace IngressNginx

namespace Certificate

/-- `configured_for_current_request`: whether `get_pem_cert_uid` finds a UID for `$host`,
computed once per request and kept in `ngx.ctx`. -/
def configuredForCurrentRequest (st : CertificateStore) (host : String) (ctx : Option Bool) :
    Bool × Option Bool :=
  match ctx with
  | some configured => (configured, some configured)
  | none =>
    let configured := (getPemCertUid st host).isSome
    (configured, some configured)

end Certificate

namespace LuaIngress

/-- `config.listen_ports`, as the strings `configForLua` writes. -/
structure ListenPorts where
  sslProxy : String
  https : String

/-- The `config` table of `set_config` (`configForLua`), without the global throttle. -/
structure Config where
  useForwardedHeaders : Bool
  useProxyProtocol : Bool
  isSslPassthroughEnabled : Bool
  httpRedirectCode : Nat
  listenPorts : ListenPorts
  hsts : Bool
  hstsMaxAge : String
  hstsIncludeSubdomains : Bool
  hstsPreload : Bool

/-- `location_config` (`locationConfigForLua`), without the global throttle. -/
structure LocationConfig where
  forceSslRedirect : Bool
  sslRedirect : Bool
  forceNoSslRedirect : Bool
  preserveTrailingSlash : Bool
  usePortInRedirects : Bool

/-- The nginx variables of a request that `rewrite` and `header` read; `passServerPort` is
`$pass_server_port` as the template sets it before `rewrite`, and a header that is absent
is `none`. -/
structure Request where
  scheme : String
  host : String
  httpHost : Option String
  httpXForwardedProto : Option String
  httpXForwardedPort : Option String
  httpXForwardedHost : Option String
  proxyProtocolServerPort : String
  passServerPort : String
  requestUri : String

/-- The variables `rewrite` assigns. -/
structure RewriteVars where
  passAccessScheme : String
  bestHttpHost : String
  passServerPort : String
  passPort : String

/-- `parse_x_forwarded_host`: the first host of the header. -/
def parseXForwardedHost (httpXForwardedHost : String) : String :=
  (Go.split httpXForwardedHost ',').headD ""

/-- `redirect_host`: the host without its port. -/
def redirectHost (bestHttpHost : String) : String :=
  (Go.split bestHttpHost ':').headD ""

/-- The assignments of `rewrite`: the scheme from `X-Forwarded-Proto` or the PROXY protocol,
the port from `X-Forwarded-Port`, the host from `X-Forwarded-Host`, and `443` as the port
passed on when the request came to the `https` (or ssl-proxy) port. -/
def rewriteVars (config : Config) (req : Request) : RewriteVars :=
  let bestHttpHost := req.httpHost.getD req.host
  let (passAccessScheme, passServerPort, bestHttpHost) :=
    if config.useForwardedHeaders then
      (req.httpXForwardedProto.getD req.scheme, req.httpXForwardedPort.getD req.passServerPort,
        (req.httpXForwardedHost.map parseXForwardedHost).getD bestHttpHost)
    else (req.scheme, req.passServerPort, bestHttpHost)
  let passAccessScheme :=
    if config.useProxyProtocol ∧ req.proxyProtocolServerPort = "443" then "https"
    else passAccessScheme
  let passPort :=
    if config.isSslPassthroughEnabled then
      if passServerPort = config.listenPorts.sslProxy then "443" else passServerPort
    else if passServerPort = config.listenPorts.https then "443" else passServerPort
  ⟨passAccessScheme, bestHttpHost, passServerPort, passPort⟩

/-- `redirect_to_https`, with the `ngx.ctx` of the request. -/
def redirectToHttps (st : CertificateStore) (req : Request) (passAccessScheme : String)
    (locationConfig : LocationConfig) (ctx : Option Bool) : Bool × Option Bool :=
  if locationConfig.forceNoSslRedirect then (false, ctx)
  else if locationConfig.forceSslRedirect ∧ passAccessScheme = "http" then (true, ctx)
  else if passAccessScheme ≠ "http" then (false, ctx)
  else if locationConfig.sslRedirect then
    Certificate.configuredForCurrentRequest st req.host ctx
  else (false, ctx)

/-- The target of the redirect: without the trailing `/` unless the location keeps it, and
with the `https` port when the location asks for it. -/
def redirectUri (config : Config) (locationConfig : LocationConfig) (bestHttpHost requestUri : String) :
    String :=
  let requestUri :=
    if locationConfig.preserveTrailingSlash = false ∧ requestUri.toList.getLast? = some '/' then
      String.ofList requestUri.toList.dropLast
    else requestUri
  if locationConfig.usePortInRedirects then
    "https://" ++ redirectHost bestHttpHost ++ ":" ++ config.listenPorts.https ++ requestUri
  else "https://" ++ redirectHost bestHttpHost ++ requestUri

/-- `rewrite`: the redirect it answers with (the URI and `http_redirect_code`), if any, and
the `ngx.ctx` it leaves. The global throttle it runs otherwise is not modelled. -/
def rewrite (config : Config) (st : CertificateStore) (locationConfig : LocationConfig)
    (req : Request) (ctx : Option Bool) : Option (String × Nat) × Option Bool :=
  let vars := rewriteVars config req
  let (redirect, ctx) := redirectToHttps st req vars.passAccessScheme locationConfig ctx
  if redirect then
    (some (redirectUri config locationConfig vars.bestHttpHost req.requestUri,
      config.httpRedirectCode), ctx)
  else (none, ctx)

/-- The value of `Strict-Transport-Security`. -/
def hstsValue (config : Config) : String :=
  let value := "max-age=" ++ config.hstsMaxAge
  let value := if config.hstsIncludeSubdomains then value ++ "; includeSubDomains" else value
  if config.hstsPreload then value ++ "; preload" else value

/-- `header`: the `Strict-Transport-Security` header it sets, if any. The last operand of its
test is the function `certificate_configured_for_current_request`, not a call of it, and a
function value is true in Lua: the test is HSTS on and `$scheme` `https`. -/
def header (config : Config) (req : Request) : Option String :=
  if config.hsts ∧ req.scheme = "https" then some (hstsValue config) else none

/-! ### The redirect -/

section Redirect

variable {config : Config} {st : CertificateStore} {locationConfig : LocationConfig}
  {req : Request}

/-- A first call of `configured_for_current_request` is the lookup of the host. -/
@[simp] lemma configuredForCurrentRequest_none (host : String) :
    (Certificate.configuredForCurrentRequest st host none).1 =
      (Certificate.getPemCertUid st host).isSome := rfl

/-- Without `force-ssl-redirect`, a location is redirected exactly when it has
`ssl-redirect`, the request is passed on as `http`, and a certificate is configured for the
host. -/
lemma redirectToHttps_of_not_forced (hforce : locationConfig.forceSslRedirect = false)
    (hno : locationConfig.forceNoSslRedirect = false) (passAccessScheme : String) :
    (redirectToHttps st req passAccessScheme locationConfig none).1 = true ↔
      passAccessScheme = "http" ∧ locationConfig.sslRedirect = true ∧
        (Certificate.getPemCertUid st req.host).isSome := by
  unfold redirectToHttps
  by_cases hscheme : passAccessScheme = "http"
  · cases hssl : locationConfig.sslRedirect <;> simp [hforce, hno, hscheme]
  · simp [hno, hscheme]

/-- `rewrite` answers with a redirect exactly when `redirect_to_https` says so. -/
lemma rewrite_fst_isSome (ctx : Option Bool) :
    (rewrite config st locationConfig req ctx).1.isSome =
      (redirectToHttps st req (rewriteVars config req).passAccessScheme locationConfig ctx).1 := by
  unfold rewrite
  dsimp only
  cases redirectToHttps st req (rewriteVars config req).passAccessScheme locationConfig ctx with
  | mk redirect ctx' => cases redirect <;> rfl

/-- The non-forced ssl-redirect of `rewrite` is issued exactly when the scheme passed on is
`http`, the location has `ssl-redirect`, and the host has a certificate. -/
theorem rewrite_redirect_iff (hforce : locationConfig.forceSslRedirect = false)
    (hno : locationConfig.forceNoSslRedirect = false) :
    (rewrite config st locationConfig req none).1.isSome ↔
      (rewriteVars config req).passAccessScheme = "http" ∧ locationConfig.sslRedirect = true ∧
        (Certificate.getPemCertUid st req.host).isSome := by
  rw [rewrite_fst_isSome, redirectToHttps_of_not_forced hforce hno]

end Redirect

/-! ### The header -/

/-- For a host without a certificate, a location with `ssl-redirect` is not redirected, yet
`header` adds `Strict-Transport-Security` to its responses over `https` when HSTS is on: the
header does not consult the certificates the redirect consults. -/
theorem header_sets_hsts_without_certificate (config : Config) (st : CertificateStore)
    (locationConfig : LocationConfig) (req : Request)
    (hforce : locationConfig.forceSslRedirect = false)
    (hno : locationConfig.forceNoSslRedirect = false) (hhsts : config.hsts = true)
    (hcert : Certificate.getPemCertUid st req.host = none) :
    (rewrite config st locationConfig req none).1 = none ∧
      header config { req with scheme := "https" } = some (hstsValue config) := by
  constructor
  · have hiff : (rewrite config st locationConfig req none).1.isSome ↔ _ :=
      rewrite_redirect_iff hforce hno
    rw [hcert] at hiff
    simpa using hiff
  · simp [header, hhsts]

/-- The host `shop.example.com` of a store without certificates, at a location with
`ssl-redirect`. -/
def shopRequest : Request where
  scheme := "http"
  host := "shop.example.com"
  httpHost := some "shop.example.com"
  httpXForwardedProto := none
  httpXForwardedPort := none
  httpXForwardedHost := none
  proxyProtocolServerPort := ""
  passServerPort := "80"
  requestUri := "/cart"

/-- The defaults of the controller: HSTS on for a year with subdomains, the `https` port 443. -/
def defaultConfig : Config where
  useForwardedHeaders := false
  useProxyProtocol := false
  isSslPassthroughEnabled := false
  httpRedirectCode := 308
  listenPorts := ⟨"442", "443"⟩
  hsts := true
  hstsMaxAge := "15724800"
  hstsIncludeSubdomains := true
  hstsPreload := false

/-- `ssl-redirect` on, as by default. -/
def sslRedirectLocation : LocationConfig where
  forceSslRedirect := false
  sslRedirect := true
  forceNoSslRedirect := false
  preserveTrailingSlash := false
  usePortInRedirects := false

theorem header_sets_hsts_for_shop_without_certificate :
    Certificate.getPemCertUid ⟨∅, ∅⟩ shopRequest.host = none ∧
      (rewrite defaultConfig ⟨∅, ∅⟩ sslRedirectLocation shopRequest none).1 = none ∧
      header defaultConfig { shopRequest with scheme := "https" } =
        some "max-age=15724800; includeSubDomains" := by
  have hcert : Certificate.getPemCertUid ⟨∅, ∅⟩ shopRequest.host = none := rfl
  exact ⟨hcert, header_sets_hsts_without_certificate defaultConfig ⟨∅, ∅⟩ sslRedirectLocation
    shopRequest rfl rfl rfl hcert⟩

end LuaIngress

end IngressNginx
