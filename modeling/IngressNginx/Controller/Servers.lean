import IngressNginx.Controller.Upstreams

/-!
# Servers

`createServers`: the catch-all server `_` with its root location, then a server for every
host of every non-canary ingress, each with a root location served by the ingress's
catch-all upstream or the default one; then aliases, snippets, ciphers and certificates,
first come first served; then the aliases of each host, without duplicates and without
names that are hosts themselves.

The `range` statements over maps of `getBackendServers` and `createServers` are the values
of `RangeSite`; `Go.RangeOrder` chooses their orders. `createServers` returns `none` where
the source panics: `extractTLSSecretName` calls `VerifyHostname` on a certificate of the
local store without checking it for `nil`.
-/

namespace IngressNginx

/-- The `range` statements over maps that the model of `getBackendServers` follows. -/
inductive RangeSite where
  /-- `for host, hostAliases := range allAliases` in `createServers`. -/
  | allAliases
  /-- `for _, upstream := range upstreams` in `getBackendServers`. -/
  | upstreams
  /-- `for _, server := range servers` inside it. -/
  | serversOfUpstream
  /-- `for _, value := range servers`, collecting the result. -/
  | servers
deriving DecidableEq

/-- `toLowerCaseASCII`: ASCII upper-case letters lowered, everything else kept. -/
def toLowerCaseASCII (s : String) : String :=
  s.map fun c => if 'A' ≤ c ∧ c ≤ 'Z' then Char.ofNat (c.toNat + 32) else c

/-- The host a rule configures: its `host`, or the catch-all server when empty. -/
def ruleHost (rule : Networking.IngressRule) : String :=
  if rule.host = "" then defServerName else rule.host

/-- A non-canary ingress with a catch-all backend makes that upstream the catch-all
server's root location; an ingress with no rules also gives it its annotations, redirect
and rewrite apart. -/
def useCatchAll (ing : Ingress) (backendUpstream : Backend) (defLoc : Location) : Location :=
  let defLoc := { defLoc with
    backend := backendUpstream.name, service := backendUpstream.service, ingress := some ing }
  if defLoc.isDefBackend ∧ ing.ingress.rules = [] then
    let defLoc := { defLoc with isDefBackend := false }
    { locationApplyAnnotations defLoc ing.parsedAnnotations with
      redirect := defLoc.redirect, rewrite := defLoc.rewrite }
  else defLoc

@[simp] lemma useCatchAll_path (ing : Ingress) (u : Backend) (defLoc : Location) :
    (useCatchAll ing u defLoc).path = defLoc.path := by
  unfold useCatchAll
  dsimp only
  split_ifs <;> rfl

@[simp] lemma useCatchAll_pathType (ing : Ingress) (u : Backend) (defLoc : Location) :
    (useCatchAll ing u defLoc).pathType = defLoc.pathType := by
  unfold useCatchAll
  dsimp only
  split_ifs <;> rfl

/-- The catch-all server's root location served by an ingress's catch-all upstream. -/
def setCatchAll (ing : Ingress) (backendUpstream : Option Backend)
    (servers : Go.Map String Server) : Go.Map String Server :=
  match backendUpstream, servers.lookup defServerName with
  | some u, some srv =>
    match srv.locations with
    | defLoc :: rest =>
      servers.insert defServerName { srv with locations := useCatchAll ing u defLoc :: rest }
    | [] => servers
  | _, _ => servers

/-- A server for a rule's host not configured yet, with a root location served by `un`. -/
def addHostServer (ing : Ingress) (un : String) (servers : Go.Map String Server)
    (rule : Networking.IngressRule) : Go.Map String Server :=
  let anns := ing.parsedAnnotations
  let host := ruleHost rule
  if host ∈ servers then servers
  else
    let loc := locationApplyAnnotations
      { (default : Location) with
        path := rootLocation, pathType := some .Prefix, isDefBackend := true, backend := un
        ingress := some ing, service := some default } anns
    servers.insert host
      { (default : Server) with
        hostname := host, locations := [loc], sslPassthrough := anns.sslPassthrough
        sslCiphers := anns.sslCipher.sslCiphers
        sslPreferServerCiphers := anns.sslCipher.sslPreferServerCiphers }

/-- The first loop of `createServers` on one ingress: the catch-all backend, then a new
server with a root location for each host not configured yet. -/
def addServersOf (upstreams : Go.Map String Backend) (du : Backend)
    (servers : Go.Map String Server) (ing : Ingress) : Go.Map String Server :=
  if ing.parsedAnnotations.canary.enabled then servers
  else
    let backendUpstream : Option Backend := ing.ingress.backend.bind fun b =>
      upstreams.lookup (upstreamName ing.ingress.ns b.serviceName b.servicePort)
    let un := match backendUpstream with
      | some u => u.name
      | none => du.name
    ing.ingress.rules.foldl (addHostServer ing un) (setCatchAll ing backendUpstream servers)

/-- The aliases of the first ingress that configures a host, also recorded for the host in
`allAliases` unless an entry is there. -/
def configureAliases (anns : Annotations.Ingress) (host : String) (srv : Server)
    (allAliases : Go.Map String (List String)) : Server × Go.Map String (List String) :=
  if srv.aliases.isEmpty then
    ({ srv with aliases := anns.aliases },
      if ((allAliases.lookup host).getD []).isEmpty then allAliases.insert host anns.aliases
      else allAliases)
  else (srv, allAliases)

/-- The server snippet and ciphers of the first ingress that sets each. -/
def configureServerSettings (anns : Annotations.Ingress) (srv : Server) : Server :=
  let srv :=
    if anns.serverSnippet ≠ "" ∧ srv.serverSnippet = "" then
      { srv with serverSnippet := anns.serverSnippet } else srv
  let srv :=
    if srv.sslCiphers = "" ∧ anns.sslCipher.sslCiphers ≠ "" then
      { srv with sslCiphers := anns.sslCipher.sslCiphers } else srv
  if srv.sslPreferServerCiphers = "" ∧ anns.sslCipher.sslPreferServerCiphers ≠ "" then
    { srv with sslPreferServerCiphers := anns.sslCipher.sslPreferServerCiphers } else srv

@[simp] lemma configureAliases_hostname (anns : Annotations.Ingress) (host : String)
    (srv : Server) (allAliases : Go.Map String (List String)) :
    (configureAliases anns host srv allAliases).1.hostname = srv.hostname := by
  unfold configureAliases
  split_ifs <;> rfl

@[simp] lemma configureAliases_locations (anns : Annotations.Ingress) (host : String)
    (srv : Server) (allAliases : Go.Map String (List String)) :
    (configureAliases anns host srv allAliases).1.locations = srv.locations := by
  unfold configureAliases
  split_ifs <;> rfl

@[simp] lemma configureServerSettings_hostname (anns : Annotations.Ingress) (srv : Server) :
    (configureServerSettings anns srv).hostname = srv.hostname := by
  unfold configureServerSettings
  dsimp only
  split_ifs <;> rfl

@[simp] lemma configureServerSettings_locations (anns : Annotations.Ingress) (srv : Server) :
    (configureServerSettings anns srv).locations = srv.locations := by
  unfold configureServerSettings
  dsimp only
  split_ifs <;> rfl

namespace NGINXController

variable (n : NGINXController)

/-- `extractTLSSecretName`: the secret of the TLS section that lists `host` (up to ASCII
case), else of the first TLS section whose certificate is valid for `host`; `none` is the
panic on a stored certificate without its x509 part. -/
def extractTLSSecretName (host : String) (ing : Ingress) : Option String :=
  let lowercaseHost := toLowerCaseASCII host
  match ing.ingress.tls.find? (fun tls => tls.hosts.any (toLowerCaseASCII · = lowercaseHost)) with
  | some tls => some tls.secretName
  | none =>
    let rec bySAN : List Networking.IngressTLS → Option String
      | [] => some ""
      | tls :: rest =>
        if tls.secretName = "" then bySAN rest
        else
          match n.store.getLocalSSLCert (ing.ingress.ns ++ "/" ++ tls.secretName) with
          | none => bySAN rest
          | some cert =>
            match cert.certificate with
            | none => none
            | some c => if n.ext.verifyHostname c host then some tls.secretName else bySAN rest
    bySAN ing.ingress.tls

/-- The proxy settings of the catch-all root location, from the global defaults. -/
def ngxProxy : Proxy.Config :=
  let bdef := n.store.backendConfig.backend
  { (default : Proxy.Config) with
    bodySize := bdef.proxyBodySize, connectTimeout := bdef.proxyConnectTimeout
    sendTimeout := bdef.proxySendTimeout, readTimeout := bdef.proxyReadTimeout
    buffersNumber := bdef.proxyBuffersNumber, bufferSize := bdef.proxyBufferSize
    cookieDomain := bdef.proxyCookieDomain, cookiePath := bdef.proxyCookiePath
    nextUpstream := bdef.proxyNextUpstream, nextUpstreamTimeout := bdef.proxyNextUpstreamTimeout
    nextUpstreamTries := bdef.proxyNextUpstreamTries
    requestBuffering := bdef.proxyRequestBuffering
    proxyRedirectFrom := bdef.proxyRedirectFrom, proxyBuffering := bdef.proxyBuffering
    proxyHTTPVersion := bdef.proxyHTTPVersion, proxyMaxTempFileSize := bdef.proxyMaxTempFileSize }

/-- The catch-all server `_` with its root location, served by the default upstream. -/
def defaultServer (du : Backend) : Server :=
  { (default : Server) with
    hostname := defServerName
    sslCert := n.getDefaultSSLCertificate
    locations := [{ (default : Location) with
      path := rootLocation, pathType := some .Prefix, isDefBackend := true, backend := du.name
      proxy := n.ngxProxy, service := du.service
      logs := { access := n.store.backendConfig.enableAccessLogForDefaultBackend
                rewrite := false } }] }

/-- The certificate of a server that has none yet: from the TLS section of the ingress,
or the default certificate when the secret is unnamed, missing, or not valid for `host`. -/
def serverCertificate (host : String) (ing : Ingress) : Option (Option SSLCert) := do
  let tlsSecretName ← n.extractTLSSecretName host ing
  if tlsSecretName = "" then return n.getDefaultSSLCertificate
  match n.store.getLocalSSLCert (ing.ingress.ns ++ "/" ++ tlsSecretName) with
  | none => return n.getDefaultSSLCertificate
  | some cert =>
    match cert.certificate with
    | none => return n.getDefaultSSLCertificate
    | some c => return if n.ext.verifyHostname c host then some cert else n.getDefaultSSLCertificate

/-- The certificate of a server that has none, from an ingress with a TLS section. -/
def configureServerCert (host : String) (ing : Ingress) (srv : Server) : Option Server :=
  if srv.sslCert.isSome ∨ ing.ingress.tls = [] then some srv
  else (n.serverCertificate host ing).map fun cert => { srv with sslCert := cert }

lemma configureServerCert_eq_some {host : String} {ing : Ingress} {srv srv' : Server}
    (h : n.configureServerCert host ing srv = some srv') :
    srv'.hostname = srv.hostname ∧ srv'.locations = srv.locations := by
  unfold configureServerCert at h
  split_ifs at h
  · cases h
    exact ⟨rfl, rfl⟩
  · obtain ⟨cert, -, rfl⟩ := Option.map_eq_some_iff.mp h
    exact ⟨rfl, rfl⟩

/-- The second loop of `createServers` on one rule of a non-canary ingress. -/
def configureServer (ing : Ingress) (st : Go.Map String Server × Go.Map String (List String))
    (rule : Networking.IngressRule) : Option (Go.Map String Server × Go.Map String (List String)) :=
  let host := ruleHost rule
  match st.1.lookup host with
  | none => none
  | some srv => do
    let aliased := configureAliases ing.parsedAnnotations host srv st.2
    let srv ← n.configureServerCert host ing (configureServerSettings ing.parsedAnnotations aliased.1)
    return (st.1.insert host srv, aliased.2)

/-- The aliases of `host` that are neither `host` nor another server, sorted. -/
def uniqAliases (servers : Go.Map String Server) (host : String) (hostAliases : List String) :
    List String :=
  Go.sliceStable (fun a b => decide (a < b))
    ((hostAliases.filter fun a => a ≠ host ∧ a ∉ servers).dedup)

/-- `createServers`. -/
def createServers (ord : Go.RangeOrder RangeSite String) (data : List Ingress)
    (upstreams : Go.Map String Backend) (du : Backend) : Option (Go.Map String Server) := do
  let servers : Go.Map String Server := AList.insert defServerName (n.defaultServer du) ∅
  let servers := data.foldl (addServersOf upstreams du) servers
  let (servers, allAliases) ← data.foldlM (fun st ing =>
      if ing.parsedAnnotations.canary.enabled then pure st
      else ing.ingress.rules.foldlM (n.configureServer ing) st) (servers, ∅)
  return (allAliases.range ord .allAliases).foldl (fun servers (host, hostAliases) =>
    match servers.lookup host with
    | none => servers
    | some srv => servers.insert host { srv with aliases := uniqAliases servers host hostAliases })
    servers

end NGINXController

end IngressNginx
