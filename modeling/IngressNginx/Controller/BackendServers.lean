import IngressNginx.Controller.Servers

/-!
# Upstreams and servers

`getBackendServers` assembles the configuration in passes over the upstream and server
maps:

1. `createUpstreams` and `createServers`;
2. the location loop: each path of each rule becomes a location of its host's server (or
   of the catch-all server), unless its upstream serves no server (`NoServer`, a canary) or
   a location of that path and type already serves another ingress; a default location of
   that path and type is taken over instead;
3. canary ingresses are merged into the upstreams that serve the same host and path as
   alternative backends, or their upstream is deleted;
4. a location whose upstream has no endpoints, or has custom errors, gets an upstream of its
   own for its `default-backend` service;
5. locations are sorted longest path first, upstreams by name, servers by hostname.

Every step returns `none` where the source panics: a `nil` map, a `nil` pointer or an index
out of range.
-/

namespace IngressNginx

/-- The two maps the passes of `getBackendServers` update. -/
structure Build where
  upstreams : Go.Map String Backend
  servers : Go.Map String Server

/-! ### The location loop -/

/-- The server settings a rule contributes to its server: the first TLS authentication
error, client certificate authentication and (unless it is per location) upstream TLS. -/
def configureRuleServer (proxySSLLocationOnly : Bool) (anns : Annotations.Ingress)
    (server : Server) : Server :=
  let server :=
    if server.authTLSError = "" ∧ anns.certificateAuth.authTLSError ≠ "" then
      { server with authTLSError := anns.certificateAuth.authTLSError } else server
  let server :=
    if server.certificateAuth.authSSLCert.caFileName = "" then
      { server with certificateAuth := anns.certificateAuth } else server
  if !proxySSLLocationOnly ∧ server.proxySSL.authSSLCert.caFileName = "" then
    { server with proxySSL := anns.proxySSL } else server

@[simp] lemma configureRuleServer_hostname (p : Bool) (anns : Annotations.Ingress) (server : Server) :
    (configureRuleServer p anns server).hostname = server.hostname := by
  unfold configureRuleServer
  dsimp only
  split_ifs <;> rfl

@[simp] lemma configureRuleServer_locations (p : Bool) (anns : Annotations.Ingress)
    (server : Server) : (configureRuleServer p anns server).locations = server.locations := by
  unfold configureRuleServer
  dsimp only
  split_ifs <;> rfl

/-- The path a location is created for: `/` for an empty path. -/
def nginxPathOf (path : Networking.HTTPIngressPath) : String :=
  if path.path = "" then rootLocation else path.path

/-- The location of a path served by upstream `ups`. -/
def pathLocation (ing : Ingress) (ups : Backend) (path : Networking.HTTPIngressPath) :
    Location :=
  locationApplyAnnotations
    { (default : Location) with
      path := nginxPathOf path, pathType := path.pathType, backend := ups.name
      isDefBackend := false, service := ups.service, port := ups.port, ingress := some ing }
    ing.parsedAnnotations

@[simp] lemma pathLocation_path (ing : Ingress) (ups : Backend) (path : Networking.HTTPIngressPath) :
    (pathLocation ing ups path).path = nginxPathOf path := rfl

@[simp] lemma pathLocation_pathType (ing : Ingress) (ups : Backend)
    (path : Networking.HTTPIngressPath) : (pathLocation ing ups path).pathType = path.pathType :=
  rfl

/-- A path of an ingress in its server. The first location with the same path decides: of
another type, a new location is added; of the same type and serving an ingress, nothing
changes; a default location is taken over by the path's upstream. -/
def addPathLocation (ing : Ingress) (ups : Backend) (path : Networking.HTTPIngressPath)
    (server : Server) : Server :=
  let newLoc := pathLocation ing ups path
  let added := { server with
    locations := server.locations ++ [newLoc]
    redirectFromToWWW := server.redirectFromToWWW || newLoc.redirect.fromToWWW }
  match server.locations.find? (·.path = nginxPathOf path) with
  | none => added
  | some loc =>
    if loc.pathType ≠ path.pathType then added
    else if !loc.isDefBackend then server
    else
      let loc' := locationApplyAnnotations
        { loc with
          backend := ups.name, isDefBackend := false, port := ups.port, service := ups.service
          ingress := some ing } ing.parsedAnnotations
      { server with
        locations := server.locations.replace loc loc'
        redirectFromToWWW := server.redirectFromToWWW || loc'.redirect.fromToWWW }

@[simp] lemma addPathLocation_hostname (ing : Ingress) (ups : Backend)
    (path : Networking.HTTPIngressPath) (server : Server) :
    (addPathLocation ing ups path server).hostname = server.hostname := by
  unfold addPathLocation
  dsimp only
  split
  · rfl
  · split_ifs <;> rfl

/-- The session affinity a path gives its upstream: type and mode if unset, and for cookie
affinity the cookie settings and the path under the host and each alias. Writing into the
`nil` map of cookie locations of the default upstream panics. -/
def affinityUpstream (anns : Annotations.Ingress) (host : String) (aliases : List String)
    (path : String) (ups : Backend) : Option Backend :=
  let sa := ups.sessionAffinity
  let sa := if sa.affinityType = "" then { sa with affinityType := anns.sessionAffinity.type } else sa
  let sa := if sa.affinityMode = "" then { sa with affinityMode := anns.sessionAffinity.mode } else sa
  if anns.sessionAffinity.type ≠ "cookie" then some { ups with sessionAffinity := sa }
  else
    let c := anns.sessionAffinity.cookie
    match sa.cookieSessionAffinity.locations with
    | none => none
    | some locs =>
      let locs := (host :: aliases).foldl
        (fun locs h => locs.insert h ((locs.lookup h).getD [] ++ [path])) locs
      some { ups with
        sessionAffinity := { sa with
          cookieSessionAffinity := { sa.cookieSessionAffinity with
            name := c.name, expires := c.expires, maxAge := c.maxAge, path := c.path
            sameSite := c.sameSite, conditionalSameSiteNone := c.conditionalSameSiteNone
            changeOnFailure := c.changeOnFailure, locations := some locs } } }

/-- One path of a rule in the location loop; `serverKey` is the server the rule's
locations go to. -/
def addPath (ing : Ingress) (host serverKey : String) (b : Build)
    (path : Networking.HTTPIngressPath) : Option Build := do
  let upsName := upstreamName ing.ingress.ns path.backend.serviceName path.backend.servicePort
  let ups ← b.upstreams.lookup upsName
  if ups.noServer then return b
  let server ← b.servers.lookup serverKey
  let server := addPathLocation ing ups path server
  let ups ← affinityUpstream ing.parsedAnnotations host server.aliases path.path ups
  return { upstreams := b.upstreams.insert upsName ups, servers := b.servers.insert serverKey server }

/-- One rule in the location loop. A rule without HTTP section configures only the
catch-all server's settings. -/
def addRule (proxySSLLocationOnly : Bool) (ing : Ingress) (b : Build)
    (rule : Networking.IngressRule) : Option Build := do
  let host := ruleHost rule
  let serverKey := if host ∈ b.servers then host else defServerName
  if rule.http.isNone ∧ host ≠ defServerName then return b
  let server ← b.servers.lookup serverKey
  let b := { b with
    servers := b.servers.insert serverKey
      (configureRuleServer proxySSLLocationOnly ing.parsedAnnotations server) }
  match rule.http with
  | none => return b
  | some paths => paths.foldlM (addPath ing host serverKey) b

/-- The location loop over all ingresses. -/
def locationLoop (proxySSLLocationOnly : Bool) (ingresses : List Ingress) (b : Build) :
    Option Build :=
  ingresses.foldlM (fun b ing => ing.ingress.rules.foldlM (addRule proxySSLLocationOnly ing) b) b

/-! ### Canaries -/

/-- `nonCanaryIngressExists`. -/
def nonCanaryIngressExists (ingresses canaryIngresses : List Ingress) : Bool :=
  decide (ingresses.length - canaryIngresses.length > 0)

/-- `canMergeBackend`: the primary is another upstream than the alternative, not the
default upstream, and serves a server. -/
def canMergeBackend (primary alternative : Backend) : Bool :=
  primary.name != alternative.name && primary.name != defUpstreamName && !primary.noServer

/-- `mergeAlternativeBackend`: add the alternative's name to the primary's alternatives
once; refused for a primary that serves no server. -/
def mergeAlternativeBackend (priUps altUps : Backend) : Backend × Bool :=
  if priUps.noServer then (priUps, false)
  else if altUps.name ∈ priUps.alternativeBackends.elems then (priUps, true)
  else ({ priUps with alternativeBackends := Go.append priUps.alternativeBackends [altUps.name] },
    true)

/-- The scan of `mergeAlternativeBackends` over a server's locations: stop at a location
served by the alternative itself, else merge into every mergeable location that `locMatches` accepts.
Returns the upstreams, `merged` and `altEqualsPri`. `locMatches` is evaluated only for a
mergeable primary, as the source's `&&` does, and may panic. -/
def mergeScan (altUps : Backend) (locMatches : Location → Option Bool) :
    List Location → Go.Map String Backend → Bool → Option (Go.Map String Backend × Bool × Bool)
  | [], upstreams, merged => some (upstreams, merged, false)
  | loc :: locs, upstreams, merged => do
    let priUps ← upstreams.lookup loc.backend
    if altUps.name = priUps.name then return (upstreams, merged, true)
    let go ← if canMergeBackend priUps altUps then locMatches loc else pure false
    if go then
      let (priUps, merged) := mergeAlternativeBackend priUps altUps
      mergeScan altUps locMatches locs (upstreams.insert loc.backend priUps) merged
    else mergeScan altUps locMatches locs upstreams merged

/-- Merge a canary upstream through the locations of a server, deleting it when nothing
took it and no location is served by it. -/
def mergeInto (altUps : Backend) (locMatches : Location → Option Bool) (server : Server)
    (upstreams : Go.Map String Backend) : Option (Go.Map String Backend) := do
  let (upstreams, merged, altEqualsPri) ← mergeScan altUps locMatches server.locations upstreams false
  return if !altEqualsPri ∧ !merged then upstreams.erase altUps.name else upstreams

/-- The location condition of a canary path: same path and same path type, dereferencing
both type pointers. -/
def pathMatches (path : Networking.HTTPIngressPath) (loc : Location) : Option Bool :=
  if loc.path = path.path then do
    let locType ← loc.pathType
    let pathType ← path.pathType
    return locType == pathType
  else some false

/-- The catch-all part of `mergeAlternativeBackends`: a canary's catch-all upstream into
the locations of the catch-all server. -/
def mergeCatchAll (ing : Ingress) (b : Build) : Option (Go.Map String Backend) :=
  match ing.ingress.backend with
  | none => pure b.upstreams
  | some backend =>
    match b.upstreams.lookup (upstreamName ing.ingress.ns backend.serviceName backend.servicePort) with
    | none => pure b.upstreams
    | some altUps => do
      let server ← b.servers.lookup defServerName
      mergeInto altUps (fun _ => some true) server b.upstreams

/-- A canary path's upstream into the locations of its host's server. -/
def mergePath (ing : Ingress) (servers : Go.Map String Server) (host : String)
    (upstreams : Go.Map String Backend) (path : Networking.HTTPIngressPath) :
    Option (Go.Map String Backend) :=
  match upstreams.lookup
      (upstreamName ing.ingress.ns path.backend.serviceName path.backend.servicePort) with
  | none => pure upstreams
  | some altUps =>
    match servers.lookup host with
    | none => pure upstreams
    | some server => mergeInto altUps (pathMatches path) server upstreams

/-- A canary rule's paths; `rule.HTTP.Paths` panics on a rule without HTTP section. -/
def mergeRule (ing : Ingress) (servers : Go.Map String Server)
    (upstreams : Go.Map String Backend) (rule : Networking.IngressRule) :
    Option (Go.Map String Backend) := do
  let paths ← rule.http
  paths.foldlM (mergePath ing servers (ruleHost rule)) upstreams

/-- `mergeAlternativeBackends` for one canary ingress: its catch-all backend into the
catch-all server, then each path's backend into the server of its host. Servers are not
changed. -/
def mergeAlternativeBackends (ing : Ingress) (b : Build) : Option Build := do
  let upstreams ← mergeCatchAll ing b
  let upstreams ← ing.ingress.rules.foldlM (mergeRule ing b.servers) upstreams
  return { b with upstreams := upstreams }

/-- The canary ingresses, set aside by the location loop, merged in order when some
ingress is no canary. -/
def mergeCanaries (ingresses : List Ingress) (b : Build) : Option Build :=
  let canaryIngresses := ingresses.filter (·.parsedAnnotations.canary.enabled)
  if nonCanaryIngressExists ingresses canaryIngresses then
    canaryIngresses.foldlM (fun b ing => mergeAlternativeBackends ing b) b
  else pure b

/-! ### Custom default backends -/

namespace NGINXController

variable (n : NGINXController)

/-- One location in the custom default backend loop of `upstream`: the upstream it gets
for its `default-backend` service when that has endpoints (becoming its backend when
`upstream` has none), the location as updated, and whether it makes `upstream` an SSL
passthrough upstream. -/
def customDefaultBackendFor (upstream : Backend) (server : Server) (location : Location) :
    List Backend × Location × Bool :=
  match shouldCreateUpstreamForLocationDefaultBackend upstream location,
      location.defaultBackend with
  | true, some svc =>
    match svc.ports with
    | [] => ([], location, false)
    | sp :: _ =>
      let endps := getEndpoints n.ext svc sp Core.protocolTCP n.store.getServiceEndpoints
      let (nbs, location) :=
        if endps.isEmpty then ([], location)
        else
          let name := "custom-default-backend-" ++ svc.name
          let location := { location with defaultBackendUpstreamName := name }
          ([{ upstream with name := name, endpoints := some endps }],
            if upstream.endpoints.elems.isEmpty then { location with backend := name } else location)
      (nbs, location,
        server.sslPassthrough && location.path == rootLocation && location.backend != defUpstreamName)
  | _, _ => ([], location, false)

/-- The locations of one server in the custom default backend loop of `upstream`. -/
def customDefaultBackendsIn (upstream : Backend) (server : Server) :
    List Backend × Server × Bool :=
  let (nbs, locations, https) := server.locations.foldl (fun (nbs, locations, https) location =>
    let (nb, location, h) := n.customDefaultBackendFor upstream server location
    (nbs ++ nb, locations ++ [location], https || h)) ([], [], false)
  (nbs, { server with locations := locations }, https)

/-- The custom default backend loop of one upstream over all servers. -/
def customDefaultBackendsOf (ord : Go.RangeOrder RangeSite String) (upstream : Backend)
    (servers : Go.Map String Server) : List Backend × Go.Map String Server × Bool :=
  (servers.range ord .serversOfUpstream).foldl (fun (nbs, servers, https) (key, server) =>
    let (nb, server, h) := n.customDefaultBackendsIn upstream server
    (nbs ++ nb, servers.insert key server, https || h)) ([], servers, false)

/-- The upstream list of `getBackendServers`: every upstream, each followed by the custom
default backends of its locations, with the servers' locations updated. -/
def customDefaultBackends (ord : Go.RangeOrder RangeSite String) (b : Build) :
    List Backend × Go.Map String Server :=
  (b.upstreams.range ord .upstreams).foldl (fun (aUpstreams, servers) (_, upstream) =>
    if upstream.name = defUpstreamName then (aUpstreams ++ [upstream], servers)
    else
      let (nbs, servers, https) := n.customDefaultBackendsOf ord upstream servers
      let upstream := if https then { upstream with sslPassthrough := true } else upstream
      (aUpstreams ++ upstream :: nbs, servers)) ([], b.servers)

end NGINXController

/-! ### The result -/

/-- The two stable sorts of a server's locations: by path, descending, then by length,
descending. -/
def sortLocations (locations : List Location) : List Location :=
  Go.sliceStable (fun a b => decide (Go.len a.path > Go.len b.path))
    (Go.sliceStable (fun a b => decide (a.path > b.path)) locations)

/-- `getBackendServers`: the upstreams sorted by name and the servers sorted by hostname,
or `none` when the source panics. -/
def NGINXController.getBackendServers (n : NGINXController) (ord : Go.RangeOrder RangeSite String)
    (ingresses : List Ingress) : Option (List Backend × List Server) := do
  let du ← n.getDefaultUpstream
  let upstreams := n.createUpstreams ingresses du
  let servers ← n.createServers ord ingresses upstreams du
  let b ← locationLoop n.store.backendConfig.proxySSLLocationOnly ingresses
    { upstreams := upstreams, servers := servers }
  let b ← mergeCanaries ingresses b
  let (aUpstreams, servers) := n.customDefaultBackends ord b
  let aServers := (servers.range ord .servers).map fun (_, server) =>
    { server with locations := sortLocations server.locations }
  return (Go.sliceStable (fun a b => decide (a.name < b.name)) aUpstreams,
    Go.sliceStable (fun a b => decide (a.hostname < b.hostname)) aServers)

/-! ### Panics -/

/-- A canary ingress with a rule without HTTP section makes `mergeAlternativeBackends`
dereference the rule's `nil` HTTP section, whatever its catch-all backend does. -/
lemma mergeAlternativeBackends_eq_none {ing : Ingress}
    (hrule : ∃ rule ∈ ing.ingress.rules, rule.http = none) (b : Build) :
    mergeAlternativeBackends ing b = none := by
  obtain ⟨rule, hmem, hnil⟩ := hrule
  have hrules : ∀ upstreams, ing.ingress.rules.foldlM (mergeRule ing b.servers) upstreams = none :=
    Go.foldlM_eq_none_of_mem hmem fun _ => by simp [mergeRule, hnil]
  simp [mergeAlternativeBackends, bind, hrules]

/-- `getBackendServers` panics as soon as a canary ingress has a rule without HTTP section
(a host-only rule, which the store keeps as it is) and some ingress is no canary. -/
theorem NGINXController.getBackendServers_eq_none_of_canary_rule_without_http
    (n : NGINXController) (ord : Go.RangeOrder RangeSite String) (ingresses : List Ingress)
    (hcanary : ∃ ing ∈ ingresses, ing.parsedAnnotations.canary.enabled = true ∧
      ∃ rule ∈ ing.ingress.rules, rule.http = none)
    (hprimary : ∃ ing ∈ ingresses, ing.parsedAnnotations.canary.enabled = false) :
    n.getBackendServers ord ingresses = none := by
  obtain ⟨canary, hmem, hcan, hrule⟩ := hcanary
  obtain ⟨primary, hpmem, hpri⟩ := hprimary
  -- the primary ingress lets the merge run, and the canary's rule makes it panic
  have hexists : nonCanaryIngressExists ingresses
      (ingresses.filter (·.parsedAnnotations.canary.enabled)) = true := by
    have hlt : (ingresses.filter (·.parsedAnnotations.canary.enabled)).length < ingresses.length :=
      List.length_filter_lt_length_iff_exists.mpr ⟨primary, hpmem, by simp [hpri]⟩
    simp only [nonCanaryIngressExists, decide_eq_true_eq]
    omega
  have hmerge : ∀ b, mergeCanaries ingresses b = none := fun b => by
    simp only [mergeCanaries, hexists, if_true]
    exact Go.foldlM_eq_none_of_mem (List.mem_filter.mpr ⟨hmem, hcan⟩)
      (mergeAlternativeBackends_eq_none hrule) b
  simp [getBackendServers, bind, hmerge]

/-- An ingress routing `shop.example.com/` to service `web`. -/
def webIngress : Ingress where
  ingress :=
    { (default : Networking.Ingress) with
      ns := "shop"
      rules := [{ host := "shop.example.com"
                  http := some [{ path := "/", pathType := some .Prefix
                                  backend := ⟨"web", .int 80⟩ }] }] }
  parsedAnnotations := default

/-- A canary of it, with a catch-all backend and a rule that names the host only. -/
def canaryHostIngress : Ingress where
  ingress :=
    { (default : Networking.Ingress) with
      ns := "shop", backend := some ⟨"web-canary", .int 80⟩
      rules := [{ host := "shop.example.com", http := none }] }
  parsedAnnotations :=
    { (default : Annotations.Ingress) with
      canary := { (default : Canary.Config) with enabled := true } }

/-- A web ingress and a canary of it whose rule only names a host. -/
theorem NGINXController.getBackendServers_canary_host_rule_panics :
    (∃ ing ∈ [webIngress, canaryHostIngress], ing.parsedAnnotations.canary.enabled = true ∧
      ∃ rule ∈ ing.ingress.rules, rule.http = none) ∧
    (∃ ing ∈ [webIngress, canaryHostIngress], ing.parsedAnnotations.canary.enabled = false) ∧
    (⟨default, default, ⟨fun _ => none, fun _ => true, fun _ _ => false⟩⟩ :
      NGINXController).getBackendServers .keyOrder [webIngress, canaryHostIngress] = none :=
  ⟨⟨canaryHostIngress, by simp, rfl, ⟨"shop.example.com", none⟩, by simp [canaryHostIngress], rfl⟩,
    ⟨webIngress, by simp, rfl⟩,
    getBackendServers_eq_none_of_canary_rule_without_http _ _ _
      ⟨canaryHostIngress, by simp, rfl, ⟨"shop.example.com", none⟩, by simp [canaryHostIngress], rfl⟩
      ⟨webIngress, by simp, rfl⟩⟩

end IngressNginx
