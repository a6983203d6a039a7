import IngressNginx.Types

/-!
# Equality of configurations

`internal/ingress/types_equals.go`: the `Equal` methods by which `syncIngress` decides that
a new configuration is the running one and skips the reload.

Each method starts with `if a == b { return true }` on its receivers and then compares
field by field. Receivers are compared by value here, as in `Annotations`: the one pointer
compared by identity inside them, `Location.Denied`, is a `Go.Ptr`, so two distinct copies
of a location are told apart exactly as the source tells them apart. A field the source
leaves out is left out here.

The comparisons come in four shapes, each one definition below: services by namespace and
name (`sameService`), slices as multisets (`Sets.compare`), slices position by position
(`sameInOrder`), and the loop of `Server.Equal` and `Configuration.Equal` that looks each
element of one slice up in the other after comparing lengths (`foundAll`).
-/

namespace IngressNginx

/-! ### The shapes of comparison -/

/-- `a.Service != b.Service` followed by the `nil` checks and the comparison of
`GetNamespace()` and `GetName()`, as `Backend`, `Location` and `SSLPassthroughBackend` make
it. -/
def sameService : Option Core.Service → Option Core.Service → Bool
  | none, none => true
  | some s₁, some s₂ => s₁.ns == s₂.ns && s₁.name == s₂.name
  | _, _ => false

/-- Two slices of the same length whose elements at each index are equal, as the loops
over `Servers` and `Locations` compare them. -/
def sameInOrder {α : Type} (eq : α → α → Bool) (xs ys : List α) : Bool :=
  xs.length == ys.length && (xs.zip ys).all fun p => eq p.1 p.2

/-- `len(xs) == len(ys)`, then every element of `xs` found in `ys`: the loop of
`Server.Equal` over `Aliases` and of `Configuration.Equal` over `PassthroughBackends`. -/
def foundAll {α : Type} (eq : α → α → Bool) (xs ys : List α) : Bool :=
  xs.length == ys.length && xs.all fun x => ys.any (eq x)

/-! ### Upstreams -/

/-- `(*Endpoint).Equal`: address, port, and the target's UID and resource version. -/
def Endpoint.equal (e1 e2 : Endpoint) : Bool :=
  e1.address == e2.address && e1.port == e2.port &&
    match e1.target, e2.target with
    | none, none => true
    | some t1, some t2 => t1.uid == t2.uid && t1.resourceVersion == t2.resourceVersion
    | _, _ => false

/-- `compareEndpoints`. -/
def compareEndpoints (a b : Go.Slice Endpoint) : Bool :=
  Sets.compare a b Endpoint.equal

/-- `TrafficShapingPolicy.Equal`. -/
def TrafficShapingPolicy.equal (tsp1 tsp2 : TrafficShapingPolicy) : Bool :=
  tsp1.weight == tsp2.weight && tsp1.header == tsp2.header &&
    tsp1.headerValue == tsp2.headerValue && tsp1.headerPattern == tsp2.headerPattern &&
    tsp1.cookie == tsp2.cookie

/-- `(*CookieSessionAffinity).Equal`; `Locations` and `ChangeOnFailure` are not compared. -/
def CookieSessionAffinity.equal (csa1 csa2 : CookieSessionAffinity) : Bool :=
  csa1.name == csa2.name && csa1.path == csa2.path && csa1.expires == csa2.expires &&
    csa1.maxAge == csa2.maxAge && csa1.sameSite == csa2.sameSite &&
    csa1.conditionalSameSiteNone == csa2.conditionalSameSiteNone

/-- `(*SessionAffinityConfig).Equal`. -/
def SessionAffinityConfig.equal (sac1 sac2 : SessionAffinityConfig) : Bool :=
  sac1.affinityType == sac2.affinityType && sac1.affinityMode == sac2.affinityMode &&
    sac1.cookieSessionAffinity.equal sac2.cookieSessionAffinity

/-- `(*Backend).Equal`. -/
def Backend.equal (b1 b2 : Backend) : Bool :=
  b1.name == b2.name && b1.noServer == b2.noServer && sameService b1.service b2.service &&
    b1.port == b2.port && b1.sslPassthrough == b2.sslPassthrough &&
    b1.sessionAffinity.equal b2.sessionAffinity && b1.upstreamHashBy == b2.upstreamHashBy &&
    b1.loadBalancing == b2.loadBalancing && compareEndpoints b1.endpoints b2.endpoints &&
    b1.trafficShapingPolicy.equal b2.trafficShapingPolicy &&
    Sets.stringElementsMatch b1.alternativeBackends b2.alternativeBackends

/-- `compareBackends`. -/
def compareBackends (a b : Go.Slice Backend) : Bool :=
  Sets.compare a b Backend.equal

/-! ### Servers -/

/-- `(*SSLCert).Equal` on two pointers that may be `nil`. -/
def SSLCert.equal : Option SSLCert → Option SSLCert → Bool
  | none, none => true
  | some s1, some s2 =>
    s1.caSHA == s2.caSHA && s1.crlSHA == s2.crlSHA && s1.pemSHA == s2.pemSHA &&
      s1.expireTime == s2.expireTime && s1.pemCertKey == s2.pemCertKey && s1.uid == s2.uid &&
      Sets.stringElementsMatch s1.cn s2.cn
  | _, _ => false

/-- `compareInts`. -/
def compareInts (a b : Go.Slice Int) : Bool :=
  Sets.compare a b (· == ·)

/-- `(*Location).Equal`. `Denied` is compared as a pointer; `PathType`, `Ingress`,
`IngressPath`, `ProxySSL` and `DefaultBackend` are not compared. -/
def Location.equal (l1 l2 : Location) : Bool :=
  l1.path == l2.path && l1.isDefBackend == l2.isDefBackend && l1.backend == l2.backend &&
    sameService l1.service l2.service && l1.port.toString == l2.port.toString &&
    l1.basicDigestAuth.equal l2.basicDigestAuth && Go.Ptr.same l1.denied l2.denied &&
    l1.corsConfig.equal l2.corsConfig && l1.externalAuth.equal l2.externalAuth &&
    l1.enableGlobalAuth == l2.enableGlobalAuth && l1.http2PushPreload == l2.http2PushPreload &&
    l1.rateLimit.equal l2.rateLimit && l1.globalRateLimit.equal l2.globalRateLimit &&
    l1.redirect.equal l2.redirect && l1.rewrite.equal l2.rewrite &&
    l1.whitelist.equal l2.whitelist && l1.proxy.equal l2.proxy &&
    l1.usePortInRedirects == l2.usePortInRedirects &&
    l1.configurationSnippet == l2.configurationSnippet &&
    l1.clientBodyBufferSize == l2.clientBodyBufferSize &&
    l1.upstreamVhost == l2.upstreamVhost && l1.xForwardedPrefix == l2.xForwardedPrefix &&
    l1.connection.equal l2.connection && l1.logs.equal l2.logs &&
    l1.influxDB.equal l2.influxDB && l1.backendProtocol == l2.backendProtocol &&
    l1.fastCGI.equal l2.fastCGI && compareInts l1.customHTTPErrors l2.customHTTPErrors &&
    l1.modSecurity.equal l2.modSecurity && l1.satisfy == l2.satisfy &&
    l1.defaultBackendUpstreamName == l2.defaultBackendUpstreamName &&
    l1.opentracing.equal l2.opentracing && l1.mirror.equal l2.mirror

/-- `(*Server).Equal`; `ProxySSL` is not compared. -/
def Server.equal (s1 s2 : Server) : Bool :=
  s1.hostname == s2.hostname && s1.sslPassthrough == s2.sslPassthrough &&
    SSLCert.equal s1.sslCert s2.sslCert && foundAll (· == ·) s1.aliases s2.aliases &&
    s1.redirectFromToWWW == s2.redirectFromToWWW &&
    s1.certificateAuth.equal s2.certificateAuth && s1.serverSnippet == s2.serverSnippet &&
    s1.sslCiphers == s2.sslCiphers && s1.sslPreferServerCiphers == s2.sslPreferServerCiphers &&
    s1.authTLSError == s2.authTLSError && sameInOrder Location.equal s1.locations s2.locations

/-! ### Streams and the configuration -/

/-- `(*SSLPassthroughBackend).Equal`. -/
def SSLPassthroughBackend.equal (ptb1 ptb2 : SSLPassthroughBackend) : Bool :=
  ptb1.backend == ptb2.backend && ptb1.hostname == ptb2.hostname && ptb1.port == ptb2.port &&
    sameService ptb1.service ptb2.service

/-- `(*L4Backend).Equal`. -/
def L4Backend.equal (l4b1 l4b2 : L4Backend) : Bool :=
  l4b1.port == l4b2.port && l4b1.name == l4b2.name && l4b1.ns == l4b2.ns &&
    l4b1.protocol == l4b2.protocol && l4b1.proxyProtocol == l4b2.proxyProtocol

/-- `(*L4Service).Equal`; `Service` is not compared. -/
def L4Service.equal (e1 e2 : L4Service) : Bool :=
  e1.port == e2.port && e1.backend.equal e2.backend && compareEndpoints e1.endpoints e2.endpoints

/-- `compareL4Service`. -/
def compareL4Service (a b : Go.Slice L4Service) : Bool :=
  Sets.compare a b L4Service.equal

/-- `(*Configuration).Equal`; `ConfigurationChecksum` is not compared. -/
def Configuration.equal (c1 c2 : Configuration) : Bool :=
  SSLCert.equal c1.defaultSSLCertificate c2.defaultSSLCertificate &&
    compareBackends c1.backends c2.backends &&
    sameInOrder Server.equal c1.servers c2.servers &&
    compareL4Service c1.tcpEndpoints c2.tcpEndpoints &&
    compareL4Service c1.udpEndpoints c2.udpEndpoints &&
    foundAll SSLPassthroughBackend.equal c1.passthroughBackends c2.passthroughBackends &&
    c1.backendConfigChecksum == c2.backendConfigChecksum

/-! ### Reflexivity -/

section Refl

variable {α : Type} {eq : α → α → Bool} {xs : List α}

@[simp] lemma sameInOrder_singleton (x y : α) : sameInOrder eq [x] [y] = eq x y := by
  simp [sameInOrder]

@[simp] lemma sameService_refl (s : Option Core.Service) : sameService s s = true := by
  cases s <;> simp [sameService]

@[simp] lemma sameInOrder_refl (h : ∀ x ∈ xs, eq x x = true) : sameInOrder eq xs xs = true := by
  induction xs with
  | nil => rfl
  | cons x xs ih =>
    have hrest := ih fun y hy => h y (List.mem_cons_of_mem x hy)
    simp only [sameInOrder, beq_self_eq_true, Bool.true_and, List.all_eq_true] at hrest ⊢
    intro p hp
    rw [List.zip_cons_cons, List.mem_cons] at hp
    rcases hp with rfl | hp
    · exact h x List.mem_cons_self
    · exact hrest p hp

@[simp] lemma foundAll_refl (h : ∀ x ∈ xs, eq x x = true) : foundAll eq xs xs = true := by
  simp only [foundAll, beq_self_eq_true, Bool.true_and, List.all_eq_true, List.any_eq_true]
  exact fun x hx => ⟨x, hx, h x hx⟩

@[simp] lemma Endpoint.equal_refl (e : Endpoint) : e.equal e = true := by
  cases h : e.target <;> simp [Endpoint.equal, h]

@[simp] lemma compareEndpoints_refl (a : Go.Slice Endpoint) : compareEndpoints a a = true :=
  Sets.compare_refl a fun e _ => e.equal_refl

@[simp] lemma TrafficShapingPolicy.equal_refl (t : TrafficShapingPolicy) : t.equal t = true := by
  simp [TrafficShapingPolicy.equal]

@[simp] lemma CookieSessionAffinity.equal_refl (c : CookieSessionAffinity) : c.equal c = true := by
  simp [CookieSessionAffinity.equal]

@[simp] lemma SessionAffinityConfig.equal_refl (c : SessionAffinityConfig) : c.equal c = true := by
  simp [SessionAffinityConfig.equal]

@[simp] lemma Backend.equal_refl (b : Backend) : b.equal b = true := by
  simp [Backend.equal]

@[simp] lemma compareBackends_refl (a : Go.Slice Backend) : compareBackends a a = true :=
  Sets.compare_refl a fun b _ => b.equal_refl

@[simp] lemma SSLCert.equal_refl (c : Option SSLCert) : SSLCert.equal c c = true := by
  cases c <;> simp [SSLCert.equal]

@[simp] lemma compareInts_refl (a : Go.Slice Int) : compareInts a a = true :=
  Sets.compare_refl a fun _ _ => beq_self_eq_true _

@[simp] lemma Location.equal_refl (l : Location) : l.equal l = true := by
  simp [Location.equal]

@[simp] lemma Server.equal_refl (s : Server) : s.equal s = true := by
  simp [Server.equal, foundAll_refl, sameInOrder_refl]

@[simp] lemma SSLPassthroughBackend.equal_refl (p : SSLPassthroughBackend) : p.equal p = true := by
  simp [SSLPassthroughBackend.equal]

@[simp] lemma L4Service.equal_refl (e : L4Service) : e.equal e = true := by
  simp [L4Service.equal, L4Backend.equal]

@[simp] lemma compareL4Service_refl (a : Go.Slice L4Service) : compareL4Service a a = true :=
  Sets.compare_refl a fun e _ => e.equal_refl

/-- Every configuration is equal to itself: the comparison relates each value to itself. -/
theorem Configuration.equal_refl (c : Configuration) : c.equal c = true := by
  simp [Configuration.equal, foundAll_refl, sameInOrder_refl]

end Refl

/-! ### What `Equal` does not read -/

section Unread

variable {α : Type} {eq : α → α → Bool}

lemma sameInOrder_map_right {g : α → α} (hg : ∀ a b, eq a (g b) = eq a b) (xs ys : List α) :
    sameInOrder eq xs (ys.map g) = sameInOrder eq xs ys := by
  simp [sameInOrder, List.zip_map_right, Function.comp_def, hg]

/-- `Location.Equal` does not read a location's path type, upstream TLS, custom default
backend, trailing slash rule or authentication request headers. -/
lemma Location.equal_unread (l₁ l₂ : Location) (pathType : Option Networking.PathType)
    (proxySSL : Proxyssl.Config) (defaultBackend : Option Core.Service)
    (preserveTrailingSlash : Bool) (proxySetHeaders : Go.Map String String) :
    l₁.equal { l₂ with
      pathType := pathType, proxySSL := proxySSL, defaultBackend := defaultBackend
      rewrite := { l₂.rewrite with preserveTrailingSlash := preserveTrailingSlash }
      externalAuth := { l₂.externalAuth with proxySetHeaders := proxySetHeaders } } =
      l₁.equal l₂ :=
  rfl

/-- `Backend.Equal` does not read an upstream's cookie locations or change-on-failure flag. -/
lemma Backend.equal_unread (b₁ b₂ : Backend) (locations : Option (Go.Map String (List String)))
    (changeOnFailure : Bool) :
    b₁.equal { b₂ with
      sessionAffinity := { b₂.sessionAffinity with
        cookieSessionAffinity := { b₂.sessionAffinity.cookieSessionAffinity with
          locations := locations, changeOnFailure := changeOnFailure } } } =
      b₁.equal b₂ :=
  rfl

/-- `Server.Equal` does not read a server's upstream TLS, nor what `Location.Equal` does not
read of its locations. -/
lemma Server.equal_unread (s₁ s₂ : Server) (proxySSL : Proxyssl.Config) (g : Location → Location)
    (hg : ∀ l₁ l₂ : Location, l₁.equal (g l₂) = l₁.equal l₂) :
    s₁.equal { s₂ with proxySSL := proxySSL, locations := s₂.locations.map g } = s₁.equal s₂ := by
  simp only [Server.equal, sameInOrder_map_right hg]

end Unread

theorem Configuration.equal_ignores_rendered_fields (c : Configuration)
    (pathType : Location → Option Networking.PathType) (proxySSL : Location → Proxyssl.Config)
    (defaultBackend : Location → Option Core.Service) (preserveTrailingSlash : Location → Bool)
    (proxySetHeaders : Location → Go.Map String String)
    (serverProxySSL : Server → Proxyssl.Config)
    (cookieLocations : Backend → Option (Go.Map String (List String)))
    (changeOnFailure : Backend → Bool) :
    c.equal { c with
      backends := c.backends.map (List.map fun b =>
        { b with
          sessionAffinity := { b.sessionAffinity with
            cookieSessionAffinity := { b.sessionAffinity.cookieSessionAffinity with
              locations := cookieLocations b, changeOnFailure := changeOnFailure b } } })
      servers := c.servers.map fun s =>
        { s with
          proxySSL := serverProxySSL s
          locations := s.locations.map fun l =>
            { l with
              pathType := pathType l, proxySSL := proxySSL l, defaultBackend := defaultBackend l
              rewrite := { l.rewrite with preserveTrailingSlash := preserveTrailingSlash l }
              externalAuth := { l.externalAuth with proxySetHeaders := proxySetHeaders l } } } } =
      true := by
  -- each comparison reads of the changed configuration only what it shares with `c`
  have hservers := sameInOrder_map_right
    (fun s₁ s₂ => Server.equal_unread s₁ s₂ (serverProxySSL s₂) _
      fun l₁ l₂ => Location.equal_unread l₁ l₂ (pathType l₂) (proxySSL l₂) (defaultBackend l₂)
        (preserveTrailingSlash l₂) (proxySetHeaders l₂)) c.servers c.servers
  have hbackends := Sets.compare_map_right
    (fun b₁ b₂ => Backend.equal_unread b₁ b₂ (cookieLocations b₂) (changeOnFailure b₂))
    c.backends c.backends
  have hrefl := c.equal_refl
  simp only [Configuration.equal, compareBackends] at hrefl ⊢
  rw [hservers, hbackends]
  exact hrefl

/-- `Configuration.Equal` is not symmetric: `Server.Equal` compares the numbers of aliases and
then looks each alias of the first server up in the second, so a repeated alias hides a
missing one. Nor does it relate a configuration to its deep copy: a location's `Denied`
message is compared as a pointer, which the copy moves to a new address. -/
theorem Configuration.equal_not_equivalence (c : Configuration) (s : Server) (l : Location)
    (a b : String) (hab : a ≠ b) (p : Go.Ptr String) (addr : Nat) (haddr : addr ≠ p.addr) :
    (Configuration.equal { c with servers := [{ s with aliases := [a, a] }] }
        { c with servers := [{ s with aliases := [a, b] }] } = true ∧
      Configuration.equal { c with servers := [{ s with aliases := [a, b] }] }
        { c with servers := [{ s with aliases := [a, a] }] } = false) ∧
    Configuration.equal { c with servers := [{ s with locations := [{ l with denied := some p }] }] }
      { c with servers := [{ s with locations := [{ l with denied := some ⟨addr, p.val⟩ }] }] } =
      false := by
  -- a repeated alias is found, and a missing one is not
  have hfound : foundAll (· == ·) [a, a] [a, b] = true := by simp [foundAll]
  have hmissing : foundAll (· == ·) [a, b] [a, a] = false := by simp [foundAll, hab.symm]
  have hdenied : Go.Ptr.same (some p) (some ⟨addr, p.val⟩) = false := by
    simp [Go.Ptr.same, Ne.symm haddr]
  refine ⟨⟨?_, ?_⟩, ?_⟩
  · simp [Configuration.equal, Server.equal, hfound]
  · simp [Configuration.equal, Server.equal, hmissing]
  · simp [Configuration.equal, Server.equal, Location.equal, hdenied]

theorem Configuration.equal_not_equivalence_shop :
    "www.shop.example.com" ≠ "shop.example.com" ∧ 2 ≠ (⟨1, "blocked"⟩ : Go.Ptr String).addr ∧
    (Configuration.equal { (default : Configuration) with
          servers := [{ (default : Server) with
            aliases := ["www.shop.example.com", "www.shop.example.com"] }] }
        { (default : Configuration) with
          servers := [{ (default : Server) with
            aliases := ["www.shop.example.com", "shop.example.com"] }] } = true ∧
      Configuration.equal { (default : Configuration) with
          servers := [{ (default : Server) with
            aliases := ["www.shop.example.com", "shop.example.com"] }] }
        { (default : Configuration) with
          servers := [{ (default : Server) with
            aliases := ["www.shop.example.com", "www.shop.example.com"] }] } = false) ∧
    Configuration.equal { (default : Configuration) with
        servers := [{ (default : Server) with
          locations := [{ (default : Location) with denied := some ⟨1, "blocked"⟩ }] }] }
      { (default : Configuration) with
        servers := [{ (default : Server) with
          locations := [{ (default : Location) with denied := some ⟨2, "blocked"⟩ }] }] } =
      false :=
  ⟨by decide, by decide,
    Configuration.equal_not_equivalence default default default _ _ (by decide) ⟨1, "blocked"⟩ 2
      (by decide)⟩

end IngressNginx
