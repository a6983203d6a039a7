import IngressNginx.Lua.Sync
import IngressNginx.Lib.Random

/-!
# Routing a request to its canary

`balancer.lua` picks the balancer of a request in `get_balancer`: the balancer kept under
`$proxy_upstream_name`, or the balancer of the first alternative backend of that balancer when
`route_to_alternative_balancer` says so. The alternative's traffic shaping policy decides: the
request header it names, when present, then its cookie, then a draw of `math.random(100)`
against its weight. The choice is kept in `ngx.ctx` for the rest of the request, and the
alternative's name is recorded in `$proxy_alternative_upstream_name`.

The controller posts every backend with a policy, but `chashsubset` balancers take neither
the policy nor the alternative backends from it: along every run of posts and ticks a request
to or through such a balancer stays with its upstream (`getBalancer_of_subsets`). For the
other implementations, once a tick picks up backends stored with a newer second, a request to
a backend goes to its first alternative exactly as the alternative's stored policy says, and,
when neither header nor cookie decides, for `weight` of the hundred draws
(`getBalancer_after_newer_backends`). `ngx.var` and
`ngx.re.match` are parameters of the model.
-/

namespace IngressNginx

/-- `util.replace_special_char(str, a, b)`: `string.gsub(str, "%" .. a, b)`, which replaces
every `a` by `b`. -/
def replaceSpecialChar (str : String) (a b : Char) : String :=
  str.map fun c => if c = a then b else c

namespace TrafficShapingPolicy

/-- The header part of `route_to_alternative_balancer`: `some d` where it returns `d`, `none`
where it goes on to the cookie. `var` is `ngx.var`, and `reMatch` is `ngx.re.match`, which
tells whether a header matches a pattern or fails with an error. -/
def byHeader (reMatch : String → String → Except String Bool) (var : String → Option String)
    (policy : TrafficShapingPolicy) : Option Bool :=
  match var ("http_" ++ replaceSpecialChar policy.header '-' '_') with
  | none => none
  | some header =>
    if policy.headerValue.length > 0 then
      if policy.headerValue = header then some true else none
    else if policy.headerPattern.length > 0 then
      match reMatch header policy.headerPattern with
      | .ok true => some true
      | .ok false => none
      | .error _ => some false
    else if header = "always" then some true
    else if header = "never" then some false
    else none

/-- The cookie part: `always` and `never` decide, any other value goes on to the draw. -/
def byCookie (var : String → Option String) (policy : TrafficShapingPolicy) : Option Bool :=
  match var ("cookie_" ++ policy.cookie) with
  | none => none
  | some cookie =>
    if cookie = "always" then some true
    else if cookie = "never" then some false
    else none

/-- What the policy answers for a request and a draw of `math.random(100)`. -/
def routes (reMatch : String → String → Except String Bool) (var : String → Option String)
    (draw : ℤ) (policy : TrafficShapingPolicy) : Bool :=
  ((policy.byHeader reMatch var).or (policy.byCookie var)).getD (draw ≤ policy.weight)

end TrafficShapingPolicy

/-- `balancer.alternative_backends[1]`, `nil` when there are none. -/
def Balancer.firstAlternative (balancer : Balancer) : Option String :=
  balancer.alternativeBackends.bind List.head?

/-- `route_to_alternative_balancer(balancer)` over the worker's `balancers`. -/
def routeToAlternativeBalancer (reMatch : String → String → Except String Bool)
    (var : String → Option String) (draw : ℤ) (balancers : Go.Map String Balancer)
    (balancer : Balancer) : Bool :=
  match balancer.firstAlternative with
  | none => false
  | some backendName =>
    match balancers.lookup backendName with
    | none => false
    | some alternativeBalancer =>
      match alternativeBalancer.trafficShapingPolicy with
      | none => false
      | some policy => policy.routes reMatch var draw

/-- What `get_balancer` keeps of a request: `ngx.ctx.balancer`, and
`$proxy_alternative_upstream_name`. -/
structure RequestCtx where
  balancer : Option Balancer
  proxyAlternativeUpstreamName : String

/-- A request as the location block hands it to `balancer.rewrite()`, which has set
`$proxy_alternative_upstream_name` to `""`. -/
def RequestCtx.init : RequestCtx := ⟨none, ""⟩

/-- `get_balancer()` for a request of the upstream `proxyUpstreamName`: the balancer, and the
request as it leaves it. -/
def getBalancer (reMatch : String → String → Except String Bool) (var : String → Option String)
    (draw : ℤ) (balancers : Go.Map String Balancer) (proxyUpstreamName : String)
    (ctx : RequestCtx) : Option Balancer × RequestCtx :=
  match ctx.balancer with
  | some balancer => (some balancer, ctx)
  | none =>
    match balancers.lookup proxyUpstreamName with
    | none => (none, ctx)
    | some balancer =>
      -- a balancer the routing sends on has a first alternative backend
      match routeToAlternativeBalancer reMatch var draw balancers balancer,
          balancer.firstAlternative with
      | true, some alternativeBackendName =>
        let balancer := balancers.lookup alternativeBackendName
        (balancer, { balancer, proxyAlternativeUpstreamName := alternativeBackendName })
      | _, _ => (some balancer, { ctx with balancer := some balancer })

/-! ### The policy -/

section Policy

variable {reMatch : String → String → Except String Bool} {var : String → Option String}
  {policy : TrafficShapingPolicy} {draw : ℤ}

/-- A header that decides, decides alone. -/
lemma routes_of_byHeader {d : Bool} (h : policy.byHeader reMatch var = some d) :
    policy.routes reMatch var draw = d := by
  rw [TrafficShapingPolicy.routes, h]
  rfl

/-- Otherwise a cookie that decides, decides. -/
lemma routes_of_byCookie {d : Bool} (hheader : policy.byHeader reMatch var = none)
    (hcookie : policy.byCookie var = some d) : policy.routes reMatch var draw = d := by
  rw [TrafficShapingPolicy.routes, hheader, hcookie]
  rfl

/-- With neither deciding, the draw is compared with the weight. -/
lemma routes_of_silent (hheader : policy.byHeader reMatch var = none)
    (hcookie : policy.byCookie var = none) :
    policy.routes reMatch var draw = decide (draw ≤ policy.weight) := by
  rw [TrafficShapingPolicy.routes, hheader, hcookie]
  rfl

end Policy

/-! ### `get_balancer` -/

section GetBalancer

variable {reMatch : String → String → Except String Bool} {var : String → Option String}
  {draw : ℤ} {balancers : Go.Map String Balancer} {upstream : String}

/-- Every later call in a request gets the balancer of the first, whatever its draw. -/
lemma getBalancer_of_ctx {ctx : RequestCtx} {bal : Balancer} (h : ctx.balancer = some bal) :
    getBalancer reMatch var draw balancers upstream ctx = (some bal, ctx) := by
  rw [getBalancer, h]

/-- A request the routing keeps stays with the balancer of its upstream. -/
lemma getBalancer_of_route_false {bal : Balancer} (hbal : balancers.lookup upstream = some bal)
    (hroute : routeToAlternativeBalancer reMatch var draw balancers bal = false) (v : String) :
    getBalancer reMatch var draw balancers upstream ⟨none, v⟩ = (some bal, ⟨some bal, v⟩) := by
  simp only [getBalancer, hbal, hroute]

/-- The first call of a request goes by the policy of the first alternative backend. -/
lemma getBalancer_of_policy {bal alt : Balancer} {name : String} {policy : TrafficShapingPolicy}
    (hbal : balancers.lookup upstream = some bal) (hname : bal.firstAlternative = some name)
    (halt : balancers.lookup name = some alt) (hpolicy : alt.trafficShapingPolicy = some policy)
    (v : String) :
    getBalancer reMatch var draw balancers upstream ⟨none, v⟩ =
      if policy.routes reMatch var draw then (some alt, ⟨some alt, name⟩)
      else (some bal, ⟨some bal, v⟩) := by
  have hroute : routeToAlternativeBalancer reMatch var draw balancers bal =
      policy.routes reMatch var draw := by
    simp only [routeToAlternativeBalancer, hname, halt, hpolicy]
  cases hr : policy.routes reMatch var draw
  · exact getBalancer_of_route_false hbal (hroute.trans hr) v
  · simp only [getBalancer, hbal, hroute, hr, hname, halt, if_true]

end GetBalancer

/-! ### What a balancer keeps for the routing -/

section Canary

variable {impl : Implementation} {self b : Balancer} {backend : Backend}

/-- `new` takes the backend's canary settings, but for `chashsubset`, which sets none. -/
lemma Balancer.new_canary (h : Balancer.new impl backend = some b) :
    b.trafficShapingPolicy =
        (if impl = .chashsubset then none else some backend.trafficShapingPolicy) ∧
      b.alternativeBackends =
        (if impl = .chashsubset then none else backend.luaAlternativeBackends) := by
  cases impl with
  | chashsubset =>
    simp only [Balancer.new, Option.bind_eq_bind, Option.bind_eq_some_iff] at h
    obtain ⟨_, -, h⟩ := h
    cases h
    exact ⟨rfl, rfl⟩
  | stickyBalanced | stickyPersistent =>
    cases h
    simp [Balancer.stickySync]
  | roundRobin | chash | ewma =>
    cases h
    exact ⟨rfl, rfl⟩

/-- `sync` takes the backend's canary settings, but for `chashsubset`, which keeps its own. -/
lemma Balancer.sync_canary (h : self.sync backend = some b) :
    b.trafficShapingPolicy =
        (if self.impl = .chashsubset then self.trafficShapingPolicy
          else some backend.trafficShapingPolicy) ∧
      b.alternativeBackends =
        (if self.impl = .chashsubset then self.alternativeBackends
          else backend.luaAlternativeBackends) := by
  cases himpl : self.impl with
  | roundRobin | chash =>
    rw [sync_of_resty (by simp [himpl])] at h
    cases h
    simp
  | stickyBalanced | stickyPersistent =>
    rw [sync_of_sticky (by simp [himpl])] at h
    cases h
    simp [Balancer.stickySync]
  | chashsubset =>
    simp only [Balancer.sync, himpl] at h
    split_ifs at h
    · cases h
      exact ⟨rfl, rfl⟩
    · -- the subsets are rebuilt in place
      simp only [Option.bind_eq_bind, Option.bind_eq_some_iff, Option.pure_def,
        Option.some.injEq] at h
      obtain ⟨_, -, rfl⟩ := h
      exact ⟨rfl, rfl⟩
  | ewma =>
    simp only [Balancer.sync, himpl] at h
    split_ifs at h <;> cases h <;> exact ⟨rfl, rfl⟩

/-- A `chashsubset` balancer carries no canary settings. -/
def NoCanaryOnSubsets (_name : String) (bal : Balancer) : Prop :=
  bal.impl = .chashsubset → bal.trafficShapingPolicy = none ∧ bal.alternativeBackends = none

lemma keptBySync_noCanaryOnSubsets : KeptBySync NoCanaryOnSubsets where
  new impl backend bal h hsub := by
    have himpl : impl = .chashsubset := (Balancer.new_impl h).symm.trans hsub
    simpa [himpl] using Balancer.new_canary h
  sync self backend bal hself h hsub := by
    have himpl : self.impl = .chashsubset := (Balancer.sync_impl h).symm.trans hsub
    simpa [himpl, hself himpl] using Balancer.sync_canary h

end Canary

/-! ### `chashsubset` and canaries -/

/-- Along every run of posts and ticks from a worker that has synced nothing, whatever the
request's headers, cookies and draw: a request whose upstream's balancer is a `chashsubset`
one, or whose first alternative backend's balancer is, stays with its upstream's balancer. -/
theorem getBalancer_of_subsets (dnsLookup : String → List String)
    (ord : Go.RangeOrder BalancerSite String) (data : ConfigurationData)
    (events : List SyncEvent) (reMatch : String → String → Except String Bool)
    (var : String → Option String) (draw : ℤ) (upstream v : String) {bal : Balancer}
    (hbal : (SyncSystem.run dnsLookup ord ⟨data, Worker.init⟩ events).worker.balancers.lookup
      upstream = some bal)
    (hsubsets : bal.impl = .chashsubset ∨ ∃ name alt, bal.firstAlternative = some name ∧
      (SyncSystem.run dnsLookup ord ⟨data, Worker.init⟩ events).worker.balancers.lookup name =
        some alt ∧ alt.impl = .chashsubset) :
    getBalancer reMatch var draw
        (SyncSystem.run dnsLookup ord ⟨data, Worker.init⟩ events).worker.balancers upstream
        ⟨none, v⟩ = (some bal, ⟨some bal, v⟩) := by
  have hinv : EveryBalancer NoCanaryOnSubsets
      (SyncSystem.run dnsLookup ord ⟨data, Worker.init⟩ events).worker.balancers :=
    EveryBalancer.run keptBySync_noCanaryOnSubsets ord events _ everyBalancer_empty
  apply getBalancer_of_route_false hbal
  rcases hsubsets with hsub | ⟨name, alt, hname, halt, hsub⟩
  · -- the upstream's balancer has no alternative backends
    have hnone := (hinv upstream bal hbal hsub).2
    simp [routeToAlternativeBalancer, Balancer.firstAlternative, hnone]
  · -- the alternative's balancer has no policy
    have hnone := (hinv name alt halt hsub).1
    simp [routeToAlternativeBalancer, hname, halt, hnone]

/-- The upstream `shop-cart-80`, hashed on the client address into subsets of three. -/
def cartSubsetBackend : Backend :=
  { (default : Backend) with
    name := "shop-cart-80"
    endpoints := some [{ address := "10.0.0.1", port := "8080", target := none }]
    upstreamHashBy :=
      { upstreamHashBy := "$remote_addr", upstreamHashBySubset := true,
        upstreamHashBySubsetSize := 3 }
    alternativeBackends := some ["shop-cart-canary-80"] }

/-- The `chashsubset` balancer a worker builds for `shop-cart-80`: one subset, the endpoint
three times. -/
def cartSubsetBalancer : Balancer :=
  { Balancer.empty .chashsubset with
    instanceNodes := some {"set1"}
    hashBy := some "$remote_addr"
    subsets := some [[{ address := "10.0.0.1", port := "8080", target := none },
      { address := "10.0.0.1", port := "8080", target := none },
      { address := "10.0.0.1", port := "8080", target := none }]]
    currentEndpoints := some [{ address := "10.0.0.1", port := "8080", target := none }] }

theorem getBalancer_of_subsets_cart :
    (SyncSystem.run (fun _ => []) .keyOrder ⟨⟨none, none⟩, Worker.init⟩
        [.post [cartSubsetBackend] 5, .syncTick 5]).worker.balancers.lookup "shop-cart-80" =
      some cartSubsetBalancer ∧
    (cartSubsetBalancer.impl = .chashsubset ∨ ∃ name alt,
      cartSubsetBalancer.firstAlternative = some name ∧
      (SyncSystem.run (fun _ => []) .keyOrder ⟨⟨none, none⟩, Worker.init⟩
        [.post [cartSubsetBackend] 5, .syncTick 5]).worker.balancers.lookup name = some alt ∧
      alt.impl = .chashsubset) ∧
    getBalancer (fun _ _ => .ok true) (fun _ => some "always") 1
        (SyncSystem.run (fun _ => []) .keyOrder ⟨⟨none, none⟩, Worker.init⟩
          [.post [cartSubsetBackend] 5, .syncTick 5]).worker.balancers "shop-cart-80"
        ⟨none, ""⟩ = (some cartSubsetBalancer, ⟨some cartSubsetBalancer, ""⟩) :=
  have hbal : (SyncSystem.run (fun _ => []) .keyOrder ⟨⟨none, none⟩, Worker.init⟩
      [.post [cartSubsetBackend] 5, .syncTick 5]).worker.balancers.lookup "shop-cart-80" =
        some cartSubsetBalancer := by
    decide
  ⟨hbal, .inl rfl, getBalancer_of_subsets (fun _ => []) .keyOrder ⟨none, none⟩
    [.post [cartSubsetBackend] 5, .syncTick 5] (fun _ _ => .ok true) (fun _ => some "always") 1
    "shop-cart-80" "" hbal (.inl rfl)⟩

/-! ### After a post -/

section Post

variable {dnsLookup : String → List String} {w w' : Worker} {backend : Backend}

/-- The first alternative backend of a posted backend, as Lua reads it. -/
lemma bind_head_luaAlternativeBackends :
    backend.luaAlternativeBackends.bind List.head? = backend.alternativeBackends.elems.head? := by
  unfold Backend.luaAlternativeBackends
  split_ifs with h
  · rw [h]
    rfl
  · rfl

/-- The pass of a backend that needs no subsets leaves it a balancer with its canary settings. -/
lemma syncNewBackend_canary (h : syncNewBackend dnsLookup w backend = some w')
    (hext : isBackendWithExternalName backend = false) (hempty : backend.luaEndpoints ≠ [])
    (hsub : getImplementation backend ≠ .chashsubset) :
    ∃ bal, w'.balancers.lookup backend.name = some bal ∧
      bal.trafficShapingPolicy = some backend.trafficShapingPolicy ∧
      bal.alternativeBackends = backend.luaAlternativeBackends := by
  rcases syncNewBackend_balancers h with ⟨hext', -⟩ | ⟨-, hsync⟩
  · simp [hext] at hext'
  obtain ⟨endpoints, bal, hbal, hold | hnew⟩ := syncBackend_handed hsync hempty
  · obtain ⟨old, -, himpl, hsync'⟩ := hold
    obtain ⟨hpolicy, halt⟩ := Balancer.sync_canary hsync'
    rw [himpl, if_neg hsub] at hpolicy halt
    exact ⟨bal, by rw [hbal, AList.lookup_insert], hpolicy, halt⟩
  · obtain ⟨hpolicy, halt⟩ := Balancer.new_canary hnew
    rw [if_neg hsub] at hpolicy halt
    exact ⟨bal, by rw [hbal, AList.lookup_insert], hpolicy, halt⟩

/-- A tick that picks up backends stored with a newer second, of distinct names none of which
needs subsets, leaves under the name of a stored backend what that backend's own pass left
there. -/
lemma lookup_of_newer_stamp {Q : Balancer → Prop} (ord : Go.RangeOrder BalancerSite String)
    {backends : List Backend} {t now : Int} (hnewer : w.backendsLastSyncedAt < t)
    (hsubset : ∀ b ∈ backends, getImplementation b ≠ .chashsubset)
    (hnd : (backends.map (·.name)).Nodup) {b : Backend} (hb : b ∈ backends)
    (hpass : ∀ w w', syncNewBackend dnsLookup w b = some w' →
      ∃ bal, w'.balancers.lookup b.name = some bal ∧ Q bal) :
    ∃ bal, (syncBackends dnsLookup ord ⟨some backends, some t⟩ w now).balancers.lookup
      b.name = some bal ∧ Q bal := by
  rw [syncBackends_of_newer_stamp dnsLookup ord hnewer hsubset, pruneBalancers_lookup,
    if_pos (List.mem_map_of_mem hb)]
  -- the pass of `b` leaves the balancer, and the passes of the other names keep it
  refine Lua.runLoop_of_pass hb hpass (fun w y w' hy hw h => ?_)
    (Lua.runLoop_snd (fun w b hb => syncNewBackend_isSome (hsubset b hb) w) w)
  by_cases hyb : y.name = b.name
  · obtain rfl := List.inj_on_of_nodup_map hnd hy hb hyb
    exact hpass _ _ h
  · obtain ⟨bal, hbal, hQ⟩ := hw
    exact ⟨bal, by rwa [syncNewBackend_lookup_ne h hyb], hQ⟩

end Post

open scoped ENNReal in
/-- Take a worker and backends stored with a second after its last sync, of distinct names and
none needing subsets, and the tick that picks them up. Take stored backends `primary` and
`canary`, both with endpoints and neither `ExternalName`, the canary being the primary's first
alternative backend. Whatever a request's headers, cookies and draw of `math.random(100)`,
the first `get_balancer` of a request to the primary's upstream hands it to the canary's
balancer, and records the canary's name, exactly when the canary's stored policy says so;
otherwise it keeps the request with the primary's balancer. When neither the policy's header
nor its cookie decides, a uniform draw hands the request to the canary with probability
`weight / 100`, cut to `[0, 1]`. -/
theorem getBalancer_after_newer_backends (dnsLookup : String → List String)
    (ord : Go.RangeOrder BalancerSite String) (w : Worker) (backends : List Backend)
    (t now : Int) (hnewer : w.backendsLastSyncedAt < t)
    (hsubset : ∀ b ∈ backends, getImplementation b ≠ .chashsubset)
    (hnd : (backends.map (·.name)).Nodup) {primary canary : Backend}
    (hmem : primary ∈ backends ∧ canary ∈ backends)
    (hlive : ∀ b ∈ [primary, canary], isBackendWithExternalName b = false ∧ b.luaEndpoints ≠ [])
    (hfirst : primary.alternativeBackends.elems.head? = some canary.name)
    (reMatch : String → String → Except String Bool) (var : String → Option String) :
    ∃ pbal cbal,
      (syncBackends dnsLookup ord ⟨some backends, some t⟩ w now).balancers.lookup
          primary.name = some pbal ∧
        (syncBackends dnsLookup ord ⟨some backends, some t⟩ w now).balancers.lookup
          canary.name = some cbal ∧
        (∀ draw, getBalancer reMatch var draw
            (syncBackends dnsLookup ord ⟨some backends, some t⟩ w now).balancers
            primary.name RequestCtx.init =
          if canary.trafficShapingPolicy.routes reMatch var draw then
            (some cbal, ⟨some cbal, canary.name⟩)
          else (some pbal, ⟨some pbal, ""⟩)) ∧
        (canary.trafficShapingPolicy.byHeader reMatch var = none →
          canary.trafficShapingPolicy.byCookie var = none → canary.name ≠ "" →
          (Random.uniform (by norm_num : 0 < 100)).toOuterMeasure
              {draw | (getBalancer reMatch var draw
                (syncBackends dnsLookup ord ⟨some backends, some t⟩ w now).balancers
                primary.name RequestCtx.init).2.proxyAlternativeUpstreamName = canary.name} =
            ((min canary.trafficShapingPolicy.weight 100).toNat : ℝ≥0∞) / 100) := by
  obtain ⟨hpmem, hcmem⟩ := hmem
  obtain ⟨hpext, hpempty⟩ := hlive primary (by simp)
  obtain ⟨hcext, hcempty⟩ := hlive canary (by simp)
  -- the tick leaves both backends a balancer with their stored canary settings
  obtain ⟨pbal, hpbal, -, hpalt⟩ := lookup_of_newer_stamp ord hnewer hsubset hnd hpmem
    (fun _ _ h => syncNewBackend_canary h hpext hpempty (hsubset _ hpmem))
  obtain ⟨cbal, hcbal, hcpolicy, -⟩ := lookup_of_newer_stamp ord hnewer hsubset hnd hcmem
    (fun _ _ h => syncNewBackend_canary h hcext hcempty (hsubset _ hcmem))
  have hname : pbal.firstAlternative = some canary.name := by
    rw [Balancer.firstAlternative, hpalt, bind_head_luaAlternativeBackends, hfirst]
  have hroute : ∀ draw, getBalancer reMatch var draw
      (syncBackends dnsLookup ord ⟨some backends, some t⟩ w now).balancers
      primary.name RequestCtx.init =
        if canary.trafficShapingPolicy.routes reMatch var draw then
          (some cbal, ⟨some cbal, canary.name⟩)
        else (some pbal, ⟨some pbal, ""⟩) :=
    fun _ => getBalancer_of_policy hpbal hname hcbal hcpolicy ""
  refine ⟨pbal, cbal, hpbal, hcbal, hroute, fun hheader hcookie hne => ?_⟩
  classical
  -- the request goes to the canary for exactly the draws up to the weight
  have hshare := Random.uniform_of_iff_le (by norm_num : 0 < 100)
    (S := {draw | (getBalancer reMatch var draw
      (syncBackends dnsLookup ord ⟨some backends, some t⟩ w now).balancers
      primary.name RequestCtx.init).2.proxyAlternativeUpstreamName = canary.name})
    (w := canary.trafficShapingPolicy.weight) fun d _ => by
      rw [Set.mem_ofPred_eq, hroute d, routes_of_silent hheader hcookie]
      by_cases hd : d ≤ canary.trafficShapingPolicy.weight
      · simp [hd]
      · simp [hd, Ne.symm hne]
  rw [hshare, Nat.cast_ofNat, Nat.cast_ofNat]

/-- The upstream `shop-cart-80`, whose first alternative backend is its canary. -/
def cartPrimary : Backend :=
  { (default : Backend) with
    name := "shop-cart-80"
    endpoints := some [{ address := "10.0.0.1", port := "8080", target := none }]
    alternativeBackends := some ["shop-cart-canary-80"] }

/-- The canary of `shop-cart-80`, for a fifth of the requests, and for those with the header
`X-Canary: always` or the cookie `canary=always`. -/
def cartCanary : Backend :=
  { (default : Backend) with
    name := "shop-cart-canary-80"
    endpoints := some [{ address := "10.0.0.9", port := "8080", target := none }]
    noServer := true
    trafficShapingPolicy :=
      { weight := 20, header := "X-Canary", headerValue := "", headerPattern := "",
        cookie := "canary" } }

open scoped ENNReal in
theorem getBalancer_after_cart_canary_backends :
    (Worker.init.backendsLastSyncedAt < 5 ∧
      (∀ b ∈ [cartPrimary, cartCanary], getImplementation b ≠ .chashsubset) ∧
      ([cartPrimary, cartCanary].map (·.name)).Nodup ∧
      (cartPrimary ∈ [cartPrimary, cartCanary] ∧ cartCanary ∈ [cartPrimary, cartCanary]) ∧
      (∀ b ∈ [cartPrimary, cartCanary],
        isBackendWithExternalName b = false ∧ b.luaEndpoints ≠ []) ∧
      cartPrimary.alternativeBackends.elems.head? = some cartCanary.name) ∧
    ∃ pbal cbal,
      (syncBackends (fun _ => []) .keyOrder ⟨some [cartPrimary, cartCanary], some 5⟩
          Worker.init 5).balancers.lookup
          cartPrimary.name = some pbal ∧
        (syncBackends (fun _ => []) .keyOrder ⟨some [cartPrimary, cartCanary], some 5⟩
          Worker.init 5).balancers.lookup
          cartCanary.name = some cbal ∧
        (∀ draw, getBalancer (fun _ _ => .ok false) (fun _ => none) draw
            (syncBackends (fun _ => []) .keyOrder ⟨some [cartPrimary, cartCanary], some 5⟩
              Worker.init 5).balancers
            cartPrimary.name RequestCtx.init =
          if cartCanary.trafficShapingPolicy.routes (fun _ _ => .ok false) (fun _ => none) draw
          then (some cbal, ⟨some cbal, cartCanary.name⟩)
          else (some pbal, ⟨some pbal, ""⟩)) ∧
        (cartCanary.trafficShapingPolicy.byHeader (fun _ _ => .ok false) (fun _ => none) =
            none →
          cartCanary.trafficShapingPolicy.byCookie (fun _ => none) = none →
          cartCanary.name ≠ "" →
          (Random.uniform (by norm_num : 0 < 100)).toOuterMeasure
              {draw | (getBalancer (fun _ _ => .ok false) (fun _ => none) draw
                (syncBackends (fun _ => []) .keyOrder ⟨some [cartPrimary, cartCanary], some 5⟩
                  Worker.init 5).balancers
                cartPrimary.name RequestCtx.init).2.proxyAlternativeUpstreamName =
                  cartCanary.name} =
            ((min cartCanary.trafficShapingPolicy.weight 100).toNat : ℝ≥0∞) / 100) :=
  have hnewer : Worker.init.backendsLastSyncedAt < 5 := by
    decide
  have hsubset : ∀ b ∈ [cartPrimary, cartCanary], getImplementation b ≠ .chashsubset := by
    decide
  have hnd : ([cartPrimary, cartCanary].map (·.name)).Nodup := by
    decide
  have hmem : cartPrimary ∈ [cartPrimary, cartCanary] ∧ cartCanary ∈ [cartPrimary, cartCanary] :=
    ⟨List.mem_cons_self, List.mem_cons_of_mem _ List.mem_cons_self⟩
  have hlive : ∀ b ∈ [cartPrimary, cartCanary],
      isBackendWithExternalName b = false ∧ b.luaEndpoints ≠ [] := by
    decide
  have hfirst : cartPrimary.alternativeBackends.elems.head? = some cartCanary.name := rfl
  ⟨⟨hnewer, hsubset, hnd, hmem, hlive, hfirst⟩,
    getBalancer_after_newer_backends (fun _ => []) .keyOrder Worker.init
      [cartPrimary, cartCanary] 5 5 hnewer hsubset hnd hmem hlive hfirst
      (fun _ _ => .ok false) (fun _ => none)⟩

end IngressNginx
