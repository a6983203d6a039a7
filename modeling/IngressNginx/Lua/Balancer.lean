import Mathlib.Data.Finset.Basic
import IngressNginx.Lib.Lua
import IngressNginx.Types

/-!
# Balancer instances

`balancer.lua` keeps one balancer per backend, built by its implementation's `new` and
brought up to date by its `sync` when the backend changes but its implementation does not.
The six implementations (`balancer/*.lua`) share the protocol but each writes its own
fields: `round_robin` and `chash` take `sync` from `balancer.resty`, `sticky_balanced` and
`sticky_persistent` from `balancer.sticky`, while `chashsubset` and `ewma` have their own.

A balancer is modelled as the Lua table it is: every field an option, `none` for `nil`.
What an instance exposes to the balancing code is `Balancer.config`; what an update may
leave different from a rebuild is the balancing state (the positions and statistics kept by
the `resty` instances and the `ewma` dictionaries), which is not modelled.

`sync` of `chash` is `balancer.resty`'s, which refreshes the nodes, the traffic shaping
policy and the alternative backends but not the hash key `new` parsed: an update matches a
rebuild exactly when the key is unchanged (`chash_sync_config_eq_new_iff`). The other
implementations without a hash key write again every field their `new` sets, so an update
always matches a rebuild (`sync_config_eq_new`).
-/

namespace IngressNginx

/-- The implementations of `IMPLEMENTATIONS` in `balancer.lua`. -/
inductive Implementation where
  | roundRobin
  | chash
  | chashsubset
  | stickyBalanced
  | stickyPersistent
  | ewma
deriving DecidableEq, Repr

/-- `IMPLEMENTATIONS`, by name. -/
def implementationNamed : String → Option Implementation
  | "round_robin" => some .roundRobin
  | "chash" => some .chash
  | "chashsubset" => some .chashsubset
  | "sticky_balanced" => some .stickyBalanced
  | "sticky_persistent" => some .stickyPersistent
  | "ewma" => some .ewma
  | _ => none

/-- `DEFAULT_LB_ALG`. -/
def defaultLbAlg : String := "round_robin"

/-! ### A backend as Lua reads it

The controller posts its backends as JSON; the fields tagged `omitempty` are absent, so
`nil` in Lua, when they hold Go's zero value. -/

namespace Backend

/-- `backend.endpoints`. -/
def luaEndpoints (backend : Backend) : List Endpoint := backend.endpoints.elems

/-- `backend.alternativeBackends`. -/
def luaAlternativeBackends (backend : Backend) : Option (List String) :=
  if backend.alternativeBackends.elems = [] then none else some backend.alternativeBackends.elems

/-- `backend["upstreamHashByConfig"]["upstream-hash-by"]`. -/
def luaUpstreamHashBy (backend : Backend) : Option String :=
  if backend.upstreamHashBy.upstreamHashBy = "" then none
  else some backend.upstreamHashBy.upstreamHashBy

/-- `backend["upstreamHashByConfig"]["upstream-hash-by-subset-size"]`. -/
def luaSubsetSize (backend : Backend) : Option Int :=
  if backend.upstreamHashBy.upstreamHashBySubsetSize = 0 then none
  else some backend.upstreamHashBy.upstreamHashBySubsetSize

/-- `backend["load-balance"]`. -/
def luaLoadBalance (backend : Backend) : Option String :=
  if backend.loadBalancing = "" then none else some backend.loadBalancing

end Backend

/-- `get_implementation`: cookie affinity, then a hash key, then the configured algorithm,
decide; an unknown algorithm falls back to `round_robin`. -/
def getImplementation (backend : Backend) : Implementation :=
  let name := (backend.luaLoadBalance).getD defaultLbAlg
  let name :=
    if backend.sessionAffinity.affinityType = "cookie" then
      if backend.sessionAffinity.affinityMode = "persistent" then "sticky_persistent"
      else "sticky_balanced"
    else if backend.luaUpstreamHashBy.isSome then
      if backend.upstreamHashBy.upstreamHashBySubset then "chashsubset" else "chash"
    else name
  (implementationNamed name).getD .roundRobin

/-! ### Nodes and subsets -/

/-- `endpoint.address .. ":" .. endpoint.port`. -/
def endpointString (endpoint : Endpoint) : String := endpoint.address ++ ":" ++ endpoint.port

/-- `util.get_nodes`: the table of endpoint strings (all of weight 1), as the set of its keys. -/
def getNodes (endpoints : List Endpoint) : Finset String := (endpoints.map endpointString).toFinset

/-- `build_subset_map` of `chashsubset`: the endpoints repeated from the first until they fill
`ceil(#endpoints / size)` subsets of `size` each. A size absent from the JSON is `nil`, and
the arithmetic on it raises an error (`none`); a negative size makes no subset. -/
def buildSubsetMap (endpoints : List Endpoint) : Option Int → Option (List (List Endpoint))
  | none => none
  | some size =>
    if size ≤ 0 then some []
    else
      let size := size.toNat
      let setCount := (endpoints.length + size - 1) / size
      let padded := (List.range (setCount * size)).filterMap fun k =>
        endpoints[k % endpoints.length]?
      some ((List.range setCount).map fun i => (padded.drop (i * size)).take size)

/-- The keys of the `subset_map` of `build_subset_map`: `set1`, `set2`, and so on. -/
def subsetIds (subsets : List (List Endpoint)) : Finset String :=
  ((List.range subsets.length).map fun i => "set" ++ toString (i + 1)).toFinset

/-! ### Instances -/

/-- A balancer instance, as the Lua table of its fields. `instanceNodes` is the `nodes` of
the `resty` instance (or node map) it balances over, and `salt` the salt of a node map
(`util.nodemap`); `hashBy` is kept as the text that `util.parse_complex_value` parses, a
function of it. -/
structure Balancer where
  impl : Implementation
  instanceNodes : Option (Finset String)
  hashBy : Option String
  trafficShapingPolicy : Option TrafficShapingPolicy
  alternativeBackends : Option (List String)
  subsets : Option (List (List Endpoint))
  currentEndpoints : Option (List Endpoint)
  cookieSessionAffinity : Option CookieSessionAffinity
  peers : Option (List Endpoint)
  salt : Option String
deriving DecidableEq

/-- A fresh table whose metatable is the implementation. -/
def Balancer.empty (impl : Implementation) : Balancer :=
  ⟨impl, none, none, none, none, none, none, none, none, none⟩

@[simp] lemma Balancer.empty_impl (impl : Implementation) : (Balancer.empty impl).impl = impl :=
  rfl

/-- `balancer_resty.sync`: the traffic shaping policy and alternative backends, then the
nodes when they changed. -/
def Balancer.restySync (self : Balancer) (backend : Backend) : Balancer :=
  let self := { self with
    trafficShapingPolicy := some backend.trafficShapingPolicy
    alternativeBackends := backend.luaAlternativeBackends }
  let nodes := getNodes backend.luaEndpoints
  if self.instanceNodes = some nodes then self
  else { self with instanceNodes := some nodes }

/-- `balancer_sticky.sync`: `balancer_resty.sync`, then the cookie settings. -/
def Balancer.stickySync (self : Balancer) (backend : Backend) : Balancer :=
  { self.restySync backend with
    trafficShapingPolicy := some backend.trafficShapingPolicy
    alternativeBackends := backend.luaAlternativeBackends
    cookieSessionAffinity := some backend.sessionAffinity.cookieSessionAffinity }

/-- `util.diff_endpoints` found nothing added or removed: the same endpoint strings. -/
def sameEndpoints (old new : List Endpoint) : Bool := getNodes old == getNodes new

/-- `I:new(backend)` for each implementation; `none` is a Lua error. -/
def Balancer.new (impl : Implementation) (backend : Backend) : Option Balancer :=
  match impl with
  | .roundRobin | .chash =>
    some { Balancer.empty impl with
      instanceNodes := some (getNodes backend.luaEndpoints)
      hashBy := if impl = .chash then backend.luaUpstreamHashBy else none
      trafficShapingPolicy := some backend.trafficShapingPolicy
      alternativeBackends := backend.luaAlternativeBackends }
  | .chashsubset => do
    let subsets ← buildSubsetMap backend.luaEndpoints backend.luaSubsetSize
    return { Balancer.empty impl with
      instanceNodes := some (subsetIds subsets)
      hashBy := backend.luaUpstreamHashBy
      subsets := some subsets
      currentEndpoints := some backend.luaEndpoints }
  | .stickyBalanced | .stickyPersistent =>
    -- `sticky_persistent` balances over a node map salted with the backend's name
    some (Balancer.stickySync
      { Balancer.empty impl with
        instanceNodes := some (getNodes backend.luaEndpoints)
        salt := if impl = .stickyPersistent then some backend.name else none } backend)
  | .ewma =>
    some { Balancer.empty impl with
      peers := some backend.luaEndpoints
      trafficShapingPolicy := some backend.trafficShapingPolicy
      alternativeBackends := backend.luaAlternativeBackends }

/-- `balancer:sync(backend)`, dispatched on the instance's metatable; `none` is a Lua error. -/
def Balancer.sync (self : Balancer) (backend : Backend) : Option Balancer :=
  match self.impl with
  | .roundRobin | .chash => some (self.restySync backend)
  | .chashsubset =>
    -- only a change of the endpoints rebuilds the subsets
    if self.currentEndpoints = some backend.luaEndpoints then some self
    else do
      let subsets ← buildSubsetMap backend.luaEndpoints backend.luaSubsetSize
      return { self with
        currentEndpoints := some backend.luaEndpoints
        subsets := some subsets
        instanceNodes := some (subsetIds subsets) }
  | .stickyBalanced | .stickyPersistent => some (self.stickySync backend)
  | .ewma =>
    let self := { self with
      trafficShapingPolicy := some backend.trafficShapingPolicy
      alternativeBackends := backend.luaAlternativeBackends }
    if sameEndpoints (self.peers.getD []) backend.luaEndpoints then some self
    else some { self with peers := some backend.luaEndpoints }

/-- What an instance exposes to the balancing code: the canary settings, the hash key, the
subsets, the cookie settings, and the endpoints it balances over. -/
structure BalancerConfig where
  alternativeBackends : Option (List String)
  trafficShapingPolicy : Option TrafficShapingPolicy
  hashBy : Option String
  subsets : Option (List (List Endpoint))
  cookieSessionAffinity : Option CookieSessionAffinity
  nodes : Option (Finset String)
deriving DecidableEq

/-- The configuration of an instance; its endpoints are the nodes of its `resty` instance,
the current endpoints of `chashsubset`, or the peers of `ewma`. -/
def Balancer.config (self : Balancer) : BalancerConfig where
  alternativeBackends := self.alternativeBackends
  trafficShapingPolicy := self.trafficShapingPolicy
  hashBy := self.hashBy
  subsets := self.subsets
  cookieSessionAffinity := self.cookieSessionAffinity
  nodes :=
    match self.impl with
    | .chashsubset => self.currentEndpoints.map getNodes
    | .ewma => self.peers.map getNodes
    | _ => self.instanceNodes

/-! ### Updates

Each `sync` writes some fields of the instance and leaves the rest. Its equation, and what
the instance then exposes, is stated once per `sync` below; the comparisons of an update with
a rebuild rest on these alone. -/

section Resty

variable {self : Balancer} {backend : Backend}

/-- `balancer_resty.sync` leaves the instance as if it wrote the nodes every time: it skips
the write only when they already are the backend's. -/
lemma restySync_eq : self.restySync backend =
    { self with
      trafficShapingPolicy := some backend.trafficShapingPolicy
      alternativeBackends := backend.luaAlternativeBackends
      instanceNodes := some (getNodes backend.luaEndpoints) } := by
  unfold Balancer.restySync
  dsimp only
  split_ifs with h
  · -- the nodes were the backend's already
    cases self
    simp_all
  · rfl

@[simp] lemma restySync_impl : (self.restySync backend).impl = self.impl := by
  rw [restySync_eq]

/-- After `balancer_resty.sync` the instance balances over the backend's nodes, whether or
not it rebuilt them. -/
@[simp] lemma restySync_instanceNodes :
    (self.restySync backend).instanceNodes = some (getNodes backend.luaEndpoints) := by
  rw [restySync_eq]

@[simp] lemma restySync_hashBy : (self.restySync backend).hashBy = self.hashBy := by
  rw [restySync_eq]

@[simp] lemma restySync_trafficShapingPolicy :
    (self.restySync backend).trafficShapingPolicy = some backend.trafficShapingPolicy := by
  rw [restySync_eq]

@[simp] lemma restySync_alternativeBackends :
    (self.restySync backend).alternativeBackends = backend.luaAlternativeBackends := by
  rw [restySync_eq]

@[simp] lemma restySync_subsets : (self.restySync backend).subsets = self.subsets := by
  rw [restySync_eq]

@[simp] lemma restySync_cookieSessionAffinity :
    (self.restySync backend).cookieSessionAffinity = self.cookieSessionAffinity := by
  rw [restySync_eq]

@[simp] lemma restySync_peers : (self.restySync backend).peers = self.peers := by
  rw [restySync_eq]

/-- `reinit` of a node map keeps its salt. -/
@[simp] lemma restySync_salt : (self.restySync backend).salt = self.salt := by
  rw [restySync_eq]

/-- `round_robin` and `chash` take `sync` from `balancer_resty`. -/
lemma sync_of_resty (h : self.impl = .roundRobin ∨ self.impl = .chash) :
    self.sync backend = some (self.restySync backend) := by
  rcases h with h | h <;> simp [Balancer.sync, h]

/-- What a `round_robin` or `chash` instance exposes after `balancer_resty.sync`: the
backend's nodes, policy and alternative backends, and the hash key it had. -/
lemma config_restySync (h : self.impl = .roundRobin ∨ self.impl = .chash) :
    (self.restySync backend).config =
      { self.config with
        trafficShapingPolicy := some backend.trafficShapingPolicy
        alternativeBackends := backend.luaAlternativeBackends
        nodes := some (getNodes backend.luaEndpoints) } := by
  rcases h with h | h <;> simp [Balancer.config, h]

end Resty

section Sticky

variable {self : Balancer} {backend : Backend}

@[simp] lemma stickySync_impl : (self.stickySync backend).impl = self.impl := by
  simp [Balancer.stickySync]

@[simp] lemma stickySync_salt : (self.stickySync backend).salt = self.salt := by
  simp [Balancer.stickySync]

/-- `sticky_balanced` and `sticky_persistent` take `sync` from `balancer_sticky`. -/
lemma sync_of_sticky (h : self.impl = .stickyBalanced ∨ self.impl = .stickyPersistent) :
    self.sync backend = some (self.stickySync backend) := by
  rcases h with h | h <;> simp [Balancer.sync, h]

/-- What a sticky instance exposes after `balancer_sticky.sync`: that of `balancer_resty.sync`
with the backend's cookie settings. -/
lemma config_stickySync (h : self.impl = .stickyBalanced ∨ self.impl = .stickyPersistent) :
    (self.stickySync backend).config =
      { self.config with
        trafficShapingPolicy := some backend.trafficShapingPolicy
        alternativeBackends := backend.luaAlternativeBackends
        cookieSessionAffinity := some backend.sessionAffinity.cookieSessionAffinity
        nodes := some (getNodes backend.luaEndpoints) } := by
  rcases h with h | h <;> simp [Balancer.stickySync, Balancer.config, h]

end Sticky

section Ewma

variable {self : Balancer} {backend : Backend}

/-- What an `ewma` instance with peers exposes after `sync`: the backend's policy and
alternative backends, and its endpoints, whether or not `util.diff_endpoints` found a change
and the peers were replaced. -/
lemma config_sync_ewma (h : self.impl = .ewma) {peers : List Endpoint}
    (hpeers : self.peers = some peers) :
    (self.sync backend).map Balancer.config =
      some { self.config with
        trafficShapingPolicy := some backend.trafficShapingPolicy
        alternativeBackends := backend.luaAlternativeBackends
        nodes := some (getNodes backend.luaEndpoints) } := by
  simp only [Balancer.sync, h, hpeers, Option.getD_some]
  split_ifs with hsame
  · -- the peers are kept, and they have the backend's endpoint strings
    have hnodes : getNodes peers = getNodes backend.luaEndpoints := by
      simpa [sameEndpoints] using hsame
    simp [Balancer.config, h, hpeers, hnodes]
  · simp [Balancer.config, h]

end Ewma

/-! ### What `new` and `sync` return -/

section Impl

variable {impl : Implementation} {self b : Balancer} {backend : Backend}

/-- `new` builds an instance of its implementation. -/
lemma Balancer.new_impl (h : Balancer.new impl backend = some b) : b.impl = impl := by
  cases impl with
  | chashsubset =>
    simp only [Balancer.new, Option.bind_eq_bind, Option.bind_eq_some_iff] at h
    obtain ⟨_, -, h⟩ := h
    cases h
    rfl
  | stickyBalanced | stickyPersistent =>
    cases h
    simp
  | roundRobin | chash | ewma =>
    cases h
    rfl

/-- `sync` keeps the metatable of the instance and the salt of its node map. -/
lemma Balancer.sync_keeps (h : self.sync backend = some b) :
    b.impl = self.impl ∧ b.salt = self.salt := by
  cases himpl : self.impl with
  | roundRobin | chash =>
    rw [sync_of_resty (by simp [himpl])] at h
    cases h
    simp [himpl]
  | stickyBalanced | stickyPersistent =>
    rw [sync_of_sticky (by simp [himpl])] at h
    cases h
    simp [himpl]
  | chashsubset =>
    simp only [Balancer.sync, himpl] at h
    split_ifs at h
    · cases h
      exact ⟨himpl, rfl⟩
    · -- the subsets are rebuilt in place
      simp only [Option.bind_eq_bind, Option.bind_eq_some_iff, Option.pure_def,
        Option.some.injEq] at h
      obtain ⟨_, -, rfl⟩ := h
      exact ⟨rfl, rfl⟩
  | ewma =>
    simp only [Balancer.sync, himpl] at h
    split_ifs at h <;> cases h <;> exact ⟨rfl, rfl⟩

lemma Balancer.sync_impl (h : self.sync backend = some b) : b.impl = self.impl :=
  (Balancer.sync_keeps h).1

lemma Balancer.sync_salt (h : self.sync backend = some b) : b.salt = self.salt :=
  (Balancer.sync_keeps h).2

/-- A `sticky_persistent` instance is salted with the name of the backend it is built for. -/
lemma Balancer.new_salt (h : Balancer.new impl backend = some b)
    (hsticky : b.impl = .stickyPersistent) : b.salt = some backend.name := by
  have himpl : impl = .stickyPersistent := (Balancer.new_impl h).symm.trans hsticky
  subst himpl
  cases h
  simp

/-- Only `chashsubset` raises errors, when it builds its subsets. -/
lemma Balancer.new_isSome (h : impl ≠ .chashsubset) : (Balancer.new impl backend).isSome := by
  cases impl <;> simp_all [Balancer.new]

lemma Balancer.sync_isSome (h : self.impl ≠ .chashsubset) : (self.sync backend).isSome := by
  cases himpl : self.impl with
  | roundRobin | chash => simp [sync_of_resty, himpl]
  | stickyBalanced | stickyPersistent => simp [sync_of_sticky, himpl]
  | chashsubset => exact absurd himpl h
  | ewma =>
    simp only [Balancer.sync, himpl]
    split_ifs <;> rfl

end Impl

/-- `chash` takes `sync` from `balancer_resty`, which does not parse the hash key again: an
update of a `chash` instance exposes the configuration of a rebuild exactly when the backend
kept its `upstream-hash-by`. -/
theorem chash_sync_config_eq_new_iff (b₀ b : Backend) :
    ((Balancer.new .chash b₀).bind (·.sync b)).map Balancer.config =
        (Balancer.new .chash b).map Balancer.config ↔
      b₀.luaUpstreamHashBy = b.luaUpstreamHashBy := by
  -- the update is `balancer_resty.sync` of the instance `new` built from `b₀`
  simp only [Balancer.new, Option.bind_some]
  rw [sync_of_resty (.inr rfl), Option.map_some, config_restySync (.inr rfl)]
  -- the two configurations agree on every field but the hash key
  simp [Balancer.config, Balancer.empty]

/-- Every implementation but the two hashing ones keeps no field of `new` that its `sync`
does not write again: an update exposes the configuration a rebuild from the new backend
would, whatever the backend was. -/
theorem sync_config_eq_new (impl : Implementation) (hchash : impl ≠ .chash)
    (hsubset : impl ≠ .chashsubset) (b₀ b : Backend) :
    ((Balancer.new impl b₀).bind (·.sync b)).map Balancer.config =
      (Balancer.new impl b).map Balancer.config := by
  cases impl with
  | roundRobin =>
    simp only [Balancer.new, Option.bind_some]
    rw [sync_of_resty (.inl rfl), Option.map_some, config_restySync (.inl rfl)]
    simp [Balancer.config, Balancer.empty]
  | chash => exact absurd rfl hchash
  | chashsubset => exact absurd rfl hsubset
  | stickyBalanced | stickyPersistent =>
    simp only [Balancer.new, Option.bind_some]
    rw [sync_of_sticky (by simp), Option.map_some, Option.map_some, config_stickySync (by simp),
      config_stickySync (by simp), config_stickySync (by simp)]
    -- both are the cookie settings, policy and nodes of `b` over the fields of `new`
    rfl
  | ewma =>
    -- `new` sets the peers, so `sync` exposes the endpoints whether or not it replaces them
    simp only [Balancer.new, Option.bind_some]
    rw [config_sync_ewma rfl rfl]
    simp [Balancer.config, Balancer.empty]

/-- A backend with the one endpoint `10.0.0.1:8080`. -/
def firstEndpointBackend : Backend :=
  { (default : Backend) with endpoints := some [⟨"10.0.0.1", "8080", none⟩] }

/-- The backend moved to `10.0.0.2:8080`, with a fifth of the requests for its canaries. -/
def movedEndpointBackend : Backend :=
  { (default : Backend) with
    endpoints := some [⟨"10.0.0.2", "8080", none⟩]
    trafficShapingPolicy := { (default : TrafficShapingPolicy) with weight := 20 } }

theorem sync_config_eq_new_ewma :
    Implementation.ewma ≠ .chash ∧ Implementation.ewma ≠ .chashsubset ∧
      ((Balancer.new .ewma firstEndpointBackend).bind (·.sync movedEndpointBackend)).map
          Balancer.config =
        (Balancer.new .ewma movedEndpointBackend).map Balancer.config :=
  ⟨by decide, by decide, sync_config_eq_new .ewma (by decide) (by decide) firstEndpointBackend
    movedEndpointBackend⟩

end IngressNginx
