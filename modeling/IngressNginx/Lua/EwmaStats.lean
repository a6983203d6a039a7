import IngressNginx.Lua.Ewma

/-!
# The statistics of `ewma`

`ewma` scores an endpoint by a moving average of its round trips, kept for every worker in
two shared dictionaries: `balancer_ewma` holds the average of each `address:port`, and
`balancer_ewma_last_touched_at` the time it was last written (`store_stats`). When `sync` finds
that the endpoints of a backend changed (`util.diff_endpoints`), it deletes the averages of the
endpoints removed and starts those added at the mean of the averages of the new endpoints
(`calculate_slow_start_ewma`).

`diff_endpoints` returns the endpoint strings added and removed, in whatever order `pairs`
visits its tables, so it finds nothing exactly when both lists have the same endpoint strings:
the comparison the balancer model of `sync` makes, which `ewma.sync` therefore refines
(`sync_refines`). The averages of the strings removed are gone after it whatever the
dictionaries evict; those of the other strings stay where every `set` of `store_stats` finds
room, since a full dictionary evicts its least recently used averages to store a new one.

The averages are LuaJIT doubles. The arithmetic of `decay_ewma`, `get_or_update_ewma`, `score`
and `after_balance` is not modelled, and the mean `calculate_slow_start_ewma` computes is over a
field `α` that no result reads: the results here are about which averages are stored, not
their values.
-/

namespace IngressNginx

namespace Util

/-! ### `util.diff_endpoints` -/

/-- `normalize_endpoints`: the table of the endpoint strings `address:port`, each `true`. -/
def normalizeEndpoints (endpoints : List Endpoint) : Lua.Table Bool :=
  endpoints.foldl (fun normalized endpoint => normalized.insert (endpointString endpoint) true) ∅

/-- The sites of the `pairs` loops of `diff_endpoints`. -/
inductive DiffSite where
  | removed
  | added
deriving DecidableEq, Repr

/-- `util.diff_endpoints(old, new)`: the endpoint strings added, then those removed, each in
the order `pairs` visits its table. -/
def diffEndpoints (ord : Go.RangeOrder DiffSite String) (old new : List Endpoint) :
    List String × List String :=
  let normalizedOld := normalizeEndpoints old
  let normalizedNew := normalizeEndpoints new
  let endpointsRemoved := ((normalizedOld.range ord .removed).filter fun e =>
    !(normalizedNew.lookup e.1).getD false).map Prod.fst
  let endpointsAdded := ((normalizedNew.range ord .added).filter fun e =>
    !(normalizedOld.lookup e.1).getD false).map Prod.fst
  (endpointsAdded, endpointsRemoved)

section Diff

variable {ord : Go.RangeOrder DiffSite String} {old new : List Endpoint}

/-- `normalize_endpoints` holds `true` under exactly the endpoint strings of the list. -/
lemma lookup_normalizeEndpoints (endpoints : List Endpoint) (k : String) :
    (normalizeEndpoints endpoints).lookup k =
      if k ∈ getNodes endpoints then some true else none := by
  have hfold : normalizeEndpoints endpoints =
      (endpoints.map endpointString).foldl (fun t x => t.insert x true) ∅ := by
    rw [normalizeEndpoints, List.foldl_map]
  rw [hfold, Lua.lookup_foldl_insert_eq]
  by_cases hk : k ∈ getNodes endpoints
  · rw [if_pos hk, if_pos (List.mem_toFinset.mp hk)]
  · rw [if_neg hk, if_neg (mt List.mem_toFinset.mpr hk)]
    rfl

/-- A loop over one normalized table keeps the strings the other lacks. -/
lemma mem_diff_loop {i : DiffSite} {l₁ l₂ : List Endpoint} {x : String} :
    x ∈ (((normalizeEndpoints l₁).range ord i).filter fun e =>
        !((normalizeEndpoints l₂).lookup e.1).getD false).map Prod.fst ↔
      x ∈ getNodes l₁ ∧ x ∉ getNodes l₂ := by
  constructor
  · rintro hx
    obtain ⟨⟨k, v⟩, hmem, rfl⟩ := List.mem_map.mp hx
    rw [List.mem_filter, Go.Map.mem_range, lookup_normalizeEndpoints,
      lookup_normalizeEndpoints] at hmem
    obtain ⟨hk, hnot⟩ := hmem
    constructor
    · by_contra h
      rw [if_neg h] at hk
      cases hk
    · intro h
      rw [if_pos h] at hnot
      cases hnot
  · rintro ⟨h₁, h₂⟩
    refine List.mem_map.mpr ⟨(x, true), List.mem_filter.mpr ⟨Go.Map.mem_range.mpr ?_, ?_⟩, rfl⟩
    · rw [lookup_normalizeEndpoints, if_pos h₁]
    · rw [lookup_normalizeEndpoints, if_neg h₂]
      rfl

/-- `diff_endpoints` lists the endpoint strings of `new` missing from `old`. -/
lemma mem_diffEndpoints_added {x : String} :
    x ∈ (diffEndpoints ord old new).1 ↔ x ∈ getNodes new ∧ x ∉ getNodes old :=
  mem_diff_loop

/-- `diff_endpoints` lists the endpoint strings of `old` missing from `new`. -/
lemma mem_diffEndpoints_removed {x : String} :
    x ∈ (diffEndpoints ord old new).2 ↔ x ∈ getNodes old ∧ x ∉ getNodes new :=
  mem_diff_loop

/-- `diff_endpoints` finds nothing exactly when both lists have the same endpoint strings,
whatever the order of `pairs`. -/
lemma diffEndpoints_eq_nil_iff :
    ((diffEndpoints ord old new).1 = [] ∧ (diffEndpoints ord old new).2 = []) ↔
      getNodes old = getNodes new := by
  simp only [List.eq_nil_iff_forall_not_mem, mem_diffEndpoints_added,
    mem_diffEndpoints_removed, not_and, not_not]
  constructor
  · rintro ⟨hadded, hremoved⟩
    ext x
    exact ⟨hremoved x, hadded x⟩
  · intro h
    exact ⟨fun x hx => h ▸ hx, fun x hx => h ▸ hx⟩

end Diff

end Util

namespace Ewma

open Util

/-! ### The dictionaries -/

/-- The shared dictionaries `balancer_ewma` and `balancer_ewma_last_touched_at`. -/
structure Stats (α : Type) where
  ewma : Go.Map String α
  lastTouchedAt : Go.Map String α

/-- The dictionaries `store_stats` sets. -/
inductive StatsDict where
  | ewma
  | lastTouchedAt
deriving DecidableEq, Repr

/-! ### Writes to the dictionaries -/

section Writes

variable {α : Type}

/-- `store_stats`: the time `upstream` is touched, then its average, each `set` meeting what
`answer` says; a `set` that fails is only logged. -/
def Stats.storeStats (answer : StatsDict → String → Lua.SetAnswer) (stats : Stats α)
    (upstream : String) (ewma now : α) : Stats α where
  lastTouchedAt := (Lua.dictSet stats.lastTouchedAt upstream now (answer .lastTouchedAt upstream)).1
  ewma := (Lua.dictSet stats.ewma upstream ewma (answer .ewma upstream)).1

/-- Both `delete`s of `sync` for an endpoint string. -/
def Stats.delete (stats : Stats α) (upstream : String) : Stats α where
  ewma := stats.ewma.erase upstream
  lastTouchedAt := stats.lastTouchedAt.erase upstream

/-- The loop over the removed strings deletes their averages and keeps the others. -/
lemma lookup_foldl_delete (x : String) :
    ∀ (l : List String) (stats : Stats α),
      (l.foldl Stats.delete stats).ewma.lookup x = if x ∈ l then none else stats.ewma.lookup x
  | [], stats => by simp
  | y :: l, stats => by
    rw [List.foldl_cons, lookup_foldl_delete x l]
    by_cases hx : x = y
    · subst hx
      simp [Stats.delete]
    · simp [hx, Stats.delete, AList.lookup_erase_ne hx]

/-- Where every `set` finds room, the loop over the added strings gives them the slow start
and keeps the others. -/
lemma lookup_foldl_storeStats {answer : StatsDict → String → Lua.SetAnswer}
    (hroom : ∀ d k, answer d k = .stored) (x : String) (v now : α) :
    ∀ (l : List String) (stats : Stats α),
      (l.foldl (fun stats e => stats.storeStats answer e v now) stats).ewma.lookup x =
        if x ∈ l then some v else stats.ewma.lookup x
  | [], stats => by simp
  | y :: l, stats => by
    rw [List.foldl_cons, lookup_foldl_storeStats hroom x v now l]
    by_cases hx : x = y
    · subst hx
      simp [Stats.storeStats, hroom]
    · simp [hx, Stats.storeStats, hroom, AList.lookup_insert_ne hx]

/-- Whatever each `set` meets, the loop over the added strings gives no average to a string it
does not add and that has none: a `set` only adds its own key. -/
lemma lookup_foldl_storeStats_of_none {answer : StatsDict → String → Lua.SetAnswer} {x : String}
    {v now : α} : ∀ (l : List String) (stats : Stats α), x ∉ l → stats.ewma.lookup x = none →
      (l.foldl (fun stats e => stats.storeStats answer e v now) stats).ewma.lookup x = none
  | [], _, _, h => h
  | y :: l, stats, hx, h => by
    rw [List.mem_cons, not_or] at hx
    rw [List.foldl_cons]
    refine lookup_foldl_storeStats_of_none l _ hx.2 ?_
    dsimp only [Stats.storeStats]
    rw [Lua.lookup_dictSet_ne hx.1]
    split_ifs
    · rfl
    · exact h

end Writes

section Sync

variable {α : Type} [Field α]

/-- One pass of the loop of `calculate_slow_start_ewma`: the total and the count of the
averages found. -/
def slowStartStep (stats : Stats α) (acc : α × ℕ) (endpoint : Endpoint) : α × ℕ :=
  match stats.ewma.lookup (getUpstreamName endpoint) with
  | some ewma => (acc.1 + ewma, acc.2 + 1)
  | none => acc

/-- `calculate_slow_start_ewma(self)` over the balancer's peers: the mean of the averages of
the peers that have one, `nil` when none has. -/
def calculateSlowStartEwma (stats : Stats α) (peers : List Endpoint) : Option α :=
  let (totalEwma, endpointsCount) := peers.foldl (slowStartStep stats) (0, 0)
  if endpointsCount = 0 then none else some (totalEwma / endpointsCount)

/-- `ewma.sync(self, backend)` at time `now`, each `set` meeting what `answer` says: the
balancer, and the dictionaries. -/
def sync (ord : Go.RangeOrder DiffSite String) (now : α)
    (answer : StatsDict → String → Lua.SetAnswer) (self : Balancer) (backend : Backend)
    (stats : Stats α) : Balancer × Stats α :=
  let self := { self with
    trafficShapingPolicy := some backend.trafficShapingPolicy
    alternativeBackends := backend.luaAlternativeBackends }
  -- `new` sets the peers of every `ewma` balancer
  let (endpointsAdded, endpointsRemoved) :=
    diffEndpoints ord (self.peers.getD []) backend.luaEndpoints
  if endpointsAdded.length = 0 ∧ endpointsRemoved.length = 0 then (self, stats)
  else
    let self := { self with peers := some backend.luaEndpoints }
    let stats := endpointsRemoved.foldl Stats.delete stats
    match calculateSlowStartEwma stats backend.luaEndpoints with
    | none => (self, stats)
    | some slowStartEwma =>
      (self, endpointsAdded.foldl (fun stats endpointString =>
        stats.storeStats answer endpointString slowStartEwma now) stats)

/-! ### `sync` -/

variable {ord : Go.RangeOrder DiffSite String} {now : α}
  {answer : StatsDict → String → Lua.SetAnswer} {self : Balancer} {backend : Backend}
  {stats : Stats α}

/-- The balancer `sync` leaves: the canary settings, and the backend's endpoints as its peers
when their strings changed. -/
lemma sync_fst : (sync ord now answer self backend stats).1 =
    if getNodes (self.peers.getD []) = getNodes backend.luaEndpoints then
      { self with
        trafficShapingPolicy := some backend.trafficShapingPolicy
        alternativeBackends := backend.luaAlternativeBackends }
    else
      { self with
        trafficShapingPolicy := some backend.trafficShapingPolicy
        alternativeBackends := backend.luaAlternativeBackends
        peers := some backend.luaEndpoints } := by
  have hiff := @diffEndpoints_eq_nil_iff ord (self.peers.getD []) backend.luaEndpoints
  unfold sync
  dsimp only
  rcases hd : diffEndpoints ord (self.peers.getD []) backend.luaEndpoints with ⟨added, removed⟩
  rw [hd] at hiff
  dsimp only at hiff ⊢
  simp only [List.length_eq_zero_iff]
  by_cases h : getNodes (self.peers.getD []) = getNodes backend.luaEndpoints
  · rw [if_pos (hiff.mpr h), if_pos h]
  · rw [if_neg (mt hiff.mp h), if_neg h]
    split <;> rfl

/-- Where every `set` finds room, a string `diff_endpoints` neither adds nor removes keeps its
average. -/
lemma lookup_sync_of_not_mem (hroom : ∀ d k, answer d k = .stored) {x : String}
    (hadded : x ∉ (diffEndpoints ord (self.peers.getD []) backend.luaEndpoints).1)
    (hremoved : x ∉ (diffEndpoints ord (self.peers.getD []) backend.luaEndpoints).2) :
    (sync ord now answer self backend stats).2.ewma.lookup x = stats.ewma.lookup x := by
  unfold sync
  dsimp only
  rcases hd : diffEndpoints ord (self.peers.getD []) backend.luaEndpoints with ⟨added, removed⟩
  rw [hd] at hadded hremoved
  dsimp only at hadded hremoved ⊢
  split_ifs
  · rfl
  · split
    · rw [lookup_foldl_delete, if_neg hremoved]
    · rw [lookup_foldl_storeStats hroom, if_neg hadded, lookup_foldl_delete, if_neg hremoved]

/-- Whatever each `set` meets, a string `diff_endpoints` removes loses its average. -/
lemma lookup_sync_of_mem_removed {x : String}
    (hremoved : x ∈ (diffEndpoints ord (self.peers.getD []) backend.luaEndpoints).2) :
    (sync ord now answer self backend stats).2.ewma.lookup x = none := by
  -- a removed string is no string of the backend, so none `sync` adds
  have hadded : x ∉ (diffEndpoints ord (self.peers.getD []) backend.luaEndpoints).1 :=
    fun h => (mem_diffEndpoints_removed.mp hremoved).2 (mem_diffEndpoints_added.mp h).1
  unfold sync
  dsimp only
  rcases hd : diffEndpoints ord (self.peers.getD []) backend.luaEndpoints with ⟨added, removed⟩
  rw [hd] at hadded hremoved
  dsimp only at hadded hremoved ⊢
  split_ifs with hsame
  · rw [List.length_eq_zero_iff.mp hsame.2] at hremoved
    cases hremoved
  · split
    · rw [lookup_foldl_delete, if_pos hremoved]
    · exact lookup_foldl_storeStats_of_none _ _ hadded
        (by rw [lookup_foldl_delete, if_pos hremoved])

end Sync

/-- For every `ewma` balancer, backend, order of `pairs`, time and dictionaries, where every
`set` of `store_stats` finds room: `ewma.sync`, with `util.diff_endpoints` and its writes to the
shared dictionaries, leaves the balancer that the balancer model's `sync` gives, which compares
the endpoint strings of the peers and the backend. Afterwards the strings removed have no
average, and those neither added nor removed keep theirs. -/
theorem sync_refines {α : Type} [Field α]
    (ord : Go.RangeOrder DiffSite String) (now : α)
    (answer : StatsDict → String → Lua.SetAnswer) (self : Balancer) (backend : Backend)
    (stats : Stats α) (h : self.impl = .ewma) (hroom : ∀ d k, answer d k = .stored) :
    some (sync ord now answer self backend stats).1 = self.sync backend ∧
      (∀ x ∈ getNodes (self.peers.getD []), x ∉ getNodes backend.luaEndpoints →
        (sync ord now answer self backend stats).2.ewma.lookup x = none) ∧
      (∀ x, (x ∈ getNodes (self.peers.getD []) ↔ x ∈ getNodes backend.luaEndpoints) →
        (sync ord now answer self backend stats).2.ewma.lookup x = stats.ewma.lookup x) := by
  refine ⟨?_, fun x hold hnew => ?_, fun x hx => ?_⟩
  · -- both compare the endpoint strings
    rw [sync_fst]
    simp only [Balancer.sync, h, sameEndpoints, beq_iff_eq]
    split_ifs <;> rfl
  · exact lookup_sync_of_mem_removed (mem_diffEndpoints_removed.mpr ⟨hold, hnew⟩)
  · apply lookup_sync_of_not_mem hroom
    · rw [mem_diffEndpoints_added]
      tauto
    · rw [mem_diffEndpoints_removed]
      tauto

/-- An `ewma` balancer of `shop-cart-80` over two endpoints. -/
def cartEwmaBalancer : Balancer := { Balancer.empty .ewma with peers := some twoPeers }

/-- `shop-cart-80` after its second endpoint went. -/
def cartOneEndpoint : Backend :=
  { (default : Backend) with
    name := "shop-cart-80"
    endpoints := some [{ address := "10.0.0.1", port := "8080", target := none }] }

/-- Averages for both endpoints. -/
def cartStats : Stats ℚ :=
  ⟨((∅ : Go.Map String ℚ).insert "10.0.0.1:8080" (1 / 2)).insert "10.0.0.2:8080" (3 / 4), ∅⟩

theorem sync_refines_cart :
    cartEwmaBalancer.impl = .ewma ∧ (∀ d k, (fun _ _ => .stored : StatsDict → String →
      Lua.SetAnswer) d k = .stored) ∧
      some (sync .keyOrder 5 (fun _ _ => .stored) cartEwmaBalancer cartOneEndpoint cartStats).1 =
          cartEwmaBalancer.sync cartOneEndpoint ∧
        (∀ x ∈ getNodes (cartEwmaBalancer.peers.getD []),
          x ∉ getNodes cartOneEndpoint.luaEndpoints →
          (sync .keyOrder 5 (fun _ _ => .stored) cartEwmaBalancer cartOneEndpoint
            cartStats).2.ewma.lookup x = none) ∧
        (∀ x, (x ∈ getNodes (cartEwmaBalancer.peers.getD []) ↔
            x ∈ getNodes cartOneEndpoint.luaEndpoints) →
          (sync .keyOrder 5 (fun _ _ => .stored) cartEwmaBalancer cartOneEndpoint
              cartStats).2.ewma.lookup x =
            cartStats.ewma.lookup x) :=
  ⟨rfl, fun _ _ => rfl, sync_refines .keyOrder 5 (fun _ _ => .stored) cartEwmaBalancer
    cartOneEndpoint cartStats rfl fun _ _ => rfl⟩

end Ewma

end IngressNginx
