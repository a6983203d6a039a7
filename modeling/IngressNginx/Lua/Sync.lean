import IngressNginx.Lua.Balancer
import IngressNginx.Api

/-!
# Keeping the balancers in step with the posted backends

The controller posts the backends to `/configuration/backends`; `handle_backends`
(`configuration.lua`) stores them with the second of the post, `ngx.time()`. Every worker
runs two timers each second: `sync_backends` (`balancer.lua`) rebuilds its balancers from the
stored backends when they were posted after its last sync, or when thirty seconds have
passed, and `sync_backends_with_external_name` brings the balancers of `ExternalName`
backends up to date through DNS.

The comparison of seconds misses a post made in the second of the worker's last sync: the
sync ticks that follow within thirty seconds keep the balancers of the backends posted
before (`syncBackends_ignores_post_in_synced_second`). Backends stored with a later second,
however they came to be stored together, are picked up by the next tick, which keeps a
balancer of the right implementation for each of them and for no other name
(`syncBackends_applies_newer_backends`), as long as no backend needs the subsets whose
construction can raise an error.
-/

namespace IngressNginx

/-- `configuration_data`: the backends last posted, decoded, and the second of that post. -/
structure ConfigurationData where
  backends : Option (List Backend)
  rawBackendsLastSyncedAt : Option Int

/-- `handle_backends` for a POST of `backends` in second `now`; the dictionary has room for
both entries, so the handler answers `201`. -/
def handleBackends (backends : List Backend) (now : Int) : ConfigurationData where
  backends := some backends
  rawBackendsLastSyncedAt := some now

/-- `get_raw_backends_last_synced_at`: `1` before any post. -/
def ConfigurationData.getRawBackendsLastSyncedAt (data : ConfigurationData) : Int :=
  data.rawBackendsLastSyncedAt.getD 1

/-- `BACKENDS_FORCE_SYNC_INTERVAL`, in seconds. -/
def backendsForceSyncInterval : Int := 30

/-- The module state of `balancer.lua` in one worker. -/
structure Worker where
  balancers : Go.Map String Balancer
  backendsWithExternalName : Go.Map String Backend
  backendsLastSyncedAt : Int

/-- A worker that has synced nothing. -/
def Worker.init : Worker := ⟨∅, ∅, 0⟩

/-! ### `sync_backend` -/

/-- `is_backend_with_external_name`. -/
def isBackendWithExternalName (backend : Backend) : Bool :=
  match backend.service with
  | some svc => svc.type = Core.serviceTypeExternalName
  | none => false

/-- `resolve_external_names`: each endpoint replaced by the addresses `dns.lookup` gives for
it, on a copy of the backend. -/
def resolveExternalNames (dnsLookup : String → List String) (backend : Backend) : Backend :=
  { backend with
    endpoints := some (backend.luaEndpoints.flatMap fun endpoint =>
      (dnsLookup endpoint.address).map fun ip =>
        { address := ip, port := endpoint.port, target := none }) }

/-- The Lua pattern `^%d+.%d+.%d+.%d+$`: four runs of digits, each of the three separators
any character. Lua's matcher backtracks, so it accepts exactly the strings of this shape. -/
def matchesDottedQuad (cs : List Char) : Bool :=
  go 3 cs
where
  go : Nat → List Char → Bool
    | 0, cs => !cs.isEmpty && cs.all Char.isDigit
    | k + 1, cs =>
      (List.range cs.length).any fun i =>
        0 < i && (cs.take i).all Char.isDigit && go k (cs.drop (i + 1))

/-- `format_ipv6_endpoints`: an address that is not a dotted quad is bracketed. -/
def formatIpv6Endpoints (endpoints : List Endpoint) : List Endpoint :=
  endpoints.map fun endpoint =>
    if matchesDottedQuad endpoint.address.toList then endpoint
    else { endpoint with address := "[" ++ endpoint.address ++ "]" }

/-- `sync_backend` on the balancers of the worker; `none` is a Lua error. A backend without
endpoints loses its balancer; the others get a new one when they have none or their
implementation changed, and are synced otherwise. -/
def syncBackend (dnsLookup : String → List String) (balancers : Go.Map String Balancer)
    (backend : Backend) : Option (Go.Map String Balancer) :=
  if backend.luaEndpoints = [] then some (balancers.erase backend.name)
  else
    let backend :=
      if isBackendWithExternalName backend then resolveExternalNames dnsLookup backend else backend
    let backend := { backend with endpoints := some (formatIpv6Endpoints backend.luaEndpoints) }
    let implementation := getImplementation backend
    match balancers.lookup backend.name with
    | some balancer =>
      if balancer.impl = implementation then
        (balancer.sync backend).map (balancers.insert backend.name)
      else (Balancer.new implementation backend).map (balancers.insert backend.name)
    | none => (Balancer.new implementation backend).map (balancers.insert backend.name)

/-! ### The timers -/

/-- The sites of the `pairs` loops of `balancer.lua`. -/
inductive BalancerSite where
  | externalNames
  | prune
deriving DecidableEq, Repr

/-- One pass of the loop of `sync_backends` over the posted backends: an `ExternalName`
backend is kept for the DNS timer, any other is synced. -/
def syncNewBackend (dnsLookup : String → List String) (w : Worker) (newBackend : Backend) :
    Option Worker :=
  if isBackendWithExternalName newBackend then
    some { w with
      backendsWithExternalName := w.backendsWithExternalName.insert newBackend.name newBackend }
  else (syncBackend dnsLookup w.balancers newBackend).map fun balancers => { w with balancers }

/-- The last loop of `sync_backends`: the balancers of names not posted go, and with them the
`ExternalName` backends of those names. -/
def pruneBalancers (ord : Go.RangeOrder BalancerSite String) (keep : List String) (w : Worker) :
    Worker :=
  (w.balancers.range ord .prune).foldl (fun w e =>
    if e.1 ∈ keep then w
    else { w with
      balancers := w.balancers.erase e.1
      backendsWithExternalName := w.backendsWithExternalName.erase e.1 }) w

/-- `sync_backends` at second `now`. -/
def syncBackends (dnsLookup : String → List String) (ord : Go.RangeOrder BalancerSite String)
    (data : ConfigurationData) (w : Worker) (now : Int) : Worker :=
  let rawBackendsLastSyncedAt := data.getRawBackendsLastSyncedAt
  if now - w.backendsLastSyncedAt < backendsForceSyncInterval ∧
      rawBackendsLastSyncedAt ≤ w.backendsLastSyncedAt then w
  else
    match data.backends with
    | none => { w with balancers := ∅ }
    | some newBackends =>
      match Lua.runLoop (syncNewBackend dnsLookup) newBackends w with
      | (w, false) => w
      | (w, true) =>
        { pruneBalancers ord (newBackends.map (·.name)) w with
          backendsLastSyncedAt := rawBackendsLastSyncedAt }

/-- `sync_backends_with_external_name`. -/
def syncBackendsWithExternalName (dnsLookup : String → List String)
    (ord : Go.RangeOrder BalancerSite String) (w : Worker) : Worker :=
  (Lua.runLoop (fun w e =>
      (syncBackend dnsLookup w.balancers e.2).map fun balancers => { w with balancers })
    (w.backendsWithExternalName.range ord .externalNames) w).1

/-! ### Runs -/

/-- What happens to the configuration and a worker: a POST of backends in a second, a tick
of `sync_backends` in a second, or a tick of `sync_backends_with_external_name`. -/
inductive SyncEvent where
  | post (backends : List Backend) (now : Int)
  | syncTick (now : Int)
  | externalTick

/-- The configuration dictionary and one worker's module state. -/
structure SyncSystem where
  data : ConfigurationData
  worker : Worker

/-- One event. -/
def SyncSystem.step (dnsLookup : String → List String) (ord : Go.RangeOrder BalancerSite String)
    (s : SyncSystem) : SyncEvent → SyncSystem
  | .post backends now => { s with data := handleBackends backends now }
  | .syncTick now => { s with worker := syncBackends dnsLookup ord s.data s.worker now }
  | .externalTick => { s with worker := syncBackendsWithExternalName dnsLookup ord s.worker }

/-- A run of events, in order. -/
def SyncSystem.run (dnsLookup : String → List String) (ord : Go.RangeOrder BalancerSite String)
    (s : SyncSystem) (events : List SyncEvent) : SyncSystem :=
  events.foldl (SyncSystem.step dnsLookup ord) s

/-! ### What one pass does -/

section Pass

variable {dnsLookup : String → List String} {balancers balancers' : Go.Map String Balancer}
  {backend : Backend}

/-- `get_implementation` reads no endpoint. -/
@[simp] lemma getImplementation_endpoints (endpoints : Option (List Endpoint)) :
    getImplementation { backend with endpoints } = getImplementation backend := rfl

@[simp] lemma resolveExternalNames_name :
    (resolveExternalNames dnsLookup backend).name = backend.name := rfl

@[simp] lemma getImplementation_resolveExternalNames :
    getImplementation (resolveExternalNames dnsLookup backend) = getImplementation backend := rfl

/-- What `sync_backend` does, in full: a backend without endpoints loses its balancer; any
other is handed, with its name and implementation, to the balancer of its name, which is
synced when it has that implementation and rebuilt otherwise. -/
lemma syncBackend_cases (h : syncBackend dnsLookup balancers backend = some balancers') :
    (backend.luaEndpoints = [] ∧ balancers' = balancers.erase backend.name) ∨
      ∃ handed : Backend, handed.name = backend.name ∧
        getImplementation handed = getImplementation backend ∧
        ∃ bal, balancers' = balancers.insert backend.name bal ∧
          ((∃ old, balancers.lookup backend.name = some old ∧
              old.impl = getImplementation backend ∧ old.sync handed = some bal) ∨
            Balancer.new (getImplementation backend) handed = some bal) := by
  unfold syncBackend at h
  by_cases hempty : backend.luaEndpoints = []
  · rw [if_pos hempty] at h
    exact .inl ⟨hempty, (Option.some.inj h).symm⟩
  right
  rw [if_neg hempty] at h
  extract_lets resolved handed implementation at h
  -- the backend handed to the balancer keeps the posted backend's name and implementation
  have hname : handed.name = backend.name := by
    simp only [handed, resolved]
    split_ifs <;> rfl
  have himpl : implementation = getImplementation backend := by
    simp only [implementation, handed, resolved]
    split_ifs <;> rfl
  refine ⟨handed, hname, himpl, ?_⟩
  rw [hname, himpl] at h
  split at h
  · rename_i old hold
    split_ifs at h with hsame
    · obtain ⟨bal, hsync, rfl⟩ := Option.map_eq_some_iff.mp h
      exact ⟨bal, rfl, .inl ⟨old, hold, hsame, hsync⟩⟩
    · obtain ⟨bal, hnew, rfl⟩ := Option.map_eq_some_iff.mp h
      exact ⟨bal, rfl, .inr hnew⟩
  · obtain ⟨bal, hnew, rfl⟩ := Option.map_eq_some_iff.mp h
    exact ⟨bal, rfl, .inr hnew⟩

/-- What `sync_backend` does: a backend without endpoints loses its balancer, any other gets
one of its implementation under its name; no other name changes. -/
lemma syncBackend_eq_some (h : syncBackend dnsLookup balancers backend = some balancers') :
    (backend.luaEndpoints = [] ∧ balancers' = balancers.erase backend.name) ∨
      ∃ bal : Balancer, bal.impl = getImplementation backend ∧
        balancers' = balancers.insert backend.name bal := by
  rcases syncBackend_cases h with hnil | ⟨handed, -, -, bal, rfl, hsync | hnew⟩
  · exact .inl hnil
  · obtain ⟨old, -, hold, hsync⟩ := hsync
    exact .inr ⟨bal, (Balancer.sync_impl hsync).trans hold, rfl⟩
  · exact .inr ⟨bal, Balancer.new_impl hnew, rfl⟩

/-- `sync_backend` raises no error for a backend that needs no subsets. -/
lemma syncBackend_isSome (h : getImplementation backend ≠ .chashsubset) :
    (syncBackend dnsLookup balancers backend).isSome := by
  unfold syncBackend
  by_cases hempty : backend.luaEndpoints = []
  · rw [if_pos hempty]
    rfl
  rw [if_neg hempty]
  extract_lets resolved handed implementation
  have himpl : implementation = getImplementation backend := by
    simp only [implementation, handed, resolved]
    split_ifs <;> rfl
  rw [himpl]
  split
  · split_ifs with hsame
    · simpa using Balancer.sync_isSome (hsame ▸ h)
    · simpa using Balancer.new_isSome h
  · simpa using Balancer.new_isSome h

variable {w w' : Worker}

/-- One pass of the loop of `sync_backends`: an `ExternalName` backend leaves the balancers
as they are, any other is synced. -/
lemma syncNewBackend_balancers (h : syncNewBackend dnsLookup w backend = some w') :
    (isBackendWithExternalName backend = true ∧ w'.balancers = w.balancers) ∨
      (isBackendWithExternalName backend = false ∧
        syncBackend dnsLookup w.balancers backend = some w'.balancers) := by
  unfold syncNewBackend at h
  split_ifs at h with hext
  · cases h
    exact .inl ⟨hext, rfl⟩
  · obtain ⟨balancers, hsync, rfl⟩ := Option.map_eq_some_iff.mp h
    exact .inr ⟨by simpa using hext, hsync⟩

/-- A pass of a backend of another name leaves the balancer of `name` as it was. -/
lemma syncNewBackend_lookup_ne {name : String} (h : syncNewBackend dnsLookup w backend = some w')
    (hne : backend.name ≠ name) : w'.balancers.lookup name = w.balancers.lookup name := by
  rcases syncNewBackend_balancers h with ⟨-, hsame⟩ | ⟨-, hsync⟩
  · rw [hsame]
  rcases syncBackend_eq_some hsync with ⟨-, herase⟩ | ⟨bal, -, hinsert⟩
  · rw [herase, AList.lookup_erase_ne (Ne.symm hne)]
  · rw [hinsert, AList.lookup_insert_ne (Ne.symm hne)]

/-- The pass of a backend with endpoints that DNS does not resolve leaves it a balancer of
its implementation. -/
lemma syncNewBackend_lookup_self (h : syncNewBackend dnsLookup w backend = some w')
    (hext : isBackendWithExternalName backend = false) (hempty : backend.luaEndpoints ≠ []) :
    ∃ bal, w'.balancers.lookup backend.name = some bal ∧ bal.impl = getImplementation backend := by
  rcases syncNewBackend_balancers h with ⟨hext', -⟩ | ⟨-, hsync⟩
  · simp [hext] at hext'
  rcases syncBackend_eq_some hsync with ⟨hnil, -⟩ | ⟨bal, himpl, hbal⟩
  · exact absurd hnil hempty
  · exact ⟨bal, by simp [hbal], himpl⟩

lemma syncNewBackend_isSome (h : getImplementation backend ≠ .chashsubset) (w : Worker) :
    (syncNewBackend dnsLookup w backend).isSome := by
  unfold syncNewBackend
  split_ifs
  · rfl
  · simpa using syncBackend_isSome h

end Pass

/-- After pruning, a name kept holds its balancer and any other name none. -/
lemma pruneBalancers_lookup (ord : Go.RangeOrder BalancerSite String) (keep : List String)
    (w : Worker) (k : String) :
    (pruneBalancers ord keep w).balancers.lookup k =
      if k ∈ keep then w.balancers.lookup k else none := by
  unfold pruneBalancers
  split_ifs with hk
  · -- no pass erases a kept name
    refine List.foldlRecOn (motive := fun w' : Worker => w'.balancers.lookup k = w.balancers.lookup k)
      _ _ rfl fun w' hw' e _ => ?_
    split_ifs with he
    · exact hw'
    · have hne : k ≠ e.1 := fun hek => he (hek ▸ hk)
      rw [AList.lookup_erase_ne hne]
      exact hw'
  · -- every pass keeps the name absent, and the pass of its own entry removes it
    have herase : ∀ (m : Go.Map String Balancer) (e : String), m.lookup k = none →
        (m.erase e).lookup k = none := by
      intro m e hm
      by_cases hek : e = k
      · simp [hek]
      · rw [AList.lookup_erase_ne (Ne.symm hek)]
        exact hm
    cases hv : w.balancers.lookup k with
    | none =>
      refine List.foldlRecOn (motive := fun w' : Worker => w'.balancers.lookup k = none) _ _ hv
        fun w' hw' e _ => ?_
      split_ifs
      · exact hw'
      · exact herase _ _ hw'
    | some v =>
      refine Go.foldl_of_pass (P := fun w' : Worker => w'.balancers.lookup k = none)
        (Go.Map.mem_range.mpr hv) (fun w' => ?_) (fun w' e _ hw' => ?_) w
      · simp [hk]
      · split_ifs
        · exact hw'
        · exact herase _ _ hw'

/-- Pruning leaves the `ExternalName` backend of a name as it was, or removes it when the name
is not kept. -/
lemma lookup_externalName_pruneBalancers (ord : Go.RangeOrder BalancerSite String)
    (keep : List String) (w : Worker) (k : String) :
    (pruneBalancers ord keep w).backendsWithExternalName.lookup k =
        w.backendsWithExternalName.lookup k ∨
      (pruneBalancers ord keep w).backendsWithExternalName.lookup k = none ∧ k ∉ keep := by
  unfold pruneBalancers
  refine List.foldlRecOn (motive := fun w' : Worker =>
      w'.backendsWithExternalName.lookup k = w.backendsWithExternalName.lookup k ∨
        w'.backendsWithExternalName.lookup k = none ∧ k ∉ keep)
    _ _ (.inl rfl) fun w' hw' e _ => ?_
  split_ifs with he
  · exact hw'
  · by_cases hk : k = e.1
    · subst hk
      exact .inr ⟨AList.lookup_erase _ _, he⟩
    · rw [AList.lookup_erase_ne hk]
      exact hw'

/-! ### What a pass hands on -/

section Handed

variable {dnsLookup : String → List String} {balancers balancers' : Go.Map String Balancer}
  {backend : Backend}

/-- `sync_backend` hands the balancer the posted backend with its endpoints resolved and
bracketed, and nothing else changed. -/
lemma syncBackend_handed (h : syncBackend dnsLookup balancers backend = some balancers')
    (hempty : backend.luaEndpoints ≠ []) :
    ∃ endpoints bal, balancers' = balancers.insert backend.name bal ∧
      ((∃ old, balancers.lookup backend.name = some old ∧
          old.impl = getImplementation backend ∧ old.sync { backend with endpoints } = some bal) ∨
        Balancer.new (getImplementation backend) { backend with endpoints } = some bal) := by
  unfold syncBackend at h
  rw [if_neg hempty] at h
  extract_lets resolved handed implementation at h
  have hhanded : handed = { backend with endpoints := handed.endpoints } := by
    simp only [handed, resolved]
    split_ifs <;> rfl
  have hname : handed.name = backend.name := by
    rw [hhanded]
  have himpl : implementation = getImplementation backend := by
    simp only [implementation, handed, resolved]
    split_ifs <;> rfl
  refine ⟨handed.endpoints, ?_⟩
  rw [← hhanded]
  rw [hname, himpl] at h
  split at h
  · rename_i old hold
    split_ifs at h with hsame
    · obtain ⟨bal, hsync, rfl⟩ := Option.map_eq_some_iff.mp h
      exact ⟨bal, rfl, .inl ⟨old, hold, hsame, hsync⟩⟩
    · obtain ⟨bal, hnew, rfl⟩ := Option.map_eq_some_iff.mp h
      exact ⟨bal, rfl, .inr hnew⟩
  · obtain ⟨bal, hnew, rfl⟩ := Option.map_eq_some_iff.mp h
    exact ⟨bal, rfl, .inr hnew⟩

end Handed

/-! ### Invariants of every balancer

A property of a balancer and the name it is kept under holds along every run once `new` and
`sync` make it true of what they build or update for a backend of that name: `sync_backend`
is the only place a balancer is made, and the other steps only remove names. -/

/-- Every balancer of the worker satisfies `P` under its name. -/
def EveryBalancer (P : String → Balancer → Prop) (balancers : Go.Map String Balancer) : Prop :=
  ∀ name bal, balancers.lookup name = some bal → P name bal

/-- `new` and `sync` make `P` true of the balancer of a backend, under the backend's name. -/
structure KeptBySync (P : String → Balancer → Prop) : Prop where
  new : ∀ impl (backend : Backend) bal,
    Balancer.new impl backend = some bal → P backend.name bal
  sync : ∀ (self : Balancer) (backend : Backend) bal, P backend.name self →
    self.sync backend = some bal → P backend.name bal

section Every

variable {P : String → Balancer → Prop} {balancers balancers' : Go.Map String Balancer}
  {dnsLookup : String → List String} {backend : Backend} {w w' : Worker}

lemma everyBalancer_empty : EveryBalancer P ∅ := by
  intro name bal h
  cases h

lemma EveryBalancer.erase (h : EveryBalancer P balancers) (name : String) :
    EveryBalancer P (balancers.erase name) := by
  intro name' bal hbal
  by_cases hname : name' = name
  · rw [hname, AList.lookup_erase] at hbal
    cases hbal
  · rw [AList.lookup_erase_ne hname] at hbal
    exact h name' bal hbal

lemma EveryBalancer.insert (h : EveryBalancer P balancers) {name : String} {bal : Balancer}
    (hbal : P name bal) : EveryBalancer P (balancers.insert name bal) := by
  intro name' bal' hbal'
  rcases Go.Map.lookup_insert_eq_some.mp hbal' with ⟨rfl, rfl⟩ | ⟨-, hold⟩
  · exact hbal
  · exact h name' bal' hold

lemma everyBalancer_syncBackend (hP : KeptBySync P) (h : EveryBalancer P balancers)
    (hsync : syncBackend dnsLookup balancers backend = some balancers') :
    EveryBalancer P balancers' := by
  by_cases hempty : backend.luaEndpoints = []
  · unfold syncBackend at hsync
    rw [if_pos hempty] at hsync
    cases hsync
    exact h.erase backend.name
  obtain ⟨endpoints, bal, rfl, hold | hnew⟩ := syncBackend_handed hsync hempty
  · obtain ⟨old, hlookup, -, hbal⟩ := hold
    exact h.insert (hP.sync old { backend with endpoints } bal (h _ old hlookup) hbal)
  · exact h.insert (hP.new _ { backend with endpoints } bal hnew)

lemma everyBalancer_syncNewBackend (hP : KeptBySync P) (h : EveryBalancer P w.balancers)
    (hsync : syncNewBackend dnsLookup w backend = some w') : EveryBalancer P w'.balancers := by
  rcases syncNewBackend_balancers hsync with ⟨-, hsame⟩ | ⟨-, hbal⟩
  · rw [hsame]
    exact h
  · exact everyBalancer_syncBackend hP h hbal

lemma everyBalancer_pruneBalancers (h : EveryBalancer P w.balancers)
    (ord : Go.RangeOrder BalancerSite String) (keep : List String) :
    EveryBalancer P (pruneBalancers ord keep w).balancers := by
  intro name bal hbal
  rw [pruneBalancers_lookup] at hbal
  split_ifs at hbal
  exact h name bal hbal

lemma everyBalancer_syncBackends (hP : KeptBySync P) (h : EveryBalancer P w.balancers)
    (ord : Go.RangeOrder BalancerSite String) (data : ConfigurationData) (now : Int) :
    EveryBalancer P (syncBackends dnsLookup ord data w now).balancers := by
  unfold syncBackends
  dsimp only
  split_ifs
  · exact h
  · split
    · exact everyBalancer_empty
    · rename_i newBackends _
      -- every pass of the loop keeps `P`, whether or not a pass raised an error
      have hloop :
          EveryBalancer P (Lua.runLoop (syncNewBackend dnsLookup) newBackends w).1.balancers :=
        Lua.runLoop_invariant (fun w : Worker => EveryBalancer P w.balancers)
          (fun _ _ _ _ hw hpass => everyBalancer_syncNewBackend hP hw hpass) h
      split
      · rename_i w₁ hrun
        rw [hrun] at hloop
        exact hloop
      · rename_i w₁ hrun
        rw [hrun] at hloop
        exact everyBalancer_pruneBalancers hloop ord _

lemma everyBalancer_syncBackendsWithExternalName (hP : KeptBySync P)
    (h : EveryBalancer P w.balancers) (ord : Go.RangeOrder BalancerSite String) :
    EveryBalancer P (syncBackendsWithExternalName dnsLookup ord w).balancers :=
  Lua.runLoop_invariant (fun w : Worker => EveryBalancer P w.balancers)
    (fun _ _ _ _ hw hpass => by
      obtain ⟨balancers, hsync, rfl⟩ := Option.map_eq_some_iff.mp hpass
      exact everyBalancer_syncBackend hP hw hsync) h

lemma EveryBalancer.step (hP : KeptBySync P) {s : SyncSystem}
    (h : EveryBalancer P s.worker.balancers) (ord : Go.RangeOrder BalancerSite String)
    (event : SyncEvent) : EveryBalancer P (s.step dnsLookup ord event).worker.balancers := by
  cases event with
  | post backends now => exact h
  | syncTick now => exact everyBalancer_syncBackends hP h ord s.data now
  | externalTick => exact everyBalancer_syncBackendsWithExternalName hP h ord

/-- Along every run, every balancer keeps a property that `new` and `sync` keep. -/
lemma EveryBalancer.run (hP : KeptBySync P) (ord : Go.RangeOrder BalancerSite String) :
    ∀ (events : List SyncEvent) (s : SyncSystem), EveryBalancer P s.worker.balancers →
      EveryBalancer P (s.run dnsLookup ord events).worker.balancers
  | [], _, h => h
  | event :: events, s, h =>
    EveryBalancer.run hP ord events (s.step dnsLookup ord event) (h.step hP ord event)

end Every

/-! ### A post in the second of the last sync -/

/-- A tick within thirty seconds of the last sync finds nothing newer than that sync when
the backends are stamped no later than it. -/
lemma syncBackends_of_stamp_le (dnsLookup : String → List String)
    (ord : Go.RangeOrder BalancerSite String) {data : ConfigurationData} {w : Worker} {now : Int}
    (hrecent : now - w.backendsLastSyncedAt < backendsForceSyncInterval)
    (hstamp : data.getRawBackendsLastSyncedAt ≤ w.backendsLastSyncedAt) :
    syncBackends dnsLookup ord data w now = w := by
  rw [syncBackends, if_pos ⟨hrecent, hstamp⟩]

/-- Backends posted in the second of a worker's last sync are not picked up by the ticks of
the next thirty seconds: after the post and any such tick the worker is as it was, whatever
the backends posted. -/
theorem syncBackends_ignores_post_in_synced_second (dnsLookup : String → List String)
    (ord : Go.RangeOrder BalancerSite String) (s : SyncSystem) (backends : List Backend)
    (now : Int) (hrecent : now - s.worker.backendsLastSyncedAt < backendsForceSyncInterval) :
    (s.run dnsLookup ord
      [.post backends s.worker.backendsLastSyncedAt, .syncTick now]).worker = s.worker :=
  syncBackends_of_stamp_le dnsLookup ord hrecent le_rfl

/-- The upstream `shop-cart-80` with one endpoint. -/
def cartBackend : Backend :=
  { (default : Backend) with
    name := "shop-cart-80"
    endpoints := some [{ address := "10.0.0.1", port := "8080", target := none }] }

/-- A worker that synced `shop-cart-80` in second 100. -/
def cartSynced : SyncSystem :=
  SyncSystem.run (fun _ => []) .keyOrder ⟨⟨none, none⟩, Worker.init⟩
    [.post [cartBackend] 100, .syncTick 100]

theorem syncBackends_keeps_cart_after_removal :
    cartSynced.worker.backendsLastSyncedAt = 100 ∧
      (cartSynced.worker.balancers.lookup "shop-cart-80").isSome = true ∧
      (cartSynced.run (fun _ => []) .keyOrder
        [.post [] cartSynced.worker.backendsLastSyncedAt, .syncTick 101]).worker =
        cartSynced.worker :=
  ⟨by decide, by decide,
    syncBackends_ignores_post_in_synced_second (fun _ => []) .keyOrder cartSynced [] 101
      (by decide)⟩

/-! ### A post after the last sync -/

/-- A tick that finds backends stored with a second after the worker's last sync, none of which
needs subsets, runs its loop to the end: it prunes and records that second. -/
lemma syncBackends_of_newer_stamp (dnsLookup : String → List String)
    (ord : Go.RangeOrder BalancerSite String) {w : Worker} {backends : List Backend} {t now : Int}
    (hnewer : w.backendsLastSyncedAt < t)
    (hsubset : ∀ b ∈ backends, getImplementation b ≠ .chashsubset) :
    syncBackends dnsLookup ord ⟨some backends, some t⟩ w now =
      { pruneBalancers ord (backends.map (·.name))
          (Lua.runLoop (syncNewBackend dnsLookup) backends w).1 with
        backendsLastSyncedAt := t } := by
  have hend : (Lua.runLoop (syncNewBackend dnsLookup) backends w).2 = true :=
    Lua.runLoop_snd (fun w b hb => syncNewBackend_isSome (hsubset b hb) w) w
  have hstale : ¬(now - w.backendsLastSyncedAt < backendsForceSyncInterval ∧
      (⟨some backends, some t⟩ : ConfigurationData).getRawBackendsLastSyncedAt ≤
        w.backendsLastSyncedAt) := by
    simp only [ConfigurationData.getRawBackendsLastSyncedAt, Option.getD_some]
    omega
  rw [syncBackends, if_neg hstale]
  dsimp only
  rw [← Prod.mk.eta (p := Lua.runLoop (syncNewBackend dnsLookup) backends w), hend]
  rfl

/-- A tick that finds in `configuration_data` backends stored with a second after the worker's
last sync picks them up, whatever stored them. When no backend needs subsets, the worker
records that second, keeps balancers for the stored names only, and, the names being
distinct, leaves every stored backend with endpoints that DNS does not resolve a balancer of
its own implementation. -/
theorem syncBackends_applies_newer_backends (dnsLookup : String → List String)
    (ord : Go.RangeOrder BalancerSite String) (w : Worker) (backends : List Backend)
    (t now : Int) (hnewer : w.backendsLastSyncedAt < t)
    (hsubset : ∀ b ∈ backends, getImplementation b ≠ .chashsubset) :
    (syncBackends dnsLookup ord ⟨some backends, some t⟩ w now).backendsLastSyncedAt = t ∧
      (∀ name, ((syncBackends dnsLookup ord ⟨some backends, some t⟩ w now).balancers.lookup
        name).isSome → name ∈ backends.map (·.name)) ∧
      ((backends.map (·.name)).Nodup → ∀ b ∈ backends, isBackendWithExternalName b = false →
        b.luaEndpoints ≠ [] → ∃ bal,
          (syncBackends dnsLookup ord ⟨some backends, some t⟩ w now).balancers.lookup b.name =
            some bal ∧ bal.impl = getImplementation b) := by
  rw [syncBackends_of_newer_stamp dnsLookup ord hnewer hsubset]
  refine ⟨rfl, fun name hname => ?_, fun hnd b hb hext hempty => ?_⟩
  · -- pruning leaves no other name
    rw [pruneBalancers_lookup] at hname
    split_ifs at hname with hk
    · exact hk
    · cases hname
  · rw [pruneBalancers_lookup, if_pos (List.mem_map_of_mem hb)]
    -- the pass of `b` gives it a balancer of its implementation, and the passes of the
    -- other backends, all of other names, leave it
    refine Lua.runLoop_of_pass hb (fun w w' h => syncNewBackend_lookup_self h hext hempty)
      (fun w y w' hy hw h => ?_)
      (Lua.runLoop_snd (fun w b hb => syncNewBackend_isSome (hsubset b hb) w) w)
    by_cases hyb : y.name = b.name
    · obtain rfl := List.inj_on_of_nodup_map hnd hy hb hyb
      exact syncNewBackend_lookup_self h hext hempty
    · rwa [syncNewBackend_lookup_ne h hyb]

/-- The upstream `shop-checkout-80` with one endpoint. -/
def checkoutBackend : Backend :=
  { (default : Backend) with
    name := "shop-checkout-80"
    endpoints := some [{ address := "10.0.0.2", port := "8080", target := none }] }

theorem syncBackends_applies_checkout_backends :
    cartSynced.worker.backendsLastSyncedAt < 101 ∧
      (∀ b ∈ [checkoutBackend], getImplementation b ≠ .chashsubset) ∧
      ((syncBackends (fun _ => []) .keyOrder ⟨some [checkoutBackend], some 101⟩ cartSynced.worker
          101).backendsLastSyncedAt = 101 ∧
        (∀ name, ((syncBackends (fun _ => []) .keyOrder ⟨some [checkoutBackend], some 101⟩
            cartSynced.worker 101).balancers.lookup name).isSome →
          name ∈ [checkoutBackend].map (·.name)) ∧
        (([checkoutBackend].map (·.name)).Nodup → ∀ b ∈ [checkoutBackend],
          isBackendWithExternalName b = false → b.luaEndpoints ≠ [] → ∃ bal,
            (syncBackends (fun _ => []) .keyOrder ⟨some [checkoutBackend], some 101⟩
              cartSynced.worker 101).balancers.lookup b.name = some bal ∧
              bal.impl = getImplementation b)) :=
  ⟨by decide, by decide,
    syncBackends_applies_newer_backends (fun _ => []) .keyOrder cartSynced.worker
      [checkoutBackend] 101 101 (by decide) (by decide)⟩

end IngressNginx
