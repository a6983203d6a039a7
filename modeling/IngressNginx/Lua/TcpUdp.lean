import IngressNginx.Lua.Sync

/-!
# The TCP and UDP balancers

`tcp_udp_balancer.lua` keeps the balancers of the stream backends, which the controller sends
to `tcp_udp_configuration.lua` (`updateStreamConfiguration`). Its timer follows `balancer.lua`:
each second it rebuilds the balancers from the stored backends when they were sent after the
worker's last sync, or when thirty seconds have passed. The code differs from `balancer.lua`
in three places. `round_robin` is the only implementation. `sync_backend` skips a backend
without endpoints, keeping any balancer it has, and builds a new balancer from the backend as
sent: it resolves `ExternalName` endpoints and brackets IPv6 addresses only when it syncs a
balancer that exists. And the `ExternalName` backends are synced again by the same timer, on
every tick that finds nothing new.

So after a full sync the balancers are those of the names sent that have endpoints now or had
a balancer before. A backend whose endpoints all went keeps its balancer over the endpoints it
had (`syncBackends_balancers`). Along every run of the timer each balancer is a `round_robin`
instance (`invariant_run`), so `sync_backend` syncs a balancer that exists and never resets
it. A new `ExternalName` backend is balanced over its DNS names until the next tick resolves
them (`externalName_resolved_on_next_tick`).
-/

namespace IngressNginx

namespace TcpUdp

/-- `IMPLEMENTATIONS` of `tcp_udp_balancer.lua`, by name. -/
def implementationNamed : String → Option Implementation
  | "round_robin" => some .roundRobin
  | _ => none

/-- `get_implementation`: the configured algorithm, falling back to `round_robin`. -/
def getImplementation (backend : Backend) : Implementation :=
  (implementationNamed (backend.luaLoadBalance.getD defaultLbAlg)).getD .roundRobin

/-- The backend `sync_backend` hands to a balancer that exists: its `ExternalName` endpoints
resolved, and its IPv6 addresses bracketed. -/
def syncedBackend (dnsLookup : String → List String) (backend : Backend) : Backend :=
  let backend :=
    if isBackendWithExternalName backend then resolveExternalNames dnsLookup backend else backend
  { backend with endpoints := some (formatIpv6Endpoints backend.luaEndpoints) }

/-- `sync_backend` on the balancers of the worker; `none` is a Lua error. A backend without
endpoints is skipped; a new balancer is built from the backend as sent. -/
def syncBackend (dnsLookup : String → List String) (balancers : Go.Map String Balancer)
    (backend : Backend) : Option (Go.Map String Balancer) :=
  if backend.luaEndpoints = [] then some balancers
  else
    let implementation := getImplementation backend
    match balancers.lookup backend.name with
    | none => (Balancer.new implementation backend).map (balancers.insert backend.name)
    | some balancer =>
      if balancer.impl ≠ implementation then
        (Balancer.new implementation backend).map (balancers.insert backend.name)
      else (balancer.sync (syncedBackend dnsLookup backend)).map (balancers.insert backend.name)

/-- A pass of the loop of a tick that finds nothing new: `sync_backend` of a backend kept for
its `ExternalName`. -/
def syncExternalName (dnsLookup : String → List String) (w : Worker) (e : String × Backend) :
    Option Worker :=
  (syncBackend dnsLookup w.balancers e.2).map fun balancers => { w with balancers }

/-- The loop of a tick that finds nothing new: every `ExternalName` backend synced again. -/
def syncBackendsWithExternalName (dnsLookup : String → List String)
    (ord : Go.RangeOrder BalancerSite String) (w : Worker) : Worker :=
  (Lua.runLoop (syncExternalName dnsLookup) (w.backendsWithExternalName.range ord .externalNames)
    w).1

/-- One pass of the loop of `sync_backends` over the backends sent: the backend synced, its
balancer recorded in `balancers_to_keep`, and an `ExternalName` backend kept for the ticks
that follow. -/
def syncNewBackend (dnsLookup : String → List String) (acc : Worker × Lua.Table Balancer)
    (newBackend : Backend) : Option (Worker × Lua.Table Balancer) :=
  (syncBackend dnsLookup acc.1.balancers newBackend).map fun balancers =>
    let w := { acc.1 with balancers }
    -- `balancers_to_keep[new_backend.name] = balancers[new_backend.name]`
    let balancersToKeep :=
      match balancers.lookup newBackend.name with
      | some balancer => acc.2.insert newBackend.name balancer
      | none => acc.2.erase newBackend.name
    if isBackendWithExternalName newBackend then
      ({ w with
          backendsWithExternalName :=
            w.backendsWithExternalName.insert newBackend.name newBackend },
        balancersToKeep)
    else (w, balancersToKeep)

/-- `sync_backends` at second `now`; the balancers of names missing from `balancers_to_keep`
go, as in `balancer.lua`. -/
def syncBackends (dnsLookup : String → List String) (ord : Go.RangeOrder BalancerSite String)
    (data : ConfigurationData) (w : Worker) (now : Int) : Worker :=
  let rawBackendsLastSyncedAt := data.getRawBackendsLastSyncedAt
  if now - w.backendsLastSyncedAt < backendsForceSyncInterval ∧
      rawBackendsLastSyncedAt ≤ w.backendsLastSyncedAt then
    syncBackendsWithExternalName dnsLookup ord w
  else
    match data.backends with
    | none => { w with balancers := ∅ }
    | some newBackends =>
      match Lua.runLoop (syncNewBackend dnsLookup) newBackends (w, ∅) with
      | ((w, _), false) => w
      | ((w, balancersToKeep), true) =>
        { pruneBalancers ord balancersToKeep.keys w with
          backendsLastSyncedAt := rawBackendsLastSyncedAt }

/-- A tick of the timer of a worker: the answers of DNS at the time, what
`tcp_udp_configuration` holds, and the second. -/
structure Tick where
  dnsLookup : String → List String
  data : ConfigurationData
  now : Int

/-- The worker after the ticks of its timer, the first sync of `init_worker` included. -/
def run (ord : Go.RangeOrder BalancerSite String) (w : Worker) (ticks : List Tick) : Worker :=
  ticks.foldl (fun w t => syncBackends t.dnsLookup ord t.data w t.now) w

lemma run_append (ord : Go.RangeOrder BalancerSite String) (w : Worker) (ticks ticks' : List Tick) :
    run ord w (ticks ++ ticks') = run ord (run ord w ticks) ticks' :=
  List.foldl_append

@[simp] lemma run_cons (ord : Go.RangeOrder BalancerSite String) (w : Worker) (t : Tick)
    (ticks : List Tick) :
    run ord w (t :: ticks) = run ord (syncBackends t.dnsLookup ord t.data w t.now) ticks :=
  rfl

@[simp] lemma run_nil (ord : Go.RangeOrder BalancerSite String) (w : Worker) : run ord w [] = w :=
  rfl

/-! ### `sync_backend` -/

section SyncBackend

variable {dnsLookup : String → List String} {balancers : Go.Map String Balancer}
  {backend : Backend}

lemma implementationNamed_eq_some {name : String} {impl : Implementation}
    (h : implementationNamed name = some impl) : impl = .roundRobin := by
  unfold implementationNamed at h
  split at h
  · exact (Option.some.inj h).symm
  · cases h

/-- Every stream backend is balanced by `round_robin`. -/
@[simp] lemma getImplementation_eq (backend : Backend) :
    getImplementation backend = .roundRobin := by
  unfold getImplementation
  cases h : implementationNamed (backend.luaLoadBalance.getD defaultLbAlg) with
  | none => rfl
  | some impl => exact implementationNamed_eq_some h

lemma syncBackend_of_empty (h : backend.luaEndpoints = []) :
    syncBackend dnsLookup balancers backend = some balancers := by
  rw [syncBackend, if_pos h]

/-- What `sync_backend` does with a backend that has endpoints: a new `round_robin` balancer
over the endpoints as sent, unless a `round_robin` balancer exists, which is synced with the
endpoints resolved and bracketed. -/
lemma syncBackend_of_ne_nil (h : backend.luaEndpoints ≠ []) :
    ∃ bal, syncBackend dnsLookup balancers backend = some (balancers.insert backend.name bal) ∧
      ((∀ old, balancers.lookup backend.name = some old → old.impl ≠ .roundRobin) →
        Balancer.new .roundRobin backend = some bal) ∧
      (∀ old, balancers.lookup backend.name = some old → old.impl = .roundRobin →
        bal = old.restySync (syncedBackend dnsLookup backend)) := by
  obtain ⟨fresh, hfresh⟩ := Option.isSome_iff_exists.mp
    (@Balancer.new_isSome .roundRobin backend (by decide))
  rw [syncBackend, if_neg h, getImplementation_eq]
  cases hold : balancers.lookup backend.name with
  | none =>
    dsimp only
    refine ⟨fresh, by rw [hfresh]; rfl, fun _ => hfresh, fun old h => by cases h⟩
  | some old =>
    dsimp only
    by_cases himpl : old.impl = .roundRobin
    · rw [if_neg (not_not.mpr himpl), sync_of_resty (.inl himpl)]
      refine ⟨_, rfl, fun hne => absurd himpl (hne old rfl), fun old' h _ => ?_⟩
      cases h
      rfl
    · rw [if_pos himpl, hfresh]
      exact ⟨fresh, rfl, fun _ => rfl,
        fun old' h himpl' => absurd (by cases h; exact himpl') himpl⟩

/-- `sync_backend` never raises an error. -/
lemma syncBackend_isSome : (syncBackend dnsLookup balancers backend).isSome := by
  by_cases h : backend.luaEndpoints = []
  · rw [syncBackend_of_empty h]
    rfl
  · obtain ⟨bal, hbal, -⟩ := @syncBackend_of_ne_nil dnsLookup balancers backend h
    rw [hbal]
    rfl

/-- `sync_backend` writes the balancer of its backend's name only. -/
lemma lookup_syncBackend_of_ne {balancers' : Go.Map String Balancer}
    (h : syncBackend dnsLookup balancers backend = some balancers') {k : String}
    (hk : k ≠ backend.name) : balancers'.lookup k = balancers.lookup k := by
  by_cases hempty : backend.luaEndpoints = []
  · rw [syncBackend_of_empty hempty] at h
    cases h
    rfl
  · obtain ⟨bal, hbal, -⟩ := @syncBackend_of_ne_nil dnsLookup balancers backend hempty
    rw [hbal] at h
    cases h
    exact AList.lookup_insert_ne hk

/-- After `sync_backend`, a name has a balancer when it had one or is the name of a backend
with endpoints. -/
lemma isSome_lookup_syncBackend {balancers' : Go.Map String Balancer}
    (h : syncBackend dnsLookup balancers backend = some balancers') (k : String) :
    (balancers'.lookup k).isSome ↔
      (balancers.lookup k).isSome ∨ (k = backend.name ∧ backend.luaEndpoints ≠ []) := by
  by_cases hk : k = backend.name
  · by_cases hempty : backend.luaEndpoints = []
    · rw [syncBackend_of_empty hempty] at h
      cases h
      simp [hempty]
    · obtain ⟨bal, hbal, -⟩ := @syncBackend_of_ne_nil dnsLookup balancers backend hempty
      rw [hbal] at h
      cases h
      subst hk
      simp [hempty]
  · rw [lookup_syncBackend_of_ne h hk]
    simp [hk]

/-- `new` of `round_robin` balances over the endpoints as sent. -/
lemma instanceNodes_new_roundRobin {bal : Balancer}
    (h : Balancer.new .roundRobin backend = some bal) :
    bal.instanceNodes = some (getNodes backend.luaEndpoints) := by
  simp only [Balancer.new, Option.some.injEq] at h
  rw [← h]

/-- A backend with endpoints whose name has no balancer gets one over its endpoints as sent. -/
lemma lookup_syncBackend_of_none {balancers' : Go.Map String Balancer}
    (h : syncBackend dnsLookup balancers backend = some balancers')
    (hend : backend.luaEndpoints ≠ []) (hnone : balancers.lookup backend.name = none) :
    (balancers'.lookup backend.name).map Balancer.instanceNodes =
      some (some (getNodes backend.luaEndpoints)) := by
  obtain ⟨bal, hbal, hnew, -⟩ := @syncBackend_of_ne_nil dnsLookup balancers backend hend
  rw [hbal, Option.some.injEq] at h
  rw [← h, AList.lookup_insert, Option.map_some,
    instanceNodes_new_roundRobin (hnew fun old hold => by simp [hnone] at hold)]

/-- A backend with endpoints whose name has a `round_robin` balancer syncs it with the backend
resolved and bracketed. -/
lemma syncBackend_of_roundRobin (hend : backend.luaEndpoints ≠ []) {old : Balancer}
    (hold : balancers.lookup backend.name = some old) (himpl : old.impl = .roundRobin) :
    syncBackend dnsLookup balancers backend =
      some (balancers.insert backend.name (old.restySync (syncedBackend dnsLookup backend))) := by
  obtain ⟨bal, hbal, -, hsync⟩ := @syncBackend_of_ne_nil dnsLookup balancers backend hend
  rw [hbal, hsync old hold himpl]

/-- `sync_backend` keeps every balancer a `round_robin` instance. -/
lemma everyBalancer_roundRobin_syncBackend
    (h : EveryBalancer (fun _ bal => bal.impl = .roundRobin) balancers)
    {balancers' : Go.Map String Balancer}
    (hsync : syncBackend dnsLookup balancers backend = some balancers') :
    EveryBalancer (fun _ bal => bal.impl = .roundRobin) balancers' := by
  by_cases hend : backend.luaEndpoints = []
  · rw [syncBackend_of_empty hend, Option.some.injEq] at hsync
    rw [← hsync]
    exact h
  obtain ⟨bal, hbal, hnew, -⟩ := @syncBackend_of_ne_nil dnsLookup balancers backend hend
  cases hold : balancers.lookup backend.name with
  | none =>
    rw [hbal, Option.some.injEq] at hsync
    rw [← hsync]
    exact h.insert (Balancer.new_impl (hnew fun old h => by simp [hold] at h))
  | some old =>
    rw [syncBackend_of_roundRobin hend hold (h _ old hold), Option.some.injEq] at hsync
    rw [← hsync]
    refine h.insert ?_
    show (old.restySync _).impl = .roundRobin
    rw [restySync_impl]
    exact h _ old hold

end SyncBackend

/-! ### The loop over the backends sent -/

section Loop

variable {dnsLookup : String → List String} {acc acc' : Worker × Lua.Table Balancer}
  {newBackend : Backend}

lemma syncNewBackend_isSome : (syncNewBackend dnsLookup acc newBackend).isSome := by
  obtain ⟨balancers, hb⟩ := Option.isSome_iff_exists.mp
    (@syncBackend_isSome dnsLookup acc.1.balancers newBackend)
  rw [syncNewBackend, hb]
  rfl

/-- What a pass of the loop does: the backend synced by `sync_backend`, and
`balancers_to_keep` at its name set to its balancer. -/
lemma syncNewBackend_cases (h : syncNewBackend dnsLookup acc newBackend = some acc') :
    syncBackend dnsLookup acc.1.balancers newBackend = some acc'.1.balancers ∧
      acc'.2.lookup newBackend.name = acc'.1.balancers.lookup newBackend.name ∧
      ∀ k, k ≠ newBackend.name → acc'.2.lookup k = acc.2.lookup k := by
  unfold syncNewBackend at h
  cases hb : syncBackend dnsLookup acc.1.balancers newBackend with
  | none => rw [hb] at h; cases h
  | some balancers =>
    rw [hb, Option.map_some] at h
    cases h
    have hkeep : ∀ k, k ≠ newBackend.name →
        (match balancers.lookup newBackend.name with
          | some balancer => acc.2.insert newBackend.name balancer
          | none => acc.2.erase newBackend.name).lookup k = acc.2.lookup k := by
      intro k hk
      split
      · exact AList.lookup_insert_ne hk
      · exact AList.lookup_erase_ne hk
    have hself : (match balancers.lookup newBackend.name with
        | some balancer => acc.2.insert newBackend.name balancer
        | none => acc.2.erase newBackend.name).lookup newBackend.name =
        balancers.lookup newBackend.name := by
      split
      · rename_i balancer hbal
        rw [AList.lookup_insert, hbal]
      · rename_i hbal
        rw [AList.lookup_erase, hbal]
    split_ifs
    · exact ⟨rfl, hself, hkeep⟩
    · exact ⟨rfl, hself, hkeep⟩

/-- After a pass, a name has a balancer when it had one or is the name of the backend, which
has endpoints. -/
lemma isSome_lookup_syncNewBackend (h : syncNewBackend dnsLookup acc newBackend = some acc')
    (k : String) :
    (acc'.1.balancers.lookup k).isSome ↔
      (acc.1.balancers.lookup k).isSome ∨
        (k = newBackend.name ∧ newBackend.luaEndpoints ≠ []) :=
  isSome_lookup_syncBackend (syncNewBackend_cases h).1 k

lemma lookup_syncNewBackend_of_ne (h : syncNewBackend dnsLookup acc newBackend = some acc')
    {k : String} (hk : k ≠ newBackend.name) :
    acc'.1.balancers.lookup k = acc.1.balancers.lookup k ∧ acc'.2.lookup k = acc.2.lookup k :=
  ⟨lookup_syncBackend_of_ne (syncNewBackend_cases h).1 hk, (syncNewBackend_cases h).2.2 k hk⟩

/-- A pass keeps the backend under its name when it is an `ExternalName` backend, and
touches no other name. -/
lemma lookup_externalName_syncNewBackend (h : syncNewBackend dnsLookup acc newBackend = some acc')
    (k : String) :
    acc'.1.backendsWithExternalName.lookup k =
      if isBackendWithExternalName newBackend = true ∧ k = newBackend.name then some newBackend
      else acc.1.backendsWithExternalName.lookup k := by
  obtain ⟨balancers, -, rfl⟩ := Option.map_eq_some_iff.mp h
  dsimp only
  by_cases hext : isBackendWithExternalName newBackend = true
  · rw [if_pos hext]
    by_cases hk : k = newBackend.name
    · rw [if_pos ⟨hext, hk⟩, hk, AList.lookup_insert]
    · rw [if_neg fun h => hk h.2, AList.lookup_insert_ne hk]
  · rw [if_neg hext, if_neg fun h => hext h.1]

variable (dnsLookup) in
/-- After the loop, a name has a balancer when it had one or a backend sent with endpoints
has its name. -/
lemma isSome_lookup_runLoop (l : List Backend) (acc : Worker × Lua.Table Balancer)
    (hend : (Lua.runLoop (syncNewBackend dnsLookup) l acc).2 = true) (k : String) :
    ((Lua.runLoop (syncNewBackend dnsLookup) l acc).1.1.balancers.lookup k).isSome ↔
      (acc.1.balancers.lookup k).isSome ∨ ∃ b ∈ l, b.name = k ∧ b.luaEndpoints ≠ [] := by
  constructor
  · refine Lua.runLoop_invariant (fun s : Worker × Lua.Table Balancer =>
        (s.1.balancers.lookup k).isSome → (acc.1.balancers.lookup k).isSome ∨
          ∃ b ∈ l, b.name = k ∧ b.luaEndpoints ≠ []) ?_ (fun h => .inl h)
    intro s x s' hx hs hpass hs'
    rcases (isSome_lookup_syncNewBackend hpass k).mp hs' with h | ⟨rfl, hne⟩
    · exact hs h
    · exact .inr ⟨x, hx, rfl, hne⟩
  · rintro (h | ⟨b, hb, rfl, hne⟩)
    · -- no pass removes a balancer
      exact Lua.runLoop_invariant (fun s : Worker × Lua.Table Balancer =>
        (s.1.balancers.lookup k).isSome) (fun s x s' _ hs hpass =>
          (isSome_lookup_syncNewBackend hpass k).mpr (.inl hs)) h
    · exact Lua.runLoop_of_pass (P := fun s : Worker × Lua.Table Balancer =>
        (s.1.balancers.lookup b.name).isSome) hb
        (fun s s' hpass => (isSome_lookup_syncNewBackend hpass _).mpr (.inr ⟨rfl, hne⟩))
        (fun s x s' _ hs hpass => (isSome_lookup_syncNewBackend hpass _).mpr (.inl hs)) hend

variable (dnsLookup) in
/-- After the loop, `balancers_to_keep` holds the balancer of each name sent, and what it held
for any other name. -/
lemma lookup_keep_runLoop (l : List Backend) (acc : Worker × Lua.Table Balancer)
    (hend : (Lua.runLoop (syncNewBackend dnsLookup) l acc).2 = true) (k : String) :
    (Lua.runLoop (syncNewBackend dnsLookup) l acc).1.2.lookup k =
      if ∃ b ∈ l, b.name = k then
        (Lua.runLoop (syncNewBackend dnsLookup) l acc).1.1.balancers.lookup k
      else acc.2.lookup k := by
  split_ifs with hsent
  · -- the last pass of the name sets it, and passes of other names touch neither side
    obtain ⟨b, hb, rfl⟩ := hsent
    refine Lua.runLoop_of_pass (P := fun s : Worker × Lua.Table Balancer =>
      s.2.lookup b.name = s.1.balancers.lookup b.name) hb
      (fun s s' hpass => (syncNewBackend_cases hpass).2.1) (fun s x s' _ hs hpass => ?_) hend
    by_cases hx : b.name = x.name
    · rw [hx]
      exact (syncNewBackend_cases hpass).2.1
    · obtain ⟨hbal, hkeep⟩ := lookup_syncNewBackend_of_ne hpass hx
      rw [hbal, hkeep, hs]
  · simp only [not_exists, not_and] at hsent
    refine Lua.runLoop_invariant (fun s : Worker × Lua.Table Balancer =>
      s.2.lookup k = acc.2.lookup k) (fun s x s' hx hs hpass => ?_) rfl
    rw [(lookup_syncNewBackend_of_ne hpass fun hk => hsent x hx hk.symm).2, hs]

variable (dnsLookup) in
/-- A name whose backends sent have no endpoints keeps its balancer through the loop. -/
lemma lookup_runLoop_of_empty (l : List Backend) (acc : Worker × Lua.Table Balancer) (k : String)
    (hempty : ∀ b ∈ l, b.name = k → b.luaEndpoints = []) :
    (Lua.runLoop (syncNewBackend dnsLookup) l acc).1.1.balancers.lookup k =
      acc.1.balancers.lookup k := by
  refine Lua.runLoop_invariant (fun s : Worker × Lua.Table Balancer =>
    s.1.balancers.lookup k = acc.1.balancers.lookup k) (fun s x s' hx hs hpass => ?_) rfl
  by_cases hk : k = x.name
  · -- `sync_backend` skips a backend without endpoints
    have hsync := (syncNewBackend_cases hpass).1
    rw [syncBackend_of_empty (hempty x hx hk.symm), Option.some.injEq] at hsync
    rw [← hsync, hs]
  · rw [(lookup_syncNewBackend_of_ne hpass hk).1, hs]

variable (dnsLookup) in
/-- A loop over backends of distinct names, among them an `ExternalName` backend with endpoints
whose name has no balancer, ends with a balancer over that backend's endpoints as sent and the
backend kept under its name. -/
lemma runLoop_new_externalName (l : List Backend) (acc : Worker × Lua.Table Balancer)
    (hnodup : (l.map Backend.name).Nodup) {backend : Backend} (hb : backend ∈ l)
    (hext : isBackendWithExternalName backend = true) (hend : backend.luaEndpoints ≠ [])
    (hnone : acc.1.balancers.lookup backend.name = none) :
    ((Lua.runLoop (syncNewBackend dnsLookup) l acc).1.1.balancers.lookup backend.name).map
        Balancer.instanceNodes = some (some (getNodes backend.luaEndpoints)) ∧
      (Lua.runLoop (syncNewBackend dnsLookup) l acc).1.1.backendsWithExternalName.lookup
        backend.name = some backend := by
  refine Lua.runLoop_of_pass_once Backend.name hnodup hb
    (Q := fun acc : Worker × Lua.Table Balancer => acc.1.balancers.lookup backend.name = none)
    (P := fun acc : Worker × Lua.Table Balancer =>
      (acc.1.balancers.lookup backend.name).map Balancer.instanceNodes =
        some (some (getNodes backend.luaEndpoints)) ∧
      acc.1.backendsWithExternalName.lookup backend.name = some backend)
    (fun acc y acc' _ hy hQ hpass => ?_) (fun acc acc' hQ hpass => ⟨?_, ?_⟩)
    (fun acc y acc' _ hy hP hpass => ?_) hnone
    (Lua.runLoop_snd (fun acc b _ => syncNewBackend_isSome) acc)
  · rw [(lookup_syncNewBackend_of_ne hpass (Ne.symm hy)).1, hQ]
  · exact lookup_syncBackend_of_none (syncNewBackend_cases hpass).1 hend hQ
  · rw [lookup_externalName_syncNewBackend hpass, if_pos ⟨hext, rfl⟩]
  · -- a pass of another name touches neither the balancer nor the kept backend
    rw [(lookup_syncNewBackend_of_ne hpass (Ne.symm hy)).1,
      lookup_externalName_syncNewBackend hpass, if_neg fun h => hy h.2.symm]
    exact hP

end Loop

/-! ### A full sync -/

section Full

variable (dnsLookup : String → List String) (ord : Go.RangeOrder BalancerSite String)
  {data : ConfigurationData} {w : Worker} {now : Int} {newBackends : List Backend}

/-- A tick due for a full sync runs the loop over the backends sent to its end, prunes the names
it did not keep, and records the second of the backends. -/
lemma syncBackends_of_due (hdata : data.backends = some newBackends)
    (hdue : ¬(now - w.backendsLastSyncedAt < backendsForceSyncInterval ∧
      data.getRawBackendsLastSyncedAt ≤ w.backendsLastSyncedAt)) :
    syncBackends dnsLookup ord data w now =
      { pruneBalancers ord (Lua.runLoop (syncNewBackend dnsLookup) newBackends (w, ∅)).1.2.keys
          (Lua.runLoop (syncNewBackend dnsLookup) newBackends (w, ∅)).1.1 with
        backendsLastSyncedAt := data.getRawBackendsLastSyncedAt } := by
  have hend : (Lua.runLoop (syncNewBackend dnsLookup) newBackends (w, ∅)).2 = true :=
    Lua.runLoop_snd (fun acc b _ => syncNewBackend_isSome) (w, ∅)
  rw [syncBackends, if_neg hdue, hdata]
  dsimp only
  rw [← Prod.mk.eta (p := Lua.runLoop (syncNewBackend dnsLookup) newBackends (w, ∅)), hend]

/-- A tick that finds nothing new syncs the kept `ExternalName` backends only. -/
lemma syncBackends_of_not_due
    (h : now - w.backendsLastSyncedAt < backendsForceSyncInterval ∧
      data.getRawBackendsLastSyncedAt ≤ w.backendsLastSyncedAt) :
    syncBackends dnsLookup ord data w now = syncBackendsWithExternalName dnsLookup ord w := by
  rw [syncBackends, if_pos h]

end Full

/-- For every DNS, order of `pairs`, worker and configuration whose backends are due for a
full sync (sent after the worker's last sync, or thirty seconds on), and every name: the tick
runs to its end, records the second of the backends, and leaves a balancer under the name
exactly when the name was sent and either had a balancer or belongs to a backend sent with
endpoints. A name sent only with backends without endpoints keeps the balancer it had, over
the endpoints it had before. -/
theorem syncBackends_balancers (dnsLookup : String → List String)
    (ord : Go.RangeOrder BalancerSite String) (data : ConfigurationData) (w : Worker) (now : Int)
    {newBackends : List Backend} (hdata : data.backends = some newBackends)
    (hdue : ¬(now - w.backendsLastSyncedAt < backendsForceSyncInterval ∧
      data.getRawBackendsLastSyncedAt ≤ w.backendsLastSyncedAt)) (name : String) :
    (syncBackends dnsLookup ord data w now).backendsLastSyncedAt =
        data.getRawBackendsLastSyncedAt ∧
      (((syncBackends dnsLookup ord data w now).balancers.lookup name).isSome ↔
        (∃ b ∈ newBackends, b.name = name) ∧
          ((w.balancers.lookup name).isSome ∨
            ∃ b ∈ newBackends, b.name = name ∧ b.luaEndpoints ≠ [])) ∧
      ((∃ b ∈ newBackends, b.name = name) →
        (∀ b ∈ newBackends, b.name = name → b.luaEndpoints = []) →
        (syncBackends dnsLookup ord data w now).balancers.lookup name = w.balancers.lookup name) := by
  have hend : (Lua.runLoop (syncNewBackend dnsLookup) newBackends (w, ∅)).2 = true :=
    Lua.runLoop_snd (fun acc b _ => syncNewBackend_isSome) (w, ∅)
  have hsome := isSome_lookup_runLoop dnsLookup newBackends (w, ∅) hend name
  have hkeep := lookup_keep_runLoop dnsLookup newBackends (w, ∅) hend name
  have hstale := lookup_runLoop_of_empty dnsLookup newBackends (w, ∅) name
  rw [syncBackends_of_due dnsLookup ord hdata hdue]
  generalize (Lua.runLoop (syncNewBackend dnsLookup) newBackends (w, ∅)).1 = acc
    at hsome hkeep hstale ⊢
  obtain ⟨w', keep⟩ := acc
  dsimp only at hsome hkeep hstale ⊢
  -- a name is kept when it was sent and has a balancer after the loop
  have hkept : name ∈ keep.keys ↔
      (∃ b ∈ newBackends, b.name = name) ∧ (w'.balancers.lookup name).isSome := by
    rw [← AList.mem_keys, ← AList.lookup_isSome, hkeep]
    split_ifs with hsent
    · exact ⟨fun h => ⟨hsent, h⟩, fun h => h.2⟩
    · simp [hsent]
  refine ⟨rfl, ?_, fun hsent hempty => ?_⟩
  · rw [pruneBalancers_lookup]
    split_ifs with hk
    · rw [hsome]
      exact ⟨fun h => ⟨(hkept.mp hk).1, h⟩, fun h => h.2⟩
    · simp only [Option.isSome_none, Bool.false_eq_true, false_iff]
      rintro ⟨hsent, hhad⟩
      exact hk (hkept.mpr ⟨hsent, hsome.mpr hhad⟩)
  · rw [pruneBalancers_lookup]
    split_ifs with hk
    · exact hstale hempty
    · -- a name sent without endpoints and without a balancer has none after the tick
      rw [eq_comm, ← hstale hempty, ← Option.not_isSome_iff_eq_none]
      exact fun hhad => hk (hkept.mpr ⟨hsent, hhad⟩)

/-- The stream backend `tcp-db-5432`, of an `ExternalName` service. -/
def dbBackend : Backend :=
  { (default : Backend) with
    name := "tcp-db-5432"
    service := some { (default : Core.Service) with type := "ExternalName" }
    endpoints := some [{ address := "db.internal", port := "5432", target := none }] }

/-- A DNS that resolves every name to one address. -/
def dbLookup : String → List String := fun _ => ["10.0.0.7"]

/-- A tick in second `now` of a worker whose configuration holds `tcp-db-5432`, stored in
second 100. -/
def dbTick (now : Int) : Tick := ⟨dbLookup, ⟨some [dbBackend], some 100⟩, now⟩

theorem syncBackends_balancers_db :
    (dbTick 100).data.backends = some [dbBackend] ∧
      (syncBackends dbLookup .keyOrder (dbTick 100).data Worker.init 100).backendsLastSyncedAt =
          (dbTick 100).data.getRawBackendsLastSyncedAt ∧
        (((syncBackends dbLookup .keyOrder (dbTick 100).data Worker.init 100).balancers.lookup
            "tcp-db-5432").isSome ↔
          (∃ b ∈ [dbBackend], b.name = "tcp-db-5432") ∧
            ((Worker.init.balancers.lookup "tcp-db-5432").isSome ∨
              ∃ b ∈ [dbBackend], b.name = "tcp-db-5432" ∧ b.luaEndpoints ≠ [])) ∧
        ((∃ b ∈ [dbBackend], b.name = "tcp-db-5432") →
          (∀ b ∈ [dbBackend], b.name = "tcp-db-5432" → b.luaEndpoints = []) →
          (syncBackends dbLookup .keyOrder (dbTick 100).data Worker.init 100).balancers.lookup
            "tcp-db-5432" = Worker.init.balancers.lookup "tcp-db-5432") :=
  ⟨rfl, syncBackends_balancers dbLookup .keyOrder (dbTick 100).data Worker.init 100 rfl
    (by decide) "tcp-db-5432"⟩

/-! ### Along the ticks of a worker -/

/-- What every worker the ticks reach keeps: each balancer is a `round_robin` instance, and
each backend kept for the `ExternalName` passes is stored under its own name. -/
structure Invariant (w : Worker) : Prop where
  roundRobin : EveryBalancer (fun _ bal => bal.impl = .roundRobin) w.balancers
  keyed : ∀ name backend, w.backendsWithExternalName.lookup name = some backend →
    backend.name = name

section Invariant

variable {dnsLookup : String → List String} {w w' : Worker}
  {acc acc' : Worker × Lua.Table Balancer} {newBackend : Backend} {e : String × Backend}

lemma invariant_init : Invariant Worker.init :=
  ⟨everyBalancer_empty, fun _ _ h => by cases h⟩

lemma invariant_syncNewBackend (hI : Invariant acc.1)
    (h : syncNewBackend dnsLookup acc newBackend = some acc') : Invariant acc'.1 where
  roundRobin := everyBalancer_roundRobin_syncBackend hI.roundRobin (syncNewBackend_cases h).1
  keyed name backend hb := by
    rw [lookup_externalName_syncNewBackend h] at hb
    split_ifs at hb with hext
    · cases hb
      exact hext.2.symm
    · exact hI.keyed name backend hb

lemma invariant_syncExternalName (hI : Invariant w) (h : syncExternalName dnsLookup w e = some w') :
    Invariant w' := by
  obtain ⟨balancers, hsync, rfl⟩ := Option.map_eq_some_iff.mp h
  exact ⟨everyBalancer_roundRobin_syncBackend hI.roundRobin hsync, hI.keyed⟩

lemma invariant_pruneBalancers (hI : Invariant w) (ord : Go.RangeOrder BalancerSite String)
    (keep : List String) : Invariant (pruneBalancers ord keep w) where
  roundRobin := everyBalancer_pruneBalancers hI.roundRobin ord keep
  keyed name backend hb := by
    rcases lookup_externalName_pruneBalancers ord keep w name with h | ⟨h, -⟩
    · rw [h] at hb
      exact hI.keyed name backend hb
    · rw [h] at hb
      cases hb

/-- Every tick keeps the invariant, whichever branch it takes. -/
lemma invariant_syncBackends (hI : Invariant w) (ord : Go.RangeOrder BalancerSite String)
    (data : ConfigurationData) (now : Int) : Invariant (syncBackends dnsLookup ord data w now) := by
  unfold syncBackends
  dsimp only
  split_ifs
  · exact Lua.runLoop_invariant Invariant
      (fun _ _ _ _ hw hpass => invariant_syncExternalName hw hpass) hI
  · split
    · exact ⟨everyBalancer_empty, hI.keyed⟩
    · rename_i newBackends _
      have hloop : Invariant (Lua.runLoop (syncNewBackend dnsLookup) newBackends (w, ∅)).1.1 :=
        Lua.runLoop_invariant (fun acc : Worker × Lua.Table Balancer => Invariant acc.1)
          (fun _ _ _ _ hacc hpass => invariant_syncNewBackend hacc hpass) hI
      split
      · rename_i w₁ _ hrun
        rw [hrun] at hloop
        exact hloop
      · rename_i w₁ keep hrun
        rw [hrun] at hloop
        exact ⟨(invariant_pruneBalancers hloop ord keep.keys).roundRobin,
          (invariant_pruneBalancers hloop ord keep.keys).keyed⟩

lemma invariant_run (ord : Go.RangeOrder BalancerSite String) :
    ∀ (ticks : List Tick) {w : Worker}, Invariant w → Invariant (run ord w ticks)
  | [], _, hI => hI
  | t :: ticks, w, hI => by
    rw [run_cons]
    exact invariant_run ord ticks (invariant_syncBackends hI ord t.data t.now)

end Invariant

/-! ### An `ExternalName` backend over two ticks -/

section ExternalName

variable (dnsLookup : String → List String) (ord : Go.RangeOrder BalancerSite String)
  {data : ConfigurationData} {w : Worker} {now : Int} {newBackends : List Backend}
  {backend : Backend}

/-- The full sync that first sends an `ExternalName` backend with endpoints, alone under its
name and new to the worker, balances it over its endpoints as sent, and keeps it for the
passes of the ticks that follow. -/
lemma syncBackends_new_externalName (hdata : data.backends = some newBackends)
    (hdue : ¬(now - w.backendsLastSyncedAt < backendsForceSyncInterval ∧
      data.getRawBackendsLastSyncedAt ≤ w.backendsLastSyncedAt))
    (hnodup : (newBackends.map Backend.name).Nodup) (hb : backend ∈ newBackends)
    (hext : isBackendWithExternalName backend = true) (hend : backend.luaEndpoints ≠ [])
    (hnew : w.balancers.lookup backend.name = none) :
    ((syncBackends dnsLookup ord data w now).balancers.lookup backend.name).map
        Balancer.instanceNodes = some (some (getNodes backend.luaEndpoints)) ∧
      (syncBackends dnsLookup ord data w now).backendsWithExternalName.lookup backend.name =
        some backend := by
  have hrun : (Lua.runLoop (syncNewBackend dnsLookup) newBackends (w, ∅)).2 = true :=
    Lua.runLoop_snd (fun acc b _ => syncNewBackend_isSome) (w, ∅)
  obtain ⟨hnodes, hkept⟩ :=
    runLoop_new_externalName dnsLookup newBackends (w, ∅) hnodup hb hext hend hnew
  have hkeep := lookup_keep_runLoop dnsLookup newBackends (w, ∅) hrun backend.name
  rw [if_pos ⟨backend, hb, rfl⟩] at hkeep
  -- the name has a balancer after the loop, so it is kept
  have hmem :
      backend.name ∈ (Lua.runLoop (syncNewBackend dnsLookup) newBackends (w, ∅)).1.2.keys := by
    obtain ⟨bal, hbal, -⟩ := Option.map_eq_some_iff.mp hnodes
    rw [← AList.mem_keys, ← AList.lookup_isSome, hkeep, hbal]
    rfl
  rw [syncBackends_of_due dnsLookup ord hdata hdue]
  refine ⟨?_, ?_⟩
  · rw [pruneBalancers_lookup, if_pos hmem]
    exact hnodes
  · rcases lookup_externalName_pruneBalancers ord _ _ backend.name with h | ⟨-, h⟩
    · rw [h]
      exact hkept
    · exact absurd hmem h

/-- A tick that finds nothing new, on a worker that keeps the invariant and has a balancer for
an `ExternalName` backend it keeps, balances that backend over its endpoints as DNS resolves
them. -/
lemma syncBackendsWithExternalName_resolves (hI : Invariant w)
    (hkept : w.backendsWithExternalName.lookup backend.name = some backend)
    (hend : backend.luaEndpoints ≠ []) {old : Balancer}
    (hold : w.balancers.lookup backend.name = some old) :
    ((syncBackendsWithExternalName dnsLookup ord w).balancers.lookup backend.name).map
      Balancer.instanceNodes =
        some (some (getNodes (syncedBackend dnsLookup backend).luaEndpoints)) := by
  have himpl : old.impl = .roundRobin := hI.roundRobin _ old hold
  -- each entry is kept under its own name, so a pass of another entry is of another name
  have hother : ∀ w₁ w₂ (y : String × Backend),
      y ∈ w.backendsWithExternalName.range ord .externalNames →
      y.1 ≠ backend.name → syncExternalName dnsLookup w₁ y = some w₂ →
      w₂.balancers.lookup backend.name = w₁.balancers.lookup backend.name := by
    rintro w₁ w₂ ⟨k, e⟩ hy hk hpass
    obtain ⟨balancers, hsync, rfl⟩ := Option.map_eq_some_iff.mp hpass
    have hne : backend.name ≠ e.name := by
      rw [hI.keyed k e (Go.Map.mem_range.mp hy)]
      exact Ne.symm hk
    exact lookup_syncBackend_of_ne hsync hne
  refine Lua.runLoop_of_pass_once Prod.fst Go.Map.range_keys_nodup (Go.Map.mem_range.mpr hkept)
    (Q := fun w' : Worker => w'.balancers.lookup backend.name = some old)
    (P := fun w' : Worker => (w'.balancers.lookup backend.name).map Balancer.instanceNodes =
      some (some (getNodes (syncedBackend dnsLookup backend).luaEndpoints)))
    (fun w₁ y w₂ hy hne hQ hpass => ?_) (fun w₁ w₂ hQ hpass => ?_)
    (fun w₁ y w₂ hy hne hP hpass => ?_) hold
    (Lua.runLoop_snd (fun w₁ y _ => ?_) w)
  · rw [hother w₁ w₂ y hy hne hpass, hQ]
  · -- the pass of the backend syncs its `round_robin` balancer
    obtain ⟨balancers, hsync, rfl⟩ := Option.map_eq_some_iff.mp hpass
    rw [syncBackend_of_roundRobin hend hQ himpl, Option.some.injEq] at hsync
    rw [← hsync, AList.lookup_insert, Option.map_some, restySync_instanceNodes]
  · rw [hother w₁ w₂ y hy hne hpass, hP]
  · exact Option.isSome_map.trans syncBackend_isSome

end ExternalName

/-- From a worker that has synced nothing, after any run of ticks: a full sync that first
sends an `ExternalName` backend with endpoints, of a name without a balancer and sent once,
balances it over the DNS names themselves, as sent; the next tick, if it finds nothing new,
balances it over the addresses DNS gives for them. -/
theorem externalName_resolved_on_next_tick (ord : Go.RangeOrder BalancerSite String)
    (ticks : List Tick) (t t' : Tick) {newBackends : List Backend} {backend : Backend}
    (hdata : t.data.backends = some newBackends)
    (hdue : ¬(t.now - (run ord Worker.init ticks).backendsLastSyncedAt < backendsForceSyncInterval ∧
      t.data.getRawBackendsLastSyncedAt ≤ (run ord Worker.init ticks).backendsLastSyncedAt))
    (hnodup : (newBackends.map Backend.name).Nodup) (hb : backend ∈ newBackends)
    (hext : isBackendWithExternalName backend = true) (hend : backend.luaEndpoints ≠ [])
    (hnew : (run ord Worker.init ticks).balancers.lookup backend.name = none)
    (hnext : t'.now - t.data.getRawBackendsLastSyncedAt < backendsForceSyncInterval ∧
      t'.data.getRawBackendsLastSyncedAt ≤ t.data.getRawBackendsLastSyncedAt) :
    ((run ord Worker.init (ticks ++ [t])).balancers.lookup backend.name).map
        Balancer.instanceNodes = some (some (getNodes backend.luaEndpoints)) ∧
      ((run ord Worker.init (ticks ++ [t, t'])).balancers.lookup backend.name).map
        Balancer.instanceNodes =
        some (some (getNodes (syncedBackend t'.dnsLookup backend).luaEndpoints)) := by
  have hI : Invariant (run ord Worker.init ticks) := invariant_run ord ticks invariant_init
  obtain ⟨hnodes, hkept⟩ :=
    syncBackends_new_externalName t.dnsLookup ord hdata hdue hnodup hb hext hend hnew
  obtain ⟨old, hold, -⟩ := Option.map_eq_some_iff.mp hnodes
  -- the first tick records the second of the backends, so the next one finds nothing new
  have hquiet : t'.now - (syncBackends t.dnsLookup ord t.data (run ord Worker.init ticks)
        t.now).backendsLastSyncedAt < backendsForceSyncInterval ∧
      t'.data.getRawBackendsLastSyncedAt ≤ (syncBackends t.dnsLookup ord t.data
        (run ord Worker.init ticks) t.now).backendsLastSyncedAt := by
    rw [syncBackends_of_due t.dnsLookup ord hdata hdue]
    exact hnext
  simp only [run_append, run_cons, run_nil]
  rw [syncBackends_of_not_due t'.dnsLookup ord hquiet]
  exact ⟨hnodes, syncBackendsWithExternalName_resolves t'.dnsLookup ord
    (invariant_syncBackends hI ord t.data t.now) hkept hend hold⟩

theorem externalName_resolved_on_next_tick_db :
    isBackendWithExternalName dbBackend = true ∧
      ((run .keyOrder Worker.init ([] ++ [dbTick 100])).balancers.lookup dbBackend.name).map
          Balancer.instanceNodes = some (some (getNodes dbBackend.luaEndpoints)) ∧
        ((run .keyOrder Worker.init ([] ++ [dbTick 100, dbTick 101])).balancers.lookup
            dbBackend.name).map Balancer.instanceNodes =
          some (some (getNodes (syncedBackend dbLookup dbBackend).luaEndpoints)) :=
  ⟨by decide, externalName_resolved_on_next_tick .keyOrder [] (dbTick 100) (dbTick 101) rfl
    (by decide) (by decide) (List.mem_singleton_self _) (by decide) (by decide) rfl (by decide)⟩

end TcpUdp

end IngressNginx
