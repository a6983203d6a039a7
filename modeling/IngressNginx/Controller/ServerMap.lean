import IngressNginx.Controller.BackendServers

/-!
# The server map of `getBackendServers`

Every pass of `getBackendServers` keeps three facts of its map of servers (`ServersWF`): a
server is stored under its own hostname, the catch-all server `_` is present, and the first
location of a server is its root location `/` by prefix, no other location being one
(`Server.RootFirst`). So the servers it returns have distinct hostnames, `_` among them,
and exactly one root prefix location each.

Each pass gets one lemma, from the lemmas of the functions it folds: `createServers`, the
location loop, the canary merge (which leaves the servers alone) and the custom default
backend loop.
-/

namespace IngressNginx

/-! ### The root prefix location -/

/-- A location of the root path `/` by prefix. -/
def Location.isRootPrefix (loc : Location) : Bool :=
  loc.path == rootLocation && loc.pathType == some .Prefix

/-- The locations of a server as every pass leaves them: the root prefix location first,
and no other. -/
def Server.RootFirst (s : Server) : Prop :=
  ∃ k, s.locations.map Location.isRootPrefix = true :: List.replicate k false

namespace Server

variable {s s' : Server} {loc : Location}

lemma RootFirst.of_map (hs : s.RootFirst)
    (h : s'.locations.map Location.isRootPrefix = s.locations.map Location.isRootPrefix) :
    s'.RootFirst := by
  obtain ⟨k, hk⟩ := hs
  exact ⟨k, h.trans hk⟩

lemma RootFirst.head (hs : s.RootFirst) :
    ∃ root rest, s.locations = root :: rest ∧ root.isRootPrefix = true := by
  obtain ⟨k, hk⟩ := hs
  cases h : s.locations with
  | nil => simp [h] at hk
  | cons root rest =>
    rw [h, List.map_cons, List.cons.injEq] at hk
    exact ⟨root, rest, rfl, hk.1⟩

lemma RootFirst.append (hs : s.RootFirst) (hloc : loc.isRootPrefix = false)
    (h : s'.locations = s.locations ++ [loc]) : s'.RootFirst := by
  obtain ⟨k, hk⟩ := hs
  refine ⟨k + 1, ?_⟩
  simp [h, hk, hloc, List.replicate_succ']

/-- A rooted server has exactly one root prefix location. -/
lemma RootFirst.countP (hs : s.RootFirst) : s.locations.countP Location.isRootPrefix = 1 := by
  obtain ⟨k, hk⟩ := hs
  have h := congrArg (List.countP id) hk
  simpa [List.countP_replicate] using h

end Server

/-- A path never adds a second root prefix location: a path `/` finds the root location
first, and is added only if its type is not `Prefix`. -/
lemma addPathLocation_rootFirst {ing : Ingress} {ups : Backend}
    {path : Networking.HTTPIngressPath} {server : Server} (hs : server.RootFirst) :
    (addPathLocation ing ups path server).RootFirst := by
  obtain ⟨root, rest, hlocs, hroot⟩ := hs.head
  have hrootPath : root.path = rootLocation ∧ root.pathType = some .Prefix := by
    simpa [Location.isRootPrefix] using hroot
  have hfind : nginxPathOf path = rootLocation →
      server.locations.find? (·.path = nginxPathOf path) = some root := by
    intro hp
    rw [hlocs, List.find?_cons_of_pos]
    simp [hp, hrootPath.1]
  unfold addPathLocation
  dsimp only
  split
  · -- no location of that path: the new location is not `/`
    rename_i hnone
    have hp : nginxPathOf path ≠ rootLocation := fun hp => by simp [hfind hp] at hnone
    exact hs.append (by simp [Location.isRootPrefix, hp]) rfl
  · rename_i loc hloc
    split_ifs with htype hdef
    · -- the first location of that path has another type: it is the root location when
      -- the path is `/`, so the new location is not of type `Prefix`
      refine hs.append ?_ rfl
      by_cases hp : nginxPathOf path = rootLocation
      · rw [hfind hp, Option.some.injEq] at hloc
        subst hloc
        have : path.pathType ≠ some .Prefix := fun h => htype (by rw [hrootPath.2, h])
        simp [Location.isRootPrefix, this]
      · simp [Location.isRootPrefix, hp]
    · exact hs
    · -- a default location taken over keeps its path and type
      refine hs.of_map (Go.map_replace _ ?_ _)
      simp [Location.isRootPrefix]

/-! ### The invariant of the server map -/

/-- The map of servers between the passes of `getBackendServers`. -/
structure ServersWF (servers : Go.Map String Server) : Prop where
  hostname : ∀ {k s}, servers.lookup k = some s → s.hostname = k
  rootFirst : ∀ {k s}, servers.lookup k = some s → s.RootFirst
  catchAll : defServerName ∈ servers

namespace ServersWF

variable {servers : Go.Map String Server} {k : String} {s s' : Server}

/-- Storing a rooted server under its hostname. -/
lemma insert (h : ServersWF servers) (hk : s.hostname = k) (hr : s.RootFirst) :
    ServersWF (servers.insert k s) where
  hostname hl := by
    rcases Go.Map.lookup_insert_eq_some.mp hl with ⟨rfl, rfl⟩ | ⟨-, hl⟩
    · exact hk
    · exact h.hostname hl
  rootFirst hl := by
    rcases Go.Map.lookup_insert_eq_some.mp hl with ⟨-, rfl⟩ | ⟨-, hl⟩
    · exact hr
    · exact h.rootFirst hl
  catchAll := (AList.mem_insert _).mpr (.inr h.catchAll)

/-- Replacing a stored server by one of the same hostname whose locations stay rooted. -/
lemma update (h : ServersWF servers) (hs : servers.lookup k = some s)
    (hk : s'.hostname = s.hostname) (hr : s.RootFirst → s'.RootFirst) :
    ServersWF (servers.insert k s') :=
  h.insert (hk.trans (h.hostname hs)) (hr (h.rootFirst hs))

end ServersWF

/-! ### `createServers` -/

section CreateServers

variable {servers : Go.Map String Server} {ing : Ingress}

lemma setCatchAll_wf {bu : Option Backend} (h : ServersWF servers) :
    ServersWF (setCatchAll ing bu servers) := by
  unfold setCatchAll
  split
  · rename_i u srv hsrv
    split
    · rename_i defLoc rest hlocs
      refine h.update hsrv rfl fun hr => hr.of_map ?_
      simp [hlocs, Location.isRootPrefix]
    · exact h
  · exact h

lemma addHostServer_wf {un : String} {rule : Networking.IngressRule} (h : ServersWF servers) :
    ServersWF (addHostServer ing un servers rule) := by
  unfold addHostServer
  dsimp only
  split_ifs
  · exact h
  · exact h.insert rfl ⟨0, by simp [Location.isRootPrefix]⟩

lemma addServersOf_wf {upstreams : Go.Map String Backend} {du : Backend}
    (h : ServersWF servers) : ServersWF (addServersOf upstreams du servers ing) := by
  unfold addServersOf
  split_ifs
  · exact h
  · exact List.foldlRecOn (motive := ServersWF) _ _ (setCatchAll_wf h)
      fun _ hb _ _ => addHostServer_wf hb

namespace NGINXController

variable (n : NGINXController)

lemma defaultServer_wf (du : Backend) :
    ServersWF (AList.insert defServerName (n.defaultServer du) ∅) where
  hostname hl := by
    rcases Go.Map.lookup_insert_eq_some.mp hl with ⟨rfl, rfl⟩ | ⟨-, hl⟩
    · rfl
    · simp at hl
  rootFirst hl := by
    rcases Go.Map.lookup_insert_eq_some.mp hl with ⟨-, rfl⟩ | ⟨-, hl⟩
    · exact ⟨0, by simp [defaultServer, Location.isRootPrefix]⟩
    · simp at hl
  catchAll := (AList.mem_insert _).mpr (.inl rfl)

/-- The second loop of `createServers` changes a server's settings, never its hostname or
locations. -/
lemma configureServer_wf {st st' : Go.Map String Server × Go.Map String (List String)}
    {rule : Networking.IngressRule} (h : n.configureServer ing st rule = some st')
    (hw : ServersWF st.1) : ServersWF st'.1 := by
  unfold configureServer at h
  dsimp only at h
  split at h
  · cases h
  · rename_i srv hsrv
    simp only [bind, Option.bind_eq_some_iff, pure, Option.some.injEq] at h
    obtain ⟨srv', hcert, rfl⟩ := h
    obtain ⟨hk, hl⟩ := n.configureServerCert_eq_some hcert
    exact hw.update hsrv (by simp [hk]) fun hr => hr.of_map (by simp [hl])

lemma createServers_wf {ord : Go.RangeOrder RangeSite String} {data : List Ingress}
    {upstreams : Go.Map String Backend} {du : Backend}
    (h : n.createServers ord data upstreams du = some servers) : ServersWF servers := by
  unfold createServers at h
  simp only [bind, Option.bind_eq_some_iff, pure, Option.some.injEq] at h
  obtain ⟨⟨servers₁, allAliases⟩, hloop, rfl⟩ := h
  have h₀ : ServersWF (data.foldl (addServersOf upstreams du)
      (AList.insert defServerName (n.defaultServer du) ∅)) :=
    List.foldlRecOn (motive := ServersWF) _ _ (n.defaultServer_wf du)
      fun _ hb _ _ => addServersOf_wf hb
  have h₁ : ServersWF servers₁ := by
    refine Go.foldlM_invariant (fun st => ServersWF st.1) ?_ h₀ hloop
    intro st ing st' _ hst hing
    split_ifs at hing
    · cases hing
      exact hst
    · exact Go.foldlM_invariant (fun st => ServersWF st.1)
        (fun _ _ _ _ hb hr => n.configureServer_wf hr hb) hst hing
  -- the aliases of each host, sorted into its server
  refine List.foldlRecOn (motive := ServersWF) _ _ h₁ fun servers hb e _ => ?_
  split
  · exact hb
  · rename_i srv hsrv
    exact hb.update hsrv rfl id

end NGINXController

end CreateServers

/-! ### The location loop -/

section LocationLoop

variable {ing : Ingress} {b b' : Build}

lemma addPath_wf {host key : String} {path : Networking.HTTPIngressPath}
    (h : addPath ing host key b path = some b') (hw : ServersWF b.servers) :
    ServersWF b'.servers := by
  unfold addPath at h
  simp only [bind, Option.bind_eq_some_iff, pure] at h
  obtain ⟨ups, -, h⟩ := h
  split_ifs at h
  · cases h
    exact hw
  · simp only [Option.bind_eq_some_iff, Option.some.injEq] at h
    obtain ⟨server, hserver, ups', -, rfl⟩ := h
    exact hw.update hserver (by simp) addPathLocation_rootFirst

lemma addRule_wf {p : Bool} {rule : Networking.IngressRule}
    (h : addRule p ing b rule = some b') (hw : ServersWF b.servers) : ServersWF b'.servers := by
  unfold addRule at h
  dsimp only at h
  generalize (if ruleHost rule ∈ b.servers then ruleHost rule else defServerName) = key at h
  by_cases hskip : rule.http.isNone = true ∧ ruleHost rule ≠ defServerName
  · rw [if_pos hskip] at h
    cases h
    exact hw
  · rw [if_neg hskip] at h
    simp only [bind, Option.bind_eq_some_iff] at h
    obtain ⟨server, hserver, h⟩ := h
    -- the rule's server settings first, then its paths
    have hw' : ServersWF (b.servers.insert key (configureRuleServer p ing.parsedAnnotations server)) :=
      hw.update hserver (by simp) fun hr => hr.of_map (by simp)
    split at h
    · cases h
      exact hw'
    · exact Go.foldlM_invariant (fun b => ServersWF b.servers)
        (fun _ _ _ _ hb hr => addPath_wf hr hb) hw' h

lemma locationLoop_wf {p : Bool} {ingresses : List Ingress}
    (h : locationLoop p ingresses b = some b') (hw : ServersWF b.servers) :
    ServersWF b'.servers :=
  Go.foldlM_invariant (fun b => ServersWF b.servers)
    (fun _ _ _ _ hb hr => Go.foldlM_invariant (fun b => ServersWF b.servers)
      (fun _ _ _ _ hb hr => addRule_wf hr hb) hb hr) hw h

end LocationLoop

/-! ### The canary merge -/

/-- The canary merge changes upstreams only. -/
lemma mergeAlternativeBackends_servers {ing : Ingress} {b b' : Build}
    (h : mergeAlternativeBackends ing b = some b') : b'.servers = b.servers := by
  unfold mergeAlternativeBackends at h
  simp only [bind, Option.bind_eq_some_iff, pure, Option.some.injEq] at h
  obtain ⟨_, -, _, -, rfl⟩ := h
  rfl

lemma mergeCanaries_servers {ingresses : List Ingress} {b b' : Build}
    (h : mergeCanaries ingresses b = some b') : b'.servers = b.servers := by
  unfold mergeCanaries at h
  dsimp only at h
  split_ifs at h
  · exact Go.foldlM_invariant (fun b' => b'.servers = b.servers)
      (fun _ _ _ _ hb hr => (mergeAlternativeBackends_servers hr).trans hb) rfl h
  · cases h
    rfl

/-! ### Custom default backends -/

namespace NGINXController

variable (n : NGINXController) {upstream : Backend} {server : Server}

/-- The loop changes a location's backend and the name of its default backend's upstream, and
nothing else. -/
lemma customDefaultBackendFor_snd (location : Location) :
    ∃ name backend, (n.customDefaultBackendFor upstream server location).2.1 =
      { location with defaultBackendUpstreamName := name, backend := backend } := by
  rw [customDefaultBackendFor]
  split
  · split
    · exact ⟨_, _, rfl⟩
    · dsimp only
      split_ifs <;> exact ⟨_, _, rfl⟩
  · exact ⟨_, _, rfl⟩

@[simp] lemma customDefaultBackendFor_path (location : Location) :
    (n.customDefaultBackendFor upstream server location).2.1.path = location.path := by
  obtain ⟨name, backend, h⟩ := n.customDefaultBackendFor_snd location
  rw [h]

@[simp] lemma customDefaultBackendFor_pathType (location : Location) :
    (n.customDefaultBackendFor upstream server location).2.1.pathType = location.pathType := by
  obtain ⟨name, backend, h⟩ := n.customDefaultBackendFor_snd location
  rw [h]

/-- The loop over a server's locations updates each location in place. -/
lemma customDefaultBackendsIn_server :
    (n.customDefaultBackendsIn upstream server).2.1 =
      { server with
        locations := server.locations.map fun l => (n.customDefaultBackendFor upstream server l).2.1 } := by
  -- each pass appends its location, updated, to the locations of the loop's state
  rw [customDefaultBackendsIn]
  dsimp only
  rw [Go.foldl_append_map (fun acc : List Backend × List Location × Bool => acc.2.1)
    (fun l => (n.customDefaultBackendFor upstream server l).2.1) ?_]
  · rfl
  · rintro ⟨nbs, locations, https⟩ location
    rfl

lemma customDefaultBackendsIn_rootFirst (hs : server.RootFirst) :
    (n.customDefaultBackendsIn upstream server).2.1.RootFirst :=
  hs.of_map (by simp [customDefaultBackendsIn_server, Location.isRootPrefix])

lemma customDefaultBackendsOf_wf {ord : Go.RangeOrder RangeSite String}
    {servers : Go.Map String Server} (hw : ServersWF servers) :
    ServersWF (n.customDefaultBackendsOf ord upstream servers).2.1 := by
  unfold customDefaultBackendsOf
  -- each server of the range is written back under its key, with its locations updated
  refine List.foldlRecOn
    (motive := fun acc : List Backend × Go.Map String Server × Bool => ServersWF acc.2.1) _ _ hw
    fun acc hacc e he => ?_
  have hl : servers.lookup e.1 = some e.2 := Go.Map.mem_range.mp he
  exact hacc.insert
    ((by simp [customDefaultBackendsIn_server] : (n.customDefaultBackendsIn upstream e.2).2.1.hostname = e.2.hostname).trans
      (hw.hostname hl))
    (n.customDefaultBackendsIn_rootFirst (hw.rootFirst hl))

lemma customDefaultBackends_wf (ord : Go.RangeOrder RangeSite String) {b : Build}
    (hw : ServersWF b.servers) : ServersWF (n.customDefaultBackends ord b).2 := by
  unfold customDefaultBackends
  refine List.foldlRecOn (motive := fun acc : List Backend × Go.Map String Server => ServersWF acc.2)
    _ _ hw fun acc hacc e _ => ?_
  dsimp only
  split_ifs
  · exact hacc
  all_goals exact n.customDefaultBackendsOf_wf hacc

end NGINXController

/-! ### The servers returned -/

lemma sortLocations_perm (locations : List Location) : (sortLocations locations).Perm locations :=
  (Go.sliceStable_perm _ _).trans (Go.sliceStable_perm _ _)

namespace NGINXController

variable (n : NGINXController) {ord : Go.RangeOrder RangeSite String}
  {ingresses : List Ingress} {backends : List Backend} {servers : List Server}

/-- The servers `getBackendServers` returns are those of a well-formed map, each with its
locations sorted, sorted by hostname. -/
lemma getBackendServers_servers (h : n.getBackendServers ord ingresses = some (backends, servers)) :
    ∃ m, ServersWF m ∧ servers.Perm
      ((m.range ord .servers).map fun e => { e.2 with locations := sortLocations e.2.locations }) := by
  unfold getBackendServers at h
  simp only [bind, Option.bind_eq_some_iff, pure, Option.some.injEq] at h
  obtain ⟨du, -, servers₀, hcreate, b, hloop, b', hmerge, h⟩ := h
  have hw : ServersWF b'.servers := by
    rw [mergeCanaries_servers hmerge]
    exact locationLoop_wf hloop (n.createServers_wf hcreate)
  refine ⟨_, n.customDefaultBackends_wf ord hw, ?_⟩
  rw [Prod.mk.injEq] at h
  rw [← h.2]
  exact Go.sliceStable_perm _ _

/-- The servers `getBackendServers` returns have distinct hostnames, the catch-all server
`_` among them, and exactly one root location by prefix each. -/
theorem getBackendServers_servers_wellFormed
    (h : n.getBackendServers ord ingresses = some (backends, servers)) :
    (servers.map (·.hostname)).Nodup ∧ defServerName ∈ servers.map (·.hostname) ∧
      ∀ s ∈ servers, s.locations.countP Location.isRootPrefix = 1 := by
  obtain ⟨m, hw, hperm⟩ := n.getBackendServers_servers h
  -- the hostnames returned are the keys of the map, each server being stored under its own
  have hkeys : ((m.range ord .servers).map fun e =>
      ({ e.2 with locations := sortLocations e.2.locations } : Server)).map (·.hostname) =
      (m.range ord .servers).map Prod.fst := by
    rw [List.map_map]
    exact List.map_congr_left fun ⟨k, v⟩ he =>
      show v.hostname = k from hw.hostname (Go.Map.mem_range.mp he)
  have hnames := hperm.map (·.hostname)
  rw [hkeys] at hnames
  refine ⟨hnames.nodup_iff.mpr Go.Map.range_keys_nodup, ?_, ?_⟩
  · obtain ⟨s, hs⟩ := Option.isSome_iff_exists.mp (AList.lookup_isSome.mpr hw.catchAll)
    exact hnames.mem_iff.mpr (List.mem_map.mpr ⟨(defServerName, s), Go.Map.mem_range.mpr hs, rfl⟩)
  · intro s hs
    obtain ⟨e, he, rfl⟩ := List.mem_map.mp (hperm.mem_iff.mp hs)
    rw [(sortLocations_perm _).countP_eq]
    exact (hw.rootFirst (Go.Map.mem_range.mp he)).countP

theorem getBackendServers_servers_wellFormed_shop :
    ∃ backends servers,
      (⟨default, default, ⟨fun _ => none, fun _ => true, fun _ _ => false⟩⟩ :
          NGINXController).getBackendServers .keyOrder
        [{ ingress :=
            { (default : Networking.Ingress) with
              ns := "shop"
              rules := [{ host := "shop.example.com"
                          http := some [{ path := "/cart", pathType := some .Prefix
                                          backend := ⟨"cart", .int 80⟩ }] }] }
           parsedAnnotations := default }] = some (backends, servers) ∧
      (servers.map (·.hostname)).Nodup ∧ defServerName ∈ servers.map (·.hostname) ∧
      ∀ s ∈ servers, s.locations.countP Location.isRootPrefix = 1 := by
  refine ⟨?_, ?_, (fun h => ⟨h, getBackendServers_servers_wellFormed _ h⟩) ?run⟩
  case run => rfl

end NGINXController

end IngressNginx
