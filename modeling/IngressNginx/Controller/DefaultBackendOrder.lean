import IngressNginx.Controller.Admission
import IngressNginx.Controller.ServerMap
import IngressNginx.TypesEquals

/-!
# The order of the upstreams in the custom default backend loop

`getBackendServers` ranges over the upstream map when it gives locations the upstreams of
their `default-backend` services (`customDefaultBackends`), and Go picks the order anew on
every run. A location whose upstream has no endpoints is handed to
`custom-default-backend-<service>`, a name made of the service's name alone. When an upstream
of that name exists already, without endpoints either (an ingress of namespace
`custom-default` routing to port `web` of service `backend` makes `custom-default-backend-web`),
it takes the renamed location for its own if the loop visits it after the location's first
upstream, and adds a second upstream of the same name; visited before, it adds none.

The loop is followed through the one location it can change (`SoleLive`): each upstream adds
what `customDefaultBackendFor` gives that location, and updates it
(`customDefaultBackendsStep_length`, `customDefaultBackendsStep_soleLive`). The two orders that
visit one or the other upstream first then give configurations whose upstream lists differ in
length, so `Configuration.Equal` tells them apart
(`getConfiguration_backends_depend_on_upstream_order`).
-/

namespace IngressNginx

/-- `Equal` compares the number of upstreams first. -/
lemma Configuration.equal_of_backends_length_ne {c₁ c₂ : Configuration} {bs₁ bs₂ : List Backend}
    (h₁ : c₁.backends = some bs₁) (h₂ : c₂.backends = some bs₂) (hlen : bs₁.length ≠ bs₂.length) :
    c₁.equal c₂ = false := by
  simp [Configuration.equal, compareBackends, h₁, h₂, Sets.compare_some, hlen]

/-- A location that the custom default backend loop over the upstreams of `b` can change: it
has a `default-backend` service, and its backend names an upstream of `b` other than the
default one. -/
def Build.Live (b : Build) (x : Location) : Prop :=
  x.defaultBackend.isSome ∧
    ∃ e ∈ b.upstreams.entries, e.2.name ≠ defUpstreamName ∧ e.2.name = x.backend

instance (b : Build) : DecidablePred b.Live := fun x =>
  inferInstanceAs (Decidable (x.defaultBackend.isSome ∧
    ∃ e ∈ b.upstreams.entries, e.2.name ≠ defUpstreamName ∧ e.2.name = x.backend))

lemma Build.live_of_shouldCreate {b : Build} {k : String} {u : Backend} {x : Location}
    (hu : b.upstreams.lookup k = some u) (hdef : u.name ≠ defUpstreamName)
    (h : shouldCreateUpstreamForLocationDefaultBackend u x = true) : b.Live x := by
  simp only [shouldCreateUpstreamForLocationDefaultBackend, Bool.and_eq_true, beq_iff_eq] at h
  exact ⟨h.2, ⟨k, u⟩, AList.mem_lookup_iff.mp hu, hdef, h.1.1⟩

/-- The servers `S` of the loop have one live location, `cur`, once, in the server under
`host`. -/
structure SoleLive (b : Build) (S : Go.Map String Server) (host : String) (cur : Location) :
    Prop where
  live : b.Live cur
  single : ∃ s, S.lookup host = some s ∧ s.locations.filter (fun x => b.Live x) = [cur]
  others : ∀ key s, S.lookup key = some s → key ≠ host → ∀ x ∈ s.locations, ¬ b.Live x

namespace NGINXController

variable (n : NGINXController)

/-! ### One location -/

section Location

variable {upstream : Backend} {server : Server} {location : Location}

lemma customDefaultBackendFor_of_shouldCreate_false
    (h : shouldCreateUpstreamForLocationDefaultBackend upstream location = false) :
    n.customDefaultBackendFor upstream server location = ([], location, false) := by
  rw [customDefaultBackendFor]
  split
  · rename_i hs _
    rw [h] at hs
    cases hs
  · rfl

/-- What the loop gives a location and makes of it does not depend on the server. -/
lemma customDefaultBackendFor_server (upstream : Backend) (location : Location)
    (server server' : Server) :
    (n.customDefaultBackendFor upstream server location).1 =
        (n.customDefaultBackendFor upstream server' location).1 ∧
      (n.customDefaultBackendFor upstream server location).2.1 =
        (n.customDefaultBackendFor upstream server' location).2.1 := by
  rw [customDefaultBackendFor, customDefaultBackendFor]
  split
  · split <;> exact ⟨rfl, rfl⟩
  · exact ⟨rfl, rfl⟩

lemma customDefaultBackendFor_of_not_live {b : Build} {k : String}
    (hu : b.upstreams.lookup k = some upstream) (hdef : upstream.name ≠ defUpstreamName)
    (hx : ¬ b.Live location) :
    n.customDefaultBackendFor upstream server location = ([], location, false) := by
  apply customDefaultBackendFor_of_shouldCreate_false
  rw [Bool.eq_false_iff]
  intro h
  exact hx (Build.live_of_shouldCreate hu hdef h)

/-- An upstream whose name is not the location's backend leaves it as it is. -/
lemma customDefaultBackendFor_of_name_ne (server : Server) (location : Location)
    (h : upstream.name ≠ location.backend) :
    n.customDefaultBackendFor upstream server location = ([], location, false) := by
  apply customDefaultBackendFor_of_shouldCreate_false
  simp [shouldCreateUpstreamForLocationDefaultBackend, h]

/-- An upstream without endpoints hands its location, whose default backend service has
endpoints, to one new upstream `custom-default-backend-<service>`. -/
lemma customDefaultBackendFor_renames (server : Server) (location : Location)
    {svc : Core.Service} {sp : Core.ServicePort} {ports : List Core.ServicePort}
    (hname : upstream.name = location.backend)
    (hempty : upstream.endpoints.elems = []) (hsvc : location.defaultBackend = some svc)
    (hports : svc.ports = sp :: ports)
    (hendps : getEndpoints n.ext svc sp Core.protocolTCP n.store.getServiceEndpoints ≠ []) :
    (n.customDefaultBackendFor upstream server location).1.length = 1 ∧
      (n.customDefaultBackendFor upstream server location).2.1 =
        { location with
          defaultBackendUpstreamName := "custom-default-backend-" ++ svc.name
          backend := "custom-default-backend-" ++ svc.name } := by
  have hshould : shouldCreateUpstreamForLocationDefaultBackend upstream location = true := by
    simp [shouldCreateUpstreamForLocationDefaultBackend, hname, hempty, hsvc]
  simp [customDefaultBackendFor, hshould, hsvc, hports, hendps, hempty]

end Location

/-! ### One upstream -/

section Upstream

variable {upstream : Backend}

lemma customDefaultBackendsIn_fst (server : Server) :
    (n.customDefaultBackendsIn upstream server).1 =
      server.locations.flatMap fun l => (n.customDefaultBackendFor upstream server l).1 := by
  rw [customDefaultBackendsIn]
  dsimp only
  rw [Go.foldl_append_flatMap (fun acc : List Backend × List Location × Bool => acc.1)
    (fun l => (n.customDefaultBackendFor upstream server l).1) ?_]
  · rfl
  · rintro ⟨nbs, locations, https⟩ location
    rfl

lemma customDefaultBackendsOf_fst (ord : Go.RangeOrder RangeSite String)
    (servers : Go.Map String Server) :
    (n.customDefaultBackendsOf ord upstream servers).1 =
      (servers.range ord .serversOfUpstream).flatMap
        fun e => (n.customDefaultBackendsIn upstream e.2).1 := by
  rw [customDefaultBackendsOf]
  rw [Go.foldl_append_flatMap (fun acc : List Backend × Go.Map String Server × Bool => acc.1)
    (fun e => (n.customDefaultBackendsIn upstream e.2).1) ?_]
  · rfl
  · rintro ⟨nbs, servers, https⟩ ⟨key, server⟩
    rfl

/-- The loop of one upstream writes every server back, updated, under its key. -/
lemma customDefaultBackendsOf_lookup (ord : Go.RangeOrder RangeSite String)
    (servers : Go.Map String Server) (key : String) :
    (n.customDefaultBackendsOf ord upstream servers).2.1.lookup key =
      (servers.lookup key).map fun s => (n.customDefaultBackendsIn upstream s).2.1 := by
  rw [customDefaultBackendsOf]
  apply Go.Map.lookup_foldl_range_insert
    (fun acc : List Backend × Go.Map String Server × Bool => acc.2.1)
  · rintro ⟨nbs, servers, https⟩ ⟨key, server⟩
    rfl
  · rfl

variable {b : Build} {k : String}

/-- A server without live locations is left as it is. -/
lemma customDefaultBackendsIn_of_not_live (hu : b.upstreams.lookup k = some upstream)
    (hdef : upstream.name ≠ defUpstreamName) {s : Server} (hs : ∀ x ∈ s.locations, ¬ b.Live x) :
    (n.customDefaultBackendsIn upstream s).1 = [] ∧
      (n.customDefaultBackendsIn upstream s).2.1 = s := by
  have hfor : ∀ x ∈ s.locations, n.customDefaultBackendFor upstream s x = ([], x, false) :=
    fun x hx => n.customDefaultBackendFor_of_not_live hu hdef (hs x hx)
  constructor
  · rw [customDefaultBackendsIn_fst, List.flatMap_eq_nil_iff]
    intro x hx
    rw [hfor x hx]
  · rw [customDefaultBackendsIn_server,
      List.map_congr_left (g := id) fun x hx => by rw [hfor x hx]; rfl, List.map_id]

/-- In a server whose one live location is `cur`, the upstream creates what it creates for
`cur`, and updates `cur` alone. -/
lemma customDefaultBackendsIn_of_single (hu : b.upstreams.lookup k = some upstream)
    (hdef : upstream.name ≠ defUpstreamName) {s : Server} {cur : Location}
    (hs : s.locations.filter (fun x => b.Live x) = [cur])
    (hlive : b.Live (n.customDefaultBackendFor upstream s cur).2.1) :
    (n.customDefaultBackendsIn upstream s).1.length =
        (n.customDefaultBackendFor upstream s cur).1.length ∧
      (n.customDefaultBackendsIn upstream s).2.1.locations.filter (fun x => b.Live x) =
        [(n.customDefaultBackendFor upstream s cur).2.1] := by
  obtain ⟨hcur_live, hcur⟩ := Go.filter_eq_singleton hs
  replace hcur_live : b.Live cur := of_decide_eq_true hcur_live
  replace hcur : ∀ x ∈ s.locations, b.Live x → x = cur :=
    fun x hx hl => hcur x hx (decide_eq_true hl)
  have hfor : ∀ x ∈ s.locations, ¬ b.Live x →
      n.customDefaultBackendFor upstream s x = ([], x, false) :=
    fun x _ hx => n.customDefaultBackendFor_of_not_live hu hdef hx
  constructor
  · have hcount : s.locations.count cur = 1 := by
      rw [← List.count_filter (p := fun x => decide (b.Live x)) (by simpa using hcur_live), hs,
        List.count_singleton_self]
    rw [customDefaultBackendsIn_fst, List.length_flatMap,
      List.sum_map_eq_nsmul_single cur _ fun x hne hx => ?_, hcount, one_smul]
    have hnot : ¬ b.Live x := fun hl => hne (hcur x hx hl)
    rw [hfor x hx hnot]
    rfl
  · rw [customDefaultBackendsIn_server, List.filter_map]
    have hkeep : s.locations.filter ((fun x => decide (b.Live x)) ∘
        fun l => (n.customDefaultBackendFor upstream s l).2.1) =
          s.locations.filter (fun x => b.Live x) := by
      apply List.filter_congr
      intro x hx
      by_cases hl : b.Live x
      · have hxc := hcur x hx hl
        subst hxc
        simp [hl, hlive]
      · simp [hfor x hx hl]
    rw [hkeep, hs]
    rfl

end Upstream

/-! ### The loop over the upstreams -/

/-- One upstream of the loop of `customDefaultBackends`. -/
def customDefaultBackendsStep (ord : Go.RangeOrder RangeSite String) :
    List Backend × Go.Map String Server → String × Backend → List Backend × Go.Map String Server :=
  fun (aUpstreams, servers) (_, upstream) =>
    if upstream.name = defUpstreamName then (aUpstreams ++ [upstream], servers)
    else
      let (nbs, servers, https) := n.customDefaultBackendsOf ord upstream servers
      let upstream := if https then { upstream with sslPassthrough := true } else upstream
      (aUpstreams ++ upstream :: nbs, servers)

lemma customDefaultBackends_eq_foldl (ord : Go.RangeOrder RangeSite String) (b : Build) :
    n.customDefaultBackends ord b =
      (b.upstreams.range ord .upstreams).foldl (n.customDefaultBackendsStep ord) ([], b.servers) :=
  rfl

section Step

variable {ord : Go.RangeOrder RangeSite String} {b : Build} {S : Go.Map String Server}
  {host : String} {cur : Location} {k : String} {upstream : Backend}

lemma customDefaultBackendsStep_of_default (acc : List Backend)
    (h : upstream.name = defUpstreamName) :
    n.customDefaultBackendsStep ord (acc, S) (k, upstream) = (acc ++ [upstream], S) := by
  simp [customDefaultBackendsStep, h]

lemma customDefaultBackendsStep_length (acc : List Backend)
    (h : upstream.name ≠ defUpstreamName) :
    (n.customDefaultBackendsStep ord (acc, S) (k, upstream)).1.length =
      acc.length + 1 + (n.customDefaultBackendsOf ord upstream S).1.length := by
  simp [customDefaultBackendsStep, h]
  omega

lemma customDefaultBackendsStep_snd (acc : List Backend) (h : upstream.name ≠ defUpstreamName) :
    (n.customDefaultBackendsStep ord (acc, S) (k, upstream)).2 =
      (n.customDefaultBackendsOf ord upstream S).2.1 := by
  simp [customDefaultBackendsStep, h]

/-- An upstream of `b` visited while `cur` is the one live location adds, after itself, the
upstreams it creates for `cur`, and leaves its update the one live location. -/
lemma customDefaultBackendsStep_soleLive (ord : Go.RangeOrder RangeSite String)
    (acc : List Backend) (server : Server)
    (hS : SoleLive b S host cur) (hu : b.upstreams.lookup k = some upstream)
    (hdef : upstream.name ≠ defUpstreamName)
    (hlive : b.Live (n.customDefaultBackendFor upstream server cur).2.1) :
    (n.customDefaultBackendsStep ord (acc, S) (k, upstream)).1.length =
        acc.length + 1 + (n.customDefaultBackendFor upstream server cur).1.length ∧
      SoleLive b (n.customDefaultBackendsStep ord (acc, S) (k, upstream)).2 host
        (n.customDefaultBackendFor upstream server cur).2.1 := by
  obtain ⟨-, ⟨sh, hsh, hsingle⟩, hothers⟩ := hS
  have hfst := n.customDefaultBackendFor_server upstream cur server sh
  rw [hfst.1, hfst.2]
  rw [hfst.2] at hlive
  obtain ⟨hlen, hfilter⟩ := n.customDefaultBackendsIn_of_single hu hdef hsingle hlive
  -- the entries of the range other than the one of `host` hold no live location
  have hrest : ∀ e ∈ S.range ord .serversOfUpstream, e ≠ (host, sh) →
      (n.customDefaultBackendsIn upstream e.2).1.length = 0 := by
    rintro ⟨key, s⟩ he hne
    have hs : S.lookup key = some s := Go.Map.mem_range.mp he
    have hkey : key ≠ host := by
      rintro rfl
      rw [hsh] at hs
      cases hs
      exact hne rfl
    rw [(n.customDefaultBackendsIn_of_not_live hu hdef (hothers key s hs hkey)).1]
    rfl
  have hnodup : (S.range ord .serversOfUpstream).Nodup :=
    List.Nodup.of_map Prod.fst Go.Map.range_keys_nodup
  constructor
  · rw [customDefaultBackendsStep_length n acc hdef, customDefaultBackendsOf_fst,
      List.length_flatMap, List.sum_map_eq_nsmul_single (host, sh) _ fun e hne he => hrest e he hne,
      @List.count_eq_one_of_mem _ instBEqOfDecidableEq _ _ _ hnodup (Go.Map.mem_range.mpr hsh),
      one_smul, hlen]
  · rw [customDefaultBackendsStep_snd n acc hdef]
    refine ⟨hlive, ⟨_, by rw [customDefaultBackendsOf_lookup, hsh]; rfl, hfilter⟩, ?_⟩
    intro key s' hs' hkey
    rw [customDefaultBackendsOf_lookup, Option.map_eq_some_iff] at hs'
    obtain ⟨s, hs, rfl⟩ := hs'
    rw [(n.customDefaultBackendsIn_of_not_live hu hdef (hothers key s hs hkey)).2]
    exact hothers key s hs hkey

/-- An upstream of `b` whose name is not the live location's backend adds itself alone and
leaves the location as it is. -/
lemma customDefaultBackendsStep_keep (ord : Go.RangeOrder RangeSite String) (acc : List Backend)
    (hS : SoleLive b S host cur) (hu : b.upstreams.lookup k = some upstream)
    (hname : upstream.name ≠ cur.backend) :
    (n.customDefaultBackendsStep ord (acc, S) (k, upstream)).1.length = acc.length + 1 ∧
      SoleLive b (n.customDefaultBackendsStep ord (acc, S) (k, upstream)).2 host cur := by
  by_cases hdef : upstream.name = defUpstreamName
  · rw [n.customDefaultBackendsStep_of_default acc hdef]
    exact ⟨by simp, hS⟩
  · have hfor := n.customDefaultBackendFor_of_name_ne default cur hname
    have hstep := n.customDefaultBackendsStep_soleLive ord acc default hS hu hdef
      (by rw [hfor]; exact hS.live)
    rw [hfor] at hstep
    simpa using hstep

end Step

/-! ### Two upstreams for one location -/

/-- `custom-default-backend-<service>` is never the name of the default upstream. -/
lemma customDefaultBackendName_ne_defUpstreamName (name : String) :
    "custom-default-backend-" ++ name ≠ defUpstreamName := by
  intro h
  have hhead := congrArg (fun s : String => s.toList.head?) h
  simp [defUpstreamName] at hhead

/-- Two upstreams of `b` that both take the location `l`: `l` is served by `u₁`, which has no
endpoints, so the loop hands it to `custom-default-backend-<svc>` for its default backend
service `svc`, which has endpoints; `u₂` has that name and no endpoints either. No other
upstream of `b` has one of the two names. -/
structure Collision (b : Build) (k₁ k₂ : String) (u₁ u₂ : Backend) (l : Location)
    (svc : Core.Service) (sp : Core.ServicePort) (ports : List Core.ServicePort) : Prop where
  lookup₁ : b.upstreams.lookup k₁ = some u₁
  lookup₂ : b.upstreams.lookup k₂ = some u₂
  name₁ : u₁.name ≠ defUpstreamName
  name₂ : u₂.name = "custom-default-backend-" ++ svc.name
  names : u₁.name ≠ u₂.name
  empty₁ : u₁.endpoints.elems = []
  empty₂ : u₂.endpoints.elems = []
  backend : l.backend = u₁.name
  defaultBackend : l.defaultBackend = some svc
  svcPorts : svc.ports = sp :: ports
  endpoints : getEndpoints n.ext svc sp Core.protocolTCP n.store.getServiceEndpoints ≠ []
  others : ∀ e ∈ b.upstreams.entries, e.1 ≠ k₁ → e.1 ≠ k₂ → e.2.name ≠ u₁.name ∧ e.2.name ≠ u₂.name

section Collision

variable {n} {ord : Go.RangeOrder RangeSite String} {b : Build} {S : Go.Map String Server}
  {k₁ k₂ host k : String} {u₁ u₂ u : Backend} {l : Location} {svc : Core.Service}
  {sp : Core.ServicePort} {ports : List Core.ServicePort}

lemma Collision.keys_ne (hc : n.Collision b k₁ k₂ u₁ u₂ l svc sp ports) : k₁ ≠ k₂ := by
  intro hk
  apply hc.names
  have hu := hc.lookup₁
  rw [hk, hc.lookup₂, Option.some.injEq] at hu
  rw [hu]

lemma Collision.name₂_ne (hc : n.Collision b k₁ k₂ u₁ u₂ l svc sp ports) :
    u₂.name ≠ defUpstreamName := by
  rw [hc.name₂]
  exact customDefaultBackendName_ne_defUpstreamName svc.name

lemma Collision.live (hc : n.Collision b k₁ k₂ u₁ u₂ l svc sp ports) : b.Live l :=
  ⟨by simp [hc.defaultBackend], ⟨k₁, u₁⟩, AList.mem_lookup_iff.mp hc.lookup₁, hc.name₁,
    hc.backend.symm⟩

lemma Collision.live_renamed (hc : n.Collision b k₁ k₂ u₁ u₂ l svc sp ports) :
    b.Live { l with defaultBackendUpstreamName := u₂.name, backend := u₂.name } :=
  ⟨by simp [hc.defaultBackend], ⟨k₂, u₂⟩, AList.mem_lookup_iff.mp hc.lookup₂, hc.name₂_ne, rfl⟩

/-- The upstream the location comes with hands it to `u₂`'s name, with one new upstream. -/
lemma Collision.first (hc : n.Collision b k₁ k₂ u₁ u₂ l svc sp ports) (server : Server) :
    (n.customDefaultBackendFor u₁ server l).1.length = 1 ∧
      (n.customDefaultBackendFor u₁ server l).2.1 =
        { l with defaultBackendUpstreamName := u₂.name, backend := u₂.name } := by
  rw [hc.name₂]
  exact n.customDefaultBackendFor_renames server l hc.backend.symm hc.empty₁ hc.defaultBackend
    hc.svcPorts hc.endpoints

/-- `u₂` takes the renamed location for its own, and creates one more upstream of its name. -/
lemma Collision.second (hc : n.Collision b k₁ k₂ u₁ u₂ l svc sp ports) (server : Server) :
    let l' := { l with defaultBackendUpstreamName := u₂.name, backend := u₂.name }
    (n.customDefaultBackendFor u₂ server l').1.length = 1 ∧
      (n.customDefaultBackendFor u₂ server l').2.1 = l' := by
  intro l'
  have h := n.customDefaultBackendFor_renames server l' rfl hc.empty₂ hc.defaultBackend hc.svcPorts
    hc.endpoints
  rw [← hc.name₂] at h
  exact h

/-- Before the location is renamed, an upstream of `b` takes it only if it is `u₁`. -/
lemma Collision.step_before (hc : n.Collision b k₁ k₂ u₁ u₂ l svc sp ports)
    (ord : Go.RangeOrder RangeSite String) (hu : b.upstreams.lookup k = some u)
    (acc : List Backend) (hS : SoleLive b S host l) :
    (n.customDefaultBackendsStep ord (acc, S) (k, u)).1.length =
        acc.length + 1 + (if k = k₁ then 1 else 0) ∧
      SoleLive b (n.customDefaultBackendsStep ord (acc, S) (k, u)).2 host
        (if k = k₁ then { l with defaultBackendUpstreamName := u₂.name, backend := u₂.name }
          else l) := by
  by_cases hk₁ : k = k₁
  · subst hk₁
    rw [hc.lookup₁, Option.some.injEq] at hu
    subst hu
    obtain ⟨hlen, hloc⟩ := hc.first default
    have hstep := n.customDefaultBackendsStep_soleLive ord acc default hS hc.lookup₁ hc.name₁
      (by rw [hloc]; exact hc.live_renamed)
    rw [hlen, hloc] at hstep
    rw [if_pos rfl, if_pos rfl]
    exact hstep
  · rw [if_neg hk₁, if_neg hk₁, add_zero]
    apply n.customDefaultBackendsStep_keep ord acc hS hu
    rw [hc.backend]
    by_cases hk₂ : k = k₂
    · subst hk₂
      rw [hc.lookup₂, Option.some.injEq] at hu
      rw [← hu]
      exact hc.names.symm
    · exact (hc.others ⟨k, u⟩ (AList.mem_lookup_iff.mp hu) hk₁ hk₂).1

/-- After the location is renamed, an upstream of `b` takes it only if it is `u₂`. -/
lemma Collision.step_after (hc : n.Collision b k₁ k₂ u₁ u₂ l svc sp ports)
    (ord : Go.RangeOrder RangeSite String) (hu : b.upstreams.lookup k = some u)
    (acc : List Backend)
    (hS : SoleLive b S host { l with defaultBackendUpstreamName := u₂.name, backend := u₂.name }) :
    (n.customDefaultBackendsStep ord (acc, S) (k, u)).1.length =
        acc.length + 1 + (if k = k₂ then 1 else 0) ∧
      SoleLive b (n.customDefaultBackendsStep ord (acc, S) (k, u)).2 host
        { l with defaultBackendUpstreamName := u₂.name, backend := u₂.name } := by
  by_cases hk₂ : k = k₂
  · subst hk₂
    rw [hc.lookup₂, Option.some.injEq] at hu
    subst hu
    obtain ⟨hlen, hloc⟩ := hc.second default
    have hstep := n.customDefaultBackendsStep_soleLive ord acc default hS hc.lookup₂ hc.name₂_ne
      (by rw [hloc]; exact hc.live_renamed)
    rw [hlen, hloc] at hstep
    rw [if_pos rfl]
    exact hstep
  · rw [if_neg hk₂, add_zero]
    apply n.customDefaultBackendsStep_keep ord acc hS hu
    by_cases hk₁ : k = k₁
    · subst hk₁
      rw [hc.lookup₁, Option.some.injEq] at hu
      rw [← hu]
      exact hc.names
    · exact (hc.others ⟨k, u⟩ (AList.mem_lookup_iff.mp hu) hk₁ hk₂).2

/-- From the renaming on, the loop adds one upstream for each visit of `u₂`. -/
lemma Collision.foldl_after (hc : n.Collision b k₁ k₂ u₁ u₂ l svc sp ports)
    (es : List (String × Backend)) (hes : ∀ e ∈ es, b.upstreams.lookup e.1 = some e.2)
    (acc : List Backend)
    (hS : SoleLive b S host { l with defaultBackendUpstreamName := u₂.name, backend := u₂.name }) :
    (es.foldl (n.customDefaultBackendsStep ord) (acc, S)).1.length =
      acc.length + es.length + (es.map Prod.fst).count k₂ := by
  induction es generalizing acc S with
  | nil => simp
  | cons e es ih =>
    obtain ⟨k, u⟩ := e
    obtain ⟨hlen, hS'⟩ := hc.step_after ord (hes _ List.mem_cons_self) acc hS
    rw [List.foldl_cons, ih (fun e he => hes e (List.mem_cons_of_mem _ he)) _ hS', hlen]
    simp only [List.map_cons, List.count_cons, List.length_cons, beq_iff_eq]
    split_ifs <;> omega

/-- Before the renaming, and with `u₂` out of the way, the loop adds one upstream if it
visits `u₁`. -/
lemma Collision.foldl_before (hc : n.Collision b k₁ k₂ u₁ u₂ l svc sp ports)
    (es : List (String × Backend)) (hes : ∀ e ∈ es, b.upstreams.lookup e.1 = some e.2)
    (hk₂ : k₂ ∉ es.map Prod.fst) (acc : List Backend) (hS : SoleLive b S host l) :
    (es.foldl (n.customDefaultBackendsStep ord) (acc, S)).1.length =
      acc.length + es.length + (if k₁ ∈ es.map Prod.fst then 1 else 0) := by
  induction es generalizing acc S with
  | nil => simp
  | cons e es ih =>
    obtain ⟨k, u⟩ := e
    have hes' : ∀ e ∈ es, b.upstreams.lookup e.1 = some e.2 :=
      fun e he => hes e (List.mem_cons_of_mem _ he)
    obtain ⟨hlen, hS'⟩ := hc.step_before ord (hes _ List.mem_cons_self) acc hS
    have hk₂' : k₂ ∉ es.map Prod.fst := fun h => hk₂ (List.mem_cons_of_mem _ h)
    rw [List.foldl_cons]
    by_cases hk : k = k₁
    · -- `u₁` renames the location; `u₂` does not come after it
      rw [if_pos hk] at hlen hS'
      have hcount : (es.map Prod.fst).count k₂ = 0 := List.count_eq_zero.mpr hk₂'
      rw [hc.foldl_after es hes' _ hS', hlen, hcount, if_pos (by simp [hk])]
      simp
      omega
    · rw [if_neg hk] at hlen hS'
      rw [ih hes' hk₂' _ hS', hlen]
      have hk' : k₁ ≠ k := fun h => hk h.symm
      by_cases hmem : k₁ ∈ es.map Prod.fst <;> simp [hmem, hk'] <;> omega

/-- Visiting `u₁` first, the loop adds two upstreams named after `svc`. -/
lemma Collision.length_front_first (hc : n.Collision b k₁ k₂ u₁ u₂ l svc sp ports)
    (hinit : SoleLive b b.servers host l) :
    (n.customDefaultBackends (.front k₁) b).1.length = b.upstreams.keys.length + 2 := by
  obtain ⟨rest, hrange, hes, hothers, -, hnodup, hlength⟩ :=
    Go.Map.range_front_rest (i := RangeSite.upstreams) hc.lookup₁
  obtain ⟨hlen, hS⟩ := hc.step_before (.front k₁) hc.lookup₁ [] hinit
  rw [if_pos rfl] at hlen hS
  rw [customDefaultBackends_eq_foldl, hrange, List.foldl_cons, hc.foldl_after rest hes _ hS, hlen,
    List.count_eq_one_of_mem hnodup (hothers k₂ u₂ hc.lookup₂ hc.keys_ne.symm)]
  simp
  omega

/-- Visiting `u₂` first, the loop adds one upstream named after `svc`. -/
lemma Collision.length_front_second (hc : n.Collision b k₁ k₂ u₁ u₂ l svc sp ports)
    (hinit : SoleLive b b.servers host l) :
    (n.customDefaultBackends (.front k₂) b).1.length = b.upstreams.keys.length + 1 := by
  obtain ⟨rest, hrange, hes, hothers, hk₂, -, hlength⟩ :=
    Go.Map.range_front_rest (i := RangeSite.upstreams) hc.lookup₂
  obtain ⟨hlen, hS⟩ := hc.step_before (.front k₂) hc.lookup₂ [] hinit
  rw [if_neg hc.keys_ne.symm] at hlen hS
  rw [customDefaultBackends_eq_foldl, hrange, List.foldl_cons, hc.foldl_before rest hes hk₂ _ hS,
    hlen, if_pos (hothers k₁ u₁ hc.lookup₁ hc.keys_ne)]
  simp
  omega

end Collision

/-! ### The configuration -/

/-- The build `getBackendServers` hands to its custom default backend loop: upstreams and
servers after the location loop and the canaries. -/
def locationsBuild (ord : Go.RangeOrder RangeSite String) (ingresses : List Ingress) :
    Option Build := do
  let du ← n.getDefaultUpstream
  let upstreams := n.createUpstreams ingresses du
  let servers ← n.createServers ord ingresses upstreams du
  let b ← locationLoop n.store.backendConfig.proxySSLLocationOnly ingresses
    { upstreams := upstreams, servers := servers }
  mergeCanaries ingresses b

variable {ord : Go.RangeOrder RangeSite String} {ingresses : List Ingress}

/-- The upstreams `getBackendServers` returns are those of its custom default backend loop. -/
lemma getBackendServers_backends_perm {backends : List Backend} {servers : List Server}
    (h : n.getBackendServers ord ingresses = some (backends, servers)) :
    ∃ b, n.locationsBuild ord ingresses = some b ∧
      backends.Perm (n.customDefaultBackends ord b).1 := by
  rw [getBackendServers] at h
  simp only [bind, Option.bind_eq_some_iff, pure, Option.some.injEq] at h
  obtain ⟨du, hdu, servers₀, hcreate, b, hloop, b', hmerge, h⟩ := h
  refine ⟨b', by simp [locationsBuild, bind, hdu, hcreate, hloop, hmerge], ?_⟩
  rw [Prod.mk.injEq] at h
  rw [← h.1]
  exact Go.sliceStable_perm _ _

/-- The upstreams of `getConfiguration` are those of `getBackendServers`. -/
lemma getConfiguration_backends
    {r : List String × List Server × List Backend × List SSLPassthroughBackend}
    (h : n.getConfiguration ord ingresses = some r) :
    ∃ servers, n.getBackendServers ord ingresses = some (r.2.2.1, servers) := by
  rw [getConfiguration] at h
  simp only [bind, Option.bind_eq_some_iff, pure, Option.some.injEq] at h
  obtain ⟨⟨upstreams, servers⟩, hget, servers', -, rfl⟩ := h
  exact ⟨servers, hget⟩

/-- When the upstream a location comes with has no endpoints, and an upstream without endpoints
bears the name `custom-default-backend-<service>` that the location's default backend service
gives it, the upstreams of `getConfiguration` depend on the order Go ranges over the upstream
map: visiting the location's upstream first adds two upstreams of that name, visiting the
other first adds one. The two configurations are never `Equal`. -/
theorem getConfiguration_backends_depend_on_upstream_order {b : Build} {k₁ k₂ host : String}
    {u₁ u₂ : Backend} {server : Server} {l : Location} {svc : Core.Service}
    {sp : Core.ServicePort} {ports : List Core.ServicePort}
    (hb₁ : n.locationsBuild (.front k₁) ingresses = some b)
    (hb₂ : n.locationsBuild (.front k₂) ingresses = some b)
    (hc : n.Collision b k₁ k₂ u₁ u₂ l svc sp ports)
    (hhost : b.servers.lookup host = some server)
    (hsingle : server.locations.filter (fun x => b.Live x) = [l])
    (hothers : ∀ e ∈ b.servers.entries, e.1 ≠ host → ∀ x ∈ e.2.locations, ¬ b.Live x)
    {r₁ r₂ : List String × List Server × List Backend × List SSLPassthroughBackend}
    (h₁ : n.getConfiguration (.front k₁) ingresses = some r₁)
    (h₂ : n.getConfiguration (.front k₂) ingresses = some r₂) :
    r₁.2.2.1.length = r₂.2.2.1.length + 1 ∧
      ∀ c₁ c₂ : Configuration, c₁.backends = some r₁.2.2.1 → c₂.backends = some r₂.2.2.1 →
        c₁.equal c₂ = false := by
  have hinit : SoleLive b b.servers host l := by
    refine ⟨hc.live, ⟨server, hhost, hsingle⟩, ?_⟩
    intro key s hs hkey
    exact hothers ⟨key, s⟩ (AList.mem_lookup_iff.mp hs) hkey
  obtain ⟨servers₁, hget₁⟩ := n.getConfiguration_backends h₁
  obtain ⟨servers₂, hget₂⟩ := n.getConfiguration_backends h₂
  obtain ⟨b₁, hb₁', hperm₁⟩ := n.getBackendServers_backends_perm hget₁
  obtain ⟨b₂, hb₂', hperm₂⟩ := n.getBackendServers_backends_perm hget₂
  rw [hb₁, Option.some.injEq] at hb₁'
  rw [hb₂, Option.some.injEq] at hb₂'
  subst hb₁' hb₂'
  have hlen : r₁.2.2.1.length = r₂.2.2.1.length + 1 := by
    rw [hperm₁.length_eq, hperm₂.length_eq, hc.length_front_first hinit,
      hc.length_front_second hinit]
  refine ⟨hlen, fun c₁ c₂ hc₁ hc₂ => ?_⟩
  apply Configuration.equal_of_backends_length_ne hc₁ hc₂
  omega

/-- The service `web` of namespace `shop`, the default backend of the ingress below. -/
def webService : Core.Service :=
  { ns := "shop", name := "web", type := "ClusterIP", externalName := "", clusterIP := "10.0.0.10"
    ports := [⟨"http", "TCP", 80, .int 8080⟩] }

/-- `shop.example.com/cart` to service `cart` of namespace `shop`, with the default backend
`web`. -/
def cartDefaultBackendIngress : Ingress where
  ingress :=
    { (default : Networking.Ingress) with
      ns := "shop", name := "cart"
      rules := [{ host := "shop.example.com"
                  http := some [{ path := "/cart", pathType := some .Prefix
                                  backend := ⟨"cart", .int 80⟩ }] }] }
  parsedAnnotations := { (default : Annotations.Ingress) with defaultBackend := some webService }

/-- `backend.example.com/web` to the port named `web` of service `backend` of namespace
`custom-default`: the upstream `custom-default-backend-web`. -/
def customDefaultIngress : Ingress where
  ingress :=
    { (default : Networking.Ingress) with
      ns := "custom-default", name := "backend"
      rules := [{ host := "backend.example.com"
                  http := some [{ path := "/web", pathType := some .Prefix
                                  backend := ⟨"backend", .str "web"⟩ }] }] }
  parsedAnnotations := default

/-- A controller whose store has endpoints for service `shop/web` only. -/
def webEndpointsController : NGINXController where
  cfg := default
  store :=
    { (default : Store) with
      endpoints := (∅ : Go.Map String Core.Endpoints).insert "shop/web"
        ⟨"shop", "web", [⟨[⟨"10.0.0.1", none⟩], [⟨"http", 8080, "TCP"⟩]⟩]⟩ }
  ext := ⟨fun _ => none, fun _ => true, fun _ _ => false⟩

/-- The build of the two ingresses, whatever the order of the hostnames. -/
def shopBuild : Build :=
  (webEndpointsController.locationsBuild .keyOrder
    [cartDefaultBackendIngress, customDefaultIngress]).getD ⟨∅, ∅⟩

theorem getConfiguration_backends_depend_on_upstream_order_shop :
    ∃ r₁ r₂, webEndpointsController.getConfiguration (.front "shop-cart-80")
        [cartDefaultBackendIngress, customDefaultIngress] = some r₁ ∧
      webEndpointsController.getConfiguration (.front "custom-default-backend-web")
        [cartDefaultBackendIngress, customDefaultIngress] = some r₂ ∧
      r₁.2.2.1.length = r₂.2.2.1.length + 1 ∧
      ∀ c₁ c₂ : Configuration, c₁.backends = some r₁.2.2.1 → c₂.backends = some r₂.2.2.1 →
        c₁.equal c₂ = false := by
  obtain ⟨r₁, h₁⟩ : ∃ r, webEndpointsController.getConfiguration (.front "shop-cart-80")
      [cartDefaultBackendIngress, customDefaultIngress] = some r := ⟨_, rfl⟩
  obtain ⟨r₂, h₂⟩ : ∃ r, webEndpointsController.getConfiguration
      (.front "custom-default-backend-web") [cartDefaultBackendIngress, customDefaultIngress] =
        some r := ⟨_, rfl⟩
  have hc : webEndpointsController.Collision shopBuild "shop-cart-80" "custom-default-backend-web"
      ((shopBuild.upstreams.lookup "shop-cart-80").getD default)
      ((shopBuild.upstreams.lookup "custom-default-backend-web").getD default)
      ((((shopBuild.servers.lookup "shop.example.com").getD default).locations.filter
        fun x => shopBuild.Live x).headD default)
      webService ⟨"http", "TCP", 80, .int 8080⟩ [] :=
    { lookup₁ := rfl, lookup₂ := rfl, name₁ := by decide +kernel, name₂ := by decide +kernel
      names := by decide +kernel, empty₁ := by decide +kernel, empty₂ := by decide +kernel
      backend := by decide +kernel, defaultBackend := by decide +kernel, svcPorts := rfl
      endpoints := by decide +kernel, others := by decide +kernel }
  have hhost : shopBuild.servers.lookup "shop.example.com" =
      some ((shopBuild.servers.lookup "shop.example.com").getD default) := rfl
  exact ⟨r₁, r₂, h₁, h₂, webEndpointsController.getConfiguration_backends_depend_on_upstream_order
    rfl rfl hc hhost rfl (by decide +kernel) h₁ h₂⟩

end NGINXController

end IngressNginx
