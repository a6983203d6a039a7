import IngressNginx.Controller.Basic

/-!
# Upstreams

`createUpstreams`: one upstream for the default upstream, one for the catch-all backend of
each ingress (built anew each time an ingress names it), and one for the backend of each
path (built by the first path that names it and reused by every later one).

An upstream is stored under its own name; `createUpstreams_name` records it.
-/

namespace IngressNginx

namespace NGINXController

variable (n : NGINXController)

/-- The settings an upstream takes from the ingress that creates it: hash-by, balancing
(falling back to the global one), the service's ClusterIP for `service-upstream`, and the
traffic shaping of a canary. -/
def configureUpstream (anns : Annotations.Ingress) (svcKey : String)
    (backend : Networking.IngressBackend) (u : Backend) : Backend :=
  let u := { u with
    upstreamHashBy :=
      { upstreamHashBy := anns.upstreamHashBy.upstreamHashBy
        upstreamHashBySubset := anns.upstreamHashBy.upstreamHashBySubset
        upstreamHashBySubsetSize := anns.upstreamHashBy.upstreamHashBySubsetSize }
    loadBalancing :=
      if anns.loadBalancing = "" then n.store.backendConfig.loadBalancing else anns.loadBalancing }
  let u :=
    if anns.serviceUpstream then
      match n.getServiceClusterEndpoint svcKey backend with
      | .ok endpoint => { u with endpoints := some [endpoint] }
      | .error _ => u
    else u
  if anns.canary.enabled then
    { u with
      noServer := true
      trafficShapingPolicy :=
        { weight := anns.canary.weight, header := anns.canary.header
          headerValue := anns.canary.headerValue, headerPattern := anns.canary.headerPattern
          cookie := anns.canary.cookie } }
  else u

/-- The upstream of an ingress's catch-all backend `ing.Spec.Backend`: endpoints appended
whatever the error, and the service as the store returns it, `nil` when missing. -/
def catchAllUpstream (ns : String) (anns : Annotations.Ingress)
    (backend : Networking.IngressBackend) : Backend :=
  let defBackend := upstreamName ns backend.serviceName backend.servicePort
  let svcKey := ns ++ "/" ++ backend.serviceName
  let u := n.configureUpstream anns svcKey backend (newUpstream defBackend)
  let u :=
    if u.endpoints.elems.isEmpty then
      let endps := match n.serviceEndpoints svcKey backend.servicePort.toString with
        | .ok endps => endps
        | .error _ => none
      { u with endpoints := Go.append u.endpoints endps.elems }
    else u
  { u with service := n.store.getService svcKey }

/-- The upstream of a path's backend. An error while reading the endpoints or the service
ends the construction (`continue`), leaving the upstream as built so far. -/
def pathUpstream (ns : String) (anns : Annotations.Ingress)
    (backend : Networking.IngressBackend) : Backend :=
  let name := upstreamName ns backend.serviceName backend.servicePort
  let svcKey := ns ++ "/" ++ backend.serviceName
  let u := n.configureUpstream anns svcKey backend
    { newUpstream name with port := backend.servicePort }
  let endpointsRead : Except String Backend :=
    if u.endpoints.elems.isEmpty then
      match n.serviceEndpoints svcKey backend.servicePort.toString with
      | .ok endp => .ok { u with endpoints := endp }
      | .error e => .error e
    else .ok u
  match endpointsRead with
  | .error _ => u
  | .ok u =>
    match n.store.getService svcKey with
    | none => u
    | some s => { u with service := some s }

/-- The paths of an ingress's rules that have an HTTP section, in order. -/
def ingressPaths (ing : Networking.Ingress) : List Networking.HTTPIngressPath :=
  ing.rules.flatMap fun rule => rule.http.getD []

/-- The upstreams one ingress adds: its catch-all backend's, replacing any upstream of
that name, then its paths' backends' not yet present. -/
def createUpstreamsOf (upstreams : Go.Map String Backend) (ing : Ingress) :
    Go.Map String Backend :=
  let ns := ing.ingress.ns
  let anns := ing.parsedAnnotations
  let upstreams :=
    match ing.ingress.backend with
    | none => upstreams
    | some backend =>
      upstreams.insert (upstreamName ns backend.serviceName backend.servicePort)
        (n.catchAllUpstream ns anns backend)
  (ingressPaths ing.ingress).foldl (fun upstreams path =>
    let name := upstreamName ns path.backend.serviceName path.backend.servicePort
    if name ∈ upstreams then upstreams
    else upstreams.insert name (n.pathUpstream ns anns path.backend)) upstreams

/-- `createUpstreams`: the default upstream `du`, then the upstreams of each ingress in
order. -/
def createUpstreams (data : List Ingress) (du : Backend) : Go.Map String Backend :=
  data.foldl n.createUpstreamsOf (AList.insert defUpstreamName du ∅)

end NGINXController

/-! ### Names -/

/-- The `-` of an upstream name: those of its parts and the two that join them. -/
lemma upstreamName_count_dash (ns service : String) (port : IntOrString) :
    (upstreamName ns service port).toList.count '-' =
      ns.toList.count '-' + service.toList.count '-' + port.toString.toList.count '-' + 2 := by
  simp [upstreamName, List.count_append]
  omega

/-- A namespace or service with a `-` never names the default upstream, whose name has two. -/
lemma upstreamName_ne_defUpstreamName {ns service : String} (port : IntOrString)
    (h : '-' ∈ ns.toList ∨ '-' ∈ service.toList) :
    upstreamName ns service port ≠ defUpstreamName := by
  intro heq
  have hdef : defUpstreamName.toList.count '-' = 2 := by decide
  have hcount := upstreamName_count_dash ns service port
  rw [heq, hdef] at hcount
  rcases h with h | h
  · have := List.count_pos_iff.mpr h
    omega
  · have := List.count_pos_iff.mpr h
    omega

/-- Namespaces and service names may hold the `-` that joins them in an upstream name, so a
part moved from one to the other keeps the name. -/
lemma upstreamName_shift (a b c : String) (port : IntOrString) :
    upstreamName (a ++ "-" ++ b) c port = upstreamName a (b ++ "-" ++ c) port := by
  simp only [upstreamName, String.append_assoc]

namespace NGINXController

/-- An ingress without a catch-all backend and with one path adds the upstream of that path,
unless one of its name is there already. -/
lemma createUpstreamsOf_of_single_path (n : NGINXController) (ups : Go.Map String Backend)
    {ing : Ingress} {p : Networking.HTTPIngressPath} (hb : ing.ingress.backend = none)
    (hp : ingressPaths ing.ingress = [p]) :
    n.createUpstreamsOf ups ing =
      if upstreamName ing.ingress.ns p.backend.serviceName p.backend.servicePort ∈ ups then ups
      else ups.insert (upstreamName ing.ingress.ns p.backend.serviceName p.backend.servicePort)
        (n.pathUpstream ing.ingress.ns ing.parsedAnnotations p.backend) := by
  simp only [createUpstreamsOf, hb, hp, List.foldl_cons, List.foldl_nil]

/-- Two ingresses of namespaces `a-b` and `a`, with paths to services `c` and `b-c` of the
same port, share one upstream: the one the first builds, for its own service `a-b/c`. -/
theorem createUpstreams_shares_upstream_across_namespaces (n : NGINXController) (du : Backend)
    (i₁ i₂ : Ingress) (p₁ p₂ : Networking.HTTPIngressPath) (a b c : String) (port : IntOrString)
    (hb₁ : i₁.ingress.backend = none) (hb₂ : i₂.ingress.backend = none)
    (hp₁ : ingressPaths i₁.ingress = [p₁]) (hp₂ : ingressPaths i₂.ingress = [p₂])
    (hns₁ : i₁.ingress.ns = a ++ "-" ++ b) (hns₂ : i₂.ingress.ns = a)
    (hbe₁ : p₁.backend = ⟨c, port⟩) (hbe₂ : p₂.backend = ⟨b ++ "-" ++ c, port⟩) :
    (n.createUpstreams [i₁, i₂] du).lookup
        (upstreamName i₂.ingress.ns p₂.backend.serviceName p₂.backend.servicePort) =
      some (n.pathUpstream i₁.ingress.ns i₁.parsedAnnotations p₁.backend) := by
  have hname : upstreamName i₂.ingress.ns p₂.backend.serviceName p₂.backend.servicePort =
      upstreamName i₁.ingress.ns p₁.backend.serviceName p₁.backend.servicePort := by
    rw [hns₁, hns₂, hbe₁, hbe₂, upstreamName_shift]
  have hne : upstreamName i₁.ingress.ns p₁.backend.serviceName p₁.backend.servicePort ≠
      defUpstreamName :=
    upstreamName_ne_defUpstreamName _ (.inl (by simp [hns₁]))
  rw [hname]
  -- the first ingress creates the upstream, the map holding only the default one
  have h₁ := n.createUpstreamsOf_of_single_path (AList.insert defUpstreamName du ∅) hb₁ hp₁
  rw [if_neg fun hmem =>
    hne (((AList.mem_insert _).mp hmem).resolve_right (AList.notMem_empty _))] at h₁
  -- the second finds it under its own name
  have h₂ := n.createUpstreamsOf_of_single_path
    (n.createUpstreamsOf (AList.insert defUpstreamName du ∅) i₁) hb₂ hp₂
  rw [hname, h₁, if_pos ((AList.mem_insert _).mpr (.inl rfl))] at h₂
  rw [createUpstreams, List.foldl_cons, List.foldl_cons, List.foldl_nil, h₁, h₂,
    AList.lookup_insert]

/-- An ingress of namespace `shop-eu` routing `/` to its service `cart`. -/
def shopEuCartIngress : Ingress where
  ingress :=
    { (default : Networking.Ingress) with
      ns := "shop-eu"
      rules := [{ host := "eu.shop.example.com"
                  http := some [{ path := "/", pathType := some .Prefix
                                  backend := ⟨"cart", .int 80⟩ }] }] }
  parsedAnnotations := default

/-- An ingress of namespace `shop` routing `/` to its service `eu-cart`. -/
def shopEuCartOtherIngress : Ingress where
  ingress :=
    { (default : Networking.Ingress) with
      ns := "shop"
      rules := [{ host := "shop.example.com"
                  http := some [{ path := "/", pathType := some .Prefix
                                  backend := ⟨"eu-cart", .int 80⟩ }] }] }
  parsedAnnotations := default

theorem createUpstreams_shares_upstream_shop :
    shopEuCartIngress.ingress.backend = none ∧ shopEuCartOtherIngress.ingress.backend = none ∧
    ingressPaths shopEuCartIngress.ingress = [⟨"/", some .Prefix, ⟨"cart", .int 80⟩⟩] ∧
    ingressPaths shopEuCartOtherIngress.ingress = [⟨"/", some .Prefix, ⟨"eu-cart", .int 80⟩⟩] ∧
    shopEuCartIngress.ingress.ns = "shop" ++ "-" ++ "eu" ∧
    shopEuCartOtherIngress.ingress.ns = "shop" ∧
    (⟨"cart", .int 80⟩ : Networking.IngressBackend) = ⟨"cart", .int 80⟩ ∧
    (⟨"eu-cart", .int 80⟩ : Networking.IngressBackend) = ⟨"eu" ++ "-" ++ "cart", .int 80⟩ ∧
    ((⟨default, default, ⟨fun _ => none, fun _ => true, fun _ _ => false⟩⟩ :
        NGINXController).createUpstreams [shopEuCartIngress, shopEuCartOtherIngress] default).lookup
        (upstreamName "shop" "eu-cart" (.int 80)) =
      some ((⟨default, default, ⟨fun _ => none, fun _ => true, fun _ _ => false⟩⟩ :
        NGINXController).pathUpstream "shop-eu" default ⟨"cart", .int 80⟩) :=
  ⟨rfl, rfl, rfl, rfl, rfl, rfl, rfl, rfl,
    createUpstreams_shares_upstream_across_namespaces _ _ shopEuCartIngress shopEuCartOtherIngress
      ⟨"/", some .Prefix, ⟨"cart", .int 80⟩⟩ ⟨"/", some .Prefix, ⟨"eu-cart", .int 80⟩⟩
      "shop" "eu" "cart" (.int 80) rfl rfl rfl rfl rfl rfl rfl rfl⟩

end NGINXController

end IngressNginx
