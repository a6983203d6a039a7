import IngressNginx.Controller.BackendServers
import IngressNginx.Controller.Location
import IngressNginx.Annotations.Parser

/-!
# The admission check

`CheckIngress` (`controller.go`) decides whether an ingress may be admitted: after a few
guards it builds the configuration of the stored ingresses with the candidate in place of
its stored version (`getConfiguration`), and `checkOverlap` then looks, path by path, for
the ingresses whose locations already serve the candidate's host and path.

`checkOverlap` returns from inside its loops: at the first path served by some other
location it decides for the whole ingress, and at a path whose locations include the
candidate's own it accepts the ingress outright. Since the candidate is part of the
configuration it checks against, every path only it serves is such a path, and the paths
after it are never looked at (`checkIngress_accepts_after_own_first_path`). At a first path
that only other ingresses serve, the canary loop decides: it rejects when both sides are
canaries or when the candidate carries no `canary` annotation, so a candidate that marks
itself as no canary is admitted next to them (`checkIngress_of_foreign_first_path`).
-/

namespace IngressNginx

/-! ### The configuration checked against -/

/-- `k8s.SetDefaultNGINXPathType` on one path: `Prefix` for a missing or
implementation-specific path type. -/
def defaultPathType (p : Networking.HTTPIngressPath) : Networking.HTTPIngressPath :=
  let p := if p.pathType = none then { p with pathType := some .Prefix } else p
  if p.pathType = some .ImplementationSpecific then { p with pathType := some .Prefix } else p

/-- `k8s.SetDefaultNGINXPathType`, which writes through the rules' `HTTP` pointers. -/
def setDefaultNGINXPathType (ing : Networking.Ingress) : Networking.Ingress :=
  { ing with
    rules := ing.rules.map fun rule => { rule with http := rule.http.map (·.map defaultPathType) } }

/-- `store.FilterIngresses`: the ingresses the filter does not match. The source sorts the
result again by creation time; the list it is given comes sorted so from `ListIngresses`,
and a stable sort of a sorted list leaves it as it is. -/
def filterIngresses (ingresses : List Ingress) (filterFunc : Ingress → Bool) : List Ingress :=
  ingresses.filter fun ing => !filterFunc ing

/-- `getConfiguration`: the hostnames and aliases served, the servers with their locations
updated by `updateServerLocations`, the upstreams, and the SSL passthrough backends (each
passthrough server's root location). -/
def NGINXController.getConfiguration (n : NGINXController)
    (ord : Go.RangeOrder RangeSite String) (ingresses : List Ingress) :
    Option (List String × List Server × List Backend × List SSLPassthroughBackend) := do
  let (upstreams, servers) ← n.getBackendServers ord ingresses
  let servers ← servers.mapM fun server => do
    let locations ← updateServerLocations server.locations
    return { server with locations := locations }
  let hosts := servers.foldl
    (fun hosts server =>
      server.aliases.foldl (fun hosts a => hosts.insert a) (hosts.insert server.hostname)) []
  let passUpstreams := servers.filterMap fun server =>
    if !server.sslPassthrough then none
    else (server.locations.find? (·.path = rootLocation)).map fun loc =>
      { backend := loc.backend, hostname := server.hostname, service := loc.service,
        port := loc.port }
  return (hosts, servers, upstreams, passUpstreams)

/-! ### `checkOverlap` -/

/-- `ingressForHostPath`: the ingresses of the non-default locations of `path` in the
server `hostname`; `none` is the panic on such a location without ingress. -/
def ingressForHostPath (hostname path : String) (servers : List Server) :
    Option (List Networking.Ingress) :=
  servers.foldlM (fun ingresses server =>
    if hostname ≠ server.hostname then some ingresses
    else server.locations.foldlM (fun ingresses location =>
      if location.path ≠ path then some ingresses
      else if location.isDefBackend then some ingresses
      else location.ingress.map fun i => ingresses ++ [i.ingress]) ingresses) []

/-- The error of `checkOverlap`. -/
def overlapError (host path : String) (existing : Networking.Ingress) : String :=
  "host \"" ++ host ++ "\" and path \"" ++ path ++ "\" is already defined in ingress " ++
    existing.ns ++ "/" ++ existing.name

/-- The canary loop of `checkOverlap` over the ingresses already serving a host and path:
the error of the first one it rejects. -/
def canaryOverlap (annotationsPrefix host path : String) (ing : Networking.Ingress)
    (existingIngresses : List Networking.Ingress) : Option String :=
  let (isCanaryEnabled, annotationErr) := Parser.getBoolAnnotation annotationsPrefix "canary" ing
  existingIngresses.findSome? fun existing =>
    let (isExistingCanaryEnabled, existingAnnotationErr) :=
      Parser.getBoolAnnotation annotationsPrefix "canary" existing
    if isCanaryEnabled && isExistingCanaryEnabled then some (overlapError host path existing)
    -- the source compares the existing ingress's error with itself
    else if annotationErr = some .missingAnnotations ∧
        existingAnnotationErr = existingAnnotationErr then
      some (overlapError host path existing)
    else none

/-- The body of the path loop of `checkOverlap`: a path no location serves goes on to the
next; one that a location of the candidate serves accepts the ingress; any other decides
by the canary loop. -/
def overlapOfPath (annotationsPrefix : String) (ing : Networking.Ingress)
    (servers : List Server) (host : String) (path : Networking.HTTPIngressPath) :
    Option (Go.Flow (Option String)) := do
  let existingIngresses ← ingressForHostPath host (nginxPathOf path) servers
  if existingIngresses.isEmpty then return .next
  if existingIngresses.any fun existing => existing.ns == ing.ns && existing.name == ing.name then
    return .ret none
  return .ret (canaryOverlap annotationsPrefix host (nginxPathOf path) ing existingIngresses)

/-- The body of the rule loop of `checkOverlap`. -/
def overlapOfRule (annotationsPrefix : String) (ing : Networking.Ingress)
    (servers : List Server) (rule : Networking.IngressRule) : Option (Go.Flow (Option String)) :=
  match rule.http with
  | none => some .next
  | some paths => Go.Flow.loop (overlapOfPath annotationsPrefix ing servers (ruleHost rule)) paths

/-- `checkOverlap`: the error, `none` for `nil`; the outer `none` is a panic. -/
def checkOverlap (annotationsPrefix : String) (ing : Networking.Ingress) (servers : List Server) :
    Option (Option String) :=
  (Go.Flow.loop (overlapOfRule annotationsPrefix ing servers) ing.rules).map (Go.Flow.getD none)

/-! ### `CheckIngress` -/

/-- What `CheckIngress` reads besides the controller's model: its flags, the annotation
prefix, the global rate limit setting of the store's configuration, and the library
calls it makes (`DeletionTimestamp.IsZero`, `class.IsValid`, the annotation extractor over
the store, and the rendering and `nginx -t` test of the configuration). -/
structure CheckEnv where
  watchNamespace : String
  disableCatchAll : Bool
  annotationsPrefix : String
  globalRateLimitMemcachedHost : String
  isDeleted : Networking.Ingress → Bool
  isValidClass : Networking.Ingress → Bool
  extract : Networking.Ingress → Annotations.Ingress
  testTemplate : List Backend → List Server → List SSLPassthroughBackend → Option String

/-- The checks of `CheckIngress` before the path types are defaulted: `some v` returns `v`. -/
def checkIngressGuards (env : CheckEnv) (ing : Networking.Ingress) : Option (Option String) :=
  if env.isDeleted ing then some none
  else if !env.isValidClass ing then some none
  else if env.watchNamespace ≠ "" ∧ ing.ns ≠ env.watchNamespace then some none
  else if env.disableCatchAll ∧ ing.backend.isSome then
    some (some ("This deployment is trying to create a catch-all ingress while DisableCatchAll " ++
      "flag is set to true. Remove \x27.spec.backend\x27 or set DisableCatchAll flag to false."))
  else if env.annotationsPrefix ≠ Parser.defaultAnnotationsPrefix ∧
      ing.annotations.keys.any (Go.hasPrefix · (Parser.defaultAnnotationsPrefix ++ "/")) then
    some (some ("This deployment has a custom annotation prefix defined. Use \x27" ++
      env.annotationsPrefix ++ "\x27 instead of \x27" ++ Parser.defaultAnnotationsPrefix ++ "\x27"))
  else none

/-- The global rate limit annotations need a memcached host. -/
def checkGlobalRateLimit (env : CheckEnv) (ing : Networking.Ingress) : Option String :=
  if Go.len env.globalRateLimitMemcachedHost = 0 ∧
      ing.annotations.keys.any (Go.hasPrefix · (env.annotationsPrefix ++ "/" ++ "global-rate-limit"))
  then some ("\x27global-rate-limit*\x27 annotations require " ++
    "\x27global-rate-limit-memcached-host\x27 settings configured in the global configmap")
  else none

/-- The ingresses `CheckIngress` configures: the stored ones other than the candidate, then
the candidate with its annotations extracted. -/
def checkIngressCandidates (extract : Networking.Ingress → Annotations.Ingress)
    (allIngresses : List Ingress) (ing : Networking.Ingress) : List Ingress :=
  filterIngresses allIngresses
      (fun toCheck => toCheck.ingress.ns == ing.ns && toCheck.ingress.name == ing.name) ++
    [{ ingress := ing, parsedAnnotations := extract ing }]

/-- The end of `CheckIngress`: the overlap check on the configuration with the candidate,
then the template test. -/
def NGINXController.checkIngressConfiguration (n : NGINXController) (env : CheckEnv)
    (ord : Go.RangeOrder RangeSite String) (allIngresses : List Ingress)
    (ing : Networking.Ingress) : Option (Option String) := do
  let (_, servers, upstreams, passUpstreams) ←
    n.getConfiguration ord (checkIngressCandidates env.extract allIngresses ing)
  match ← checkOverlap env.annotationsPrefix ing servers with
  | some err => return some err
  | none => return env.testTemplate upstreams servers passUpstreams

/-- `CheckIngress` of an ingress given the stored ingresses (`ListIngresses`): the error,
`none` for `nil`; the outer `none` is a panic. -/
def NGINXController.checkIngress (n : NGINXController) (env : CheckEnv)
    (ord : Go.RangeOrder RangeSite String) (allIngresses : List Ingress) :
    Option Networking.Ingress → Option (Option String)
  | none => some none
  | some ing =>
    match checkIngressGuards env ing with
    | some verdict => some verdict
    | none =>
      let ing := setDefaultNGINXPathType ing
      match checkGlobalRateLimit env ing with
      | some err => some (some err)
      | none => n.checkIngressConfiguration env ord allIngresses ing

/-! ### Lemmas -/

@[simp] lemma nginxPathOf_defaultPathType (p : Networking.HTTPIngressPath) :
    nginxPathOf (defaultPathType p) = nginxPathOf p := by
  unfold defaultPathType nginxPathOf
  dsimp only
  split_ifs <;> rfl

/-- Defaulting the path types keeps the annotations the rate limit check reads. -/
@[simp] lemma checkGlobalRateLimit_setDefaultNGINXPathType (env : CheckEnv)
    (ing : Networking.Ingress) :
    checkGlobalRateLimit env (setDefaultNGINXPathType ing) = checkGlobalRateLimit env ing := rfl

/-- Defaulting the path types keeps the first rule's host and the location of its first
path. -/
lemma setDefaultNGINXPathType_first_path {ing : Networking.Ingress} {rule : Networking.IngressRule}
    {rest : List Networking.IngressRule} {path : Networking.HTTPIngressPath}
    {paths : List Networking.HTTPIngressPath} (hrules : ing.rules = rule :: rest)
    (hhttp : rule.http = some (path :: paths)) :
    ∃ rule' rest' path' paths', (setDefaultNGINXPathType ing).rules = rule' :: rest' ∧
      rule'.http = some (path' :: paths') ∧ ruleHost rule' = ruleHost rule ∧
      nginxPathOf path' = nginxPathOf path := by
  refine ⟨{ rule with http := rule.http.map (·.map defaultPathType) },
    rest.map fun rule => { rule with http := rule.http.map (·.map defaultPathType) },
    defaultPathType path, paths.map defaultPathType, ?_, by simp [hhttp], rfl,
    nginxPathOf_defaultPathType path⟩
  simp [setDefaultNGINXPathType, hrules]

section Overlap

variable {annotationsPrefix : String} {ing : Networking.Ingress} {servers : List Server}

/-- A path that some location of the candidate serves accepts the candidate. -/
lemma overlapOfPath_own {host : String} {path : Networking.HTTPIngressPath}
    {existing : List Networking.Ingress}
    (hexisting : ingressForHostPath host (nginxPathOf path) servers = some existing)
    (hown : ∃ e ∈ existing, e.ns = ing.ns ∧ e.name = ing.name) :
    overlapOfPath annotationsPrefix ing servers host path = some (.ret none) := by
  obtain ⟨e, he, hns, hname⟩ := hown
  simp only [overlapOfPath, hexisting]
  simp [List.ne_nil_of_mem he]
  intro hnone
  exact absurd hname (hnone e he hns)

/-- `checkOverlap` accepts a candidate whose first path its own location serves, whatever
its other paths. -/
lemma checkOverlap_of_own_first_path {rule : Networking.IngressRule}
    {rest : List Networking.IngressRule} {path : Networking.HTTPIngressPath}
    {paths : List Networking.HTTPIngressPath} {existing : List Networking.Ingress}
    (hrules : ing.rules = rule :: rest) (hhttp : rule.http = some (path :: paths))
    (hexisting : ingressForHostPath (ruleHost rule) (nginxPathOf path) servers = some existing)
    (hown : ∃ e ∈ existing, e.ns = ing.ns ∧ e.name = ing.name) :
    checkOverlap annotationsPrefix ing servers = some none := by
  have hrule : overlapOfRule annotationsPrefix ing servers rule = some (.ret none) := by
    rw [overlapOfRule, hhttp]
    exact Go.Flow.loop_cons_ret (overlapOfPath_own hexisting hown)
  rw [checkOverlap, hrules, Go.Flow.loop_cons_ret hrule]
  rfl

/-- A path whose locations serve only other ingresses decides the candidate by the canary
loop. -/
lemma overlapOfPath_foreign {host : String} {path : Networking.HTTPIngressPath}
    {existing : List Networking.Ingress}
    (hexisting : ingressForHostPath host (nginxPathOf path) servers = some existing)
    (hne : existing ≠ []) (hforeign : ∀ e ∈ existing, ¬(e.ns = ing.ns ∧ e.name = ing.name)) :
    overlapOfPath annotationsPrefix ing servers host path =
      some (.ret (canaryOverlap annotationsPrefix host (nginxPathOf path) ing existing)) := by
  simp only [overlapOfPath, hexisting]
  simp only [Option.bind_eq_bind, Option.bind_some, List.isEmpty_iff, hne, if_false]
  -- no location of the path is the candidate's own
  rw [if_neg]
  · rfl
  · simpa [List.any_eq_true] using hforeign

/-- `checkOverlap` of a candidate whose first path's locations serve only other ingresses is
the canary loop's verdict on that path, whatever its other paths. -/
lemma checkOverlap_of_foreign_first_path {rule : Networking.IngressRule}
    {rest : List Networking.IngressRule} {path : Networking.HTTPIngressPath}
    {paths : List Networking.HTTPIngressPath} {existing : List Networking.Ingress}
    (hrules : ing.rules = rule :: rest) (hhttp : rule.http = some (path :: paths))
    (hexisting : ingressForHostPath (ruleHost rule) (nginxPathOf path) servers = some existing)
    (hne : existing ≠ []) (hforeign : ∀ e ∈ existing, ¬(e.ns = ing.ns ∧ e.name = ing.name)) :
    checkOverlap annotationsPrefix ing servers =
      some (canaryOverlap annotationsPrefix (ruleHost rule) (nginxPathOf path) ing existing) := by
  have hrule : overlapOfRule annotationsPrefix ing servers rule =
      some (.ret (canaryOverlap annotationsPrefix (ruleHost rule) (nginxPathOf path) ing existing)) := by
    rw [overlapOfRule, hhttp]
    exact Go.Flow.loop_cons_ret (overlapOfPath_foreign hexisting hne hforeign)
  rw [checkOverlap, hrules, Go.Flow.loop_cons_ret hrule]
  rfl

/-- The canary loop finds a conflict when the candidate and one of the ingresses are both
canaries, or when the candidate has no `canary` annotation: then the first ingress, canary
or not, conflicts. -/
lemma canaryOverlap_isSome_iff {host path : String} {existing : List Networking.Ingress}
    (hne : existing ≠ []) :
    (canaryOverlap annotationsPrefix host path ing existing).isSome ↔
      ((Parser.getBoolAnnotation annotationsPrefix "canary" ing).1 = true ∧
          ∃ e ∈ existing, (Parser.getBoolAnnotation annotationsPrefix "canary" e).1 = true) ∨
        (Parser.getBoolAnnotation annotationsPrefix "canary" ing).2 = some .missingAnnotations := by
  unfold canaryOverlap
  -- the candidate's flag and error are read once, before the loop
  generalize Parser.getBoolAnnotation annotationsPrefix "canary" ing = cand
  obtain ⟨isCanaryEnabled, annotationErr⟩ := cand
  simp only [List.findSome?_isSome_iff]
  constructor
  · rintro ⟨e, he, hsome⟩
    split_ifs at hsome with hboth hmissing
    · rw [Bool.and_eq_true] at hboth
      exact .inl ⟨hboth.1, e, he, hboth.2⟩
    · exact .inr hmissing.1
    · cases hsome
  · rintro (⟨hcanary, e, he, hcanary'⟩ | hmissing)
    · exact ⟨e, he, by simp [hcanary, hcanary']⟩
    · -- the first ingress conflicts, whatever it is
      obtain ⟨e, he⟩ := List.exists_mem_of_ne_nil existing hne
      refine ⟨e, he, ?_⟩
      split_ifs <;> simp_all

end Overlap

/-- A candidate whose first path is served by its own location is admitted on the
template test alone, whatever its later paths overlap with. -/
theorem NGINXController.checkIngress_accepts_after_own_first_path (n : NGINXController)
    (env : CheckEnv) (ord : Go.RangeOrder RangeSite String) (allIngresses : List Ingress)
    (ing : Networking.Ingress) (rule : Networking.IngressRule) (rest : List Networking.IngressRule)
    (path : Networking.HTTPIngressPath) (paths : List Networking.HTTPIngressPath)
    (hosts : List String) (servers : List Server) (upstreams : List Backend)
    (passUpstreams : List SSLPassthroughBackend) (existing : List Networking.Ingress)
    (hguards : checkIngressGuards env ing = none) (hrate : checkGlobalRateLimit env ing = none)
    (hrules : ing.rules = rule :: rest) (hhttp : rule.http = some (path :: paths))
    (hconf : n.getConfiguration ord
        (checkIngressCandidates env.extract allIngresses (setDefaultNGINXPathType ing)) =
      some (hosts, servers, upstreams, passUpstreams))
    (hexisting : ingressForHostPath (ruleHost rule) (nginxPathOf path) servers = some existing)
    (hown : ∃ e ∈ existing, e.ns = ing.ns ∧ e.name = ing.name) :
    n.checkIngress env ord allIngresses (some ing) =
      some (env.testTemplate upstreams servers passUpstreams) := by
  -- the defaulted candidate has the same first rule's host and first path's location
  obtain ⟨rule', rest', path', paths', hrules', hhttp', hhost, hpath⟩ :=
    setDefaultNGINXPathType_first_path hrules hhttp
  have hoverlap : checkOverlap env.annotationsPrefix (setDefaultNGINXPathType ing) servers =
      some none :=
    checkOverlap_of_own_first_path hrules' hhttp' (by rw [hhost, hpath]; exact hexisting) hown
  simp only [checkIngress, hguards, checkGlobalRateLimit_setDefaultNGINXPathType, hrate]
  simp [checkIngressConfiguration, hconf, hoverlap]

/-- The verdict on a candidate whose first path other ingresses already serve: the error of
the canary loop on that path, else the template test, whatever the later paths. The canary
loop rejects exactly when the candidate and one of those ingresses are canaries, or when the
candidate has no `canary` annotation at all; a candidate whose annotation reads `false` is
admitted next to any of them. -/
theorem NGINXController.checkIngress_of_foreign_first_path (n : NGINXController)
    (env : CheckEnv) (ord : Go.RangeOrder RangeSite String) (allIngresses : List Ingress)
    (ing : Networking.Ingress) (rule : Networking.IngressRule) (rest : List Networking.IngressRule)
    (path : Networking.HTTPIngressPath) (paths : List Networking.HTTPIngressPath)
    (hosts : List String) (servers : List Server) (upstreams : List Backend)
    (passUpstreams : List SSLPassthroughBackend) (existing : List Networking.Ingress)
    (hguards : checkIngressGuards env ing = none) (hrate : checkGlobalRateLimit env ing = none)
    (hrules : ing.rules = rule :: rest) (hhttp : rule.http = some (path :: paths))
    (hconf : n.getConfiguration ord
        (checkIngressCandidates env.extract allIngresses (setDefaultNGINXPathType ing)) =
      some (hosts, servers, upstreams, passUpstreams))
    (hexisting : ingressForHostPath (ruleHost rule) (nginxPathOf path) servers = some existing)
    (hne : existing ≠ []) (hforeign : ∀ e ∈ existing, ¬(e.ns = ing.ns ∧ e.name = ing.name)) :
    n.checkIngress env ord allIngresses (some ing) =
        some ((canaryOverlap env.annotationsPrefix (ruleHost rule) (nginxPathOf path) ing
          existing).orElse fun _ => env.testTemplate upstreams servers passUpstreams) ∧
      ((canaryOverlap env.annotationsPrefix (ruleHost rule) (nginxPathOf path) ing existing).isSome ↔
        ((Parser.getBoolAnnotation env.annotationsPrefix "canary" ing).1 = true ∧
            ∃ e ∈ existing, (Parser.getBoolAnnotation env.annotationsPrefix "canary" e).1 = true) ∨
          (Parser.getBoolAnnotation env.annotationsPrefix "canary" ing).2 =
            some .missingAnnotations) := by
  refine ⟨?_, canaryOverlap_isSome_iff hne⟩
  obtain ⟨rule', rest', path', paths', hrules', hhttp', hhost, hpath⟩ :=
    setDefaultNGINXPathType_first_path hrules hhttp
  -- defaulting the path types changes neither the names nor the annotations the loop reads
  have hoverlap : checkOverlap env.annotationsPrefix (setDefaultNGINXPathType ing) servers =
      some (canaryOverlap env.annotationsPrefix (ruleHost rule) (nginxPathOf path) ing existing) := by
    rw [checkOverlap_of_foreign_first_path hrules' hhttp' (by rw [hhost, hpath]; exact hexisting) hne
      hforeign, hhost, hpath]
    rfl
  simp only [checkIngress, hguards, checkGlobalRateLimit_setDefaultNGINXPathType, hrate]
  simp only [checkIngressConfiguration, hconf, Option.bind_eq_bind, Option.bind_some, hoverlap]
  cases canaryOverlap env.annotationsPrefix (ruleHost rule) (nginxPathOf path) ing existing <;> rfl

/-- A stored ingress `shop/cart` serving `shop.example.com/cart`. -/
def cartIngress : Networking.Ingress :=
  { (default : Networking.Ingress) with
    ns := "shop"
    name := "cart"
    rules := [{ host := "shop.example.com"
                http := some [{ path := "/cart", pathType := some .Prefix
                                backend := ⟨"cart", .int 80⟩ }] }] }

/-- A candidate `shop/checkout` serving `shop.example.com/checkout`, and `/cart` too. -/
def checkoutIngress : Networking.Ingress :=
  { (default : Networking.Ingress) with
    ns := "shop"
    name := "checkout"
    rules := [{ host := "shop.example.com"
                http := some [{ path := "/checkout", pathType := some .Prefix
                                backend := ⟨"checkout", .int 80⟩ },
                              { path := "/cart", pathType := some .Prefix
                                backend := ⟨"checkout", .int 80⟩ }] }] }

/-- A controller that admits every ingress class, with a template test that passes. -/
def shopCheckEnv : CheckEnv where
  watchNamespace := ""
  disableCatchAll := false
  annotationsPrefix := Parser.defaultAnnotationsPrefix
  globalRateLimitMemcachedHost := ""
  isDeleted := fun _ => false
  isValidClass := fun _ => true
  extract := fun _ => default
  testTemplate := fun _ _ _ => none

theorem NGINXController.checkIngress_accepts_checkout_over_cart :
    ∃ hosts servers upstreams passUpstreams existing,
      (⟨default, default, ⟨fun _ => none, fun _ => true, fun _ _ => false⟩⟩ :
          NGINXController).getConfiguration .keyOrder
        (checkIngressCandidates shopCheckEnv.extract [⟨cartIngress, default⟩]
          (setDefaultNGINXPathType checkoutIngress)) =
        some (hosts, servers, upstreams, passUpstreams) ∧
      ingressForHostPath "shop.example.com" "/checkout" servers = some existing ∧
      ingressForHostPath "shop.example.com" "/cart" servers = some [cartIngress] ∧
      (⟨default, default, ⟨fun _ => none, fun _ => true, fun _ _ => false⟩⟩ :
          NGINXController).checkIngress shopCheckEnv .keyOrder [⟨cartIngress, default⟩]
        (some checkoutIngress) = some none := by
  refine ⟨?_, ?_, ?_, ?_, ?_, ?conf, ?ex, ?cart, ?accept⟩
  case conf => rfl
  case ex => rfl
  case cart => rfl
  case accept =>
    exact checkIngress_accepts_after_own_first_path _ shopCheckEnv .keyOrder _ checkoutIngress _ [] _ _
      _ _ _ _ _ rfl rfl rfl rfl rfl rfl ⟨_, List.mem_singleton_self _, rfl, rfl⟩

/-- A copy of `shop/cart` under the name `shop/cart-v2`, marked as no canary. -/
def cartNoCanaryIngress : Networking.Ingress :=
  { cartIngress with
    name := "cart-v2"
    annotations := (∅ : StringMap).insert "nginx.ingress.kubernetes.io/canary" "false" }

theorem NGINXController.checkIngress_admits_cart_copy_without_canary :
    ∃ hosts servers upstreams passUpstreams,
      (⟨default, default, ⟨fun _ => none, fun _ => true, fun _ _ => false⟩⟩ :
          NGINXController).getConfiguration .keyOrder
        (checkIngressCandidates shopCheckEnv.extract [⟨cartIngress, default⟩]
          (setDefaultNGINXPathType cartNoCanaryIngress)) =
        some (hosts, servers, upstreams, passUpstreams) ∧
      ingressForHostPath "shop.example.com" "/cart" servers = some [cartIngress] ∧
      (⟨default, default, ⟨fun _ => none, fun _ => true, fun _ _ => false⟩⟩ :
          NGINXController).checkIngress shopCheckEnv .keyOrder [⟨cartIngress, default⟩]
        (some cartNoCanaryIngress) = some none := by
  refine ⟨?_, ?_, ?_, ?_, ?conf, ?cart, ?accept⟩
  case conf => rfl
  case cart => rfl
  case accept =>
    rw [(checkIngress_of_foreign_first_path _ shopCheckEnv .keyOrder _ cartNoCanaryIngress _ [] _ []
      _ _ _ _ [cartIngress] rfl rfl rfl rfl rfl rfl (by simp) (by decide)).1]
    rfl

end IngressNginx
