import IngressNginx.Controller.Basic

/-!
# Locations as nginx sees them

`updateServerLocations` (`location.go`) rewrites each `Prefix` location of a server into an
nginx prefix location ending in `/`, with an exact location for the path itself unless an
`Exact` location of that path exists; `buildLocation` (`template.go`) renders a location's
match as `= path` for an exact location and as the bare path otherwise.

Two readings of a request path are stated beside them, from the Ingress API and from nginx:
`k8sLocation` matches `Exact` paths by equality and `Prefix` paths element by element, the
longest path winning and `Exact` winning a tie; `nginxLocation` takes the exact location of
the request, else the longest prefix location that starts it. A `Prefix` path that ends in
`/` matches its own path without the slash in the first reading and in neither nginx
location it becomes (`updateServerLocations_trailing_slash_diverges`).
-/

namespace IngressNginx

/-! ### The source -/

/-- `normalizePrefixPath`: a path ending in `/`. -/
def normalizePrefixPath (path : String) : String :=
  if path = rootLocation then rootLocation
  else if !Go.hasSuffix path "/" then path ++ "/"
  else path

/-- `needsRewrite`: a rewrite target other than the location's own path. -/
def needsRewrite (location : Location) : Bool :=
  decide (0 < Go.len location.rewrite.target) && location.rewrite.target != location.path

/-- The second loop of `updateServerLocations` on one location, given the paths of the
server's `Exact` locations. -/
def updateLocation (exactPaths : List String) (location : Location) : List Location :=
  if location.path = rootLocation then [location]
  else
    let location := { location with ingressPath := location.path }
    if location.pathType ≠ some .Prefix then [location]
    else if needsRewrite location || location.rewrite.useRegex then [location]
    else if location.path ∈ exactPaths then
      [{ location with path := normalizePrefixPath location.path }]
    else
      [{ location with path := normalizePrefixPath location.path },
        { location with pathType := some .Exact }]

/-- `updateServerLocations`; `none` is the panic of `*location.PathType` on a location
without path type. -/
def updateServerLocations (locations : List Location) : Option (List Location) :=
  if locations.any (·.pathType.isNone) then none
  else
    let exactPaths := (locations.filter (·.pathType = some .Exact)).map (·.path)
    some (locations.flatMap (updateLocation exactPaths))

/-- `buildLocation`: the match of an nginx `location` block. -/
def buildLocation (location : Location) (enforceRegex : Bool) : String :=
  if enforceRegex then "~* \"^" ++ location.path ++ "\""
  else if location.pathType = some .Exact then "= " ++ location.path
  else location.path

/-- `enforceRegexModifier`: whether some location of a server rewrites or uses regular
expressions, so that every location of it is rendered as one. -/
def enforceRegexModifier (locations : List Location) : Bool :=
  locations.any fun location => needsRewrite location || location.rewrite.useRegex

/-- `shouldApplyGlobalAuth`: a location without external authentication of its own takes the
global one when that is set and the location enables it. -/
def shouldApplyGlobalAuth (location : Location) (globalExternalAuthURL : String) : Bool :=
  location.externalAuth.url == "" && globalExternalAuthURL != "" && location.enableGlobalAuth

/-- `fmt.Sprintf("%v", pathType)`. -/
def pathTypeString : Networking.PathType → String
  | .Exact => "Exact"
  | .Prefix => "Prefix"
  | .ImplementationSpecific => "ImplementationSpecific"

/-- `buildAuthLocation`: the internal location of a location's external authentication, named
after its path in base64 without padding and its path type; empty without authentication. -/
def buildAuthLocation (location : Location) (globalExternalAuthURL : String) : String :=
  if location.externalAuth.url = "" ∧ !shouldApplyGlobalAuth location globalExternalAuthURL then ""
  else
    let str := String.ofList ((Go.base64URLEncode (Go.bytes location.path)).filter (· ≠ '='))
    let pathType := match location.pathType with
      | some pathType => pathTypeString pathType
      | none => "default"
    "/_external-auth-" ++ str ++ "-" ++ pathType

/-- The matches of the `location` blocks `nginx.tmpl` renders for the locations of a server:
`buildLocation` of each, and `= authPath` for each whose `buildAuthLocation` is not empty. -/
def locationKeys (locations : List Location) (globalExternalAuthURL : String) : List String :=
  let enforceRegex := enforceRegexModifier locations
  locations.map (buildLocation · enforceRegex) ++
    locations.filterMap fun location =>
      let authPath := buildAuthLocation location globalExternalAuthURL
      if authPath = "" then none else some ("= " ++ authPath)

/-! ### Two readings of a request path -/

/-- The elements of a path: its labels between `/`, empty ones left out. -/
def pathElements (path : String) : List String :=
  ((path.toList.splitOn '/').filter (· ≠ [])).map String.ofList

/-- Whether a path of the Ingress API matches the request path `u`. -/
def k8sMatches (path : String) (pathType : Option Networking.PathType) (u : String) : Bool :=
  match pathType with
  | some .Exact => path == u
  | some .Prefix => (pathElements path).isPrefixOf (pathElements u)
  | _ => false

/-- Of two matching locations, the Ingress API prefers the longer path, then `Exact`. -/
def k8sPrefers (l₁ l₂ : Location) : Bool :=
  l₂.path.length < l₁.path.length ||
    (l₂.path.length == l₁.path.length && l₁.pathType == some .Exact &&
      l₂.pathType != some .Exact)

/-- The location the Ingress API routes `u` to among a server's locations. -/
def k8sLocation (locations : List Location) (u : String) : Option Location :=
  (locations.filter fun l => k8sMatches l.path l.pathType u).foldl
    (fun best l => match best with
      | none => some l
      | some b => if k8sPrefers l b then some l else some b) none

/-- The location nginx picks for `u` among blocks rendered by `buildLocation` without regular
expressions: the exact block `= u`, else the longest prefix block that starts `u`. -/
def nginxLocation (locations : List Location) (u : String) : Option Location :=
  match locations.find? fun l => l.pathType = some .Exact ∧ l.path = u with
  | some l => some l
  | none =>
    (locations.filter fun l => l.pathType ≠ some .Exact ∧ Go.hasPrefix u l.path).foldl
      (fun best l => match best with
        | none => some l
        | some b => if b.path.length < l.path.length then some l else some b) none

/-! ### One location at a time -/

section UpdateLocation

variable {exactPaths : List String} {location : Location}

/-- Recording the Ingress path changes no rewrite. -/
@[simp] lemma needsRewrite_ingressPath (p : String) :
    needsRewrite { location with ingressPath := p } = needsRewrite location := rfl

lemma updateLocation_root (h : location.path = rootLocation) :
    updateLocation exactPaths location = [location] := by
  simp [updateLocation, h]

/-- A plain `Prefix` location without an `Exact` twin becomes a prefix location ending in
`/` and an exact location of its own path. -/
lemma updateLocation_prefix (hroot : location.path ≠ rootLocation)
    (htype : location.pathType = some .Prefix) (hrw : needsRewrite location = false)
    (hregex : location.rewrite.useRegex = false) (hexact : location.path ∉ exactPaths) :
    updateLocation exactPaths location =
      [{ location with ingressPath := location.path, path := normalizePrefixPath location.path },
        { location with ingressPath := location.path, pathType := some .Exact }] := by
  unfold updateLocation
  dsimp only
  rw [if_neg hroot, if_neg (by simp [htype]), if_neg (by simp [hrw, hregex]), if_neg hexact]

/-- A plain `Prefix` location becomes, among others, the prefix location of its normalized
path, whether an `Exact` twin exists or not. -/
lemma normalized_mem_updateLocation (hroot : location.path ≠ rootLocation)
    (htype : location.pathType = some .Prefix) (hrw : needsRewrite location = false)
    (hregex : location.rewrite.useRegex = false) :
    { location with ingressPath := location.path, path := normalizePrefixPath location.path } ∈
      updateLocation exactPaths location := by
  by_cases hexact : location.path ∈ exactPaths
  · unfold updateLocation
    dsimp only
    rw [if_neg hroot, if_neg (by simp [htype]), if_neg (by simp [hrw, hregex]), if_pos hexact]
    exact List.mem_singleton_self _
  · rw [ updateLocation_prefix hroot htype hrw hregex hexact]
    exact List.mem_cons_self

end UpdateLocation

/-! ### A trailing slash -/

lemma pathElements_append_slash (p : String) : pathElements (p ++ "/") = pathElements p := by
  simp [pathElements, List.splitOn_append_cons_self (a := '/') p.toList []]

@[simp] lemma pathElements_rootLocation : pathElements rootLocation = [] := by decide

lemma normalizePrefixPath_append_slash (p : String) :
    normalizePrefixPath (p ++ "/") = p ++ "/" := by
  have hs : Go.hasSuffix (p ++ "/") "/" = true := by
    rw [Go.hasSuffix_iff, String.toList_append]
    exact List.suffix_append _ _
  unfold normalizePrefixPath
  split_ifs with hroot hnot
  · exact hroot.symm
  · simp [hs] at hnot
  · rfl

/-- A server of the root location and one plain `Prefix` location whose path `p` already
ends in `/` gets the root location, the prefix location `p` and the exact location `= p`. -/
lemma updateServerLocations_root_prefix {root loc : Location} (hroot : root.path = rootLocation)
    (hrootType : root.pathType = some .Prefix) (hlocRoot : loc.path ≠ rootLocation)
    (hlocType : loc.pathType = some .Prefix) (hrw : needsRewrite loc = false)
    (hregex : loc.rewrite.useRegex = false) (hnorm : normalizePrefixPath loc.path = loc.path) :
    updateServerLocations [root, loc] = some
      [root, { loc with ingressPath := loc.path, path := loc.path },
        { loc with ingressPath := loc.path, pathType := some .Exact }] := by
  -- both locations have a path type, so nothing panics; neither is `Exact`, so `p` has no
  -- `Exact` twin
  have hexact : loc.path ∉ ([root, loc].filter (·.pathType = some .Exact)).map (·.path) := by
    simp [hrootType, hlocType]
  rw [updateServerLocations, if_neg (by simp [hrootType, hlocType])]
  dsimp only
  rw [List.flatMap_cons, List.flatMap_cons, List.flatMap_nil, updateLocation_root hroot,
    updateLocation_prefix hlocRoot hlocType hrw hregex hexact, hnorm]
  rfl

/-- A `Prefix` path `/r/` of a server without rewrites: the Ingress API routes `/r` to it,
but nginx, which gets the prefix location `/r/` and the exact location `= /r/` for it, routes
`/r` to the root location. -/
theorem updateServerLocations_trailing_slash_diverges (root loc : Location) (r : String)
    (hr : r ≠ "") (hroot : root.path = rootLocation) (hrootType : root.pathType = some .Prefix)
    (hloc : loc.path = "/" ++ r ++ "/") (hlocType : loc.pathType = some .Prefix)
    (hplain : enforceRegexModifier [root, loc] = false) :
    k8sLocation [root, loc] ("/" ++ r) = some loc ∧
      ∃ result, updateServerLocations [root, loc] = some result ∧
        nginxLocation result ("/" ++ r) = some root := by
  have hrlen : 0 < r.length := Nat.pos_of_ne_zero (mt String.length_eq_zero_iff.mp hr)
  have hlen : root.path.length < loc.path.length := by
    rw [hroot, hloc]
    simp [rootLocation]
    omega
  have hlocRoot : loc.path ≠ rootLocation := fun h => by
    rw [h, ← hroot] at hlen
    exact lt_irrefl _ hlen
  simp only [enforceRegexModifier, List.any_cons, List.any_nil, Bool.or_false,
    Bool.or_eq_false_iff] at hplain
  obtain ⟨-, hrw, hregex⟩ := hplain
  constructor
  · -- the Ingress API: both paths match, and `/r/` is the longer
    have hmatch : k8sMatches loc.path loc.pathType ("/" ++ r) = true := by
      simp [k8sMatches, hlocType, hloc, pathElements_append_slash]
    have hrootMatch : k8sMatches root.path root.pathType ("/" ++ r) = true := by
      simp [k8sMatches, hrootType, hroot]
    simp [k8sLocation, hmatch, hrootMatch, k8sPrefers, hlen]
  · -- nginx: `/r/` and `= /r/` miss `/r`, which only the root location starts
    have hnorm : normalizePrefixPath loc.path = loc.path := by
      rw [hloc, normalizePrefixPath_append_slash]
    refine ⟨_, updateServerLocations_root_prefix hroot hrootType hlocRoot hlocType hrw hregex hnorm,
      ?_⟩
    have hne : loc.path ≠ "/" ++ r := fun h => by
      have := congrArg String.length (h.symm.trans hloc)
      simp at this
    -- the request path in the form `Go.hasPrefix` takes under `simp`
    have hrootPrefix : root.path.toList <+: '/' :: r.toList := by simp [hroot, rootLocation]
    have hlocMiss : ¬ loc.path.toList <+: '/' :: r.toList := fun h => by
      -- `loc.path` is two characters longer than the request path
      have hle := h.length_le
      have hslash : "/".toList.length = 1 := rfl
      rw [hloc] at hle
      simp only [String.toList_append, List.length_append, List.length_cons, hslash] at hle
      omega
    simp [nginxLocation, hrootType, hlocType, hne, hrootPrefix, hlocMiss]

/-! ### Two locations, one block -/

lemma normalizePrefixPath_of_not_hasSuffix {p : String} (hp : Go.hasSuffix p "/" = false) :
    normalizePrefixPath p = p ++ "/" := by
  have hroot : p ≠ rootLocation := fun h => by
    rw [h] at hp
    exact absurd hp (by decide)
  simp [normalizePrefixPath, hroot, hp]

/-- A server with plain `Prefix` locations `p` and `p/` gets two `location` blocks of the
same match: both become the nginx prefix location `p/`, whatever the other locations are,
whether they are rendered as regular expressions and whatever their authentication. -/
theorem locationKeys_duplicate_of_trailing_slash (locations : List Location)
    (globalExternalAuthURL : String) (l₁ l₂ : Location) (p : String) (h₁ : l₁ ∈ locations)
    (h₂ : l₂ ∈ locations) (hp₁ : l₁.path = p) (hp₂ : l₂.path = p ++ "/") (hp : p ≠ "")
    (hslash : Go.hasSuffix p "/" = false)
    (hplain : ∀ l ∈ [l₁, l₂],
      l.pathType = some .Prefix ∧ needsRewrite l = false ∧ l.rewrite.useRegex = false)
    (htyped : ∀ l ∈ locations, l.pathType.isSome) :
    ∃ result, updateServerLocations locations = some result ∧
      ¬ (locationKeys result globalExternalAuthURL).Nodup := by
  obtain ⟨htype₁, hrw₁, hregex₁⟩ := hplain l₁ List.mem_cons_self
  obtain ⟨htype₂, hrw₂, hregex₂⟩ := hplain l₂ (List.mem_cons_of_mem _ List.mem_cons_self)
  have hroot₁ : l₁.path ≠ rootLocation := fun h => by
    rw [hp₁] at h
    rw [h] at hslash
    exact absurd hslash (by decide)
  have hroot₂ : l₂.path ≠ rootLocation := fun h => by
    have hlen := congrArg String.length (hp₂.symm.trans h)
    simp [rootLocation] at hlen
    exact hp hlen
  let exactPaths := (locations.filter (·.pathType = some .Exact)).map (·.path)
  have hrun : updateServerLocations locations =
      some (locations.flatMap (updateLocation exactPaths)) := by
    rw [updateServerLocations, if_neg (by simpa [Option.isSome_iff_ne_none] using htyped)]
  refine ⟨_, hrun, fun hnodup => ?_⟩
  -- the two prefix locations `p/`, told apart by the Ingress path they come from
  let x := { l₁ with ingressPath := l₁.path, path := normalizePrefixPath l₁.path }
  let y := { l₂ with ingressPath := l₂.path, path := normalizePrefixPath l₂.path }
  have hx : x ∈ locations.flatMap (updateLocation exactPaths) :=
    List.mem_flatMap.mpr ⟨l₁, h₁, normalized_mem_updateLocation hroot₁ htype₁ hrw₁ hregex₁⟩
  have hy : y ∈ locations.flatMap (updateLocation exactPaths) :=
    List.mem_flatMap.mpr ⟨l₂, h₂, normalized_mem_updateLocation hroot₂ htype₂ hrw₂ hregex₂⟩
  have hpath : x.path = y.path := by
    simp only [x, y, hp₁, hp₂, normalizePrefixPath_of_not_hasSuffix hslash,
      normalizePrefixPath_append_slash]
  have hne : x ≠ y := fun h => by
    have hlen := congrArg (String.length ∘ Location.ingressPath) h
    simp [x, y, hp₁, hp₂] at hlen
  have htypes : x.pathType = y.pathType := by simp [x, y, htype₁, htype₂]
  have hkey : ∀ e, buildLocation x e = buildLocation y e := fun e => by
    unfold buildLocation
    rw [hpath, htypes]
  exact hne (List.inj_on_of_nodup_map (List.nodup_append.mp hnodup).1 hx hy (hkey _))

/-- The root location of the default backend and a location `/cart/` of a service, both
`Prefix`. -/
def rootPrefixLocation : Location :=
  { (default : Location) with
    path := rootLocation
    pathType := some .Prefix
    backend := "upstream-default-backend" }

def cartSlashLocation : Location :=
  { (default : Location) with
    path := "/cart/"
    pathType := some .Prefix
    backend := "shop-cart-80" }

theorem updateServerLocations_trailing_slash_cart :
    rootPrefixLocation.backend ≠ cartSlashLocation.backend ∧
      enforceRegexModifier [rootPrefixLocation, cartSlashLocation] = false ∧
      (k8sLocation [rootPrefixLocation, cartSlashLocation] ("/" ++ "cart") = some cartSlashLocation ∧
        ∃ result, updateServerLocations [rootPrefixLocation, cartSlashLocation] = some result ∧
          nginxLocation result ("/" ++ "cart") = some rootPrefixLocation) :=
  ⟨by decide, by decide,
    updateServerLocations_trailing_slash_diverges rootPrefixLocation cartSlashLocation
      "cart" (by decide) rfl rfl (by decide) rfl (by decide)⟩

/-- The locations `getBackendServers` gives a server for the `Prefix` paths `/foo` and `/foo/`
of an ingress to service `web`. -/
def fooLocation : Location :=
  { (default : Location) with path := "/foo", pathType := some .Prefix, backend := "shop-web-80" }

def fooSlashLocation : Location :=
  { (default : Location) with path := "/foo/", pathType := some .Prefix, backend := "shop-web-80" }

theorem locationKeys_duplicate_shop_foo :
    ∃ result, updateServerLocations [rootPrefixLocation, fooLocation, fooSlashLocation] =
      some result ∧ ¬ (locationKeys result "").Nodup :=
  locationKeys_duplicate_of_trailing_slash _ "" fooLocation fooSlashLocation "/foo" (by simp)
    (by simp) rfl rfl (by decide) (by decide)
    (by decide) (by decide)

end IngressNginx
