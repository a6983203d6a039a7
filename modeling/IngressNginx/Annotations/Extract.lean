import IngressNginx.Annotations.Authtls
import IngressNginx.Annotations.Proxyssl

/-!
# `Extract`

`Extractor.Extract` runs the annotation parsers of the controller on an ingress, in the order
of a `range` over its map of parsers, and collects what they return in a map `data` by the
parser's name; `mergo` then sets the field of `annotations.Ingress` of each name. A missing
annotation, or an error other than a denied location, leaves the parser out. The error of the
first denied location is kept under `Denied`, and a denied client certificate authentication
is kept as the `AuthTLSError` of `CertificateAuth`.

`Denied` is the error of the first parser, in the order of the `range`, that denies the
location (`extract_denied`). So when two parsers deny an ingress with different errors,
`Denied` depends on the order Go happens to choose (`extract_denied_depends_on_order`).
-/

namespace IngressNginx

namespace Annotations

/-- `DeniedKeyName`. -/
def deniedKeyName : String := "Denied"

/-- What `Extract` stores in `data`: the error of a denied location, or a parsed value. -/
inductive Datum (V : Type) where
  | denied (errString : Go.Ptr String)
  | value (v : V)

/-- An annotation parser's `Parse` of an ingress: its value (`none` for `nil`) and its error. -/
abbrev AnnotationParser (V : Type) :=
  Networking.Ingress → Option V × Option Parser.AnnotationError

/-- An `Extractor` whose parsers return values of type `V`: the parsers by name, none called
`Denied`; the value `authtls.Config{AuthTLSError: e}`; and the field of `Ingress` that `mergo`
sets from a value under each name, which is never `Denied`. -/
structure Extractor (V : Type) where
  annotations : Go.Map String (AnnotationParser V)
  certificateAuthError : String → V
  setField : String → V → Ingress → Ingress
  denied_not_mem : deniedKeyName ∉ annotations.keys
  setField_denied : ∀ name v ing, (setField name v ing).denied = ing.denied

/-- The two `range` statements of `Extract`: over the parsers, and `mergo`'s over `data`. -/
inductive ExtractLoop where
  | parsers
  | merge

variable {V : Type}

/-- One iteration of the loop of `Extract`; the error of the first denied location is allocated
at `addr`. -/
def Extractor.extractStep (ext : Extractor V) (addr : Nat) (ing : Networking.Ingress)
    (data : Go.Map String (Datum V)) (entry : String × AnnotationParser V) :
    Go.Map String (Datum V) :=
  let (name, annotationParser) := entry
  let (val, err) := annotationParser ing
  match err with
  | none =>
    match val with
    | some v => data.insert name (.value v)
    | none => data
  | some err =>
    if err = .missingAnnotations then data
    else if !err.isLocationDenied then data
    else
      let (data, val) :=
        if name = "CertificateAuth" ∧ (data.lookup name).isNone then
          (data.insert name (.value (ext.certificateAuthError err.error)), none)
        else (data, val)
      if (data.lookup deniedKeyName).isNone then
        data.insert deniedKeyName (.denied ⟨addr, err.error⟩)
      else
        match val with
        | some v => data.insert name (.value v)
        | none => data

/-- `mergo.MapWithOverwrite(pia, data)`: the field of each name set from its value; `Denied`
from the error kept there. A value of the wrong kind for its field sets nothing. -/
def Extractor.merge (ext : Extractor V) (ord : Go.RangeOrder ExtractLoop String)
    (data : Go.Map String (Datum V)) (pia : Ingress) : Ingress :=
  (data.range ord .merge).foldl (fun pia entry =>
    if entry.1 = deniedKeyName then
      match entry.2 with
      | .denied p => { pia with denied := some p }
      | .value _ => pia
    else
      match entry.2 with
      | .value v => ext.setField entry.1 v pia
      | .denied _ => pia) pia

/-- `Extractor.Extract`. -/
def Extractor.extract (ext : Extractor V) (ord : Go.RangeOrder ExtractLoop String) (addr : Nat)
    (ing : Networking.Ingress) : Ingress :=
  ext.merge ord ((ext.annotations.range ord .parsers).foldl (ext.extractStep addr ing) ∅) default

/-- The error with which a parser denies the location, if it does. -/
def denialOf (annotationParser : AnnotationParser V) (ing : Networking.Ingress) : Option String :=
  match (annotationParser ing).2 with
  | some (.locationDenied reason) => some reason
  | _ => none

/-! ### The loop over the parsers -/

section Parsers

variable {ext : Extractor V} {addr : Nat} {ing : Networking.Ingress}

lemma denialOf_of_error {annotationParser : AnnotationParser V} {val : Option V}
    {err : Parser.AnnotationError} (h : annotationParser ing = (val, some err)) :
    denialOf annotationParser ing = if err.isLocationDenied then some err.error else none := by
  rw [denialOf, h]
  split
  · rename_i reason heq
    rw [Option.some.inj heq]
    rfl
  · rename_i hnot
    have hden : err.isLocationDenied = false := by
      rw [Bool.eq_false_iff]
      intro hden
      obtain ⟨reason, hreason⟩ := Parser.AnnotationError.isLocationDenied_iff.mp hden
      exact hnot reason (by rw [hreason])
    rw [hden]
    rfl

/-- The value a denied client certificate authentication stores under `CertificateAuth` is
not stored under `Denied`. -/
lemma lookup_deniedKeyName_certificateAuth (data : Go.Map String (Datum V)) (name : String)
    (v : V) (val : Option V) :
    (if name = "CertificateAuth" ∧ (data.lookup name).isNone = true then
        (data.insert name (.value v), none) else (data, val)).1.lookup deniedKeyName =
      data.lookup deniedKeyName := by
  have hcert : deniedKeyName ≠ "CertificateAuth" := by decide
  split_ifs with hc
  · rw [hc.1, AList.lookup_insert_ne hcert]
  · rfl

/-- A parser other than `Denied` sets `Denied` when it is the first to deny the location, and
leaves it alone otherwise. -/
lemma lookup_deniedKeyName_extractStep (data : Go.Map String (Datum V))
    {name : String} (annotationParser : AnnotationParser V) (hname : name ≠ deniedKeyName) :
    (ext.extractStep addr ing data (name, annotationParser)).lookup deniedKeyName =
      (data.lookup deniedKeyName).or
        ((denialOf annotationParser ing).map fun reason => .denied ⟨addr, reason⟩) := by
  have hne : deniedKeyName ≠ name := Ne.symm hname
  rcases hres : annotationParser ing with ⟨val, _ | err⟩
  · have hnone : denialOf annotationParser ing = none := by simp [denialOf, hres]
    rw [hnone]
    simp only [Extractor.extractStep, hres]
    cases val <;> simp [AList.lookup_insert_ne hne]
  · rw [denialOf_of_error hres]
    simp only [Extractor.extractStep, hres]
    by_cases hden : err.isLocationDenied = true
    · have hmiss : err ≠ .missingAnnotations := by
        rintro rfl
        cases hden
      rw [if_pos hden, if_neg hmiss, if_neg (by simp [hden]), Option.map_some]
      -- the `CertificateAuth` value goes under a name other than `Denied`
      generalize hpair : (if name = "CertificateAuth" ∧ (data.lookup name).isNone = true then
        (data.insert name (.value (ext.certificateAuthError err.error)), none)
        else (data, val)) = pair
      obtain ⟨data', val'⟩ := pair
      have hkeep : data'.lookup deniedKeyName = data.lookup deniedKeyName := by
        rw [← lookup_deniedKeyName_certificateAuth data name
          (ext.certificateAuthError err.error) val, hpair]
      rw [hkeep]
      cases hd : data.lookup deniedKeyName with
      | none => simp
      | some d => cases val' <;> simp [hkeep, hd, AList.lookup_insert_ne hne]
    · rw [if_neg hden]
      by_cases hmiss : err = .missingAnnotations <;> simp [hmiss, hden]

/-- After the loop, `Denied` holds the error of the first parser that denies the location. -/
lemma lookup_deniedKeyName_foldl (entries : List (String × AnnotationParser V))
    (hnames : ∀ e ∈ entries, e.1 ≠ deniedKeyName) (data : Go.Map String (Datum V)) :
    (entries.foldl (ext.extractStep addr ing) data).lookup deniedKeyName =
      (data.lookup deniedKeyName).or
        ((entries.findSome? fun e => denialOf e.2 ing).map fun reason => .denied ⟨addr, reason⟩) := by
  induction entries generalizing data with
  | nil => simp
  | cons e entries ih =>
    obtain ⟨name, annotationParser⟩ := e
    rw [List.foldl_cons, ih (fun e he => hnames e (List.mem_cons_of_mem _ he)),
      lookup_deniedKeyName_extractStep data annotationParser (hnames _ List.mem_cons_self),
      Option.or_assoc, List.findSome?_cons]
    cases denialOf annotationParser ing <;> rfl

end Parsers

/-! ### `mergo` -/

section Merge

variable {ext : Extractor V}

/-- A merge over entries none of which is an error under `Denied` leaves `Denied` alone. -/
lemma denied_foldl_merge_of_not_mem (l : List (String × Datum V)) (pia : Ingress)
    (hl : ∀ p, (deniedKeyName, Datum.denied p) ∉ l) :
    (l.foldl (fun pia entry =>
      if entry.1 = deniedKeyName then
        match entry.2 with
        | .denied p => { pia with denied := some p }
        | .value _ => pia
      else
        match entry.2 with
        | .value v => ext.setField entry.1 v pia
        | .denied _ => pia) pia).denied = pia.denied := by
  induction l generalizing pia with
  | nil => rfl
  | cons e l ih =>
    obtain ⟨name, d⟩ := e
    rw [List.foldl_cons, ih _ (fun p hp => hl p (List.mem_cons_of_mem _ hp))]
    by_cases hname : name = deniedKeyName
    · subst hname
      cases d with
      | denied p => exact absurd List.mem_cons_self (hl p)
      | value v => simp
    · cases d <;> simp [hname, ext.setField_denied]

/-- A merge over entries of distinct names sets `Denied` to the error kept there. -/
lemma denied_foldl_merge_of_mem (l : List (String × Datum V)) (pia : Ingress) {p : Go.Ptr String}
    (hnodup : (l.map Prod.fst).Nodup) (hp : (deniedKeyName, Datum.denied p) ∈ l) :
    (l.foldl (fun pia entry =>
      if entry.1 = deniedKeyName then
        match entry.2 with
        | .denied p => { pia with denied := some p }
        | .value _ => pia
      else
        match entry.2 with
        | .value v => ext.setField entry.1 v pia
        | .denied _ => pia) pia).denied = some p := by
  induction l generalizing pia with
  | nil => simp at hp
  | cons e l ih =>
    obtain ⟨name, d⟩ := e
    rw [List.map_cons, List.nodup_cons] at hnodup
    rw [List.foldl_cons]
    rcases List.mem_cons.mp hp with heq | hmem
    · -- the entry of `Denied`; no later entry has its name
      simp only [Prod.mk.injEq] at heq
      obtain ⟨rfl, rfl⟩ := heq
      rw [denied_foldl_merge_of_not_mem l _ fun p' hp' =>
        hnodup.1 (List.mem_map.mpr ⟨_, hp', rfl⟩)]
      simp
    · exact ih _ hnodup.2 hmem

/-- `mergo` sets `Denied` to the error kept under it, and leaves it alone otherwise. -/
lemma denied_merge (ord : Go.RangeOrder ExtractLoop String) (data : Go.Map String (Datum V))
    (pia : Ingress) :
    (ext.merge ord data pia).denied =
      match data.lookup deniedKeyName with
      | some (.denied p) => some p
      | _ => pia.denied := by
  unfold Extractor.merge
  split
  · rename_i p hp
    exact denied_foldl_merge_of_mem _ pia Go.Map.range_keys_nodup (Go.Map.mem_range.mpr hp)
  · rename_i hnot
    exact denied_foldl_merge_of_not_mem _ pia fun p hp => hnot p (Go.Map.mem_range.mp hp)

end Merge

/-- `Denied` is the error of the first parser, in the order of the `range`, that denies the
location. -/
theorem extract_denied (ext : Extractor V) (ord : Go.RangeOrder ExtractLoop String) (addr : Nat)
    (ing : Networking.Ingress) :
    (ext.extract ord addr ing).denied =
      ((ext.annotations.range ord .parsers).findSome? fun e => denialOf e.2 ing).map
        fun reason => ⟨addr, reason⟩ := by
  have hnames : ∀ e ∈ ext.annotations.range ord .parsers, e.1 ≠ deniedKeyName := by
    rintro ⟨name, annotationParser⟩ he rfl
    exact ext.denied_not_mem (AList.mem_keys.mp
      (AList.lookup_isSome.mp (by simp [Go.Map.mem_range.mp he])))
  unfold Extractor.extract
  rw [denied_merge, lookup_deniedKeyName_foldl _ hnames]
  cases (ext.annotations.range ord .parsers).findSome? fun e => denialOf e.2 ing <;> rfl

/-- When two parsers deny an ingress, with the errors `reason₁` and `reason₂`, each of the two
becomes `Denied` in some order of the `range` over the parsers. -/
theorem extract_denied_depends_on_order (ext : Extractor V) (addr : Nat) (ing : Networking.Ingress)
    {name₁ name₂ reason₁ reason₂ : String} {parser₁ parser₂ : AnnotationParser V}
    (h₁ : ext.annotations.lookup name₁ = some parser₁)
    (h₂ : ext.annotations.lookup name₂ = some parser₂)
    (hdenied₁ : (parser₁ ing).2 = some (.locationDenied reason₁))
    (hdenied₂ : (parser₂ ing).2 = some (.locationDenied reason₂)) :
    ∃ ord₁ ord₂ : Go.RangeOrder ExtractLoop String,
      (ext.extract ord₁ addr ing).denied.map Go.Ptr.val = some reason₁ ∧
        (ext.extract ord₂ addr ing).denied.map Go.Ptr.val = some reason₂ := by
  obtain ⟨rest₁, hrange₁⟩ := Go.Map.range_front (i := ExtractLoop.parsers) h₁
  obtain ⟨rest₂, hrange₂⟩ := Go.Map.range_front (i := ExtractLoop.parsers) h₂
  refine ⟨Go.RangeOrder.front name₁, Go.RangeOrder.front name₂, ?_, ?_⟩
  · rw [extract_denied, hrange₁, List.findSome?_cons]
    simp [denialOf, hdenied₁]
  · rw [extract_denied, hrange₂, List.findSome?_cons]
    simp [denialOf, hdenied₂]

/-! ### The certificate parsers -/

/-- The values of the modelled parsers. -/
inductive Parsed where
  | certificateAuth (c : Authtls.Config)
  | proxySSL (c : Proxyssl.Config)

/-- The field `mergo` sets from a value of the modelled parsers. -/
def Parsed.setField : String → Parsed → Ingress → Ingress
  | "CertificateAuth", .certificateAuth c, pia => { pia with certificateAuth := c }
  | "ProxySSL", .proxySSL c, pia => { pia with proxySSL := c }
  | _, _, pia => pia

/-- `authtls.NewParser(r)`. -/
def certificateAuthParser (r : Resolver) (annotationsPrefix : String) :
    AnnotationParser Parsed := fun ing =>
  let (c, err) := Authtls.parse r annotationsPrefix ing
  (some (.certificateAuth c), err)

/-- `proxyssl.NewParser(r)`. -/
def proxySSLParser (r : Resolver) (annotationsPrefix : String) : AnnotationParser Parsed :=
  fun ing =>
    let (c, err) := Proxyssl.parse r annotationsPrefix ing
    (some (.proxySSL c), err)

/-- `NewAnnotationExtractor(r)`, with the parsers of `CertificateAuth` and `ProxySSL`. -/
def tlsExtractor (r : Resolver) (annotationsPrefix : String) : Extractor Parsed where
  annotations :=
    ((∅ : Go.Map String (AnnotationParser Parsed)).insert "CertificateAuth"
      (certificateAuthParser r annotationsPrefix)).insert "ProxySSL"
      (proxySSLParser r annotationsPrefix)
  certificateAuthError e := .certificateAuth { (default : Authtls.Config) with authTLSError := e }
  setField := Parsed.setField
  denied_not_mem := by simp [deniedKeyName, AList.keys_insert]
  setField_denied := by
    intro name v pia
    unfold Parsed.setField
    split <;> rfl

/-- An ingress whose client and upstream certificate secrets are both not `namespace/name`. -/
def twoSecretsIngress : Networking.Ingress where
  ns := "shop"
  name := "cart"
  annotations :=
    ((∅ : StringMap).insert "nginx.ingress.kubernetes.io/auth-tls-secret" "ca").insert
      "nginx.ingress.kubernetes.io/proxy-ssl-secret" "client"
  backend := none
  rules := []
  tls := []

theorem extract_denied_differs_for_two_invalid_secrets :
    ∃ ord₁ ord₂ : Go.RangeOrder ExtractLoop String,
      ((tlsExtractor Authtls.anyCertResolver Parser.defaultAnnotationsPrefix).extract ord₁ 0
          twoSecretsIngress).denied.map Go.Ptr.val ≠
        ((tlsExtractor Authtls.anyCertResolver Parser.defaultAnnotationsPrefix).extract ord₂ 0
          twoSecretsIngress).denied.map Go.Ptr.val := by
  have h₁ : (tlsExtractor Authtls.anyCertResolver
      Parser.defaultAnnotationsPrefix).annotations.lookup "CertificateAuth" =
        some (certificateAuthParser Authtls.anyCertResolver Parser.defaultAnnotationsPrefix) := rfl
  have h₂ : (tlsExtractor Authtls.anyCertResolver
      Parser.defaultAnnotationsPrefix).annotations.lookup "ProxySSL" =
        some (proxySSLParser Authtls.anyCertResolver Parser.defaultAnnotationsPrefix) := rfl
  have hdenied₁ : (certificateAuthParser Authtls.anyCertResolver Parser.defaultAnnotationsPrefix
      twoSecretsIngress).2 = some (.locationDenied
        "Location denied, reason: invalid format (namespace/name) found in 'ca'") := rfl
  have hdenied₂ : (proxySSLParser Authtls.anyCertResolver Parser.defaultAnnotationsPrefix
      twoSecretsIngress).2 = some (.locationDenied
        "Location denied, reason: invalid format (namespace/name) found in 'client'") := rfl
  obtain ⟨ord₁, ord₂, hord₁, hord₂⟩ :=
    extract_denied_depends_on_order _ 0 twoSecretsIngress h₁ h₂ hdenied₁ hdenied₂
  refine ⟨ord₁, ord₂, ?_⟩
  rw [hord₁, hord₂]
  decide

end Annotations

end IngressNginx
