import IngressNginx.Controller.Admission
import IngressNginx.Controller.ObjectRef

/-!
# The ingress store

`k8sStore` (`store.go`) keeps, next to the informers' caches, the `IngressWithAnnotation`
store: each ingress with the annotations `Extract` parsed from it. `Extract` reads the
Secrets, ConfigMaps and Services the annotations name, so a change of one of those has to
parse the ingresses that name it again. The informer handlers do so for Secrets, through the
map of the secrets each ingress references, and for ConfigMaps through
`AnnotationsReferencesConfigmap`; a Service change parses nothing.

`AnnotationsReferencesConfigmap` looks the ingress's annotation keys up among the bare names
`auth-proxy-set-header` and `fastcgi-params-configmap`, while every annotation the parsers
read is prefixed (`nginx.ingress.kubernetes.io/...`): a change of a ConfigMap that is not one
of the controller's own leaves every parsed annotation as it was
(`handleCfgMapEvent_keeps_parsed_annotations`).
-/

namespace IngressNginx

namespace Core

/-- `corev1.Secret`. -/
structure Secret where
  ns : String
  name : String
  data : Go.Map String String
deriving DecidableEq

/-- `corev1.ConfigMap`. -/
structure ConfigMap where
  ns : String
  name : String
  data : StringMap
deriving DecidableEq

end Core

/-- The informers' caches of the objects annotations name, keyed by `namespace/name`. -/
structure Resources where
  secrets : Go.Map String Core.Secret
  configMaps : Go.Map String Core.ConfigMap
  services : Go.Map String Core.Service

/-- The state of `k8sStore` the handlers change: the caches, the `IngressWithAnnotation`
store, and `secretIngressMap`, from each secret key to the keys of the ingresses that
reference it. -/
structure K8sStore where
  resources : Resources
  ingressWithAnnotations : Go.Map String Ingress
  secretIngressMap : ObjectRefMap

/-- What the handlers read besides the store: the names of the controller's ConfigMaps, the
catch-all flag, `class.IsValid`, and `Extract` over the caches. -/
structure StoreEnv where
  configmap : String
  tcp : String
  udp : String
  disableCatchAll : Bool
  isValidClass : Networking.Ingress → Bool
  extract : Resources → Networking.Ingress → Annotations.Ingress

/-! ### `syncIngress` and the secret references -/

/-- The copy `syncIngress` stores: empty paths as `/`, then the default path types. -/
def syncedCopy (ing : Networking.Ingress) : Networking.Ingress :=
  setDefaultNGINXPathType
    { ing with
      rules := ing.rules.map fun rule =>
        { rule with http := rule.http.map (·.map fun path =>
            if path.path = "" then { path with path := "/" } else path) } }

/-- `syncIngress`: the ingress stored with the annotations extracted from it now. -/
def syncIngress (env : StoreEnv) (st : K8sStore) (ing : Networking.Ingress) : K8sStore :=
  { st with
    ingressWithAnnotations := st.ingressWithAnnotations.insert (metaNamespaceKey ing.ns ing.name)
      { ingress := syncedCopy ing, parsedAnnotations := env.extract st.resources ing } }

/-- `objectRefAnnotationNsKey`: the `namespace/name` key an annotation names, the ingress's
namespace by default; `none` when `GetStringAnnotation` fails or the value names nothing. -/
def objectRefAnnotationNsKey (annotationsPrefix ann : String) (ing : Networking.Ingress) :
    Option String :=
  match Parser.getStringAnnotation annotationsPrefix ann ing with
  | (_, some _) => none
  | (annValue, none) =>
    -- `cache.SplitMetaNamespaceKey`: a name, or a namespace and a name
    match Go.split annValue '/' with
    | [secrName] => if secrName = "" then none else some (ing.ns ++ "/" ++ secrName)
    | [secrNs, secrName] =>
      if secrName = "" then none
      else if secrNs = "" then some (ing.ns ++ "/" ++ secrName) else some annValue
    | _ => none

/-- The annotations whose Secret `updateSecretIngressMap` records. -/
def secretAnnotations : List String :=
  ["auth-secret", "auth-tls-secret", "proxy-ssl-secret", "secure-verify-ca-secret"]

/-- `refSecrets` of `updateSecretIngressMap`: the TLS secrets of the ingress, then the secrets
its annotations name. -/
def refSecrets (annotationsPrefix : String) (ing : Networking.Ingress) : List String :=
  (ing.tls.filterMap fun tls =>
    if tls.secretName = "" then none else some (ing.ns ++ "/" ++ tls.secretName)) ++
  secretAnnotations.filterMap fun ann => objectRefAnnotationNsKey annotationsPrefix ann ing

/-- `updateSecretIngressMap`: the ingress's references deleted, then its secrets inserted. -/
def updateSecretIngressMap (annotationsPrefix : String) (st : K8sStore)
    (ing : Networking.Ingress) : K8sStore :=
  let key := metaNamespaceKey ing.ns ing.name
  let st := { st with secretIngressMap := st.secretIngressMap.delete key }
  { st with secretIngressMap := st.secretIngressMap.insert key (refSecrets annotationsPrefix ing) }

/-- `secretIngressMap.Reference(key)`: the ingresses that reference a secret, sorted. -/
def secretReferences (st : K8sStore) (secrKey : String) : List String :=
  st.secretIngressMap.reference secrKey

/-- `getIngress`: the ingress stored under a key in `IngressWithAnnotation`. -/
def getIngress (st : K8sStore) (key : String) : Option Networking.Ingress :=
  (st.ingressWithAnnotations.lookup key).map (·.ingress)

/-- `syncIngress` of each stored ingress of the keys given, skipping keys not found. -/
def syncIngressKeys (env : StoreEnv) (st : K8sStore) (keys : List String) : K8sStore :=
  keys.foldl (fun st key =>
    match getIngress st key with
    | some ing => syncIngress env st ing
    | none => st) st

/-! ### The handlers -/

/-- `parser.AnnotationsReferencesConfigmap`'s set of names. -/
def configmapAnnotations : List String := ["auth-proxy-set-header", "fastcgi-params-configmap"]

/-- `parser.AnnotationsReferencesConfigmap`: some annotation key is one of the names. -/
def annotationsReferencesConfigmap (ing : Networking.Ingress) : Bool :=
  !ing.annotations.entries.isEmpty && ing.annotations.keys.any (· ∈ configmapAnnotations)

/-- `changeTriggerUpdate`: the controller's own ConfigMaps. -/
def StoreEnv.changeTriggerUpdate (env : StoreEnv) (name : String) : Bool :=
  name = env.configmap || name = env.tcp || name = env.udp

/-- `handleCfgMapEvent`, after the informer cached the ConfigMap: the stored ingresses that
reference a ConfigMap are parsed again, and all of them when it is one of the controller's.
The global configuration `setConfig` reads from the controller's ConfigMap is not modelled. -/
def handleCfgMapEvent (env : StoreEnv) (st : K8sStore) (key : String) (cfgMap : Core.ConfigMap) :
    K8sStore :=
  let st := { st with resources := { st.resources with configMaps := st.resources.configMaps.insert key cfgMap } }
  let triggerUpdate := env.changeTriggerUpdate key
  st.ingressWithAnnotations.keys.foldl (fun st ingKey =>
    match getIngress st ingKey with
    | some ing =>
      if annotationsReferencesConfigmap ing || triggerUpdate then syncIngress env st ing else st
    | none => st) st

/-- The Secret handlers (add, update, delete) after the informer changed its cache: the
ingresses that reference the secret are parsed again. -/
def handleSecretEvent (env : StoreEnv) (st : K8sStore) (key : String)
    (secret : Option Core.Secret) : K8sStore :=
  let secrets := match secret with
    | some s => st.resources.secrets.insert key s
    | none => st.resources.secrets.erase key
  let st := { st with resources := { st.resources with secrets } }
  syncIngressKeys env st (secretReferences st key)

/-- The Service handler after the informer cached the Service: it only signals an update. -/
def handleServiceUpdate (st : K8sStore) (key : String) (svc : Core.Service) : K8sStore :=
  { st with resources := { st.resources with services := st.resources.services.insert key svc } }

/-- `hasCatchAllIngressRule`: the ingress has a default backend. -/
def hasCatchAllIngressRule (ing : Networking.Ingress) : Bool := ing.backend.isSome

/-- `ingDeleteHandler` for the ingress it was handed (the last state the informer knew): an
ingress of another class, or a catch-all under `--disable-catch-all`, is ignored; any other
leaves the `IngressWithAnnotation` store and `secretIngressMap`. -/
def ingDeleteHandler (env : StoreEnv) (st : K8sStore) (ing : Networking.Ingress) : K8sStore :=
  if !env.isValidClass ing then st
  else if hasCatchAllIngressRule ing && env.disableCatchAll then st
  else
    let key := metaNamespaceKey ing.ns ing.name
    { st with
      ingressWithAnnotations := st.ingressWithAnnotations.erase key
      secretIngressMap := st.secretIngressMap.delete key }

/-- The work of the add and update handlers: `syncIngress`, then `updateSecretIngressMap`.
`syncSecrets`, which only fills the local certificate store, is not modelled. -/
def syncIngressAndSecrets (env : StoreEnv) (annotationsPrefix : String) (st : K8sStore)
    (ing : Networking.Ingress) : K8sStore :=
  updateSecretIngressMap annotationsPrefix (syncIngress env st ing) ing

/-- The `AddFunc` of `ingEventHandler`. -/
def ingAddFunc (env : StoreEnv) (annotationsPrefix : String) (st : K8sStore)
    (ing : Networking.Ingress) : K8sStore :=
  if !env.isValidClass ing then st
  else if hasCatchAllIngressRule ing && env.disableCatchAll then st
  else syncIngressAndSecrets env annotationsPrefix st ing

/-- The `UpdateFunc` of `ingEventHandler`; `reflect.DeepEqual` compares the modelled object. -/
def ingUpdateFunc (env : StoreEnv) (annotationsPrefix : String) (st : K8sStore)
    (old cur : Networking.Ingress) : K8sStore :=
  let validOld := env.isValidClass old
  let validCur := env.isValidClass cur
  if !validOld && validCur then
    if hasCatchAllIngressRule cur && env.disableCatchAll then st
    else syncIngressAndSecrets env annotationsPrefix st cur
  else if validOld && !validCur then ingDeleteHandler env st old
  else if validCur && old != cur then
    if hasCatchAllIngressRule cur && env.disableCatchAll then ingDeleteHandler env st old
    else syncIngressAndSecrets env annotationsPrefix st cur
  else st

/-! ### ConfigMap events -/

/-- No annotation key with a `/` is one of the bare names. -/
lemma annotationsReferencesConfigmap_eq_false {ing : Networking.Ingress}
    (h : ∀ k ∈ ing.annotations.keys, '/' ∈ k.toList) : annotationsReferencesConfigmap ing = false := by
  have hnone : (ing.annotations.keys.any (· ∈ configmapAnnotations)) = false := by
    rw [List.any_eq_false]
    intro k hk hmem
    have hslash := h k hk
    simp only [configmapAnnotations, List.mem_cons, List.not_mem_nil, or_false,
      decide_eq_true_eq] at hmem
    rcases hmem with rfl | rfl <;> simp at hslash
  simp [annotationsReferencesConfigmap, hnone]

/-- A ConfigMap other than the controller's own parses no stored ingress whose annotation keys
all carry a prefix, whatever it holds and whoever names it. -/
theorem handleCfgMapEvent_keeps_parsed_annotations (env : StoreEnv) (st : K8sStore) (key : String)
    (cfgMap : Core.ConfigMap) (htrigger : env.changeTriggerUpdate key = false)
    (hprefixed : ∀ ingKey a, st.ingressWithAnnotations.lookup ingKey = some a →
      ∀ k ∈ a.ingress.annotations.keys, '/' ∈ k.toList) :
    (handleCfgMapEvent env st key cfgMap).ingressWithAnnotations = st.ingressWithAnnotations := by
  unfold handleCfgMapEvent
  -- every pass of the loop finds its ingress but parses nothing, so the store never changes
  refine List.foldlRecOn (motive := fun st' : K8sStore =>
    st'.ingressWithAnnotations = st.ingressWithAnnotations) _ _ rfl fun st' hst' ingKey _ => ?_
  cases hget : getIngress st' ingKey with
  | none => simpa [hget] using hst'
  | some ing =>
    obtain ⟨a, ha, rfl⟩ := Option.map_eq_some_iff.mp hget
    rw [hst'] at ha
    have hfalse := annotationsReferencesConfigmap_eq_false (hprefixed ingKey a ha)
    simpa [hget, hfalse, htrigger] using hst'

/-- An ingress `shop/app` whose FastCGI parameters come from the ConfigMap `shop/fcgi`. -/
def appIngress : Networking.Ingress :=
  { (default : Networking.Ingress) with
    ns := "shop"
    name := "app"
    annotations := (∅ : StringMap).insert
      "nginx.ingress.kubernetes.io/fastcgi-params-configmap" "fcgi" }

/-- The FastCGI part of `Extract`: the parameters are the data of the ConfigMap the annotation
names, in the ingress's namespace. -/
def fastcgiExtract (res : Resources) (ing : Networking.Ingress) : Annotations.Ingress :=
  { (default : Annotations.Ingress) with
    fastCGI :=
      { index := ""
        params := (ing.annotations.get? "nginx.ingress.kubernetes.io/fastcgi-params-configmap").bind
          fun name => (res.configMaps.lookup (ing.ns ++ "/" ++ name)).map (·.data) } }

/-- The controller's ConfigMaps in `ingress-nginx`, with the FastCGI extractor. -/
def shopStoreEnv : StoreEnv where
  configmap := "ingress-nginx/ingress-nginx-controller"
  tcp := "ingress-nginx/tcp-services"
  udp := "ingress-nginx/udp-services"
  disableCatchAll := false
  isValidClass := fun _ => true
  extract := fastcgiExtract

/-- The ConfigMap `shop/fcgi` holding one parameter. -/
def fcgiConfigMap (script : String) : Core.ConfigMap :=
  { ns := "shop", name := "fcgi", data := (∅ : StringMap).insert "SCRIPT_FILENAME" script }

/-- The store after `shop/app` was added while `shop/fcgi` held `/app/index.php`. -/
def appStore : K8sStore :=
  syncIngress shopStoreEnv
    ⟨⟨∅, (∅ : Go.Map String Core.ConfigMap).insert "shop/fcgi" (fcgiConfigMap "/app/index.php"), ∅⟩,
      ∅, ObjectRefMap.empty⟩
    appIngress

theorem handleCfgMapEvent_keeps_stale_fastcgi_params :
    (handleCfgMapEvent shopStoreEnv appStore "shop/fcgi" (fcgiConfigMap "/app/main.php")).ingressWithAnnotations =
        appStore.ingressWithAnnotations ∧
      ((appStore.ingressWithAnnotations.lookup "shop/app").bind
        (·.parsedAnnotations.fastCGI.params)).bind (·.lookup "SCRIPT_FILENAME") =
        some "/app/index.php" ∧
      (fastcgiExtract
          (handleCfgMapEvent shopStoreEnv appStore "shop/fcgi"
            (fcgiConfigMap "/app/main.php")).resources appIngress).fastCGI.params.bind
        (·.lookup "SCRIPT_FILENAME") = some "/app/main.php" := by
  have hprefixed : ∀ ingKey a, appStore.ingressWithAnnotations.lookup ingKey = some a →
      ∀ k ∈ a.ingress.annotations.keys, '/' ∈ k.toList := by
    intro ingKey a h
    rcases Go.Map.lookup_insert_eq_some.mp h with ⟨-, rfl⟩ | ⟨-, h⟩
    · decide
    · simp at h
  exact ⟨handleCfgMapEvent_keeps_parsed_annotations shopStoreEnv appStore "shop/fcgi"
    (fcgiConfigMap "/app/main.php") (by decide) hprefixed, by decide, by decide⟩

end IngressNginx
