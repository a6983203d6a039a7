import IngressNginx.Controller.Store

/-!
# The ingress handlers and `secretIngressMap`

The ingress informer applies each write of the API server to its cache and calls a handler of
`store.go` with the objects it knew: `AddFunc` for a new key, `UpdateFunc` with the old and the
new object, `DeleteFunc` with the last state of a deleted one (`IngressSystem.step`). The
informer is client-go's, not part of the program; the model takes it as this loop.

The handlers keep the ingresses of the controller's class, but not a catch-all one under
`--disable-catch-all` (`StoreEnv.keeps`), and `secretIngressMap` records which secrets each of
them references. Every handler keeps two facts (`RecordsReferences`, `StoresKept`): the map
holds exactly the pairs of a stored ingress and a secret it references, and the store holds
exactly the kept ingresses of the informer's cache. From them, after any run of writes,
`ReferencedBy` of a stored ingress is its secrets, a deleted ingress references nothing, and
`Has` holds of exactly the secrets some stored ingress references
(`secretIngressMap_tracks_references`).
-/

namespace IngressNginx

/-- The ingresses the informer holds, by key, and the store its handlers keep. -/
structure IngressSystem where
  cluster : Go.Map String Networking.Ingress
  store : K8sStore

/-- A write to the API server: an ingress created, updated or resynced, or one deleted. -/
inductive IngressEvent where
  | apply (ing : Networking.Ingress)
  | delete (key : String)

/-- No ingress yet, over the caches of the other objects. -/
def IngressSystem.init (resources : Resources) : IngressSystem :=
  ⟨∅, ⟨resources, ∅, ObjectRefMap.empty⟩⟩

/-- The informer applies a write to its cache and calls the handler. -/
def IngressSystem.step (env : StoreEnv) (annotationsPrefix : String) (sys : IngressSystem) :
    IngressEvent → IngressSystem
  | .apply ing =>
    let key := metaNamespaceKey ing.ns ing.name
    { cluster := sys.cluster.insert key ing
      store :=
        match sys.cluster.lookup key with
        | none => ingAddFunc env annotationsPrefix sys.store ing
        | some old => ingUpdateFunc env annotationsPrefix sys.store old ing }
  | .delete key =>
    match sys.cluster.lookup key with
    | none => sys
    | some old => { cluster := sys.cluster.erase key, store := ingDeleteHandler env sys.store old }

/-- A run of writes, in order. -/
def IngressSystem.run (env : StoreEnv) (annotationsPrefix : String) (sys : IngressSystem)
    (events : List IngressEvent) : IngressSystem :=
  events.foldl (IngressSystem.step env annotationsPrefix) sys

/-- The handlers keep an ingress of the controller's class that is not a catch-all under
`--disable-catch-all`. -/
def StoreEnv.keeps (env : StoreEnv) (ing : Networking.Ingress) : Bool :=
  env.isValidClass ing && !(hasCatchAllIngressRule ing && env.disableCatchAll)

/-! ### What each handler does -/

section Handlers

variable {env : StoreEnv} {annotationsPrefix : String} {st : K8sStore}
  {ing old cur : Networking.Ingress}

/-- `syncIngress` stores the copy of the ingress under its key. -/
lemma syncIngressAndSecrets_lookup (key : String) :
    ((syncIngressAndSecrets env annotationsPrefix st ing).ingressWithAnnotations.lookup key).map
        (·.ingress) =
      if key = metaNamespaceKey ing.ns ing.name then some (syncedCopy ing)
      else (st.ingressWithAnnotations.lookup key).map (·.ingress) := by
  by_cases hkey : key = metaNamespaceKey ing.ns ing.name
  · subst hkey
    simp [syncIngressAndSecrets, updateSecretIngressMap, syncIngress]
  · simp [syncIngressAndSecrets, updateSecretIngressMap, syncIngress, hkey,
      AList.lookup_insert_ne hkey]

/-- `updateSecretIngressMap` replaces the references of the ingress by its secrets. -/
lemma syncIngressAndSecrets_consumes (consumer ref : String) :
    (syncIngressAndSecrets env annotationsPrefix st ing).secretIngressMap.Consumes consumer ref ↔
      st.secretIngressMap.Consumes consumer ref ∧ consumer ≠ metaNamespaceKey ing.ns ing.name ∨
        consumer = metaNamespaceKey ing.ns ing.name ∧ ref ∈ refSecrets annotationsPrefix ing := by
  simp only [syncIngressAndSecrets, updateSecretIngressMap, syncIngress,
    ObjectRefMap.consumes_insert, ObjectRefMap.consumes_delete]

/-- What `ingDeleteHandler` does: nothing to an ingress it does not keep, and otherwise it
takes the key out of the store and out of `secretIngressMap`. -/
lemma ingDeleteHandler_cases (env : StoreEnv) (st : K8sStore) (ing : Networking.Ingress) :
    (env.keeps ing = false ∧ ingDeleteHandler env st ing = st) ∨
      (env.keeps ing = true ∧ ingDeleteHandler env st ing =
        { st with
          ingressWithAnnotations :=
            st.ingressWithAnnotations.erase (metaNamespaceKey ing.ns ing.name)
          secretIngressMap := st.secretIngressMap.delete (metaNamespaceKey ing.ns ing.name) }) := by
  unfold ingDeleteHandler StoreEnv.keeps
  by_cases hvalid : env.isValidClass ing
  · by_cases hignored : hasCatchAllIngressRule ing && env.disableCatchAll <;>
      simp [hvalid, hignored]
  · simp [hvalid]

/-- What `AddFunc` does: it syncs an ingress it keeps and ignores any other. -/
lemma ingAddFunc_eq :
    ingAddFunc env annotationsPrefix st ing =
      if env.keeps ing then syncIngressAndSecrets env annotationsPrefix st ing else st := by
  unfold ingAddFunc StoreEnv.keeps
  by_cases hvalid : env.isValidClass ing
  · by_cases hignored : hasCatchAllIngressRule ing && env.disableCatchAll <;>
      simp [hvalid, hignored]
  · simp [hvalid]

/-- What `UpdateFunc` does: it syncs the new object when it keeps it and something changed;
it hands the old object to `ingDeleteHandler` when it no longer keeps the new one but kept
the class; it does nothing otherwise, which happens only to an unchanged object or one it
kept neither before nor now. -/
lemma ingUpdateFunc_cases (env : StoreEnv) (annotationsPrefix : String) (st : K8sStore)
    (old cur : Networking.Ingress) :
    (env.keeps cur = true ∧
        ingUpdateFunc env annotationsPrefix st old cur =
          syncIngressAndSecrets env annotationsPrefix st cur) ∨
      (env.keeps cur = false ∧ env.isValidClass old = true ∧
        ingUpdateFunc env annotationsPrefix st old cur = ingDeleteHandler env st old) ∨
      ((old = cur ∨ env.keeps old = false ∧ env.keeps cur = false) ∧
        ingUpdateFunc env annotationsPrefix st old cur = st) := by
  unfold ingUpdateFunc StoreEnv.keeps
  by_cases hcur : env.isValidClass cur
  · by_cases hold : env.isValidClass old
    · by_cases hsame : old = cur
      · -- an unchanged object, as a resync delivers it
        subst hsame
        simp [hcur]
      · by_cases hignored : hasCatchAllIngressRule cur && env.disableCatchAll <;>
          simp [hcur, hold, hsame, hignored]
    · by_cases hignored : hasCatchAllIngressRule cur && env.disableCatchAll <;>
        simp [hcur, hold, hignored]
  · by_cases hold : env.isValidClass old <;> simp [hcur, hold]

end Handlers

/-! ### The map records the references of the stored ingresses -/

/-- `secretIngressMap` holds exactly the pairs of a stored ingress and a secret it references. -/
def RecordsReferences (annotationsPrefix : String) (st : K8sStore) : Prop :=
  ∀ consumer ref, st.secretIngressMap.Consumes consumer ref ↔
    ∃ a, st.ingressWithAnnotations.lookup consumer = some a ∧
      ref ∈ refSecrets annotationsPrefix a.ingress

section Records

variable {env : StoreEnv} {annotationsPrefix : String} {st : K8sStore}
  {ing old cur : Networking.Ingress}

/-- The copy `syncIngress` stores references the secrets of the ingress. -/
lemma refSecrets_syncedCopy : refSecrets annotationsPrefix (syncedCopy ing) =
    refSecrets annotationsPrefix ing := rfl

lemma recordsReferences_init (resources : Resources) :
    RecordsReferences annotationsPrefix (IngressSystem.init resources).store := by
  intro consumer ref
  constructor
  · intro h
    exact absurd h ObjectRefMap.not_consumes_empty
  · rintro ⟨a, ha, -⟩
    cases ha

lemma recordsReferences_syncIngressAndSecrets (h : RecordsReferences annotationsPrefix st) :
    RecordsReferences annotationsPrefix (syncIngressAndSecrets env annotationsPrefix st ing) := by
  intro consumer ref
  rw [syncIngressAndSecrets_consumes, h]
  simp only [syncIngressAndSecrets, updateSecretIngressMap, syncIngress]
  by_cases hkey : consumer = metaNamespaceKey ing.ns ing.name
  · subst hkey
    simp [refSecrets_syncedCopy]
  · simp [hkey, AList.lookup_insert_ne hkey]

lemma recordsReferences_ingDeleteHandler (h : RecordsReferences annotationsPrefix st) :
    RecordsReferences annotationsPrefix (ingDeleteHandler env st ing) := by
  rcases ingDeleteHandler_cases env st ing with ⟨-, hst⟩ | ⟨-, hst⟩
  · rw [hst]
    exact h
  · rw [hst]
    intro consumer ref
    simp only [ObjectRefMap.consumes_delete]
    rw [h]
    by_cases hkey : consumer = metaNamespaceKey ing.ns ing.name
    · subst hkey
      simp
    · simp [hkey, AList.lookup_erase_ne hkey]

/-- Every write keeps the map recording the references of the stored ingresses. -/
lemma recordsReferences_step {sys : IngressSystem}
    (h : RecordsReferences annotationsPrefix sys.store) (event : IngressEvent) :
    RecordsReferences annotationsPrefix (sys.step env annotationsPrefix event).store := by
  cases event with
  | apply ing =>
    simp only [IngressSystem.step]
    split
    · rw [ingAddFunc_eq]
      split_ifs
      · exact recordsReferences_syncIngressAndSecrets h
      · exact h
    · rename_i old _
      rcases ingUpdateFunc_cases env annotationsPrefix sys.store old ing with
        ⟨-, hsync⟩ | ⟨-, -, hdelete⟩ | ⟨-, hsame⟩
      · rw [hsync]
        exact recordsReferences_syncIngressAndSecrets h
      · rw [hdelete]
        exact recordsReferences_ingDeleteHandler h
      · rw [hsame]
        exact h
  | delete key =>
    simp only [IngressSystem.step]
    split
    · exact h
    · exact recordsReferences_ingDeleteHandler h

end Records

/-! ### The store holds the kept ingresses of the informer -/

/-- The copy of an ingress the store holds when the handlers keep it. -/
def StoreEnv.keptCopy (env : StoreEnv) (ing : Networking.Ingress) : Option Networking.Ingress :=
  if env.keeps ing then some (syncedCopy ing) else none

/-- The informer holds each ingress under its key, and the store holds the copy of exactly
the kept ones. -/
def StoresKept (env : StoreEnv) (sys : IngressSystem) : Prop :=
  (∀ key ing, sys.cluster.lookup key = some ing → metaNamespaceKey ing.ns ing.name = key) ∧
    ∀ key, (sys.store.ingressWithAnnotations.lookup key).map (·.ingress) =
      (sys.cluster.lookup key).bind env.keptCopy

section Kept

variable {env : StoreEnv} {annotationsPrefix : String} {st : K8sStore} {ing : Networking.Ingress}

/-- `ingDeleteHandler` takes a kept ingress out of the store. -/
lemma ingDeleteHandler_lookup (key : String) :
    ((ingDeleteHandler env st ing).ingressWithAnnotations.lookup key).map (·.ingress) =
      if key = metaNamespaceKey ing.ns ing.name ∧ env.keeps ing = true then none
      else (st.ingressWithAnnotations.lookup key).map (·.ingress) := by
  rcases ingDeleteHandler_cases env st ing with ⟨hkeep, hst⟩ | ⟨hkeep, hst⟩
  · simp [hst, hkeep]
  · rw [hst]
    by_cases hkey : key = metaNamespaceKey ing.ns ing.name
    · subst hkey
      simp [hkeep]
    · simp [hkey, AList.lookup_erase_ne hkey]

lemma storesKept_init (resources : Resources) : StoresKept env (IngressSystem.init resources) :=
  ⟨fun _ _ h => (by cases h), fun _ => rfl⟩

variable {sys sys' : IngressSystem}

/-- A write that changes the informer's cache and the store at one key only, where they then
agree, keeps the store holding the kept ingresses. -/
lemma storesKept_of_update (h : StoresKept env sys) (key : String) (o : Option Networking.Ingress)
    (hcluster : ∀ key', sys'.cluster.lookup key' =
      if key' = key then o else sys.cluster.lookup key')
    (hkey : ∀ ing, o = some ing → metaNamespaceKey ing.ns ing.name = key)
    (hstore : ∀ key', (sys'.store.ingressWithAnnotations.lookup key').map (·.ingress) =
      if key' = key then o.bind env.keptCopy
      else (sys.store.ingressWithAnnotations.lookup key').map (·.ingress)) :
    StoresKept env sys' := by
  refine ⟨fun key' ing hing => ?_, fun key' => ?_⟩
  · rw [hcluster] at hing
    split_ifs at hing with hk
    · rw [hk]
      exact hkey ing hing
    · exact h.1 key' ing hing
  · rw [hstore, hcluster]
    split_ifs
    · rfl
    · exact h.2 key'

/-- Before a write to a key, the store holds there the copy of what the informer held. -/
lemma StoresKept.lookup_key (h : StoresKept env sys) (key : String) :
    (sys.store.ingressWithAnnotations.lookup key).map (·.ingress) =
      (sys.cluster.lookup key).bind env.keptCopy :=
  h.2 key

/-- `ingDeleteHandler`, given the object the informer held under `key`, leaves nothing under
`key` in the store and changes no other key. -/
lemma StoresKept.lookup_ingDeleteHandler (h : StoresKept env sys) {key : String}
    {old : Networking.Ingress} (hold : sys.cluster.lookup key = some old) (key' : String) :
    ((ingDeleteHandler env sys.store old).ingressWithAnnotations.lookup key').map (·.ingress) =
      if key' = key then none else (sys.store.ingressWithAnnotations.lookup key').map (·.ingress) := by
  have hkeyold : metaNamespaceKey old.ns old.name = key := h.1 key old hold
  have hbefore := h.lookup_key key
  rw [hold, Option.bind_some] at hbefore
  rw [ingDeleteHandler_lookup, hkeyold]
  by_cases hk : key' = key
  · subst hk
    by_cases hkeepold : env.keeps old
    · simp [hkeepold]
    · simp [hkeepold, hbefore, StoreEnv.keptCopy]
  · simp [hk]

/-- `AddFunc`, on a key the informer did not hold, stores there the copy of the ingress if the
handlers keep it, and changes no other key. -/
lemma StoresKept.lookup_ingAddFunc (h : StoresKept env sys) {cur : Networking.Ingress}
    (hnew : sys.cluster.lookup (metaNamespaceKey cur.ns cur.name) = none) (key' : String) :
    ((ingAddFunc env annotationsPrefix sys.store cur).ingressWithAnnotations.lookup key').map
        (·.ingress) =
      if key' = metaNamespaceKey cur.ns cur.name then env.keptCopy cur
      else (sys.store.ingressWithAnnotations.lookup key').map (·.ingress) := by
  rw [ingAddFunc_eq]
  by_cases hk : key' = metaNamespaceKey cur.ns cur.name
  · subst hk
    by_cases hkeep : env.keeps cur
    · rw [if_pos hkeep, syncIngressAndSecrets_lookup, if_pos rfl, if_pos rfl]
      simp [StoreEnv.keptCopy, hkeep]
    · rw [if_neg hkeep, if_pos rfl, h.lookup_key, hnew]
      simp [StoreEnv.keptCopy, hkeep]
  · rw [if_neg hk]
    split_ifs
    · rw [syncIngressAndSecrets_lookup, if_neg hk]
    · rfl

/-- `UpdateFunc`, from the object the informer held under the key, stores there the copy of the
new ingress if the handlers keep it, and changes no other key. -/
lemma StoresKept.lookup_ingUpdateFunc (h : StoresKept env sys) {old cur : Networking.Ingress}
    (hold : sys.cluster.lookup (metaNamespaceKey cur.ns cur.name) = some old) (key' : String) :
    ((ingUpdateFunc env annotationsPrefix sys.store old cur).ingressWithAnnotations.lookup
        key').map (·.ingress) =
      if key' = metaNamespaceKey cur.ns cur.name then env.keptCopy cur
      else (sys.store.ingressWithAnnotations.lookup key').map (·.ingress) := by
  rcases ingUpdateFunc_cases env annotationsPrefix sys.store old cur with
    ⟨hkeep, hsync⟩ | ⟨hkeep, -, hdelete⟩ | ⟨hsame, hst⟩
  · -- a kept ingress is synced again
    rw [hsync, syncIngressAndSecrets_lookup]
    by_cases hk : key' = metaNamespaceKey cur.ns cur.name
    · simp [hk, StoreEnv.keptCopy, hkeep]
    · simp [hk]
  · -- one the handlers no longer keep goes as the old object
    rw [hdelete, h.lookup_ingDeleteHandler hold]
    simp [StoreEnv.keptCopy, hkeep]
  · -- nothing changes when neither object is kept or the two agree
    rw [hst]
    by_cases hk : key' = metaNamespaceKey cur.ns cur.name
    · subst hk
      rw [if_pos rfl, h.lookup_key, hold, Option.bind_some]
      rcases hsame with rfl | ⟨hkeepold, hkeepcur⟩
      · rfl
      · simp [StoreEnv.keptCopy, hkeepold, hkeepcur]
    · rw [if_neg hk]

lemma storesKept_step (h : StoresKept env sys) (event : IngressEvent) :
    StoresKept env (sys.step env annotationsPrefix event) := by
  cases event with
  | apply cur =>
    set key := metaNamespaceKey cur.ns cur.name
    have hcluster : ∀ key', (sys.cluster.insert key cur).lookup key' =
        if key' = key then some cur else sys.cluster.lookup key' := by
      intro key'
      by_cases hk : key' = key
      · subst hk
        simp
      · simp [hk, AList.lookup_insert_ne hk]
    simp only [IngressSystem.step]
    refine storesKept_of_update h key (some cur) hcluster (fun ing hing => ?_) ?_
    · cases hing
      rfl
    intro key'
    -- `AddFunc` for a new key, `UpdateFunc` with the object the informer held for a known one
    split
    · rename_i hnew
      exact h.lookup_ingAddFunc hnew key'
    · rename_i old hold
      exact h.lookup_ingUpdateFunc hold key'
  | delete key =>
    simp only [IngressSystem.step]
    split
    · exact h
    · rename_i old hold
      refine storesKept_of_update h key none (fun key' => ?_) (fun _ hing => by cases hing)
        (h.lookup_ingDeleteHandler hold)
      by_cases hk : key' = key
      · subst hk
        simp
      · simp [hk, AList.lookup_erase_ne hk]

end Kept

/-! ### Any run of writes -/

/-- Both facts hold after every run of writes from an empty informer. -/
lemma run_invariants (env : StoreEnv) (annotationsPrefix : String) :
    ∀ (events : List IngressEvent) (sys : IngressSystem),
      RecordsReferences annotationsPrefix sys.store → StoresKept env sys →
      RecordsReferences annotationsPrefix (sys.run env annotationsPrefix events).store ∧
        StoresKept env (sys.run env annotationsPrefix events)
  | [], _, hrec, hkept => ⟨hrec, hkept⟩
  | event :: events, sys, hrec, hkept =>
    run_invariants env annotationsPrefix events (sys.step env annotationsPrefix event)
      (recordsReferences_step hrec event) (storesKept_step hkept event)

/-- For every class filter, `--disable-catch-all` setting and run of ingress writes, as the
informer delivers them to the handlers: the store holds the kept ingresses of the informer;
`ReferencedBy` of each stored ingress is the set of secrets of its TLS section and its
`auth-secret`, `auth-tls-secret`, `proxy-ssl-secret` and `secure-verify-ca-secret`
annotations; no deleted ingress is a consumer; no secret maps to an empty set; and `Has` holds
of exactly the secrets some stored ingress references. -/
theorem secretIngressMap_tracks_references (env : StoreEnv) (annotationsPrefix : String)
    (resources : Resources) (events : List IngressEvent) :
    (∀ key, (((IngressSystem.init resources).run env annotationsPrefix events).store.ingressWithAnnotations.lookup
        key).map (·.ingress) =
      (((IngressSystem.init resources).run env annotationsPrefix events).cluster.lookup key).bind
        env.keptCopy) ∧
    (∀ key a, ((IngressSystem.init resources).run env annotationsPrefix events).store.ingressWithAnnotations.lookup
        key = some a → ∀ ref,
      ref ∈ ((IngressSystem.init resources).run env annotationsPrefix events).store.secretIngressMap.referencedBy
        key ↔ ref ∈ refSecrets annotationsPrefix a.ingress) ∧
    (∀ key, ((IngressSystem.init resources).run env annotationsPrefix events).cluster.lookup key = none →
      ∀ ref, key ∉
        ((IngressSystem.init resources).run env annotationsPrefix events).store.secretIngressMap.reference ref) ∧
    (∀ ref consumers,
      ((IngressSystem.init resources).run env annotationsPrefix events).store.secretIngressMap.v.lookup ref =
        some consumers → consumers.Nonempty) ∧
    (∀ ref, ((IngressSystem.init resources).run env annotationsPrefix events).store.secretIngressMap.has ref = true ↔
      ∃ key a, ((IngressSystem.init resources).run env annotationsPrefix events).store.ingressWithAnnotations.lookup
        key = some a ∧ ref ∈ refSecrets annotationsPrefix a.ingress) := by
  set sys := (IngressSystem.init resources).run env annotationsPrefix events
  obtain ⟨hrec, hkept⟩ := run_invariants env annotationsPrefix events _
    (recordsReferences_init resources) (storesKept_init resources)
  refine ⟨hkept.2, fun key a ha ref => ?_, fun key hdeleted ref hmem => ?_,
    sys.store.secretIngressMap.nonempty, fun ref => ?_⟩
  · rw [ObjectRefMap.mem_referencedBy, hrec]
    constructor
    · rintro ⟨a', ha', href⟩
      rw [ha] at ha'
      cases ha'
      exact href
    · intro href
      exact ⟨a, ha, href⟩
  · -- a consumer is stored, and the store holds only what the informer holds
    obtain ⟨a, ha, -⟩ := (hrec key ref).mp (ObjectRefMap.mem_reference.mp hmem)
    have hstored := hkept.2 key
    rw [ha, hdeleted] at hstored
    cases hstored
  · rw [ObjectRefMap.has_iff]
    constructor
    · rintro ⟨key, hkey⟩
      obtain ⟨a, ha, href⟩ := (hrec key ref).mp hkey
      exact ⟨key, a, ha, href⟩
    · rintro ⟨key, a, ha, href⟩
      exact ⟨key, (hrec key ref).mpr ⟨a, ha, href⟩⟩

/-- The ingress `shop/app` serving TLS with the secret `shop-tls`. -/
def tlsIngress : Networking.Ingress :=
  { (default : Networking.Ingress) with ns := "shop", name := "app", tls := [⟨[], "shop-tls"⟩] }

example : ((IngressSystem.init ⟨∅, ∅, ∅⟩).run shopStoreEnv "nginx.ingress.kubernetes.io"
    [.apply tlsIngress]).store.secretIngressMap.referencedBy "shop/app" = ["shop/shop-tls"] := by
  decide

example : ((IngressSystem.init ⟨∅, ∅, ∅⟩).run shopStoreEnv "nginx.ingress.kubernetes.io"
    [.apply tlsIngress, .delete "shop/app"]).store.secretIngressMap.has "shop/shop-tls" = false := by
  decide

end IngressNginx
