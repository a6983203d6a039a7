import IngressNginx.Controller.Dynamic

/-!
# The certificates of a sync

When the servers changed by `reflect.DeepEqual`, `configureDynamically` posts to
`/configuration/servers` the UID of the certificate of every hostname, alias and redirect
source of the new servers (`emptyUID` for a name without one), and the PEM text of each of
those certificates. `handle_servers` stores each UID under its name, deletes the names sent
with `EMPTY_UID`, and stores each certificate under its UID.

Along every run of syncs that succeed, `get_pem_cert` finds for each name of the running
configuration the certificate the controller sends for it, and nothing for a name it sends
without one (`syncIngress_run_serves_certificates`). What no sync does is forget a name that
is no longer sent: along every run of syncs, whatever each of them answers, a name that none
of their configurations sends keeps its UID, and a certificate stays stored for it
(`syncIngress_run_keeps_unsent_name`). A host that left the configuration is still presented
its last certificate. Both hold where every `set` finds room: a full dictionary evicts its
least recently used entries, names and certificates alike.

`json.Marshal`, `cjson.decode` and `wait.ExponentialBackoff` are parameters; that the second
reads back the tables the first was given is a hypothesis on each configuration synced
(`DecodesCertificates`), and that the third stops at the first error or at done a hypothesis
on the runtime.
-/

namespace IngressNginx

/-- The certificate dictionaries serve a configuration of certificates: each name holds the UID
sent for it, none for `EMPTY_UID`, and each certificate sent is stored under its UID. -/
structure SSLConfiguration.ServedBy (conf : SSLConfiguration) (certs : CertificateStore) :
    Prop where
  servers : ∀ k uid, conf.servers.lookup k = some uid →
    certs.certificateServers.lookup k = Lua.synced (· == luaEmptyUID) uid
  certificates : ∀ uid cert, conf.certificates.lookup uid = some cert →
    certs.certificateData.lookup uid = some cert

/-! ### What `handle_servers` serves -/

section Served

variable {conf : SSLConfiguration}

/-- From any dictionaries, `handle_servers` serves what it was sent. -/
lemma servedBy_handleServers (ord : Go.RangeOrder PairsSite String) (certs : CertificateStore) :
    conf.ServedBy (IngressNginx.handleServers ord conf certs) where
  servers k uid h := by
    rw [IngressNginx.handleServers, Lua.lookup_syncTable, h]
  certificates uid cert h := by
    rw [IngressNginx.handleServers, Lua.lookup_syncTable, h]
    rfl

/-- Where every UID sent resolves, `get_pem_cert` of a name sent finds the certificate sent for
it, and nothing for `EMPTY_UID`. -/
lemma SSLConfiguration.ServedBy.getPemCert {certs : CertificateStore} (h : conf.ServedBy certs)
    (hresolve : conf.UIDsResolve) {k uid : String} (hk : conf.servers.lookup k = some uid) :
    LuaConfiguration.getPemCert certs k =
      if uid = emptyUID then none else conf.certificates.lookup uid := by
  rw [LuaConfiguration.getPemCert, h.servers k uid hk]
  by_cases hempty : uid = emptyUID
  · rw [if_pos hempty, hempty]
    rfl
  · obtain ⟨cert, hcert⟩ := Option.isSome_iff_exists.mp
      (AList.lookup_isSome.mpr ((hresolve k uid hk).resolve_left hempty))
    have hne : (uid == luaEmptyUID) = false := beq_false_of_ne hempty
    rw [if_neg hempty, hcert, Lua.synced, if_neg (by rw [hne]; exact Bool.false_ne_true),
      Option.bind_some, h.certificates uid cert hcert]

end Served

namespace NGINXController

open LuaConfiguration

/-- `cjson.decode` reads back, from the body `json.Marshal` makes of the certificates of the
servers, the tables `servers` and `certificates` that were sent. -/
def DecodesCertificates (rt : Runtime) (lua : LuaSide) (servers : List Server) : Prop :=
  lua.decode (rt.marshalServers (IngressNginx.configureCertificates servers)) =
    some ⟨some (IngressNginx.configureCertificates servers).servers,
      some (IngressNginx.configureCertificates servers).certificates⟩

/-- The Lua side serves the certificates of the servers the controller runs. -/
def CertificatesAgree (w : World) : Prop :=
  (IngressNginx.configureCertificates w.runningConfig.servers).ServedBy w.store.certificates

/-! ### What each POST writes of the certificate dictionaries -/

section Posts

variable {rt : Runtime} {lua : LuaSide} {st : LuaConfiguration.Store}

/-- The backends POST leaves the certificate dictionaries. -/
lemma configureBackends_certificates (rawBackends : Go.Slice Backend) (post : Option Post) :
    (configureBackends rt lua rawBackends post st).2.certificates = st.certificates := by
  cases post with
  | none => rfl
  | some p =>
    simp only [configureBackends, newPostStatusRequest_backends]
    exact handleBackends_certificates

/-- The check after a POST passes only on `201`. -/
lemma status_of_checkCreated {code : Nat} (h : checkCreated (.ok code) = .ok ()) :
    code = httpCreated := by
  simp only [checkCreated] at h
  split_ifs at h with hcode
  exact hcode

/-- A POST of certificates that reaches nginx is answered by `handle_servers`. -/
lemma newPostStatusRequest_servers (body : String) (p : Post) :
    newPostStatusRequest lua "/configuration/servers" body (some p) st =
      (.ok (LuaConfiguration.handleServers lua.ord lua.decode ⟨"POST", "/configuration/servers",
          "/configuration/servers", none, some body, p.now, p.answer⟩ st).1.status,
        (LuaConfiguration.handleServers lua.ord lua.decode ⟨"POST", "/configuration/servers",
          "/configuration/servers", none, some body, p.now, p.answer⟩ st).2) := by
  have hmethod : ¬(("POST" : String) ≠ "POST" ∧ ("POST" : String) ≠ "GET") := by decide
  rw [newPostStatusRequest, call, if_neg hmethod, if_pos rfl]

/-- A certificates POST that succeeds, every `set` of which finds room, stored the certificates
sent as the model of `handle_servers` does. -/
lemma configureCertificates_certificates_of_ok {rawServers : List Server} {post : Option Post}
    (hjson : DecodesCertificates rt lua rawServers) (hroom : ∀ p, post = some p → p.FindsRoom)
    (hok : (configureCertificates rt lua rawServers post st).1 = .ok ()) :
    (configureCertificates rt lua rawServers post st).2.certificates =
      IngressNginx.handleServers lua.ord (IngressNginx.configureCertificates rawServers)
        st.certificates := by
  cases post with
  | none => cases hok
  | some p =>
    simp only [configureCertificates, newPostStatusRequest_servers]
    rw [(handleServers_of_findsRoom ?_ ?_ ?_).2.1]
    exacts [rfl, hjson, hroom p rfl]

/-- Whatever it answers, a certificates POST every `set` of which finds room writes the UID of
no name it does not send. -/
lemma configureCertificates_lookup_of_not_mem {rawServers : List Server} {post : Option Post}
    (hjson : DecodesCertificates rt lua rawServers) (hroom : ∀ p, post = some p → p.FindsRoom)
    {k : String} (hk : k ∉ (IngressNginx.configureCertificates rawServers).servers) :
    (configureCertificates rt lua rawServers post st).2.certificates.certificateServers.lookup k =
      st.certificates.certificateServers.lookup k := by
  cases post with
  | none => rfl
  | some p =>
    simp only [configureCertificates, newPostStatusRequest_servers]
    rw [handleServers_lookup_of_not_mem ?_ ?_ ?_ hk]
    exacts [rfl, hjson, hroom p rfl]

/-- Whatever it answers, a certificates POST every `set` of which finds room deletes no
certificate. -/
lemma configureCertificates_certificateData_isSome {rawServers : List Server}
    {post : Option Post} (hjson : DecodesCertificates rt lua rawServers)
    (hroom : ∀ p, post = some p → p.FindsRoom) {uid : String}
    (h : (st.certificates.certificateData.lookup uid).isSome) :
    ((configureCertificates rt lua rawServers post st).2.certificates.certificateData.lookup
      uid).isSome := by
  cases post with
  | none => exact h
  | some p =>
    simp only [configureCertificates, newPostStatusRequest_servers]
    refine @handleServers_certificateData_isSome _ _ _ _
      (IngressNginx.configureCertificates rawServers) ?_ ?_ ?_ _ h
    exacts [rfl, hjson, hroom p rfl]

end Posts

/-! ### One try of `configureDynamically` -/

section Try

variable {rt : Runtime} {lua : LuaSide} {runningConfig pcfg : Configuration} {attempt : Attempt}
  {st : LuaConfiguration.Store}

/-- The backends step leaves the certificate dictionaries. -/
lemma configureBackendsIfChanged_certificates :
    (configureBackendsIfChanged rt lua runningConfig pcfg attempt st).2.certificates =
      st.certificates := by
  unfold configureBackendsIfChanged
  dsimp only
  split_ifs
  · exact configureBackends_certificates _ _
  · rfl

/-- A try fails in its backends step, or goes on to the streams and the certificates with the
certificate dictionaries it was given. -/
lemma configureDynamically_cases :
    ∃ st' : LuaConfiguration.Store, st'.certificates = st.certificates ∧
      ((∃ e, configureDynamically rt lua runningConfig pcfg attempt st = (.error e, st')) ∨
        configureDynamically rt lua runningConfig pcfg attempt st =
          configureStreamsAndCertificates rt lua runningConfig pcfg attempt st') := by
  have hbackends := @configureBackendsIfChanged_certificates rt lua runningConfig pcfg attempt st
  unfold configureDynamically
  rcases hb : configureBackendsIfChanged rt lua runningConfig pcfg attempt st with ⟨r, st'⟩
  rw [hb] at hbackends
  cases r with
  | error e => exact ⟨st', hbackends, .inl ⟨e, rfl⟩⟩
  | ok u => exact ⟨st', hbackends, .inr rfl⟩

/-- The streams and certificates step, when it succeeds and every `set` finds room, leaves the
certificate dictionaries for unchanged servers and stores the certificates of the new ones
otherwise. -/
lemma configureStreamsAndCertificates_certificates_of_ok
    (hjson : DecodesCertificates rt lua pcfg.servers)
    (hroom : ∀ p, attempt.servers = some p → p.FindsRoom)
    (h : (configureStreamsAndCertificates rt lua runningConfig pcfg attempt st).1 = .ok ()) :
    (configureStreamsAndCertificates rt lua runningConfig pcfg attempt st).2.certificates =
      if rt.deepEqualServers runningConfig.servers pcfg.servers then st.certificates
      else IngressNginx.handleServers lua.ord (IngressNginx.configureCertificates pcfg.servers)
        st.certificates := by
  unfold configureStreamsAndCertificates at h ⊢
  dsimp only at h ⊢
  split at h
  · cases h
  · rename_i hstream
    rw [if_neg hstream]
    cases hsame : rt.deepEqualServers runningConfig.servers pcfg.servers with
    | true => rw [Bool.not_true, if_neg Bool.false_ne_true, if_pos rfl]
    | false =>
      rw [hsame, Bool.not_false, if_pos rfl] at h
      rw [Bool.not_false, if_pos rfl, if_neg Bool.false_ne_true]
      exact configureCertificates_certificates_of_ok hjson hroom h

/-- A try that succeeds, every `set` of which finds room, leaves the certificate dictionaries
for unchanged servers, and stores the certificates of the new ones as `handle_servers` does
otherwise. -/
lemma configureDynamically_certificates_of_ok (hjson : DecodesCertificates rt lua pcfg.servers)
    (hroom : ∀ p, attempt.servers = some p → p.FindsRoom)
    (h : (configureDynamically rt lua runningConfig pcfg attempt st).1 = .ok ()) :
    (configureDynamically rt lua runningConfig pcfg attempt st).2.certificates =
      if rt.deepEqualServers runningConfig.servers pcfg.servers then st.certificates
      else IngressNginx.handleServers lua.ord (IngressNginx.configureCertificates pcfg.servers)
        st.certificates := by
  obtain ⟨st', hst', ⟨e, he⟩ | he⟩ :=
    @configureDynamically_cases rt lua runningConfig pcfg attempt st
  · rw [he] at h
    cases h
  · rw [he] at h ⊢
    rw [configureStreamsAndCertificates_certificates_of_ok hjson hroom h, hst']

/-- Whatever it answers, a try every `set` of which finds room writes the UID of no name the
new servers do not send. -/
lemma configureDynamically_lookup_of_not_mem (hjson : DecodesCertificates rt lua pcfg.servers)
    (hroom : ∀ p, attempt.servers = some p → p.FindsRoom) {k : String}
    (hk : k ∉ (IngressNginx.configureCertificates pcfg.servers).servers) :
    (configureDynamically rt lua runningConfig pcfg attempt
        st).2.certificates.certificateServers.lookup k =
      st.certificates.certificateServers.lookup k := by
  obtain ⟨st', hst', ⟨e, he⟩ | he⟩ :=
    @configureDynamically_cases rt lua runningConfig pcfg attempt st <;> rw [he, ← hst']
  unfold configureStreamsAndCertificates
  dsimp only
  split_ifs
  · rfl
  · exact configureCertificates_lookup_of_not_mem hjson hroom hk
  · rfl

/-- Whatever it answers, a try every `set` of which finds room deletes no certificate. -/
lemma configureDynamically_certificateData_isSome (hjson : DecodesCertificates rt lua pcfg.servers)
    (hroom : ∀ p, attempt.servers = some p → p.FindsRoom) {uid : String}
    (h : (st.certificates.certificateData.lookup uid).isSome) :
    ((configureDynamically rt lua runningConfig pcfg attempt
        st).2.certificates.certificateData.lookup uid).isSome := by
  obtain ⟨st', hst', ⟨e, he⟩ | he⟩ :=
    @configureDynamically_cases rt lua runningConfig pcfg attempt st <;> rw [he] <;>
    rw [← hst'] at h
  · exact h
  unfold configureStreamsAndCertificates
  dsimp only
  split_ifs
  · exact h
  · exact configureCertificates_certificateData_isSome hjson hroom h
  · exact h

end Try

/-! ### Syncs -/

section Sync

variable {rt : Runtime} {lua : LuaSide} {pcfg : Configuration} {env : SyncEnv} {w : World}

/-- Under a backoff that stops at the first error or at done, a sync leaves the dictionaries, or
leaves those of one try of `configureDynamically`. -/
lemma syncIngress_store_cases (hbackoff : Wait.StopsAtFirst rt.exponentialBackoff) :
    (syncIngress rt lua pcfg env w).2.store = w.store ∨
      (syncIngress rt lua pcfg env w).2.store =
        (configureDynamically rt lua w.runningConfig pcfg (env.attempts 0) w.store).2 := by
  cases hequal : w.runningConfig.equal pcfg with
  | true => exact .inl (by rw [syncIngress_of_equal hequal])
  | false =>
    by_cases hgo : isDynamicConfigurationEnough w.runningConfig pcfg = true ∨ env.reload = true
    · rw [syncIngress_of_changed hbackoff hequal hgo]
      rcases configureDynamically rt lua w.runningConfig pcfg (env.attempts 0) w.store with
        ⟨r, st'⟩
      cases r <;> exact .inr rfl
    · simp only [not_or, Bool.not_eq_true] at hgo
      exact .inl (by rw [syncIngress_of_reload_fails hequal hgo.1 hgo.2])

/-- A successful sync every `set` of which finds room keeps the certificate dictionaries serving
the running configuration, given a backoff that stops at the first error or at done, that
`reflect.DeepEqual` takes for the same only servers whose certificates are the same, and that
`cjson` reads back the certificates sent. -/
lemma certificatesAgree_syncIngress (hbackoff : Wait.StopsAtFirst rt.exponentialBackoff)
    (hdeep : ∀ a b, rt.deepEqualServers a b = true →
      IngressNginx.configureCertificates a = IngressNginx.configureCertificates b)
    (hjson : DecodesCertificates rt lua pcfg.servers) (hroom : env.FindsRoom)
    (h : CertificatesAgree w)
    (hok : (syncIngress rt lua pcfg env w).1 = .ok ()) :
    CertificatesAgree (syncIngress rt lua pcfg env w).2 := by
  cases hequal : w.runningConfig.equal pcfg with
  | true =>
    rw [syncIngress_of_equal hequal]
    exact h
  | false =>
    by_cases hgo : isDynamicConfigurationEnough w.runningConfig pcfg = true ∨ env.reload = true
    · rw [syncIngress_of_changed hbackoff hequal hgo] at hok ⊢
      have hcerts := @configureDynamically_certificates_of_ok rt lua w.runningConfig pcfg
        (env.attempts 0) w.store hjson (hroom 0).2
      rcases hc : configureDynamically rt lua w.runningConfig pcfg (env.attempts 0) w.store with
        ⟨r, st'⟩
      rw [hc] at hok hcerts
      cases r with
      | error e => cases hok
      | ok u =>
        -- the checksum set for a reload does not touch the servers
        have hservers : (if isDynamicConfigurationEnough w.runningConfig pcfg then pcfg
            else { pcfg with configurationChecksum := rt.hash pcfg }).servers = pcfg.servers := by
          split_ifs <;> rfl
        change (IngressNginx.configureCertificates _).ServedBy st'.certificates
        rw [hservers, hcerts rfl]
        split_ifs with hsame
        · rw [← hdeep _ _ hsame]
          exact h
        · exact servedBy_handleServers _ _
    · simp only [not_or, Bool.not_eq_true] at hgo
      rw [syncIngress_of_reload_fails hequal hgo.1 hgo.2] at hok
      cases hok

/-- Whatever it answers, a sync under a backoff that stops at the first error or at done, every
`set` of which finds room, keeps the UID of a name the new configuration does not send, and a
certificate for it when it had one. -/
lemma syncIngress_keeps_unsent_name (hbackoff : Wait.StopsAtFirst rt.exponentialBackoff)
    (hjson : DecodesCertificates rt lua pcfg.servers) (hroom : env.FindsRoom) {k : String}
    (hk : k ∉ (IngressNginx.configureCertificates pcfg.servers).servers) :
    (syncIngress rt lua pcfg env w).2.store.certificates.certificateServers.lookup k =
        w.store.certificates.certificateServers.lookup k ∧
      ((LuaConfiguration.getPemCert w.store.certificates k).isSome →
        (LuaConfiguration.getPemCert (syncIngress rt lua pcfg env w).2.store.certificates
          k).isSome) := by
  rcases @syncIngress_store_cases rt lua pcfg env w hbackoff with hstore | hstore <;>
    rw [hstore]
  · exact ⟨rfl, id⟩
  have hlookup := @configureDynamically_lookup_of_not_mem rt lua w.runningConfig pcfg
    (env.attempts 0) w.store hjson (hroom 0).2 k hk
  refine ⟨hlookup, fun h => ?_⟩
  rw [LuaConfiguration.getPemCert] at h ⊢
  rw [hlookup]
  obtain ⟨pem, hpem⟩ := Option.isSome_iff_exists.mp h
  obtain ⟨uid, huid, hcert⟩ := Option.bind_eq_some_iff.mp hpem
  rw [huid, Option.bind_some]
  exact configureDynamically_certificateData_isSome hjson (hroom 0).2
    (Option.isSome_iff_exists.mpr ⟨_, hcert⟩)

/-- Along any run of syncs that all succeed, every `set` of which finds room, the certificate
dictionaries keep serving the running configuration. -/
lemma certificatesAgree_run (hbackoff : Wait.StopsAtFirst rt.exponentialBackoff)
    (hdeep : ∀ a b, rt.deepEqualServers a b = true →
      IngressNginx.configureCertificates a = IngressNginx.configureCertificates b) :
    ∀ (syncs : List (Configuration × SyncEnv)) (w : World), CertificatesAgree w →
      (∀ p ∈ syncs, DecodesCertificates rt lua p.1.servers) → (∀ p ∈ syncs, p.2.FindsRoom) →
      (∀ r ∈ (run rt lua w syncs).1, r = .ok ()) → CertificatesAgree (run rt lua w syncs).2
  | [], _, h, _, _, _ => h
  | (pcfg, env) :: syncs, w, h, hjson, hroom, hok => by
    obtain ⟨hjsonFirst, hjson⟩ := List.forall_mem_cons.mp hjson
    obtain ⟨hroomFirst, hroom⟩ := List.forall_mem_cons.mp hroom
    obtain ⟨hfirst, hok⟩ := List.forall_mem_cons.mp hok
    exact certificatesAgree_run hbackoff hdeep syncs _
      (certificatesAgree_syncIngress hbackoff hdeep hjsonFirst hroomFirst h hfirst) hjson hroom hok

end Sync

/-- From a Lua side serving the certificates of the running configuration, along any run of
syncs that all succeed and every `set` of whose POSTs finds room, `get_pem_cert` finds for
every name the running configuration sends the PEM text of the certificate sent for it, and
nothing for a name sent without one. This for any configurations computed, any nginx answers
and order of `pairs`, any backoff that stops at the first error or at done, any
`reflect.DeepEqual` that takes for the same only servers whose certificates are the same, and
a `cjson` that reads back each configuration of certificates sent. -/
theorem syncIngress_run_serves_certificates (rt : Runtime) (lua : LuaSide)
    (hbackoff : Wait.StopsAtFirst rt.exponentialBackoff)
    (hdeep : ∀ a b, rt.deepEqualServers a b = true →
      IngressNginx.configureCertificates a = IngressNginx.configureCertificates b)
    (syncs : List (Configuration × SyncEnv)) (w : World) (h : CertificatesAgree w)
    (hjson : ∀ p ∈ syncs, DecodesCertificates rt lua p.1.servers)
    (hroom : ∀ p ∈ syncs, p.2.FindsRoom)
    (hok : ∀ r ∈ (run rt lua w syncs).1, r = .ok ()) {k uid : String}
    (hk : (IngressNginx.configureCertificates
      (run rt lua w syncs).2.runningConfig.servers).servers.lookup k = some uid) :
    LuaConfiguration.getPemCert (run rt lua w syncs).2.store.certificates k =
      if uid = emptyUID then none
      else (IngressNginx.configureCertificates
        (run rt lua w syncs).2.runningConfig.servers).certificates.lookup uid :=
  (certificatesAgree_run hbackoff hdeep syncs w h hjson hroom hok).getPemCert
    (configureCertificates_uidsResolve _) hk

/-- `configuration.lua` with `pairs` in key order and a `cjson` that reads the certificates of
the shop servers. -/
def shopLua : LuaSide := ⟨.keyOrder, decodeShopCertificates⟩

/-- The configuration of the shop servers. -/
def shopConfig : Configuration := { (default : Configuration) with servers := shopServers }

theorem syncIngress_run_serves_certificates_shop :
    Wait.StopsAtFirst namesRuntime.exponentialBackoff ∧
      (∀ a b, namesRuntime.deepEqualServers a b = true →
        IngressNginx.configureCertificates a = IngressNginx.configureCertificates b) ∧
      CertificatesAgree syncedWorld ∧
      (∀ p ∈ [(shopConfig, everyTryUp)],
        DecodesCertificates namesRuntime shopLua p.1.servers) ∧
      (∀ p ∈ [(shopConfig, everyTryUp)], p.2.FindsRoom) ∧
      (∀ r ∈ (run namesRuntime shopLua syncedWorld [(shopConfig, everyTryUp)]).1,
        r = .ok ()) ∧
      (IngressNginx.configureCertificates
          (run namesRuntime shopLua syncedWorld
            [(shopConfig, everyTryUp)]).2.runningConfig.servers).servers.lookup
        "shop.example.com" = some "shop-uid" ∧
      LuaConfiguration.getPemCert
          (run namesRuntime shopLua syncedWorld [(shopConfig, everyTryUp)]).2.store.certificates
          "shop.example.com" =
        if "shop-uid" = emptyUID then none
        else (IngressNginx.configureCertificates
          (run namesRuntime shopLua syncedWorld
            [(shopConfig, everyTryUp)]).2.runningConfig.servers).certificates.lookup
          "shop-uid" := by
  have hdeep : ∀ a b, namesRuntime.deepEqualServers a b = true →
      IngressNginx.configureCertificates a = IngressNginx.configureCertificates b :=
    fun a b h => by rw [of_decide_eq_true h]
  have hagree : CertificatesAgree syncedWorld :=
    ⟨fun _ _ h => (nomatch h), fun _ _ h => (nomatch h)⟩
  have hjson : ∀ p ∈ [(shopConfig, everyTryUp)],
      DecodesCertificates namesRuntime shopLua p.1.servers := by
    intro p hp
    rw [List.mem_singleton] at hp
    subst hp
    rfl
  have hroom : ∀ p ∈ [(shopConfig, everyTryUp)], p.2.FindsRoom := by
    intro p hp
    rw [List.mem_singleton] at hp
    rw [hp]
    exact everyTryUp_findsRoom
  exact ⟨Wait.tryOnce_stopsAtFirst, hdeep, hagree, hjson, hroom, by decide, by decide,
    syncIngress_run_serves_certificates namesRuntime shopLua Wait.tryOnce_stopsAtFirst hdeep _
      syncedWorld hagree hjson hroom (by decide) (by decide)⟩

/-- Along any run of syncs under a backoff that stops at the first error or at done, every `set`
of whose POSTs finds room, whatever each of them answers, a name that none of their
configurations sends (no hostname, alias or redirect source of their servers) keeps the UID
`certificate_servers` held for it, and `get_pem_cert` still finds a certificate for it if it
did before: `handle_servers` deletes only the names sent with `EMPTY_UID`, so the certificate
of a host that left the configuration stays presented. -/
theorem syncIngress_run_keeps_unsent_name (rt : Runtime) (lua : LuaSide)
    (hbackoff : Wait.StopsAtFirst rt.exponentialBackoff) (k : String) :
    ∀ (syncs : List (Configuration × SyncEnv)) (w : World),
      (∀ p ∈ syncs, DecodesCertificates rt lua p.1.servers) → (∀ p ∈ syncs, p.2.FindsRoom) →
      (∀ p ∈ syncs, k ∉ (IngressNginx.configureCertificates p.1.servers).servers) →
      (run rt lua w syncs).2.store.certificates.certificateServers.lookup k =
          w.store.certificates.certificateServers.lookup k ∧
        ((LuaConfiguration.getPemCert w.store.certificates k).isSome →
          (LuaConfiguration.getPemCert (run rt lua w syncs).2.store.certificates k).isSome)
  | [], _, _, _, _ => ⟨rfl, id⟩
  | (pcfg, env) :: syncs, w, hjson, hroom, hk => by
    obtain ⟨hjsonFirst, hjson⟩ := List.forall_mem_cons.mp hjson
    obtain ⟨hroomFirst, hroom⟩ := List.forall_mem_cons.mp hroom
    obtain ⟨hkFirst, hk⟩ := List.forall_mem_cons.mp hk
    -- the first sync keeps the name's UID, and so does the rest of the run after it
    obtain ⟨hlookup, hpem⟩ :=
      @syncIngress_keeps_unsent_name rt lua pcfg env w hbackoff hjsonFirst hroomFirst k hkFirst
    obtain ⟨hlookup', hpem'⟩ :=
      syncIngress_run_keeps_unsent_name rt lua hbackoff k syncs _ hjson hroom hk
    exact ⟨hlookup'.trans hlookup, hpem' ∘ hpem⟩

/-- The catch-all server of the shop alone: `shop.example.com` left the configuration. -/
def catchAllConfig : Configuration :=
  { (default : Configuration) with servers := shopServers.take 1 }

/-- `configuration.lua` with `pairs` in key order and a `cjson` that reads the certificates of
the catch-all server. -/
def catchAllLua : LuaSide :=
  ⟨.keyOrder, fun _ =>
    some ⟨some (IngressNginx.configureCertificates catchAllConfig.servers).servers,
      some (IngressNginx.configureCertificates catchAllConfig.servers).certificates⟩⟩

/-- The controller running the shop servers, and the Lua side serving their certificates. -/
def shopWorld : World :=
  ⟨shopConfig, { emptyStore with
    certificates :=
      IngressNginx.handleServers .keyOrder (IngressNginx.configureCertificates shopServers)
        ⟨∅, ∅⟩ }⟩

theorem syncIngress_run_keeps_unsent_name_shop :
    Wait.StopsAtFirst namesRuntime.exponentialBackoff ∧
      (∀ p ∈ [(catchAllConfig, everyTryUp)],
        DecodesCertificates namesRuntime catchAllLua p.1.servers) ∧
      (∀ p ∈ [(catchAllConfig, everyTryUp)], p.2.FindsRoom) ∧
      (∀ p ∈ [(catchAllConfig, everyTryUp)],
        "shop.example.com" ∉ (IngressNginx.configureCertificates p.1.servers).servers) ∧
      (run namesRuntime catchAllLua shopWorld [(catchAllConfig, everyTryUp)]).1 = [.ok ()] ∧
      LuaConfiguration.getPemCert shopWorld.store.certificates "shop.example.com" =
        some "shop-pem" ∧
      (run namesRuntime catchAllLua shopWorld
            [(catchAllConfig, everyTryUp)]).2.store.certificates.certificateServers.lookup
          "shop.example.com" =
        shopWorld.store.certificates.certificateServers.lookup "shop.example.com" ∧
      ((LuaConfiguration.getPemCert shopWorld.store.certificates "shop.example.com").isSome →
        (LuaConfiguration.getPemCert
          (run namesRuntime catchAllLua shopWorld
            [(catchAllConfig, everyTryUp)]).2.store.certificates "shop.example.com").isSome) := by
  have hjson : ∀ p ∈ [(catchAllConfig, everyTryUp)],
      DecodesCertificates namesRuntime catchAllLua p.1.servers := by
    intro p hp
    rw [List.mem_singleton] at hp
    subst hp
    rfl
  have hk : ∀ p ∈ [(catchAllConfig, everyTryUp)],
      "shop.example.com" ∉ (IngressNginx.configureCertificates p.1.servers).servers := by
    intro p hp
    rw [List.mem_singleton] at hp
    subst hp
    decide
  have hroom : ∀ p ∈ [(catchAllConfig, everyTryUp)], p.2.FindsRoom := by
    intro p hp
    rw [List.mem_singleton] at hp
    rw [hp]
    exact everyTryUp_findsRoom
  exact ⟨Wait.tryOnce_stopsAtFirst, hjson, hroom, hk, by decide, by decide,
    syncIngress_run_keeps_unsent_name namesRuntime catchAllLua Wait.tryOnce_stopsAtFirst
      "shop.example.com" _ shopWorld hjson hroom hk⟩

end NGINXController

end IngressNginx
