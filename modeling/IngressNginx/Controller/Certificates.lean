import IngressNginx.Controller.Basic

/-!
# The certificates handed to Lua

`configureCertificates` (`nginx.go`) sends the Lua side two maps: certificate UIDs to their
PEM text, and server names to the UID of the certificate to present for them, `emptyUID`
for a name with none. The names are each server's hostname, its aliases (with the server's
certificate when `ssl.IsValidHostname` accepts the alias against the certificate's CNs),
and the `www` redirects of `buildRedirects`.

Every UID sent for a name is `emptyUID` or the UID of a certificate sent with it
(`configureCertificates_uidsResolve`): the Lua side never finds a UID without its PEM text.

`buildRedirects` keeps the source name of a redirect off every server's hostname, and keeps a
set of the target names it has made, which never holds a name again when the hostnames are
distinct (`buildRedirects_of_nodup`). Two targets can share a source name, though: `y` and
`www.www.y` both redirect from `www.y` (`buildRedirects_from_clash`).
-/

namespace IngressNginx

/-- `ssl.IsValidHostname`: the hostname, or it with its first label replaced by `*`, is one
of the common names up to case. -/
def isValidHostname (hostname : String) (commonNames : List String) : Bool :=
  commonNames.any fun cn =>
    Go.equalFold hostname cn ||
      let labels := Go.split hostname '.'
      Go.equalFold (".".intercalate ("*" :: labels.tail)) cn

/-- `redirect`: a `www` redirect and the certificate to present for its source name. -/
structure Redirect where
  fromHost : String
  toHost : String
  sslCert : Option SSLCert
deriving DecidableEq, Inhabited

/-- The redirect of a server that asks for one, and whether it is to be made: not when a
server of the source name exists. -/
def redirectOf (servers : List Server) (srv : Server) : Option Redirect :=
  let toHost := srv.hostname
  let fromHost := if Go.hasPrefix toHost "www." then Go.trimPrefix toHost "www." else "www." ++ toHost
  if servers.any (·.hostname = fromHost) then none
  else some
    { fromHost := fromHost
      toHost := toHost
      sslCert := srv.sslCert.bind fun c =>
        if isValidHostname fromHost c.cn.elems then some c else none }

/-- `buildRedirects`: one redirect per target hostname, for the servers with
`RedirectFromToWWW`. -/
def buildRedirects (servers : List Server) : List Redirect :=
  (servers.foldl (fun (acc : List String × List Redirect) srv =>
    if !srv.redirectFromToWWW then acc
    else if srv.hostname ∈ acc.1 then acc
    else match redirectOf servers srv with
      | none => acc
      | some r => (srv.hostname :: acc.1, acc.2 ++ [r])) ([], [])).2

/-- `emptyUID`: the UID sent for a name without certificate. -/
def emptyUID : String := "-1"

/-- `sslConfiguration`, the body of the POST to `/configuration/servers`. -/
structure SSLConfiguration where
  certificates : Go.Map String String
  servers : Go.Map String String

/-- The `configure` closure of `configureCertificates`: the name gets the certificate's UID,
and the certificate is recorded under its UID unless one already is. -/
def configure (conf : SSLConfiguration) (hostname : String) (sslCert : Option SSLCert) :
    SSLConfiguration :=
  match sslCert with
  | none => { conf with servers := conf.servers.insert hostname emptyUID }
  | some c =>
    { certificates :=
        if c.uid ∈ conf.certificates then conf.certificates
        else conf.certificates.insert c.uid c.pemCertKey
      servers := conf.servers.insert hostname c.uid }

/-- The UID written for an alias of a server. -/
def aliasUID (rawServer : Server) (a : String) : String :=
  match rawServer.sslCert with
  | some c => if isValidHostname a c.cn.elems then c.uid else emptyUID
  | none => emptyUID

/-- One server in `configureCertificates`: its hostname, then its aliases. -/
def configureServer (conf : SSLConfiguration) (rawServer : Server) : SSLConfiguration :=
  rawServer.aliases.foldl
    (fun conf a => { conf with servers := conf.servers.insert a (aliasUID rawServer a) })
    (configure conf rawServer.hostname rawServer.sslCert)

/-- `configureCertificates`: the configuration it posts, after the servers the redirects. -/
def configureCertificates (rawServers : List Server) : SSLConfiguration :=
  let conf := rawServers.foldl configureServer ⟨∅, ∅⟩
  (buildRedirects rawServers).foldl (fun conf r => configure conf r.fromHost r.sslCert) conf

/-! ### Every UID sent has its certificate -/

/-- The names of a configuration point at `emptyUID` or at a certificate it carries. -/
def SSLConfiguration.UIDsResolve (conf : SSLConfiguration) : Prop :=
  ∀ name uid, conf.servers.lookup name = some uid → uid = emptyUID ∨ uid ∈ conf.certificates

section UIDsResolve

variable {conf : SSLConfiguration}

/-- `configure` keeps every certificate it had, and records the one it is given. -/
lemma mem_configure_certificates {hostname uid : String} {sslCert : Option SSLCert}
    (h : uid ∈ conf.certificates ∨ sslCert.map (·.uid) = some uid) :
    uid ∈ (configure conf hostname sslCert).certificates := by
  cases sslCert with
  | none =>
    simp only [Option.map_none, reduceCtorEq, or_false] at h
    exact h
  | some c =>
    simp only [configure]
    split_ifs with hc
    · rcases h with h | h
      · exact h
      · simp only [Option.map_some, Option.some.injEq] at h
        exact h ▸ hc
    · rcases h with h | h
      · exact (AList.mem_insert _).mpr (.inr h)
      · simp only [Option.map_some, Option.some.injEq] at h
        exact (AList.mem_insert _).mpr (.inl h.symm)

/-- A name configured with a certificate points at it, one without at `emptyUID`. -/
lemma SSLConfiguration.UIDsResolve.configure (h : conf.UIDsResolve) (hostname : String)
    (sslCert : Option SSLCert) : (IngressNginx.configure conf hostname sslCert).UIDsResolve := by
  intro name uid hname
  by_cases hn : name = hostname
  · subst hn
    cases sslCert with
    | none =>
      simp only [IngressNginx.configure, AList.lookup_insert, Option.some.injEq] at hname
      exact .inl hname.symm
    | some c =>
      simp only [IngressNginx.configure, AList.lookup_insert, Option.some.injEq] at hname
      exact .inr (mem_configure_certificates (.inr (by simp [hname])))
  · have hold : conf.servers.lookup name = some uid := by
      cases sslCert <;> simpa [IngressNginx.configure, AList.lookup_insert_ne hn] using hname
    exact (h name uid hold).imp_right fun hmem => mem_configure_certificates (.inl hmem)

/-- The aliases of a server point at its certificate, which its hostname recorded, or at
`emptyUID`. -/
lemma SSLConfiguration.UIDsResolve.configureServer (h : conf.UIDsResolve) (rawServer : Server) :
    (IngressNginx.configureServer conf rawServer).UIDsResolve := by
  have hcert : ∀ c, rawServer.sslCert = some c →
      c.uid ∈ (IngressNginx.configure conf rawServer.hostname rawServer.sslCert).certificates :=
    fun c hc => mem_configure_certificates (.inr (by simp [hc]))
  -- the aliases add names only, each to the server's certificate or to `emptyUID`
  have hloop : (IngressNginx.configureServer conf rawServer).UIDsResolve ∧
      (IngressNginx.configureServer conf rawServer).certificates =
        (IngressNginx.configure conf rawServer.hostname rawServer.sslCert).certificates := by
    unfold IngressNginx.configureServer
    refine List.foldlRecOn (motive := fun conf' : SSLConfiguration => conf'.UIDsResolve ∧
        conf'.certificates =
          (IngressNginx.configure conf rawServer.hostname rawServer.sslCert).certificates)
      _ _ ⟨h.configure _ _, rfl⟩ fun conf' hconf' a _ => ⟨?_, hconf'.2⟩
    intro name uid hname
    by_cases hn : name = a
    · subst hn
      simp only [AList.lookup_insert, Option.some.injEq] at hname
      subst hname
      unfold aliasUID
      split
      · split_ifs
        · exact .inr (hconf'.2 ▸ hcert _ ‹_›)
        · exact .inl rfl
      · exact .inl rfl
    · rw [AList.lookup_insert_ne hn] at hname
      exact hconf'.1 name uid hname
  exact hloop.1

end UIDsResolve

/-- Every name `configureCertificates` sends points at `emptyUID` or at a certificate it
sends. -/
theorem configureCertificates_uidsResolve (rawServers : List Server) :
    (configureCertificates rawServers).UIDsResolve := by
  have hempty : (⟨∅, ∅⟩ : SSLConfiguration).UIDsResolve := by
    intro name uid h
    simp at h
  have hservers : (rawServers.foldl configureServer ⟨∅, ∅⟩).UIDsResolve :=
    List.foldlRecOn (motive := SSLConfiguration.UIDsResolve) _ _ hempty
      fun conf h srv _ => h.configureServer srv
  exact List.foldlRecOn (motive := SSLConfiguration.UIDsResolve) _ _ hservers
    fun conf h r _ => h.configure r.fromHost r.sslCert

/-! ### The redirects -/

/-- One pass of the loop of `buildRedirects`, as it is written there. -/
def buildRedirectsStep (servers : List Server) (acc : List String × List Redirect)
    (srv : Server) : List String × List Redirect :=
  if !srv.redirectFromToWWW then acc
  else if srv.hostname ∈ acc.1 then acc
  else match redirectOf servers srv with
    | none => acc
    | some r => (srv.hostname :: acc.1, acc.2 ++ [r])

lemma buildRedirects_eq_foldl (servers : List Server) :
    buildRedirects servers = (servers.foldl (buildRedirectsStep servers) ([], [])).2 := rfl

/-- The redirect a server asks for, when one is made for it. -/
def wwwRedirect (servers : List Server) (srv : Server) : Option Redirect :=
  if srv.redirectFromToWWW then redirectOf servers srv else none

section Redirects

variable {servers : List Server}

/-- The source name of a redirect is its target without `www.`, or with it when it has none,
and no server has it; the target is the server's hostname. -/
lemma redirectOf_spec {srv : Server} {r : Redirect} (h : redirectOf servers srv = some r) :
    r.toHost = srv.hostname ∧
      r.fromHost = (if Go.hasPrefix r.toHost "www." then Go.trimPrefix r.toHost "www."
        else "www." ++ r.toHost) ∧
      ∀ s ∈ servers, s.hostname ≠ r.fromHost := by
  unfold redirectOf at h
  dsimp only at h
  generalize hfrom : (if Go.hasPrefix srv.hostname "www." then Go.trimPrefix srv.hostname "www."
    else "www." ++ srv.hostname) = fromHost at h
  split at h
  · cases h
  · rename_i hany
    cases h
    exact ⟨rfl, hfrom.symm, fun s hs hname => hany (List.any_eq_true.mpr ⟨s, hs, by simpa using hname⟩)⟩

section Step

variable {acc : List String × List Redirect} {srv : Server}

lemma buildRedirectsStep_of_not_www (hwww : srv.redirectFromToWWW = false) :
    buildRedirectsStep servers acc srv = acc := by
  simp [buildRedirectsStep, hwww]

lemma buildRedirectsStep_of_none (hfresh : srv.hostname ∉ acc.1)
    (hr : redirectOf servers srv = none) : buildRedirectsStep servers acc srv = acc := by
  simp [buildRedirectsStep, hfresh, hr]

lemma buildRedirectsStep_of_some (hwww : srv.redirectFromToWWW = true)
    (hfresh : srv.hostname ∉ acc.1) {r : Redirect} (hr : redirectOf servers srv = some r) :
    buildRedirectsStep servers acc srv = (srv.hostname :: acc.1, acc.2 ++ [r]) := by
  simp [buildRedirectsStep, hwww, hfresh, hr]

end Step

/-- A pass over servers whose hostnames are distinct and not yet in the set of names adds the
redirect of each server that asks for one. -/
lemma foldl_buildRedirectsStep (servers : List Server) :
    ∀ (l : List Server) (acc : List String × List Redirect), (l.map (·.hostname)).Nodup →
      (∀ srv ∈ l, srv.hostname ∉ acc.1) →
      (l.foldl (buildRedirectsStep servers) acc).2 = acc.2 ++ l.filterMap (wwwRedirect servers)
  | [], acc, _, _ => by simp
  | srv :: l, acc, hnodup, hfresh => by
    rw [List.map_cons, List.nodup_cons] at hnodup
    have hsrv : srv.hostname ∉ acc.1 := hfresh srv List.mem_cons_self
    have hl : ∀ s ∈ l, s.hostname ∉ acc.1 := fun s hs => hfresh s (List.mem_cons_of_mem _ hs)
    have ih := foldl_buildRedirectsStep servers l acc hnodup.2 hl
    rw [List.foldl_cons, List.filterMap_cons]
    cases hwww : srv.redirectFromToWWW with
    | false =>
      rw [buildRedirectsStep_of_not_www hwww]
      simpa [wwwRedirect, hwww] using ih
    | true =>
      cases hr : redirectOf servers srv with
      | none =>
        rw [buildRedirectsStep_of_none hsrv hr]
        simpa [wwwRedirect, hwww, hr] using ih
      | some r =>
        -- the server's hostname joins the set, which no later server has
        have hnext : ∀ s ∈ l, s.hostname ∉ srv.hostname :: acc.1 := by
          intro s hs hmem
          rcases List.mem_cons.mp hmem with heq | hacc
          · exact hnodup.1 (heq ▸ List.mem_map_of_mem hs)
          · exact hl s hs hacc
        rw [buildRedirectsStep_of_some hwww hsrv hr,
          foldl_buildRedirectsStep servers l _ hnodup.2 hnext]
        simp [wwwRedirect, hwww, hr]

/-- With distinct hostnames, `buildRedirects` makes the redirect of every server that asks for
one and whose source name no server has. -/
theorem buildRedirects_of_nodup (h : (servers.map (·.hostname)).Nodup) :
    buildRedirects servers = servers.filterMap (wwwRedirect servers) := by
  rw [buildRedirects_eq_foldl, foldl_buildRedirectsStep servers servers ([], []) h (by simp)]
  rfl

/-- The redirect of a server asking for one, whose source name is `www.` and the rest of its
hostname, is made when no server has that name. -/
lemma wwwRedirect_fromHost {srv : Server} {rest : String} (hwww : srv.redirectFromToWWW = true)
    (hfrom : (if Go.hasPrefix srv.hostname "www." then Go.trimPrefix srv.hostname "www."
      else "www." ++ srv.hostname) = "www." ++ rest)
    (hfree : ∀ s ∈ servers, s.hostname ≠ "www." ++ rest) :
    ∃ r, wwwRedirect servers srv = some r ∧ r.toHost = srv.hostname ∧ r.fromHost = "www." ++ rest := by
  have hnone : (servers.any fun s => s.hostname = "www." ++ rest) = false := by
    simpa using hfree
  unfold wwwRedirect redirectOf
  simp only [hwww, if_true, hfrom, hnone]
  exact ⟨_, rfl, rfl, rfl⟩

end Redirects

/-- Among servers with distinct hostnames, `y` and `www.www.y` both asking for a `www`
redirect, with no server `www.y`, get two redirects from the one name `www.y`. -/
theorem buildRedirects_from_clash {servers : List Server}
    (hnodup : (servers.map (·.hostname)).Nodup) {s₁ s₂ : Server} (h₁ : s₁ ∈ servers)
    (h₂ : s₂ ∈ servers) (hwww₁ : s₁.redirectFromToWWW = true)
    (hwww₂ : s₂.redirectFromToWWW = true) {y : String} (hy : Go.hasPrefix y "www." = false)
    (hhost₁ : s₁.hostname = y) (hhost₂ : s₂.hostname = "www.www." ++ y)
    (hfree : ∀ s ∈ servers, s.hostname ≠ "www." ++ y) :
    ¬ ((buildRedirects servers).map (·.fromHost)).Nodup := by
  -- `y` gains the `www.`, `www.www.y` loses it
  have hfrom₁ : (if Go.hasPrefix s₁.hostname "www." then Go.trimPrefix s₁.hostname "www."
      else "www." ++ s₁.hostname) = "www." ++ y := by
    simp [hhost₁, hy]
  have hfrom₂ : (if Go.hasPrefix s₂.hostname "www." then Go.trimPrefix s₂.hostname "www."
      else "www." ++ s₂.hostname) = "www." ++ y := by
    have hsplit : "www.www." ++ y = "www." ++ ("www." ++ y) := by
      rw [← String.append_assoc]
      rfl
    simp [hhost₂, hsplit]
  obtain ⟨r₁, hr₁, hto₁, hfr₁⟩ := wwwRedirect_fromHost hwww₁ hfrom₁ hfree
  obtain ⟨r₂, hr₂, hto₂, hfr₂⟩ := wwwRedirect_fromHost hwww₂ hfrom₂ hfree
  have hmem₁ : r₁ ∈ buildRedirects servers := by
    rw [buildRedirects_of_nodup hnodup]
    exact List.mem_filterMap.mpr ⟨s₁, h₁, hr₁⟩
  have hmem₂ : r₂ ∈ buildRedirects servers := by
    rw [buildRedirects_of_nodup hnodup]
    exact List.mem_filterMap.mpr ⟨s₂, h₂, hr₂⟩
  -- the two targets differ in length, so the redirects are two
  have hne : r₁ ≠ r₂ := by
    intro heq
    have hlen := congrArg String.length (hto₁.symm.trans ((congrArg (·.toHost) heq).trans hto₂))
    simp [hhost₁, hhost₂] at hlen
  intro hnd
  exact hne (List.inj_on_of_nodup_map hnd hmem₁ hmem₂ (hfr₁.trans hfr₂.symm))

/-- A server `example.com` asking for a `www` redirect. -/
def apexServer : Server :=
  { (default : Server) with hostname := "example.com", redirectFromToWWW := true }

/-- A server `www.www.example.com` asking for a `www` redirect. -/
def doubleWwwServer : Server :=
  { (default : Server) with hostname := "www.www.example.com", redirectFromToWWW := true }

theorem buildRedirects_from_clash_example :
    ([apexServer, doubleWwwServer].map (·.hostname)).Nodup ∧
      ¬ ((buildRedirects [apexServer, doubleWwwServer]).map (·.fromHost)).Nodup := by
  have hnodup : ([apexServer, doubleWwwServer].map (·.hostname)).Nodup := by decide
  have h₁ : apexServer ∈ [apexServer, doubleWwwServer] := List.mem_cons_self
  have h₂ : doubleWwwServer ∈ [apexServer, doubleWwwServer] := by simp
  exact ⟨hnodup, buildRedirects_from_clash hnodup h₁ h₂ rfl rfl (y := "example.com") (by decide)
    rfl rfl (by decide)⟩

end IngressNginx
