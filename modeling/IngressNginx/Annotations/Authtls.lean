import IngressNginx.Annotations.Parser
import IngressNginx.Lib.Regex

/-!
# Client certificate authentication (`authtls`)

`authTLS.Parse` reads the `auth-tls-*` annotations of an ingress: the secret of the CA
certificate, which must be `namespace/name` and resolve to a certificate (the location is
denied otherwise), then the mode of `ssl_verify_client`, the depth of `ssl_verify_depth`, an
error page and whether the client certificate is passed upstream, each with its default when
it is missing or does not read.

The mode is checked against `on|off|optional|optional_no_ca` by `MatchString`, which looks
for a match anywhere in the value. Since `optional` contains `on`, a value passes exactly when
it contains `on` or `off` (`matchString_authVerifyClientRegex_iff`), and is then kept whole.
The depth is only checked against `0`.
-/

namespace IngressNginx

namespace Authtls

/-- `defaultAuthTLSDepth`. -/
def defaultAuthTLSDepth : Int := 1

/-- `defaultAuthVerifyClient`. -/
def defaultAuthVerifyClient : String := "on"

/-- `authVerifyClientRegex`: `on|off|optional|optional_no_ca`. -/
def authVerifyClientRegex : Regex Char :=
  .alt (.word "on".toList)
    (.alt (.word "off".toList) (.alt (.word "optional".toList) (.word "optional_no_ca".toList)))

/-- `authTLS.Parse`, with the resolver the parser was made with. -/
def parse (r : Resolver) (annotationsPrefix : String) (ing : Networking.Ingress) :
    Config × Option Parser.AnnotationError :=
  match Parser.resolveAuthSSLCert r annotationsPrefix "auth-tls-secret" ing with
  | .error err => (default, some err)
  | .ok authCert =>
    let (verifyClient, err) :=
      Parser.getStringAnnotation annotationsPrefix "auth-tls-verify-client" ing
    let verifyClient :=
      if err.isSome || !Regex.matchString authVerifyClientRegex verifyClient.toList then
        defaultAuthVerifyClient
      else verifyClient
    let (validationDepth, err) :=
      Parser.getIntAnnotation annotationsPrefix "auth-tls-verify-depth" ing
    let validationDepth :=
      if err.isSome || validationDepth = 0 then defaultAuthTLSDepth else validationDepth
    let (errorPage, err) := Parser.getStringAnnotation annotationsPrefix "auth-tls-error-page" ing
    let errorPage := if err.isSome then "" else errorPage
    let (passCertToUpstream, err) :=
      Parser.getBoolAnnotation annotationsPrefix "auth-tls-pass-certificate-to-upstream" ing
    let passCertToUpstream := if err.isSome then false else passCertToUpstream
    (⟨authCert, verifyClient, validationDepth, errorPage, passCertToUpstream, ""⟩, none)

/-- The modes that pass `authVerifyClientRegex`: those that contain `on` or `off`. -/
theorem matchString_authVerifyClientRegex_iff (t : List Char) :
    Regex.matchString authVerifyClientRegex t = true ↔
      "on".toList <:+: t ∨ "off".toList <:+: t := by
  have hopt : "on".toList <:+: "optional".toList := ⟨"opti".toList, "al".toList, by decide⟩
  have hoptNoCa : "optional".toList <:+: "optional_no_ca".toList :=
    ⟨[], "_no_ca".toList, by decide⟩
  simp only [Regex.matchString_iff, authVerifyClientRegex, Regex.matchString_alt_iff,
    Regex.matchString_word_iff]
  constructor
  · rintro (h | h | h | h)
    · exact .inl h
    · exact .inr h
    · exact .inl (hopt.trans h)
    · exact .inl (hopt.trans (hoptNoCa.trans h))
  · rintro (h | h)
    · exact .inl h
    · exact .inr (.inl h)

/-- `authTLS.Parse` keeps every mode that contains `on` or `off`, and every depth other than
`0`, as they are: a mode such as `on; deny all` and a negative depth are accepted. -/
theorem parse_keeps_unchecked_verifyClient_and_depth {r : Resolver} {annotationsPrefix : String}
    {ing : Networking.Ingress} {cert : Resolver.AuthSSLCert} {verifyClient depth : String} {d : Int}
    (hcert : Parser.resolveAuthSSLCert r annotationsPrefix "auth-tls-secret" ing = .ok cert)
    (hverify : ing.annotations.get?
      (Parser.getAnnotationWithPrefix annotationsPrefix "auth-tls-verify-client") = some verifyClient)
    (hmode : "on".toList <:+: (Parser.normalizeString verifyClient).toList ∨
      "off".toList <:+: (Parser.normalizeString verifyClient).toList)
    (hdepth : ing.annotations.get?
      (Parser.getAnnotationWithPrefix annotationsPrefix "auth-tls-verify-depth") = some depth)
    (hd : Go.atoi depth = some d) (hd0 : d ≠ 0) :
    ∃ cfg, parse r annotationsPrefix ing = (cfg, none) ∧
      cfg.verifyClient = Parser.normalizeString verifyClient ∧ cfg.validationDepth = d := by
  have hne : Parser.normalizeString verifyClient ≠ "" := by
    intro h
    rcases hmode with h' | h' <;> simp [h] at h'
  have hreadVerify := Parser.getStringAnnotation_of_get? hverify hne
  have hreadDepth : Parser.getIntAnnotation annotationsPrefix "auth-tls-verify-depth" ing =
      (d, none) := Parser.getAnnotationWith_of_get? hdepth hd
  have hmatch := (matchString_authVerifyClientRegex_iff _).mpr hmode
  simp only [parse, hcert, hreadVerify, hreadDepth]
  refine ⟨_, rfl, ?_, ?_⟩
  · simp [hmatch]
  · simp [hd0]

/-- A resolver that finds a certificate for every secret. -/
def anyCertResolver : Resolver := ⟨fun _ => .ok default⟩

/-- An ingress whose `ssl_verify_client` mode carries a second directive and whose depth is
negative. -/
def verifyInjectionIngress : Networking.Ingress where
  ns := "shop"
  name := "cart"
  annotations :=
    (((∅ : StringMap).insert "nginx.ingress.kubernetes.io/auth-tls-secret" "shop/ca").insert
      "nginx.ingress.kubernetes.io/auth-tls-verify-client" "on; deny all").insert
      "nginx.ingress.kubernetes.io/auth-tls-verify-depth" "-1"
  backend := none
  rules := []
  tls := []

theorem parse_accepts_verifyClient_directive_and_negative_depth :
    ∃ cfg, parse anyCertResolver Parser.defaultAnnotationsPrefix verifyInjectionIngress =
        (cfg, none) ∧
      cfg.verifyClient ∉ ["on", "off", "optional", "optional_no_ca"] ∧ ¬ 0 < cfg.validationDepth := by
  have hcert : Parser.resolveAuthSSLCert anyCertResolver Parser.defaultAnnotationsPrefix
      "auth-tls-secret" verifyInjectionIngress = .ok default := rfl
  have hverifyClient : verifyInjectionIngress.annotations.get?
      (Parser.getAnnotationWithPrefix Parser.defaultAnnotationsPrefix "auth-tls-verify-client") =
        some "on; deny all" := by decide
  have hdepthValue : verifyInjectionIngress.annotations.get?
      (Parser.getAnnotationWithPrefix Parser.defaultAnnotationsPrefix "auth-tls-verify-depth") =
        some "-1" := by decide
  have hnorm : Parser.normalizeString "on; deny all" = "on; deny all" := by decide
  obtain ⟨cfg, hparse, hverify, hdepth⟩ := parse_keeps_unchecked_verifyClient_and_depth hcert
    hverifyClient (.inl ⟨[], "; deny all".toList, by rw [hnorm]; decide⟩) hdepthValue
    (by decide : Go.atoi "-1" = some (-1)) (by decide)
  refine ⟨cfg, hparse, ?_, ?_⟩
  · rw [hverify, hnorm]
    decide
  · rw [hdepth]
    decide

end Authtls

end IngressNginx
