import IngressNginx.Annotations.Parser
import IngressNginx.Lib.Regex

/-!
# TLS towards the upstream (`proxyssl`)

`proxySSL.Parse` reads the `proxy-ssl-*` annotations: the secret of the client certificate,
resolved as for client authentication (the location is denied when it does not resolve), then
the ciphers, the protocols (the recognised ones, sorted), the server name, and the two
switches `proxy_ssl_verify` and `proxy_ssl_server_name`.

Unlike the mode of client authentication, the switches are checked against the anchored
`^(on|off)$`, and each is `on` or `off` whatever the annotation says
(`parse_verify_onOff`).
-/

namespace IngressNginx

namespace Proxyssl

/-- `defaultProxySSLCiphers`. -/
def defaultProxySSLCiphers : String := "DEFAULT"

/-- `defaultProxySSLProtocols`. -/
def defaultProxySSLProtocols : String := "TLSv1 TLSv1.1 TLSv1.2"

/-- `defaultProxySSLVerify`. -/
def defaultProxySSLVerify : String := "off"

/-- `defaultProxySSLVerifyDepth`. -/
def defaultProxySSLVerifyDepth : Int := 1

/-- `defaultProxySSLServerName`. -/
def defaultProxySSLServerName : String := "off"

/-- `proxySSLOnOffRegex`: `^(on|off)$`. -/
def proxySSLOnOffRegex : Regex Char :=
  .cat .beginText (.cat (.alt (.word "on".toList) (.word "off".toList)) .endText)

/-- `proxySSLProtocolRegex`: `^(SSLv2|SSLv3|TLSv1|TLSv1\.1|TLSv1\.2|TLSv1\.3)$`. -/
def proxySSLProtocolRegex : Regex Char :=
  .cat .beginText
    (.cat (.alt (.word "SSLv2".toList) (.alt (.word "SSLv3".toList) (.alt (.word "TLSv1".toList)
      (.alt (.word "TLSv1.1".toList) (.alt (.word "TLSv1.2".toList) (.word "TLSv1.3".toList))))))
      .endText)

/-- `sortProtocols`: the recognised protocols of a space-separated list, sorted, or the
default protocols when there are none. -/
def sortProtocols (protocols : String) : String :=
  let protolist := ((Go.split protocols ' ').map Go.trimSpace).filter fun proto =>
    proto != "" && Regex.matchString proxySSLProtocolRegex proto.toList
  if protolist.isEmpty then defaultProxySSLProtocols
  else " ".intercalate (protolist.insertionSort fun a b => decide (a ≤ b))

/-- `proxySSL.Parse`, with the resolver the parser was made with. -/
def parse (r : Resolver) (annotationsPrefix : String) (ing : Networking.Ingress) :
    Config × Option Parser.AnnotationError :=
  match Parser.resolveAuthSSLCert r annotationsPrefix "proxy-ssl-secret" ing with
  | .error err => (default, some err)
  | .ok proxyCert =>
    let (ciphers, err) := Parser.getStringAnnotation annotationsPrefix "proxy-ssl-ciphers" ing
    let ciphers := if err.isSome then defaultProxySSLCiphers else ciphers
    let (protocols, err) := Parser.getStringAnnotation annotationsPrefix "proxy-ssl-protocols" ing
    let protocols := if err.isSome then defaultProxySSLProtocols else sortProtocols protocols
    let (proxySSLName, err) := Parser.getStringAnnotation annotationsPrefix "proxy-ssl-name" ing
    let proxySSLName := if err.isSome then "" else proxySSLName
    let (verify, err) := Parser.getStringAnnotation annotationsPrefix "proxy-ssl-verify" ing
    let verify :=
      if err.isSome || !Regex.matchString proxySSLOnOffRegex verify.toList then
        defaultProxySSLVerify
      else verify
    let (verifyDepth, err) := Parser.getIntAnnotation annotationsPrefix "proxy-ssl-verify-depth" ing
    let verifyDepth :=
      if err.isSome || verifyDepth = 0 then defaultProxySSLVerifyDepth else verifyDepth
    let (proxySSLServerName, err) :=
      Parser.getStringAnnotation annotationsPrefix "proxy-ssl-server-name" ing
    let proxySSLServerName :=
      if err.isSome || !Regex.matchString proxySSLOnOffRegex proxySSLServerName.toList then
        defaultProxySSLServerName
      else proxySSLServerName
    (⟨proxyCert, ciphers, protocols, proxySSLName, verify, verifyDepth, proxySSLServerName⟩,
      none)

/-- The texts that pass `proxySSLOnOffRegex`: `on` and `off`. -/
theorem matchString_proxySSLOnOffRegex_iff (t : List Char) :
    Regex.matchString proxySSLOnOffRegex t = true ↔ t = "on".toList ∨ t = "off".toList := by
  rw [Regex.matchString_iff, proxySSLOnOffRegex, Regex.matchString_anchored_iff,
    Regex.span_alt_iff, Regex.span_word_whole_iff, Regex.span_word_whole_iff]

/-- A switch read against `proxySSLOnOffRegex`, with the default `off`, is `on` or `off`. -/
lemma onOff_of_read (value : String) (err : Option Parser.AnnotationError) :
    (if err.isSome || !Regex.matchString proxySSLOnOffRegex value.toList then "off"
      else value) ∈ ["on", "off"] := by
  by_cases h : err.isSome || !Regex.matchString proxySSLOnOffRegex value.toList
  · simp [h]
  · rw [if_neg h]
    have hmatch : Regex.matchString proxySSLOnOffRegex value.toList = true := by
      simp only [Bool.or_eq_true, Bool.not_eq_true', not_or, Bool.not_eq_false] at h
      exact h.2
    rcases (matchString_proxySSLOnOffRegex_iff _).mp hmatch with hv | hv <;>
      simp [String.toList_inj.mp (hv.trans rfl)]

/-- Whatever the annotations say, an accepted configuration has `proxy_ssl_verify` and
`proxy_ssl_server_name` `on` or `off`. -/
theorem parse_verify_onOff {r : Resolver} {annotationsPrefix : String} {ing : Networking.Ingress}
    {cfg : Config} (h : parse r annotationsPrefix ing = (cfg, none)) :
    cfg.verify ∈ ["on", "off"] ∧ cfg.proxySSLServerName ∈ ["on", "off"] := by
  unfold parse at h
  split at h
  · simp at h
  · simp only [Prod.mk.injEq, and_true] at h
    subst h
    exact ⟨onOff_of_read _ _, onOff_of_read _ _⟩

end Proxyssl

end IngressNginx
