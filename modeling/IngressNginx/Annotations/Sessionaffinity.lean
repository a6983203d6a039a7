import IngressNginx.Annotations.Parser
import IngressNginx.Lib.Regex

/-!
# Cookie session affinity (`sessionaffinity`)

`cookieAffinityParse` reads the `session-cookie-*` annotations of an ingress into the cookie
the sticky balancer sets. The lifetimes `session-cookie-expires` and `session-cookie-max-age`
are kept when they pass `(^0|-?[1-9]\d*$)` and dropped otherwise.

The anchors of that expression stand inside the alternation: `^0` matches every value that
starts with `0`, and `-?[1-9]\d*$` every value that ends with a nonzero digit followed by
digits. Such values are kept whole (`cookieAffinityParse_keeps_expires`), although they are
not the decimal integers `^(0|-?[1-9][0-9]*)$` the expression stands for.
-/

namespace IngressNginx

namespace Sessionaffinity

/-- `annotationAffinityCookieName`. -/
def annotationAffinityCookieName : String := "session-cookie-name"

/-- `defaultAffinityCookieName`. -/
def defaultAffinityCookieName : String := "INGRESSCOOKIE"

/-- `annotationAffinityCookieExpires`. -/
def annotationAffinityCookieExpires : String := "session-cookie-expires"

/-- `annotationAffinityCookieMaxAge`. -/
def annotationAffinityCookieMaxAge : String := "session-cookie-max-age"

/-- `annotationAffinityCookiePath`. -/
def annotationAffinityCookiePath : String := "session-cookie-path"

/-- `annotationAffinityCookieSameSite`. -/
def annotationAffinityCookieSameSite : String := "session-cookie-samesite"

/-- `annotationAffinityCookieConditionalSameSiteNone`. -/
def annotationAffinityCookieConditionalSameSiteNone : String :=
  "session-cookie-conditional-samesite-none"

/-- `annotationAffinityCookieChangeOnFailure`. -/
def annotationAffinityCookieChangeOnFailure : String := "session-cookie-change-on-failure"

/-- `\d` and `[0-9]`. -/
def digit : Regex Char := .cls Char.isDigit

/-- `[1-9]`. -/
def nonzeroDigit : Regex Char := .cls fun c => '1' ≤ c && c ≤ '9'

/-- `affinityCookieExpiresRegex`: `(^0|-?[1-9]\d*$)`. -/
def affinityCookieExpiresRegex : Regex Char :=
  .alt (.cat .beginText (.lit '0'))
    (.cat (.opt (.lit '-')) (.cat nonzeroDigit (.cat (.star digit) .endText)))

/-- A cookie lifetime, `session-cookie-expires` or `session-cookie-max-age`: the value when it
passes `affinityCookieExpiresRegex`, and empty otherwise. -/
def readCookieLifetime (annotationsPrefix name : String) (ing : Networking.Ingress) : String :=
  let (lifetime, err) := Parser.getStringAnnotation annotationsPrefix name ing
  if err.isSome || !Regex.matchString affinityCookieExpiresRegex lifetime.toList then ""
  else lifetime

/-- `affinity.cookieAffinityParse`. -/
def cookieAffinityParse (annotationsPrefix : String) (ing : Networking.Ingress) : Cookie :=
  let (name, err) := Parser.getStringAnnotation annotationsPrefix annotationAffinityCookieName ing
  let name := if err.isSome then defaultAffinityCookieName else name
  let expires := readCookieLifetime annotationsPrefix annotationAffinityCookieExpires ing
  let maxAge := readCookieLifetime annotationsPrefix annotationAffinityCookieMaxAge ing
  let (path, _) := Parser.getStringAnnotation annotationsPrefix annotationAffinityCookiePath ing
  let (sameSite, _) :=
    Parser.getStringAnnotation annotationsPrefix annotationAffinityCookieSameSite ing
  let (conditionalSameSiteNone, _) :=
    Parser.getBoolAnnotation annotationsPrefix annotationAffinityCookieConditionalSameSiteNone ing
  let (changeOnFailure, _) :=
    Parser.getBoolAnnotation annotationsPrefix annotationAffinityCookieChangeOnFailure ing
  ⟨name, expires, maxAge, path, changeOnFailure, sameSite, conditionalSameSiteNone⟩

/-- The decimal integers without leading zeros, `^(0|-?[1-9][0-9]*)$`: what the lifetimes are
read as by the sticky balancer's `tonumber`. -/
def decimalIntegerRegex : Regex Char :=
  .cat .beginText
    (.cat (.alt (.lit '0') (.cat (.opt (.lit '-')) (.cat nonzeroDigit (.star digit)))) .endText)

/-- Every text that starts with `0`, and every text that ends with a nonzero digit, passes
`affinityCookieExpiresRegex`. -/
theorem matchString_affinityCookieExpiresRegex {t : List Char}
    (ht : (∃ rest, t = '0' :: rest) ∨ ∃ pre c, t = pre ++ [c] ∧ '1' ≤ c ∧ c ≤ '9') :
    Regex.matchString affinityCookieExpiresRegex t = true := by
  rw [Regex.matchString_iff]
  rcases ht with ⟨rest, rfl⟩ | ⟨pre, c, rfl, hc⟩
  · -- `^0` at the start
    refine ⟨0, 1, by simp, .altLeft (.cat .beginText (.lit rfl))⟩
  · -- `[1-9]` on the last character, no sign, no more digits, then the end
    have hget : (pre ++ [c])[pre.length]? = some c := by simp
    have hend : pre.length + 1 = (pre ++ [c]).length := by simp
    refine ⟨pre.length, pre.length + 1, by simp, .altRight (.cat (.altRight (.empty _)) ?_)⟩
    refine .cat (.cls hget (by simp [hc])) (.cat (.starNil _ _) ?_)
    rw [hend]
    exact .endText

/-- A lifetime that is there and passes the expression is kept as its normalized value. -/
lemma readCookieLifetime_of_get? {annotationsPrefix name v : String} {ing : Networking.Ingress}
    (hv : ing.annotations.get? (Parser.getAnnotationWithPrefix annotationsPrefix name) = some v)
    (hne : Parser.normalizeString v ≠ "")
    (hmatch : Regex.matchString affinityCookieExpiresRegex (Parser.normalizeString v).toList = true) :
    readCookieLifetime annotationsPrefix name ing = Parser.normalizeString v := by
  simp [readCookieLifetime, Parser.getStringAnnotation_of_get? hv hne, hmatch]

/-- `cookieAffinityParse` keeps as the cookie's `Expires` every value that starts with `0` or
ends with a nonzero digit, whatever stands between. -/
theorem cookieAffinityParse_keeps_expires {annotationsPrefix v : String}
    {ing : Networking.Ingress}
    (hv : ing.annotations.get?
      (Parser.getAnnotationWithPrefix annotationsPrefix annotationAffinityCookieExpires) = some v)
    (hshape : (∃ rest, (Parser.normalizeString v).toList = '0' :: rest) ∨
      ∃ pre c, (Parser.normalizeString v).toList = pre ++ [c] ∧ '1' ≤ c ∧ c ≤ '9') :
    (cookieAffinityParse annotationsPrefix ing).expires = Parser.normalizeString v := by
  have hne : Parser.normalizeString v ≠ "" := by
    intro h
    rcases hshape with ⟨rest, h'⟩ | ⟨pre, c, h', -⟩ <;> simp [h] at h'
  exact readCookieLifetime_of_get? hv hne (matchString_affinityCookieExpiresRegex hshape)

/-- An ingress whose cookie lifetime is `0abc`. -/
def zeroPrefixIngress : Networking.Ingress where
  ns := "shop"
  name := "cart"
  annotations :=
    (∅ : StringMap).insert "nginx.ingress.kubernetes.io/session-cookie-expires" "0abc"
  backend := none
  rules := []
  tls := []

theorem cookieAffinityParse_keeps_expires_0abc :
    (cookieAffinityParse Parser.defaultAnnotationsPrefix zeroPrefixIngress).expires = "0abc" ∧
      Regex.matchString decimalIntegerRegex "0abc".toList = false := by
  have hv : zeroPrefixIngress.annotations.get? (Parser.getAnnotationWithPrefix
      Parser.defaultAnnotationsPrefix annotationAffinityCookieExpires) = some "0abc" := by decide
  have hnorm : Parser.normalizeString "0abc" = "0abc" := by decide
  refine ⟨?_, by decide⟩
  rw [cookieAffinityParse_keeps_expires hv (.inl ⟨"abc".toList, by rw [hnorm]; decide⟩), hnorm]

end Sessionaffinity

end IngressNginx
