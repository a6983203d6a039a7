import IngressNginx.Annotations

/-!
# Reading annotation values

The `parser` package reads the annotation `<prefix>/<name>` of an ingress as a string, an
integer or a Boolean. Every reader returns Go's pair of a value and an error: the zero value
with `ErrMissingAnnotations` when the ingress has no such annotation (or none at all), the
zero value with an invalid-content error naming the annotation and its value when the value
does not read, and the value with no error otherwise. The three readers are one function
(`parseWith`) of the way a value is read; a string is read by trimming each of its lines
(`normalizeString`) and is invalid when nothing is left.

The errors also include the location-denied error by which an annotation parser refuses an
ingress; the readers never return it (`getAnnotationWith_error`).
-/

namespace IngressNginx

namespace K8s

/-- `k8s.ParseNameNS`: the namespace and the name of `namespace/name`. -/
def parseNameNS (input : String) : Except String (String × String) :=
  match Go.split input '/' with
  | [ns, name] => .ok (ns, name)
  | _ => .error ("invalid format (namespace/name) found in '" ++ input ++ "'")

end K8s

/-- `resolver.Resolver`, as far as the modelled parsers use it: `GetAuthCertificate`, the
certificate of a secret or the text of its error. -/
structure Resolver where
  getAuthCertificate : String → Except String Resolver.AuthSSLCert

namespace Parser

/-- `DefaultAnnotationsPrefix`. -/
def defaultAnnotationsPrefix : String := "nginx.ingress.kubernetes.io"

/-- The errors of the annotation parsers (`ingress/errors`) that callers tell apart. -/
inductive AnnotationError where
  | missingAnnotations
  | invalidAnnotationName
  | invalidContent (name value : String)
  | locationDenied (reason : String)
deriving DecidableEq, Repr

/-- `Error()` of each error. -/
def AnnotationError.error : AnnotationError → String
  | .missingAnnotations => "ingress rule without annotations"
  | .invalidAnnotationName => "invalid annotation name"
  | .invalidContent name value =>
    "the annotation " ++ name ++ " does not contain a valid value (" ++ value ++ ")"
  | .locationDenied reason => reason

/-- `errors.IsLocationDenied`. -/
def AnnotationError.isLocationDenied : AnnotationError → Bool
  | .locationDenied _ => true
  | _ => false

lemma AnnotationError.isLocationDenied_iff {err : AnnotationError} :
    err.isLocationDenied = true ↔ ∃ reason, err = .locationDenied reason := by
  cases err <;> simp [isLocationDenied]

/-- `NewLocationDenied`. -/
def newLocationDenied (reason : String) : AnnotationError :=
  .locationDenied ("Location denied, reason: " ++ reason)

/-- `GetAnnotationWithPrefix`, under the prefix the controller runs with. -/
def getAnnotationWithPrefix (annotationsPrefix suffix : String) : String :=
  annotationsPrefix ++ "/" ++ suffix

/-- `checkAnnotation`: an ingress without annotations has none to parse. -/
def checkAnnotation (name : String) (ing : Networking.Ingress) : Option AnnotationError :=
  if ing.annotations.entries.isEmpty then some .missingAnnotations
  else if name = "" then some .invalidAnnotationName
  else none

/-- `normalizeString`: every line trimmed of white space. -/
def normalizeString (input : String) : String :=
  "\n".intercalate ((Go.split input '\n').map Go.trimSpace)

/-- The readers `ingAnnotations.parse*`: the annotation read by `conv`, with `zero` and an
invalid-content error when it does not read, and `ErrMissingAnnotations` when it is absent. -/
def parseWith {β : Type} (zero : β) (conv : String → Option β) (annotations : StringMap)
    (name : String) : β × Option AnnotationError :=
  match annotations.get? name with
  | some val =>
    match conv val with
    | some b => (b, none)
    | none => (zero, some (.invalidContent name val))
  | none => (zero, some .missingAnnotations)

/-- `ingAnnotations.parseBool`. -/
def parseBool (annotations : StringMap) (name : String) : Bool × Option AnnotationError :=
  parseWith false Go.parseBool annotations name

/-- `ingAnnotations.parseString`: the normalized value, invalid when it is empty. -/
def parseString (annotations : StringMap) (name : String) : String × Option AnnotationError :=
  parseWith "" (fun val => if normalizeString val = "" then none else some (normalizeString val))
    annotations name

/-- `ingAnnotations.parseInt`: `strconv.Atoi` of the value. -/
def parseInt (annotations : StringMap) (name : String) : Int × Option AnnotationError :=
  parseWith 0 Go.atoi annotations name

/-- The getters `Get*Annotation`: the annotation `<prefix>/<name>`, once the ingress is known
to have annotations. -/
def getAnnotationWith {β : Type} (zero : β)
    (parse : StringMap → String → β × Option AnnotationError)
    (annotationsPrefix name : String) (ing : Networking.Ingress) : β × Option AnnotationError :=
  let v := getAnnotationWithPrefix annotationsPrefix name
  match checkAnnotation v ing with
  | some err => (zero, some err)
  | none => parse ing.annotations v

/-- `GetBoolAnnotation`. -/
def getBoolAnnotation (annotationsPrefix name : String) (ing : Networking.Ingress) :
    Bool × Option AnnotationError :=
  getAnnotationWith false parseBool annotationsPrefix name ing

/-- `GetStringAnnotation`. -/
def getStringAnnotation (annotationsPrefix name : String) (ing : Networking.Ingress) :
    String × Option AnnotationError :=
  getAnnotationWith "" parseString annotationsPrefix name ing

/-- `GetIntAnnotation`. -/
def getIntAnnotation (annotationsPrefix name : String) (ing : Networking.Ingress) :
    Int × Option AnnotationError :=
  getAnnotationWith 0 parseInt annotationsPrefix name ing

/-- The certificate of the secret a TLS annotation names (`auth-tls-secret`,
`proxy-ssl-secret`): the reader's error, or a denied location when the secret is not
`namespace/name` or does not resolve. -/
def resolveAuthSSLCert (r : Resolver) (annotationsPrefix name : String)
    (ing : Networking.Ingress) : Except AnnotationError Resolver.AuthSSLCert :=
  match getStringAnnotation annotationsPrefix name ing with
  | (_, some err) => .error err
  | (secret, none) =>
    match K8s.parseNameNS secret with
    | .error e => .error (newLocationDenied e)
    | .ok _ =>
      match r.getAuthCertificate secret with
      | .error e => .error (.locationDenied ("error obtaining certificate: " ++ e))
      | .ok cert => .ok cert

/-! ### The readers -/

section Readers

variable {β : Type} {zero : β} {conv : String → Option β} {annotationsPrefix name : String}
  {ing : Networking.Ingress}

lemma getAnnotationWithPrefix_ne_empty (annotationsPrefix name : String) :
    getAnnotationWithPrefix annotationsPrefix name ≠ "" := by
  intro h
  have hlen := congrArg String.length h
  simp [getAnnotationWithPrefix] at hlen

/-- An annotation that is there passes `checkAnnotation`. -/
lemma checkAnnotation_of_get? {val : String}
    (h : ing.annotations.get? (getAnnotationWithPrefix annotationsPrefix name) = some val) :
    checkAnnotation (getAnnotationWithPrefix annotationsPrefix name) ing = none := by
  have hne : ing.annotations.entries ≠ [] := by
    intro hnil
    simp [StringMap.get?, AList.lookup, hnil] at h
  simp [ checkAnnotation, hne, getAnnotationWithPrefix_ne_empty]

/-- The value of an annotation that is there and reads. -/
theorem getAnnotationWith_of_get? {val : String} {b : β}
    (h : ing.annotations.get? (getAnnotationWithPrefix annotationsPrefix name) = some val)
    (hconv : conv val = some b) :
    getAnnotationWith zero (parseWith zero conv) annotationsPrefix name ing = (b, none) := by
  simp [getAnnotationWith, checkAnnotation_of_get? h, parseWith, h, hconv]

/-- A reader fails only on a missing annotation, a missing annotation list, or the value of the
annotation it reads, and never denies the location. -/
theorem getAnnotationWith_error {err : AnnotationError}
    (h : (getAnnotationWith zero (parseWith zero conv) annotationsPrefix name ing).2 = some err) :
    err = .missingAnnotations ∨ err = .invalidAnnotationName ∨
      ∃ val, err = .invalidContent (getAnnotationWithPrefix annotationsPrefix name) val ∧
        ing.annotations.get? (getAnnotationWithPrefix annotationsPrefix name) = some val ∧
          conv val = none := by
  unfold getAnnotationWith at h
  dsimp only at h
  split at h
  · rename_i err' hcheck
    simp only [Option.some.injEq] at h
    subst h
    unfold checkAnnotation at hcheck
    split_ifs at hcheck <;> simp_all
  · unfold parseWith at h
    split at h
    · rename_i val hget
      split at h
      · simp at h
      · rename_i hconv
        simp only [Option.some.injEq] at h
        exact .inr (.inr ⟨val, h.symm, hget, hconv⟩)
    · simp only [Option.some.injEq] at h
      exact .inl h.symm

end Readers

/-- A string annotation reads as its normalized value when that is not empty. -/
lemma getStringAnnotation_of_get? {annotationsPrefix name val : String}
    {ing : Networking.Ingress}
    (h : ing.annotations.get? (getAnnotationWithPrefix annotationsPrefix name) = some val)
    (hval : normalizeString val ≠ "") :
    getStringAnnotation annotationsPrefix name ing = (normalizeString val, none) :=
  getAnnotationWith_of_get? h (by simp [hval])

end Parser

end IngressNginx
