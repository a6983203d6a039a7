import IngressNginx.Api

/-!
# The admission webhook

The validating webhook (`internal/admission/controller`) receives an `AdmissionReview`,
`admission.k8s.io/v1` or `v1beta1`, decoded by the server's codec. `HandleAdmission` converts a
`v1beta1` review to `v1`, rejects a request for anything but a `networking.k8s.io/v1beta1`
Ingress, decodes the ingress and answers with the request's UID, allowing it exactly when the
`Checker` accepts it. `convertResponse` is meant to answer in the version of the request.

The two versions of `AdmissionRequest` and `AdmissionResponse` have the same fields, so both
are one structure here and the version is the Go type the object has (`AdmissionObject`).
The conversions of `convert.go`, cut down from the generated ones, copy every field of the
request but `UserInfo` and `DryRun`, and keep the response: a `v1beta1` request converted to `v1`
and back loses who made it (`convert_round_trip_loses_userInfo`). `convertResponse` converts the
answer to `v1beta1` and then returns the `v1` review (`handleAdmission_v1beta1`).
-/

namespace IngressNginx

namespace Admission

/-- `metav1.TypeMeta`. -/
structure TypeMeta where
  apiVersion : String
  kind : String
deriving DecidableEq, Inhabited

/-- `schema.GroupVersion`. -/
structure GroupVersion where
  group : String
  version : String
deriving DecidableEq

/-- `metav1.GroupVersionKind`. -/
structure GroupVersionKind where
  group : String
  version : String
  kind : String
deriving DecidableEq, Inhabited

/-- `GroupVersionKind.String()`. -/
def GroupVersionKind.toString (gvk : GroupVersionKind) : String :=
  gvk.group ++ "/" ++ gvk.version ++ ", Kind=" ++ gvk.kind

/-- `metav1.GroupVersionResource`. -/
structure GroupVersionResource where
  group : String
  version : String
  resource : String
deriving DecidableEq, Inhabited

/-- `runtime.RawExtension`, as its raw JSON. -/
structure RawExtension where
  raw : List UInt8
deriving DecidableEq, Inhabited

/-- `authenticationv1.UserInfo`. -/
structure UserInfo where
  username : String
  uid : String
  groups : List String
  extra : List (String × List String)
deriving DecidableEq, Inhabited

/-- `AdmissionRequest`, of either version. -/
structure AdmissionRequest where
  uid : String
  kind : GroupVersionKind
  resource : GroupVersionResource
  subResource : String
  requestKind : Option GroupVersionKind
  requestResource : Option GroupVersionResource
  requestSubResource : String
  name : String
  ns : String
  operation : String
  userInfo : UserInfo
  object : RawExtension
  oldObject : RawExtension
  dryRun : Option Bool
  options : RawExtension
deriving DecidableEq, Inhabited

/-- `metav1.Status` of a refused review. -/
structure Status where
  status : String
  code : Nat
  reason : String
  message : String
deriving DecidableEq, Inhabited

/-- `AdmissionResponse`, of either version; `PatchType` and `AuditAnnotations` are text. -/
structure AdmissionResponse where
  uid : String
  allowed : Bool
  result : Option Status
  patch : List UInt8
  patchType : Option String
  auditAnnotations : List (String × String)
  warnings : List String
deriving DecidableEq, Inhabited

/-- `AdmissionReview`, of either version. -/
structure AdmissionReview where
  typeMeta : TypeMeta
  request : Option AdmissionRequest
  response : Option AdmissionResponse
deriving DecidableEq, Inhabited

/-- The object the server decoded, by its Go type. -/
inductive AdmissionObject where
  | v1 (review : AdmissionReview)
  | v1beta1 (review : AdmissionReview)
  | other
deriving DecidableEq

/-- The review an object holds, of either version. -/
def AdmissionObject.review? : AdmissionObject → Option AdmissionReview
  | .v1 review | .v1beta1 review => some review
  | .other => none

/-- `admissionv1.SchemeGroupVersion`. -/
def admissionV1 : GroupVersion := ⟨"admission.k8s.io", "v1"⟩

/-- `admissionv1beta1.SchemeGroupVersion`. -/
def admissionV1beta1 : GroupVersion := ⟨"admission.k8s.io", "v1beta1"⟩

/-- `ingressResource`: the kind the webhook validates. -/
def ingressResource : GroupVersionKind := ⟨"networking.k8s.io", "v1beta1", "Ingress"⟩

/-! ### `convert.go` -/

/-- The request conversions of `convert.go`: the fields copied one by one, `UserInfo` and
`DryRun` left at their zero values. -/
def convertAdmissionRequest (r : AdmissionRequest) : AdmissionRequest where
  uid := r.uid
  kind := r.kind
  resource := r.resource
  subResource := r.subResource
  requestKind := r.requestKind
  requestResource := r.requestResource
  requestSubResource := r.requestSubResource
  name := r.name
  ns := r.ns
  operation := r.operation
  userInfo := default
  object := r.object
  oldObject := r.oldObject
  dryRun := none
  options := r.options

/-- The review conversions of `convert.go`: the request converted into a new one, the
response pointer cast, the `TypeMeta` of `out` left as it was. -/
def convertAdmissionReview (r out : AdmissionReview) : AdmissionReview :=
  { out with
    request := r.request.map convertAdmissionRequest
    response := r.response }

/-- `convertV1beta1AdmissionRequestToAdmissionAdmissionRequest`. -/
def convertV1beta1AdmissionRequestToAdmissionAdmissionRequest : AdmissionRequest → AdmissionRequest :=
  convertAdmissionRequest

/-- `convertAdmissionAdmissionRequestToV1beta1AdmissionRequest`. -/
def convertAdmissionAdmissionRequestToV1beta1AdmissionRequest : AdmissionRequest → AdmissionRequest :=
  convertAdmissionRequest

/-- `convertV1beta1AdmissionReviewToAdmissionAdmissionReview`. -/
def convertV1beta1AdmissionReviewToAdmissionAdmissionReview :
    AdmissionReview → AdmissionReview → AdmissionReview :=
  convertAdmissionReview

/-- `convertAdmissionAdmissionReviewToV1beta1AdmissionReview`. -/
def convertAdmissionAdmissionReviewToV1beta1AdmissionReview :
    AdmissionReview → AdmissionReview → AdmissionReview :=
  convertAdmissionReview

/-! ### `HandleAdmission` -/

/-- `convertResponse`: the review as it is for a `v1` request; for a `v1beta1` one it
converts the review into a new `v1beta1` review, then returns the `v1` review all the same. -/
def convertResponse (review : AdmissionReview) (outputVersion : GroupVersion) : AdmissionObject :=
  if outputVersion.version = admissionV1.version then .v1 review
  else
    let _reviewv1beta1 := convertAdmissionAdmissionReviewToV1beta1AdmissionReview review default
    .v1 review

/-- The refusal of a request with the message of an error. -/
def badRequest (uid message : String) : AdmissionResponse :=
  { (default : AdmissionResponse) with
    uid := uid
    allowed := false
    result := some ⟨"Failure", 400, "BadRequest", message⟩ }

/-- The answer to a request for an Ingress: refused when the ingress does not decode or the
checker finds an error, allowed otherwise. -/
def admissionResponse (decode : List UInt8 → Except String Networking.Ingress)
    (checkIngress : Networking.Ingress → Option String) (request : AdmissionRequest) :
    AdmissionResponse :=
  match decode request.object.raw with
  | .error err => badRequest request.uid err
  | .ok ingress =>
    match checkIngress ingress with
    | some err => badRequest request.uid err
    | none => { (default : AdmissionResponse) with uid := request.uid, allowed := true }

/-- `HandleAdmission` with the `Checker`'s `CheckIngress` and the codec's decoding of the
ingress: the error it returns, or the object it answers with; `none` is the panic on a review
without a request. -/
def handleAdmission (decode : List UInt8 → Except String Networking.Ingress)
    (checkIngress : Networking.Ingress → Option String) (obj : AdmissionObject) :
    Option (Except String AdmissionObject) :=
  let converted : Except String (AdmissionReview × GroupVersion) :=
    match obj with
    | .v1 review => .ok (review, admissionV1)
    | .v1beta1 review =>
      .ok (convertV1beta1AdmissionReviewToAdmissionAdmissionReview review default, admissionV1beta1)
    | .other => .error "request is not of type AdmissionReview v1 or v1beta1"
  match converted with
  | .error err => some (.error err)
  | .ok (review, outputVersion) =>
    match review.request with
    | none => none
    | some request =>
      if request.kind ≠ ingressResource then
        some (.error ("rejecting admission review because the request does not contain an " ++
          "Ingress resource but " ++ request.kind.toString ++ " with name " ++ request.name ++
          " in namespace " ++ request.ns))
      else
        some (.ok (convertResponse
          { review with response := some (admissionResponse decode checkIngress request) }
          outputVersion))

/-! ### What the webhook answers -/

section Answer

variable {decode : List UInt8 → Except String Networking.Ingress}
  {checkIngress : Networking.Ingress → Option String}

/-- The conversions copy a request but its `UserInfo` and `DryRun`. -/
lemma convertAdmissionRequest_eq (r : AdmissionRequest) :
    convertAdmissionRequest r = { r with userInfo := default, dryRun := none } := rfl

/-- The answer reads the UID and the object of the request, which the conversion keeps. -/
@[simp] lemma admissionResponse_convertAdmissionRequest (request : AdmissionRequest) :
    admissionResponse decode checkIngress (convertAdmissionRequest request) =
      admissionResponse decode checkIngress request := rfl

/-- The answer carries the UID of the request. -/
@[simp] lemma admissionResponse_uid (request : AdmissionRequest) :
    (admissionResponse decode checkIngress request).uid = request.uid := by
  unfold admissionResponse
  split
  · rfl
  · split <;> rfl

/-- A request is allowed exactly when its ingress decodes and the checker finds no error. -/
lemma admissionResponse_allowed_iff (request : AdmissionRequest) :
    (admissionResponse decode checkIngress request).allowed = true ↔
      ∃ ingress, decode request.object.raw = .ok ingress ∧ checkIngress ingress = none := by
  unfold admissionResponse
  split
  · rename_i err hdecode
    simp [badRequest, hdecode]
  · rename_i ingress hdecode
    split
    · rename_i err hcheck
      simp [badRequest, hdecode, hcheck]
    · rename_i hcheck
      simp [hdecode, hcheck]

/-- `convertResponse` answers with the `v1` review whatever the output version. -/
@[simp] lemma convertResponse_eq (review : AdmissionReview) (outputVersion : GroupVersion) :
    convertResponse review outputVersion = .v1 review := by
  unfold convertResponse
  split_ifs <;> rfl

/-- A `v1` review for an Ingress is answered, in `v1`, with its request's answer. -/
lemma handleAdmission_v1 {review : AdmissionReview} {request : AdmissionRequest}
    (hrequest : review.request = some request) (hkind : request.kind = ingressResource) :
    handleAdmission decode checkIngress (.v1 review) =
      some (.ok (.v1 { review with response := some (admissionResponse decode checkIngress request) })) := by
  simp [handleAdmission, hrequest, hkind]

/-- A `v1beta1` review for an Ingress is answered with its request's answer, in a `v1` review
converted from it. -/
lemma handleAdmission_v1beta1 {review : AdmissionReview} {request : AdmissionRequest}
    (hrequest : review.request = some request) (hkind : request.kind = ingressResource) :
    handleAdmission decode checkIngress (.v1beta1 review) =
      some (.ok (.v1
        { convertV1beta1AdmissionReviewToAdmissionAdmissionReview review default with
          response := some (admissionResponse decode checkIngress request) })) := by
  have hconv : (convertV1beta1AdmissionReviewToAdmissionAdmissionReview review default).request =
      some (convertAdmissionRequest request) := by
    simp [convertV1beta1AdmissionReviewToAdmissionAdmissionReview, convertAdmissionReview, hrequest]
  have hkind' : (convertAdmissionRequest request).kind = ingressResource := hkind
  simp [handleAdmission, hconv, hkind']

end Answer

/-- For every review of either version whose request is for an Ingress, `HandleAdmission`
answers with a review whose response carries the request's UID and allows it exactly when the
ingress decodes and passes the checker; a request converted from `v1beta1` to `v1` and back
keeps every field but `UserInfo` and `DryRun`. -/
theorem handleAdmission_answers_ingress_request
    (decode : List UInt8 → Except String Networking.Ingress)
    (checkIngress : Networking.Ingress → Option String) (obj : AdmissionObject)
    {review : AdmissionReview} {request : AdmissionRequest} (hreview : obj.review? = some review)
    (hrequest : review.request = some request) (hkind : request.kind = ingressResource) :
    (∃ out response, handleAdmission decode checkIngress obj = some (.ok out) ∧
      out.review?.bind (·.response) = some response ∧ response.uid = request.uid ∧
      (response.allowed = true ↔
        ∃ ingress, decode request.object.raw = .ok ingress ∧ checkIngress ingress = none)) ∧
    convertAdmissionAdmissionRequestToV1beta1AdmissionRequest
        (convertV1beta1AdmissionRequestToAdmissionAdmissionRequest request) =
      { request with userInfo := default, dryRun := none } := by
  refine ⟨?_, rfl⟩
  -- both versions are answered with the answer of the request, in a `v1` review
  have hanswer : ∃ out, handleAdmission decode checkIngress obj = some (.ok out) ∧
      out.review?.bind (·.response) = some (admissionResponse decode checkIngress request) := by
    cases obj with
    | v1 r =>
      cases hreview
      exact ⟨_, handleAdmission_v1 hrequest hkind, rfl⟩
    | v1beta1 r =>
      cases hreview
      exact ⟨_, handleAdmission_v1beta1 hrequest hkind, rfl⟩
    | other => cases hreview
  obtain ⟨out, hout, hresponse⟩ := hanswer
  exact ⟨out, _, hout, hresponse, admissionResponse_uid request,
    admissionResponse_allowed_iff request⟩

/-- A `v1beta1` request for the ingress `shop/cart`, made by `alice` as a dry run. -/
def cartRequest : AdmissionRequest :=
  { (default : AdmissionRequest) with
    uid := "7f0d2c1e"
    kind := ingressResource
    name := "cart"
    ns := "shop"
    operation := "CREATE"
    userInfo := { (default : UserInfo) with username := "alice" }
    dryRun := some true }

/-- The review of `cartRequest`. -/
def cartReview : AdmissionReview :=
  { typeMeta := ⟨"admission.k8s.io/v1beta1", "AdmissionReview"⟩, request := some cartRequest,
    response := none }

theorem handleAdmission_answers_cart_request :
    AdmissionObject.review? (.v1beta1 cartReview) = some cartReview ∧
      cartReview.request = some cartRequest ∧ cartRequest.kind = ingressResource ∧
      (∃ out response, handleAdmission (fun _ => .ok default) (fun _ => none)
          (.v1beta1 cartReview) = some (.ok out) ∧
        out.review?.bind (·.response) = some response ∧ response.uid = cartRequest.uid ∧
        (response.allowed = true ↔ ∃ ingress, (Except.ok default : Except String Networking.Ingress) =
          .ok ingress ∧ (none : Option String) = none)) ∧
      convertAdmissionAdmissionRequestToV1beta1AdmissionRequest
          (convertV1beta1AdmissionRequestToAdmissionAdmissionRequest cartRequest) =
        { cartRequest with userInfo := default, dryRun := none } :=
  ⟨rfl, rfl, rfl, handleAdmission_answers_ingress_request (fun _ => .ok default) (fun _ => none)
    (.v1beta1 cartReview) rfl rfl rfl⟩

/-- A `v1beta1` request converted to `v1` and back is not the request it was: it has lost its
user and its dry-run flag. -/
theorem convert_round_trip_loses_userInfo :
    convertAdmissionAdmissionRequestToV1beta1AdmissionRequest
        (convertV1beta1AdmissionRequestToAdmissionAdmissionRequest cartRequest) ≠ cartRequest := by
  intro h
  have huser := congrArg (·.userInfo.username) h
  simp [convertAdmissionAdmissionRequestToV1beta1AdmissionRequest,
    convertV1beta1AdmissionRequestToAdmissionAdmissionRequest, convertAdmissionRequest,
    cartRequest] at huser
  exact absurd huser (by decide)

end Admission

end IngressNginx
