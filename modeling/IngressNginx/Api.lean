import IngressNginx.Lib.Go

/-!
# Kubernetes objects read by the controller

The fields of the Kubernetes API objects (`core/v1`, `networking/v1beta1`, `intstr`) that
the controller reads. An object is kept to what the modelled functions look at. Every type
derives `Inhabited`: its `default` is Go's zero value (empty strings, `0`, `false`, `nil`).
-/

namespace IngressNginx

/-- `map[string]string` of the API objects. -/
abbrev StringMap := Go.Map String String

/-- `m[k]`, with Go's "comma ok" result. -/
def StringMap.get? (m : StringMap) (k : String) : Option String := m.lookup k

/-- `intstr.IntOrString`: a port given by number or by name. -/
inductive IntOrString where
  | int (v : Int)
  | str (v : String)
deriving DecidableEq, Inhabited, Repr

/-- `IntOrString.String()`. -/
def IntOrString.toString : IntOrString → String
  | .int v => ToString.toString v
  | .str v => v

namespace Core

/-- `apiv1.ServicePort`. -/
structure ServicePort where
  name : String
  protocol : String
  port : Int
  targetPort : IntOrString
deriving DecidableEq, Inhabited

/-- `apiv1.Service`: its key, type and ports. -/
structure Service where
  ns : String
  name : String
  type : String
  externalName : String
  clusterIP : String
  ports : List ServicePort
deriving DecidableEq, Inhabited

/-- `apiv1.ObjectReference`, as `Endpoint.Equal` reads it. -/
structure ObjectReference where
  uid : String
  resourceVersion : String
deriving DecidableEq, Inhabited

/-- `apiv1.EndpointAddress`. -/
structure EndpointAddress where
  ip : String
  targetRef : Option ObjectReference
deriving DecidableEq, Inhabited

/-- `apiv1.EndpointPort`. -/
structure EndpointPort where
  name : String
  port : Int
  protocol : String
deriving DecidableEq, Inhabited

/-- `apiv1.EndpointSubset`. -/
structure EndpointSubset where
  addresses : List EndpointAddress
  ports : List EndpointPort
deriving DecidableEq, Inhabited

/-- `apiv1.Endpoints`. -/
structure Endpoints where
  ns : String
  name : String
  subsets : List EndpointSubset
deriving DecidableEq, Inhabited

/-- `apiv1.ServiceTypeExternalName`. -/
def serviceTypeExternalName : String := "ExternalName"

/-- `apiv1.ProtocolTCP`. -/
def protocolTCP : String := "TCP"

end Core

namespace Networking

/-- `networking.PathType`. -/
inductive PathType where
  | Exact
  | Prefix
  | ImplementationSpecific
deriving DecidableEq, Inhabited, Repr

/-- `networking.IngressBackend`. -/
structure IngressBackend where
  serviceName : String
  servicePort : IntOrString
deriving DecidableEq, Inhabited

/-- `networking.HTTPIngressPath`; `pathType` is a pointer and may be `nil`. -/
structure HTTPIngressPath where
  path : String
  pathType : Option PathType
  backend : IngressBackend
deriving DecidableEq, Inhabited

/-- `networking.IngressRule`; `http` is the `HTTP` pointer with its list of paths. -/
structure IngressRule where
  host : String
  http : Option (List HTTPIngressPath)
deriving DecidableEq, Inhabited

/-- `networking.IngressTLS`. -/
structure IngressTLS where
  hosts : List String
  secretName : String
deriving DecidableEq, Inhabited

/-- `networking.Ingress`: metadata and spec. -/
structure Ingress where
  ns : String
  name : String
  annotations : StringMap
  backend : Option IngressBackend
  rules : List IngressRule
  tls : List IngressTLS
deriving DecidableEq, Inhabited

end Networking

/-- `k8s.MetaNamespaceKey`: `namespace/name`, or `name` alone in the empty namespace. -/
def metaNamespaceKey (ns name : String) : String :=
  if ns = "" then name else ns ++ "/" ++ name

end IngressNginx
