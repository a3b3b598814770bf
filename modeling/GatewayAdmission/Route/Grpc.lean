import GatewayAdmission.Kubernetes.Metadata
import GatewayAdmission.Route.Filter
import GatewayAdmission.Route.Parent

/-!
# gRPC routes

The parts of a GRPCRoute that rules are about, and how they stand in an object.
-/

namespace GatewayAdmission

structure GrpcFilter where
  type : String
  requestHeaderModifier : Option HeaderModifier
  responseHeaderModifier : Option HeaderModifier
  requestMirror : Option RequestMirror
  extensionRef : Option LocalObjectReference

structure GrpcBackendRef where
  backend : BackendRef
  filters : List GrpcFilter

structure MethodMatch where
  type : Option String
  service : Option String
  method : Option String

structure GrpcMatch where
  method : Option MethodMatch
  headers : List HeaderMatch

structure GrpcRule where
  matches_ : List GrpcMatch
  filters : List GrpcFilter
  backendRefs : List GrpcBackendRef

structure GrpcRouteSpec where
  parentRefs : List ParentReference := []
  hostnames : List String := []
  rules : List GrpcRule := []

structure GrpcRoute where
  metadata : ObjectMeta
  spec : GrpcRouteSpec

namespace GrpcFilter

def fields : Fields GrpcFilter :=
  .iso (.cons (.defaulted "type" .text "") <|
      .cons (.optional "requestHeaderModifier" HeaderModifier.codec) <|
      .cons (.optional "responseHeaderModifier" HeaderModifier.codec) <|
      .cons (.optional "requestMirror" RequestMirror.codec) <|
      .cons (.optional "extensionRef" LocalObjectReference.codec) .nil)
    (fun (type, requestHeaderModifier, responseHeaderModifier, requestMirror, extensionRef, ()) =>
      { type, requestHeaderModifier, responseHeaderModifier, requestMirror, extensionRef })
    (fun f => (f.type, f.requestHeaderModifier, f.responseHeaderModifier, f.requestMirror,
      f.extensionRef, ()))

def codec : Codec GrpcFilter := .record .plain fields

end GrpcFilter

namespace GrpcBackendRef

def fields : Fields GrpcBackendRef :=
  .iso (.inline BackendRef.fields <| .cons (.list "filters" GrpcFilter.codec) .nil)
    (fun (backend, filters, ()) => { backend, filters })
    (fun r => (r.backend, r.filters, ()))

def codec : Codec GrpcBackendRef := .record .shared fields

end GrpcBackendRef

namespace MethodMatch

def fields : Fields MethodMatch :=
  .iso (.cons (.optional "type" .text) <|
      .cons (.optional "service" .text) <|
      .cons (.optional "method" .text) .nil)
    (fun (type, service, method, ()) => { type, service, method })
    (fun m => (m.type, m.service, m.method, ()))

def codec : Codec MethodMatch := .record .plain fields

/-- Whether names are meant as they are written, which is so if nothing else is said. -/
def isExact (m : MethodMatch) : Bool := m.type.getD "Exact" == "Exact"

end MethodMatch

namespace GrpcMatch

def fields : Fields GrpcMatch :=
  .iso (.cons (.optional "method" MethodMatch.codec) <|
      .cons (.list "headers" HeaderMatch.codec) .nil)
    (fun (method, headers, ()) => { method, headers })
    (fun m => (m.method, m.headers, ()))

def codec : Codec GrpcMatch := .record .plain fields

end GrpcMatch

namespace GrpcRule

def fields : Fields GrpcRule :=
  .iso (.cons (.list "matches" GrpcMatch.codec) <|
      .cons (.list "filters" GrpcFilter.codec) <|
      .cons (.list "backendRefs" GrpcBackendRef.codec) .nil)
    (fun (matches_, filters, backendRefs, ()) => { matches_, filters, backendRefs })
    (fun r => (r.matches_, r.filters, r.backendRefs, ()))

def codec : Codec GrpcRule := .record .plain fields

end GrpcRule

namespace GrpcRouteSpec

def fields : Fields GrpcRouteSpec :=
  .iso (.cons (.list "parentRefs" ParentReference.codec) <|
      .cons (.list "hostnames" .text) <|
      .cons (.list "rules" GrpcRule.codec) .nil)
    (fun (parentRefs, hostnames, rules, ()) => { parentRefs, hostnames, rules })
    (fun s => (s.parentRefs, s.hostnames, s.rules, ()))

def codec : Codec GrpcRouteSpec := .record .plain fields

end GrpcRouteSpec

namespace GrpcRoute

def fields : Fields GrpcRoute :=
  .iso (.cons (.defaulted "metadata" ObjectMeta.codec {}) <|
      .cons (.defaulted "spec" GrpcRouteSpec.codec {}) .nil)
    (fun (metadata, spec, ()) => { metadata, spec })
    (fun r => (r.metadata, r.spec, ()))

def codec : Codec GrpcRoute := .record .plain fields

end GrpcRoute

end GatewayAdmission
