import GatewayAdmission.Admission.Resource
import GatewayAdmission.Admission.Review
import GatewayAdmission.Gateway.Rules
import GatewayAdmission.Route.GrpcRules
import GatewayAdmission.Route.HttpRules

/-!
# The registry

A registry says for each resource how its objects are read and checked. A resource is found by its
group, version and name exactly as they are registered; of several registrations for one resource
the last counts.
-/

namespace GatewayAdmission

/-- A way to read the objects of a kind. -/
abbrev Decoder (kind : ResourceKind) := Raw → Except DecodeError kind.Model

/-- How the objects of a resource are read and checked. They are read as objects of their kind,
unless another decoder is given. -/
inductive Check where
  /-- The new state of the object, on every request. -/
  | object (kind : ResourceKind) (rule : kind.Model → List FieldError)
    (decode : Decoder kind := kind.decode)
  /-- The old and the new state of the object, on an update. Other requests pass unread. -/
  | change (kind : ResourceKind) (rule : kind.Model → kind.Model → List FieldError)
    (decode : Decoder kind := kind.decode)

/-- Why a request could not be checked. -/
inductive DispatchError where
  | unknownResource (identity : ResourceIdentity)
  | decode (error : DecodeError)
deriving DecidableEq

def DispatchError.message : DispatchError → String
  | unknownResource identity => "unknown resource '" ++ identity.resource ++ "'"
  | decode error => error.message

namespace AdmissionRequest

/-- The new state of the object, as a decoder reads it. -/
def newState {kind : ResourceKind} (q : AdmissionRequest) (decode : Decoder kind) :
    Except DecodeError kind.Model :=
  match q.object with
  | none => .error .missingObject
  | some raw => decode raw

/-- The old state of the object, as a decoder reads it. -/
def oldState {kind : ResourceKind} (q : AdmissionRequest) (decode : Decoder kind) :
    Except DecodeError kind.Model :=
  match q.oldObject with
  | none => .error .missingOldObject
  | some raw => decode raw

end AdmissionRequest

namespace Check

def kind : Check → ResourceKind
  | object kind _ _ => kind
  | change kind _ _ => kind

/-- The errors of the object of a request. -/
def run (c : Check) (q : AdmissionRequest) : Except DecodeError (List FieldError) :=
  match c with
  | object _ rule decode => (q.newState decode).map rule
  | change _ rule decode =>
    if q.operation = .update then do
      let old ← q.oldState decode
      let new ← q.newState decode
      return rule old new
    else .ok []

end Check

/-- Registrations, the latest first. -/
structure Registry where
  registrations : List (ResourceIdentity × Check)

namespace Registry

def empty : Registry := ⟨[]⟩

def register (r : Registry) (identity : ResourceIdentity) (check : Check) : Registry :=
  ⟨(identity, check) :: r.registrations⟩

/-- The registry of registrations in their order. -/
def ofList (registrations : List (ResourceIdentity × Check)) : Registry :=
  registrations.foldl (fun r (identity, check) => r.register identity check) empty

/-- The check of the last registration for a resource. -/
def find? (r : Registry) (identity : ResourceIdentity) : Option Check :=
  (r.registrations.find? (·.1 == identity)).map (·.2)

def contains (r : Registry) (identity : ResourceIdentity) : Bool := (r.find? identity).isSome

/-- How many resources there are registrations for. -/
def size (r : Registry) : Nat := (r.registrations.map (·.1)).eraseDups.length

def isEmpty (r : Registry) : Bool := r.registrations.isEmpty

/-- The errors of the object of a request, by the check of its resource. -/
def dispatch (r : Registry) (q : AdmissionRequest) : Except DispatchError (List FieldError) :=
  match r.find? q.resource with
  | none => .error (.unknownResource q.resource)
  | some check => (check.run q).mapError .decode

/-! ## The Gateway API -/

/-- A resource of the Gateway API. -/
def gatewayIdentity (version resource : String) : ResourceIdentity :=
  ⟨"gateway.networking.k8s.io", version, resource⟩

/-- The resources of the first version. Gateways and HTTP routes have one rule each there. -/
def firstVersion : List (ResourceIdentity × Check) :=
  [(gatewayIdentity "v1alpha2" "gateways", .object .gateway Gateway.checkHostnames),
    (gatewayIdentity "v1alpha2" "httproutes", .object .httpRoute HttpRoute.checkUniqueFilters),
    (gatewayIdentity "v1alpha2" "gatewayclasses", .change .gatewayClass GatewayClass.checkUpdate),
    (gatewayIdentity "v1alpha2" "grpcroutes", .object .grpcRoute GrpcRoute.check),
    (gatewayIdentity "v1alpha2" "tcproutes", .object .tcpRoute StreamRoute.check),
    (gatewayIdentity "v1alpha2" "udproutes", .object .udpRoute StreamRoute.check),
    (gatewayIdentity "v1alpha2" "tlsroutes", .object .tlsRoute StreamRoute.check)]

/-- The resources of a later version. -/
def laterVersion (version : String) : List (ResourceIdentity × Check) :=
  [(gatewayIdentity version "gateways", .object .gateway Gateway.check),
    (gatewayIdentity version "httproutes", .object .httpRoute HttpRoute.check),
    (gatewayIdentity version "gatewayclasses", .change .gatewayClass GatewayClass.checkUpdate)]

/-- Every resource that the webhook validates. -/
def gatewayApi : Registry :=
  ofList (firstVersion ++ laterVersion "v1beta1" ++ laterVersion "v1")

end Registry

end GatewayAdmission
