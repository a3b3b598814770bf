import GatewayAdmission.Kubernetes.Metadata
import GatewayAdmission.Route.Backend
import GatewayAdmission.Route.Parent

/-!
# Stream routes

TCPRoute, UDPRoute and TLSRoute have one layout and the same rules: backends that are Services
need a port, and parent references must not clash. Hostnames are of use to TLS routes only.
-/

namespace GatewayAdmission

structure StreamRule where
  backendRefs : List BackendRef

structure StreamRouteSpec where
  parentRefs : List ParentReference := []
  hostnames : List String := []
  rules : List StreamRule := []

/-- A TCP, UDP or TLS route. -/
structure StreamRoute where
  metadata : ObjectMeta
  spec : StreamRouteSpec

namespace StreamRule

def fields : Fields StreamRule :=
  .iso (.cons (.list "backendRefs" BackendRef.codec) .nil)
    (fun (backendRefs, ()) => { backendRefs })
    (fun r => (r.backendRefs, ()))

def codec : Codec StreamRule := .record .plain fields

/-- The errors of backends that lack a port. -/
def checkPorts (path : FieldPath) (r : StreamRule) : List FieldError :=
  ((path.child "backendRefs").entries r.backendRefs).flatMap fun (path, b) =>
    b.object.checkPort path

end StreamRule

namespace StreamRouteSpec

def fields : Fields StreamRouteSpec :=
  .iso (.cons (.list "parentRefs" ParentReference.codec) <|
      .cons (.someList "hostnames" .text) <|
      .cons (.list "rules" StreamRule.codec) .nil)
    (fun (parentRefs, hostnames, rules, ()) => { parentRefs, hostnames, rules })
    (fun s => (s.parentRefs, s.hostnames, s.rules, ()))

def codec : Codec StreamRouteSpec := .record .plain fields

end StreamRouteSpec

namespace StreamRoute

def fields : Fields StreamRoute :=
  .iso (.cons (.defaulted "metadata" ObjectMeta.codec {}) <|
      .cons (.defaulted "spec" StreamRouteSpec.codec {}) .nil)
    (fun (metadata, spec, ()) => { metadata, spec })
    (fun r => (r.metadata, r.spec, ()))

def codec : Codec StreamRoute := .record .plain fields

/-- The rules with their paths. -/
def rulesAt (r : StreamRoute) : List (FieldPath × StreamRule) :=
  (FieldPath.spec.child "rules").entries r.spec.rules

/-- Every rule. -/
def check (r : StreamRoute) : List FieldError :=
  (r.rulesAt.flatMap fun (path, rule) => rule.checkPorts path)
    ++ ParentReference.check (FieldPath.spec.child "parentRefs") r.spec.parentRefs

end StreamRoute

end GatewayAdmission
