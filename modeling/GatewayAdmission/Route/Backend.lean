import GatewayAdmission.Field.Error
import GatewayAdmission.Json.Record

/-!
# Backend references

Where a route sends its requests. A backend that is a Service of the core group needs a port.
-/

namespace GatewayAdmission

structure BackendObjectReference where
  group : Option String := none
  kind : Option String := none
  name : String := ""
  namespace_ : Option String := none
  port : Option Int32 := none

/-- A backend with its share of the requests. -/
structure BackendRef where
  object : BackendObjectReference
  weight : Option Int32

/-- An object in the namespace of the route. -/
structure LocalObjectReference where
  group : String
  kind : String
  name : String

namespace BackendObjectReference

def fields : Fields BackendObjectReference :=
  .iso (.cons (.optional "group" .text) <|
      .cons (.optional "kind" .text) <|
      .cons (.defaulted "name" .text "") <|
      .cons (.optional "namespace" .text) <|
      .cons (.optional "port" .int32) .nil)
    (fun (group, kind, name, namespace_, port, ()) => { group, kind, name, namespace_, port })
    (fun r => (r.group, r.kind, r.name, r.namespace_, r.port, ()))

def codec : Codec BackendObjectReference := .record .plain fields

/-- Whether a Service of the core group is meant, which is so if nothing else is said. -/
def isService (r : BackendObjectReference) : Bool :=
  (r.group.getD "").isEmpty && r.kind.getD "Service" == "Service"

/-- An error if the reference is to a Service and has no port. -/
def checkPort (path : FieldPath) (r : BackendObjectReference) : List FieldError :=
  if r.isService && r.port.isNone then
    [.required (path.child "port") "missing port for Service reference"]
  else []

end BackendObjectReference

namespace BackendRef

def fields : Fields BackendRef :=
  .iso (.inline BackendObjectReference.fields <| .cons (.optional "weight" .int32) .nil)
    (fun (object, weight, ()) => { object, weight })
    (fun r => (r.object, r.weight, ()))

def codec : Codec BackendRef := .record .shared fields

end BackendRef

namespace LocalObjectReference

def fields : Fields LocalObjectReference :=
  .iso (.cons (.defaulted "group" .text "") <|
      .cons (.defaulted "kind" .text "") <|
      .cons (.defaulted "name" .text "") .nil)
    (fun (group, kind, name, ()) => { group, kind, name })
    (fun r => (r.group, r.kind, r.name, ()))

def codec : Codec LocalObjectReference := .record .plain fields

end LocalObjectReference

end GatewayAdmission
