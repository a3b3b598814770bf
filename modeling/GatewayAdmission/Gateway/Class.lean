import GatewayAdmission.Field.Error
import GatewayAdmission.Kubernetes.Metadata

/-!
# Gateway classes

A GatewayClass belongs to a controller. The controller may be chosen once: an update that names
another one is an error.
-/

namespace GatewayAdmission

structure ParametersReference where
  group : String
  kind : String
  name : String
  namespace_ : Option String

structure GatewayClassSpec where
  controllerName : String := ""
  parametersRef : Option ParametersReference := none
  description : Option String := none

structure GatewayClass where
  metadata : ObjectMeta
  spec : GatewayClassSpec

namespace ParametersReference

def fields : Fields ParametersReference :=
  .iso (.cons (.defaulted "group" .text "") <|
      .cons (.defaulted "kind" .text "") <|
      .cons (.defaulted "name" .text "") <|
      .cons (.optional "namespace" .text) .nil)
    (fun (group, kind, name, namespace_, ()) => { group, kind, name, namespace_ })
    (fun r => (r.group, r.kind, r.name, r.namespace_, ()))

def codec : Codec ParametersReference := .record .plain fields

end ParametersReference

namespace GatewayClassSpec

def fields : Fields GatewayClassSpec :=
  .iso (.cons (.defaulted "controllerName" .text "") <|
      .cons (.optional "parametersRef" ParametersReference.codec) <|
      .cons (.optional "description" .text) .nil)
    (fun (controllerName, parametersRef, description, ()) =>
      { controllerName, parametersRef, description })
    (fun s => (s.controllerName, s.parametersRef, s.description, ()))

def codec : Codec GatewayClassSpec := .record .plain fields

end GatewayClassSpec

namespace GatewayClass

def fields : Fields GatewayClass :=
  .iso (.cons (.defaulted "metadata" ObjectMeta.codec {}) <|
      .cons (.defaulted "spec" GatewayClassSpec.codec {}) .nil)
    (fun (metadata, spec, ()) => { metadata, spec })
    (fun c => (c.metadata, c.spec, ()))

def codec : Codec GatewayClass := .record .plain fields

/-- The controller of a class stays the same. -/
def checkUpdate (old new : GatewayClass) : List FieldError :=
  if old.spec.controllerName = new.spec.controllerName then []
  else [.invalid (FieldPath.spec.child "controllerName") (.str new.spec.controllerName)
    "cannot update an immutable field"]

end GatewayClass

end GatewayAdmission
