import GatewayAdmission.Route.Backend
import GatewayAdmission.Route.Header

/-!
# Filters

A filter names its type and holds the configuration of that type and no other. These are the rules
that the filters of all routes share; a configuration is here a value under the name of its type.
-/

namespace GatewayAdmission

/-- A copy of each request goes to this backend. -/
structure RequestMirror where
  backendRef : BackendObjectReference := {}

namespace RequestMirror

def fields : Fields RequestMirror :=
  .iso (.cons (.defaulted "backendRef" BackendObjectReference.codec {}) .nil)
    (fun (backendRef, ()) => { backendRef })
    (fun m => (m.backendRef, ()))

def codec : Codec RequestMirror := .record .plain fields

end RequestMirror

namespace Filter

/-! ## Types of filters -/

def requestHeaderModifier : String := "RequestHeaderModifier"

def responseHeaderModifier : String := "ResponseHeaderModifier"

def requestMirror : String := "RequestMirror"

def requestRedirect : String := "RequestRedirect"

def urlRewrite : String := "URLRewrite"

def extensionRef : String := "ExtensionRef"

/-! ## Rules -/

/-- What a filter holds under the name of a type. -/
structure Configuration where
  type : String
  value : Option Json

/-- The configuration of a type, its value with sorted entries. -/
def configured {α : Type} (type : String) (codec : Codec α) (value : Option α) : Configuration :=
  ⟨type, value.map fun a => (codec.write a).sorted⟩

/-- An error if a configuration is there for another type, or missing for the type itself. -/
def checkConfiguration (path : FieldPath) (family type : String) (c : Configuration) :
    List FieldError :=
  match c.value with
  | some value =>
    if c.type = type then []
    else [.invalid path value ("must be nil if the " ++ family ++ ".Type is not " ++ c.type)]
  | none =>
    if c.type = type then
      [.required path ("filter." ++ c.type ++ " must be specified for " ++ c.type ++ " "
        ++ family ++ ".Type")]
    else []

/-- An error for every type that occurs more than once, extensions apart. -/
def checkUnique (path : FieldPath) (types : List String) : List FieldError :=
  (secondOccurrences id (types.filter (· != extensionRef))).map fun type =>
    .invalid path (.str type) "cannot be used multiple times in the same rule"

/-- The errors of a header modifier that may be there. -/
def checkModifier (path : FieldPath) (name : String) (m : Option HeaderModifier) :
    List FieldError :=
  match m with
  | none => []
  | some m => m.check (path.child name)

end Filter

end GatewayAdmission
