import GatewayAdmission.Route.Grpc
import GatewayAdmission.Text.Pattern

/-!
# Rules of gRPC routes

`GrpcRoute.check` holds every rule: matches, filters of rules and of backends, parent references.
Names of services and methods are checked only where they are meant as they are written.
-/

namespace GatewayAdmission

/-! ## Method matches -/

namespace MethodMatch

/-- Letters of either case and the low line. Two more characters are the letters k and s when
case is ignored: the Kelvin sign and the long s. -/
def serviceLetters : List (Char × Char) :=
  [('a', 'z'), ('A', 'Z'), ('_', '_'), ('\u017f', '\u017f'), ('\u212a', '\u212a')]

def serviceWord : Pattern :=
  .seq (.one serviceLetters) (.many (.one (('0', '9') :: serviceLetters)))

/-- Words with points between them, possibly after a point. -/
def serviceForm : Pattern :=
  .seq (.optional (.char '.')) (.seq serviceWord (.many (.seq (.char '.') serviceWord)))

def serviceSource : String := "^(?i)\\.?[a-z_][a-z_0-9]*(\\.[a-z_][a-z_0-9]*)*$"

def methodLetters : List (Char × Char) := [('A', 'Z'), ('a', 'z'), ('_', '_')]

def methodForm : Pattern :=
  .seq (.one methodLetters) (.many (.one (('0', '9') :: methodLetters)))

def methodSource : String := "^[A-Za-z_][A-Za-z_0-9]*$"

/-- An error for a name that is there and does not have its form. -/
def checkName (path : FieldPath) (form : Pattern) (source : String) (name : Option String) :
    List FieldError :=
  match name with
  | none => []
  | some name =>
    if form.accepts name then []
    else [.invalid path (.str name)
      ("must only contain valid characters (matching " ++ source ++ ")")]

def check (path : FieldPath) (m : MethodMatch) : List FieldError :=
  (if m.service.isNone && m.method.isNone then
      [.required path "one or both of `service` or `method` must be specified"]
    else [])
    ++ if m.isExact then
        checkName path serviceForm serviceSource m.service
          ++ checkName path methodForm methodSource m.method
      else []

end MethodMatch

namespace GrpcMatch

def check (path : FieldPath) (m : GrpcMatch) : List FieldError :=
  (match m.method with
    | none => []
    | some method => method.check (path.child "method"))
    ++ HeaderMatch.check (path.child "headers") m.headers

end GrpcMatch

/-! ## Filters -/

namespace GrpcFilter

def configurations (f : GrpcFilter) : List Filter.Configuration :=
  [Filter.configured Filter.extensionRef LocalObjectReference.codec f.extensionRef,
    Filter.configured Filter.requestHeaderModifier HeaderModifier.codec f.requestHeaderModifier,
    Filter.configured Filter.responseHeaderModifier HeaderModifier.codec f.responseHeaderModifier,
    Filter.configured Filter.requestMirror RequestMirror.codec f.requestMirror]

/-- The errors of one filter. -/
def check (path : FieldPath) (f : GrpcFilter) : List FieldError :=
  Filter.checkModifier path "requestHeaderModifier" f.requestHeaderModifier
    ++ Filter.checkModifier path "responseHeaderModifier" f.responseHeaderModifier
    ++ f.configurations.flatMap (Filter.checkConfiguration path "GRPCRouteFilter" f.type)

/-- The errors of a list of filters. -/
def checkAll (path : FieldPath) (fs : List GrpcFilter) : List FieldError :=
  ((path.entries fs).flatMap fun (path, f) => f.check path)
    ++ Filter.checkUnique path (fs.map (·.type))

end GrpcFilter

/-! ## Routes -/

namespace GrpcRule

def check (path : FieldPath) (r : GrpcRule) : List FieldError :=
  (((path.child "matches").entries r.matches_).flatMap fun (path, m) => m.check path)
    ++ GrpcFilter.checkAll (path.child "filters") r.filters
    ++ ((path.child "backendRefs").entries r.backendRefs).flatMap fun (path, b) =>
      GrpcFilter.checkAll (path.child "filters") b.filters

end GrpcRule

namespace GrpcRoute

/-- The rules with their paths. -/
def rulesAt (r : GrpcRoute) : List (FieldPath × GrpcRule) :=
  (FieldPath.spec.child "rules").entries r.spec.rules

/-- Every rule. -/
def check (r : GrpcRoute) : List FieldError :=
  (r.rulesAt.flatMap fun (path, rule) => rule.check path)
    ++ ParentReference.check (FieldPath.spec.child "parentRefs") r.spec.parentRefs

end GrpcRoute

end GatewayAdmission
