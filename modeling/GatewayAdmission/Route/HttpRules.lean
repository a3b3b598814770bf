import GatewayAdmission.Route.Http
import GatewayAdmission.Text.Pattern

/-!
# Rules of HTTP routes

`HttpRoute.check` holds every rule of the current versions: filters of rules and of backends,
matches, ports of Services, parent references. `HttpRoute.checkUniqueFilters` is the one rule of
the first version.
-/

namespace GatewayAdmission

/-! ## Paths -/

namespace PathMatch

def exact : String := "Exact"

def pathPrefix : String := "PathPrefix"

def regularExpression : String := "RegularExpression"

/-- What a path must not contain. -/
def forbiddenParts : List String := ["//", "/./", "/../", "%2f", "%2F", "#"]

/-- What a path must not end in. -/
def forbiddenEnds : List String := ["/..", "/."]

def hexDigits : List (Char × Char) := [('0', '9'), ('a', 'f'), ('A', 'F')]

/-- Characters of a path, a percent sign with two hexadecimal digits counting as one. -/
def characterForm : Pattern :=
  .atLeastOnce (.either
    (.one ([('A', 'Z'), ('a', 'z'), ('0', '9')]
      ++ "/-._~!$&'()*+,;=:@".toList.map fun c => (c, c)))
    (.sequence [.char '%', .one hexDigits, .one hexDigits]))

def characterSource : String :=
  "^(?:[A-Za-z0-9\\/\\-._~!$&'()*+,;=:@]|[%][0-9a-fA-F]\x7b2\x7d)+$"

/-- Whether one text occurs inside another. -/
def occursIn (part whole : List Char) : Bool :=
  match whole with
  | [] => part.isEmpty
  | c :: rest => part.isPrefixOf (c :: rest) || occursIn part rest

/-- The errors of the value of a path that is matched as it is written. -/
def checkValue (path : FieldPath) (value : String) : List FieldError :=
  let error (broken : Bool) (message : String) : List FieldError :=
    if broken then [.invalid path (.str value) message] else []
  error (value.toList.head? != some '/') "must be an absolute path"
    ++ (forbiddenParts.flatMap fun part => error (occursIn part.toList value.toList)
      ("must not contain " ++ Text.quoted part))
    ++ (forbiddenEnds.flatMap fun ending => error (ending.toList.isSuffixOf value.toList)
      ("cannot end with '" ++ ending ++ "'"))
    ++ error (!characterForm.accepts value)
      ("must only contain valid characters (matching " ++ characterSource ++ ")")

def check (path : FieldPath) (m : PathMatch) : List FieldError :=
  match m.type, m.value with
  | none, _ => [.required (path.child "type") "must be specified"]
  | some _, none => [.required (path.child "value") "must be specified"]
  | some type, some value =>
    if type = exact ∨ type = pathPrefix then checkValue (path.child "value") value
    else if type = regularExpression then []
    else [.notSupported (path.child "type") (.str type) [exact, pathPrefix, regularExpression]]

end PathMatch

namespace PathModifier

def fullPath : String := "ReplaceFullPath"

def prefixMatch : String := "ReplacePrefixMatch"

def valueJson (value : Option String) : Json := Codec.text.optional.write value

/-- A replacement is there for its own type and for no other. -/
def checkReplacement (path : FieldPath) (type own : String) (value : Option String) :
    List FieldError :=
  if value.isSome then
    if type = own then []
    else
      [.invalid path (valueJson value) ("must be nil if the HTTPRouteFilter.Type is not " ++ own)]
  else
    if type = own then
      [.invalid path (valueJson value) ("must not be nil if the HTTPRouteFilter.Type is " ++ own)]
    else []

/-- Whether a rule has one match only, and that by the beginning of the path. -/
def hasOnePrefixMatch (ms : List HttpMatch) : Bool :=
  match ms with
  | [m] => (m.path.bind (·.type)) == some PathMatch.pathPrefix
  | _ => false

def check (path : FieldPath) (ms : List HttpMatch) (m : PathModifier) : List FieldError :=
  checkReplacement path m.type fullPath m.replaceFullPath
    ++ checkReplacement path m.type prefixMatch m.replacePrefixMatch
    ++ if m.type = prefixMatch ∧ m.replacePrefixMatch.isSome ∧ !hasOnePrefixMatch ms then
        [.invalid path (valueJson m.replacePrefixMatch)
          "exactly one PathPrefix match must be specified to use this path modifier"]
      else []

/-- The errors of a modifier that may be there. -/
def checkOptional (path : FieldPath) (ms : List HttpMatch) (m : Option PathModifier) :
    List FieldError :=
  match m with
  | none => []
  | some m => m.check path ms

end PathModifier

/-! ## Filters -/

namespace HttpFilter

def configurations (f : HttpFilter) : List Filter.Configuration :=
  [Filter.configured Filter.extensionRef LocalObjectReference.codec f.extensionRef,
    Filter.configured Filter.requestHeaderModifier HeaderModifier.codec f.requestHeaderModifier,
    Filter.configured Filter.responseHeaderModifier HeaderModifier.codec f.responseHeaderModifier,
    Filter.configured Filter.requestMirror RequestMirror.codec f.requestMirror,
    Filter.configured Filter.requestRedirect RequestRedirect.codec f.requestRedirect,
    Filter.configured Filter.urlRewrite UrlRewrite.codec f.urlRewrite]

/-- The errors of one filter, in a rule with these matches. -/
def check (path : FieldPath) (ms : List HttpMatch) (f : HttpFilter) : List FieldError :=
  PathModifier.checkOptional ((path.child "requestRedirect").child "path") ms
      (f.requestRedirect.bind (·.path))
    ++ PathModifier.checkOptional ((path.child "urlRewrite").child "path") ms
      (f.urlRewrite.bind (·.path))
    ++ Filter.checkModifier path "requestHeaderModifier" f.requestHeaderModifier
    ++ Filter.checkModifier path "responseHeaderModifier" f.responseHeaderModifier
    ++ f.configurations.flatMap (Filter.checkConfiguration path "HTTPRouteFilter" f.type)

/-- The errors of a list of filters, in a rule with these matches. -/
def checkAll (path : FieldPath) (ms : List HttpMatch) (fs : List HttpFilter) : List FieldError :=
  let types := fs.map (·.type)
  ((path.entries fs).flatMap fun (path, f) => f.check path ms)
    ++ (if types.contains Filter.requestRedirect && types.contains Filter.urlRewrite then
        [.invalid path (.str Filter.requestRedirect)
          ("may specify either httpRouteFilterRequestRedirect or httpRouteFilterRequestRewrite, "
            ++ "but not both")]
      else [])
    ++ Filter.checkUnique path types

end HttpFilter

/-! ## Matches -/

namespace QueryParamMatch

/-- An error for every parameter that is matched more than once; case counts in their names. -/
def check (path : FieldPath) (ms : List QueryParamMatch) : List FieldError :=
  (secondOccurrences id (ms.map (·.name))).map fun name =>
    .invalid path (.str name)
      "cannot match the same query parameter multiple times in the same rule"

end QueryParamMatch

namespace HttpMatch

def check (path : FieldPath) (m : HttpMatch) : List FieldError :=
  (match m.path with
    | none => []
    | some p => p.check (path.child "path"))
    ++ HeaderMatch.check (path.child "headers") m.headers
    ++ QueryParamMatch.check (path.child "queryParams") m.queryParams

end HttpMatch

/-! ## Routes -/

namespace HttpRule

/-- The errors of filters and matches. -/
def check (path : FieldPath) (r : HttpRule) : List FieldError :=
  HttpFilter.checkAll (path.child "filters") r.matches_ r.filters
    ++ (((path.child "backendRefs").entries r.backendRefs).flatMap fun (path, b) =>
      HttpFilter.checkAll (path.child "filters") r.matches_ b.filters)
    ++ ((path.child "matches").entries r.matches_).flatMap fun (path, m) => m.check path

/-- The errors of backends that lack a port. -/
def checkPorts (path : FieldPath) (r : HttpRule) : List FieldError :=
  ((path.child "backendRefs").entries r.backendRefs).flatMap fun (path, b) =>
    b.backend.object.checkPort path

end HttpRule

namespace HttpRoute

/-- The rules with their paths. -/
def rulesAt (r : HttpRoute) : List (FieldPath × HttpRule) :=
  (FieldPath.spec.child "rules").entries r.spec.rules

/-- Every filter type but that of extensions may occur once in a rule. -/
def checkUniqueFilters (r : HttpRoute) : List FieldError :=
  r.rulesAt.flatMap fun (path, rule) =>
    Filter.checkUnique (path.child "filters") (rule.filters.map (·.type))

/-- Every rule of the current versions. -/
def check (r : HttpRoute) : List FieldError :=
  (r.rulesAt.flatMap fun (path, rule) => rule.check path)
    ++ (r.rulesAt.flatMap fun (path, rule) => rule.checkPorts path)
    ++ ParentReference.check (FieldPath.spec.child "parentRefs") r.spec.parentRefs

end HttpRoute

end GatewayAdmission
