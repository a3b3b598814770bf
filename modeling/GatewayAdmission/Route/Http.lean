import GatewayAdmission.Kubernetes.Metadata
import GatewayAdmission.Route.Filter
import GatewayAdmission.Route.Parent

/-!
# HTTP routes

The parts of an HTTPRoute that rules are about, and how they stand in an object.
-/

namespace GatewayAdmission

/-- What is put in place of a path or of its matched beginning. -/
structure PathModifier where
  type : String
  replaceFullPath : Option String
  replacePrefixMatch : Option String

structure RequestRedirect where
  scheme : Option String
  hostname : Option String
  path : Option PathModifier
  port : Option Int32
  statusCode : Option Int32

structure UrlRewrite where
  hostname : Option String
  path : Option PathModifier

structure HttpFilter where
  type : String
  requestHeaderModifier : Option HeaderModifier
  responseHeaderModifier : Option HeaderModifier
  requestMirror : Option RequestMirror
  requestRedirect : Option RequestRedirect
  urlRewrite : Option UrlRewrite
  extensionRef : Option LocalObjectReference

structure HttpBackendRef where
  backend : BackendRef
  filters : List HttpFilter

structure PathMatch where
  type : Option String
  value : Option String

structure QueryParamMatch where
  type : Option String
  name : String
  value : String

structure HttpMatch where
  path : Option PathMatch
  headers : List HeaderMatch
  queryParams : List QueryParamMatch
  method : Option String

structure HttpRule where
  matches_ : List HttpMatch
  filters : List HttpFilter
  backendRefs : List HttpBackendRef

structure HttpRouteSpec where
  parentRefs : List ParentReference := []
  hostnames : List String := []
  rules : List HttpRule := []

structure HttpRoute where
  metadata : ObjectMeta
  spec : HttpRouteSpec

namespace PathModifier

def fields : Fields PathModifier :=
  .iso (.cons (.defaulted "type" .text "") <|
      .cons (.optional "replaceFullPath" .text) <|
      .cons (.optional "replacePrefixMatch" .text) .nil)
    (fun (type, replaceFullPath, replacePrefixMatch, ()) =>
      { type, replaceFullPath, replacePrefixMatch })
    (fun m => (m.type, m.replaceFullPath, m.replacePrefixMatch, ()))

def codec : Codec PathModifier := .record .plain fields

end PathModifier

namespace RequestRedirect

def fields : Fields RequestRedirect :=
  .iso (.cons (.optional "scheme" .text) <|
      .cons (.optional "hostname" .text) <|
      .cons (.optional "path" PathModifier.codec) <|
      .cons (.optional "port" .int32) <|
      .cons (.optional "statusCode" .int32) .nil)
    (fun (scheme, hostname, path, port, statusCode, ()) =>
      { scheme, hostname, path, port, statusCode })
    (fun r => (r.scheme, r.hostname, r.path, r.port, r.statusCode, ()))

def codec : Codec RequestRedirect := .record .plain fields

end RequestRedirect

namespace UrlRewrite

def fields : Fields UrlRewrite :=
  .iso (.cons (.optional "hostname" .text) <| .cons (.optional "path" PathModifier.codec) .nil)
    (fun (hostname, path, ()) => { hostname, path })
    (fun r => (r.hostname, r.path, ()))

def codec : Codec UrlRewrite := .record .plain fields

end UrlRewrite

namespace HttpFilter

def fields : Fields HttpFilter :=
  .iso (.cons (.defaulted "type" .text "") <|
      .cons (.optional "requestHeaderModifier" HeaderModifier.codec) <|
      .cons (.optional "responseHeaderModifier" HeaderModifier.codec) <|
      .cons (.optional "requestMirror" RequestMirror.codec) <|
      .cons (.optional "requestRedirect" RequestRedirect.codec) <|
      .cons (.optional "urlRewrite" UrlRewrite.codec) <|
      .cons (.optional "extensionRef" LocalObjectReference.codec) .nil)
    (fun (type, requestHeaderModifier, responseHeaderModifier, requestMirror, requestRedirect,
        urlRewrite, extensionRef, ()) =>
      { type, requestHeaderModifier, responseHeaderModifier, requestMirror, requestRedirect,
        urlRewrite, extensionRef })
    (fun f => (f.type, f.requestHeaderModifier, f.responseHeaderModifier, f.requestMirror,
      f.requestRedirect, f.urlRewrite, f.extensionRef, ()))

def codec : Codec HttpFilter := .record .plain fields

end HttpFilter

namespace HttpBackendRef

def fields : Fields HttpBackendRef :=
  .iso (.inline BackendRef.fields <| .cons (.list "filters" HttpFilter.codec) .nil)
    (fun (backend, filters, ()) => { backend, filters })
    (fun r => (r.backend, r.filters, ()))

def codec : Codec HttpBackendRef := .record .shared fields

end HttpBackendRef

namespace PathMatch

def fields : Fields PathMatch :=
  .iso (.cons (.optional "type" .text) <| .cons (.optional "value" .text) .nil)
    (fun (type, value, ()) => { type, value })
    (fun m => (m.type, m.value, ()))

def codec : Codec PathMatch := .record .plain fields

end PathMatch

namespace QueryParamMatch

def fields : Fields QueryParamMatch :=
  .iso (.cons (.optional "type" .text) <|
      .cons (.defaulted "name" .text "") <|
      .cons (.defaulted "value" .text "") .nil)
    (fun (type, name, value, ()) => { type, name, value })
    (fun m => (m.type, m.name, m.value, ()))

def codec : Codec QueryParamMatch := .record .plain fields

end QueryParamMatch

namespace HttpMatch

def fields : Fields HttpMatch :=
  .iso (.cons (.optional "path" PathMatch.codec) <|
      .cons (.list "headers" HeaderMatch.codec) <|
      .cons (.list "queryParams" QueryParamMatch.codec) <|
      .cons (.optional "method" .text) .nil)
    (fun (path, headers, queryParams, method, ()) => { path, headers, queryParams, method })
    (fun m => (m.path, m.headers, m.queryParams, m.method, ()))

def codec : Codec HttpMatch := .record .plain fields

end HttpMatch

namespace HttpRule

def fields : Fields HttpRule :=
  .iso (.cons (.list "matches" HttpMatch.codec) <|
      .cons (.list "filters" HttpFilter.codec) <|
      .cons (.list "backendRefs" HttpBackendRef.codec) .nil)
    (fun (matches_, filters, backendRefs, ()) => { matches_, filters, backendRefs })
    (fun r => (r.matches_, r.filters, r.backendRefs, ()))

def codec : Codec HttpRule := .record .plain fields

end HttpRule

namespace HttpRouteSpec

def fields : Fields HttpRouteSpec :=
  .iso (.cons (.list "parentRefs" ParentReference.codec) <|
      .cons (.list "hostnames" .text) <|
      .cons (.list "rules" HttpRule.codec) .nil)
    (fun (parentRefs, hostnames, rules, ()) => { parentRefs, hostnames, rules })
    (fun s => (s.parentRefs, s.hostnames, s.rules, ()))

def codec : Codec HttpRouteSpec := .record .plain fields

end HttpRouteSpec

namespace HttpRoute

def fields : Fields HttpRoute :=
  .iso (.cons (.defaulted "metadata" ObjectMeta.codec {}) <|
      .cons (.defaulted "spec" HttpRouteSpec.codec {}) .nil)
    (fun (metadata, spec, ()) => { metadata, spec })
    (fun r => (r.metadata, r.spec, ()))

def codec : Codec HttpRoute := .record .plain fields

end HttpRoute

end GatewayAdmission
