import GatewayAdmission.Json.Printer
import GatewayAdmission.Kubernetes.Metadata

/-!
# Admission reviews

A review is the envelope in which the API server asks about an object and gets its answer: the
request is sent back as it came, with a response beside it.

`AdmissionReview.decode?` reads an envelope, `AdmissionReview.encode` writes one, and
`AdmissionReview.isReview?` reads no more of a text than the kind it names.
-/

namespace GatewayAdmission

inductive Operation where
  | create
  | update
  | delete
  | connect
deriving DecidableEq

/-- The group, version and resource that a request is about. -/
structure ResourceIdentity where
  group : String := ""
  version : String := ""
  resource : String := ""
deriving DecidableEq

structure GroupVersionKind where
  group : String
  version : String
  kind : String
deriving DecidableEq

structure AdmissionRequest where
  uid : String
  kind : Option GroupVersionKind
  resource : ResourceIdentity
  subResource : Option String
  requestKind : Option GroupVersionKind
  requestResource : Option ResourceIdentity
  requestSubResource : Option String
  name : Option String
  namespace_ : Option String
  operation : Operation
  userInfo : Option UserInfo
  object : Option Raw
  oldObject : Option Raw
  dryRun : Option Bool
  options : Option Raw

structure ResponseStatus where
  message : Option String
  code : Option UInt16
deriving DecidableEq

structure AdmissionResponse where
  uid : String
  allowed : Bool
  status : Option ResponseStatus
deriving DecidableEq

structure AdmissionReview where
  kind : String
  apiVersion : String
  request : Option AdmissionRequest
  response : Option AdmissionResponse

/-! ## Operations and identities -/

namespace Operation

def text : Operation → String
  | create => "CREATE"
  | update => "UPDATE"
  | delete => "DELETE"
  | connect => "CONNECT"

def codec : Codec Operation :=
  .choice ([create, update, delete, connect].map fun o => (o.text, o)) text

/-- Only what creates or changes an object is validated. -/
def isValidated : Operation → Bool
  | create | update => true
  | delete | connect => false

end Operation

namespace ResourceIdentity

def fields : Fields ResourceIdentity :=
  .iso (.cons (.defaulted "group" .text "") <|
      .cons (.defaulted "version" .text "") <|
      .cons (.defaulted "resource" .text "") .nil)
    (fun (group, version, resource, ()) => { group, version, resource })
    (fun i => (i.group, i.version, i.resource, ()))

def codec : Codec ResourceIdentity := .record .plain fields

def text (i : ResourceIdentity) : String :=
  i.group ++ "/" ++ i.version ++ ", Resource=" ++ i.resource

end ResourceIdentity

namespace GroupVersionKind

def fields : Fields GroupVersionKind :=
  .iso (.cons (.defaulted "group" .text "") <|
      .cons (.required "version" .text) <|
      .cons (.required "kind" .text) .nil)
    (fun (group, version, kind, ()) => { group, version, kind })
    (fun k => (k.group, k.version, k.kind, ()))

def codec : Codec GroupVersionKind := .record .plain fields

end GroupVersionKind

/-! ## Requests -/

namespace AdmissionRequest

/-- A request that says no more than what is asked about. -/
def new (uid : String) (resource : ResourceIdentity) (operation : Operation) :
    AdmissionRequest where
  uid
  kind := none
  resource
  subResource := none
  requestKind := none
  requestResource := none
  requestSubResource := none
  name := none
  namespace_ := none
  operation
  userInfo := none
  object := none
  oldObject := none
  dryRun := none
  options := none

def fields : Fields AdmissionRequest :=
  .iso (.cons (.defaulted "uid" .text "") <|
      .cons (.optionalNamed "kind" GroupVersionKind.codec) <|
      .cons (.defaulted "resource" ResourceIdentity.codec {}) <|
      .cons (.optionalNamed "subResource" .text) <|
      .cons (.optionalNamed "requestKind" GroupVersionKind.codec) <|
      .cons (.optionalNamed "requestResource" ResourceIdentity.codec) <|
      .cons (.optionalNamed "requestSubResource" .text) <|
      .cons (.optionalNamed "name" .text) <|
      .cons (.optionalNamed "namespace" .text) <|
      .cons (.required "operation" Operation.codec) <|
      .cons (.optionalNamed "userInfo" UserInfo.codec) <|
      .cons (.optionalNamed "object" .raw) <|
      .cons (.optionalNamed "oldObject" .raw) <|
      .cons (.optionalNamed "dryRun" .flag) <|
      .cons (.optionalNamed "options" .raw) .nil)
    (fun (uid, kind, resource, subResource, requestKind, requestResource, requestSubResource,
        name, namespace_, operation, userInfo, object, oldObject, dryRun, options, ()) =>
      { uid, kind, resource, subResource, requestKind, requestResource, requestSubResource,
        name, namespace_, operation, userInfo, object, oldObject, dryRun, options })
    (fun r => (r.uid, r.kind, r.resource, r.subResource, r.requestKind, r.requestResource,
      r.requestSubResource, r.name, r.namespace_, r.operation, r.userInfo, r.object,
      r.oldObject, r.dryRun, r.options, ()))

def codec : Codec AdmissionRequest := .record .plain fields

end AdmissionRequest

/-! ## Responses -/

namespace ResponseStatus

def fields : Fields ResponseStatus :=
  .iso (.cons (.optionalNamed "message" .text) <|
      .cons (.optionalNamed "code" .uint16) .nil)
    (fun (message, code, ()) => { message, code })
    (fun s => (s.message, s.code, ()))

def codec : Codec ResponseStatus := .record .plain fields

end ResponseStatus

namespace AdmissionResponse

def fields : Fields AdmissionResponse :=
  .iso (.cons (.required "uid" .text) <|
      .cons (.required "allowed" .flag) <|
      .cons (.optionalNamed "status" ResponseStatus.codec) .nil)
    (fun (uid, allowed, status, ()) => { uid, allowed, status })
    (fun r => (r.uid, r.allowed, r.status, ()))

def codec : Codec AdmissionResponse := .record .plain fields

/-- The request has passed every check. -/
def allow (uid : String) : AdmissionResponse := ⟨uid, true, some ⟨none, none⟩⟩

/-- The request is let through without a look at it. -/
def passThrough (uid : String) : AdmissionResponse := ⟨uid, true, none⟩

/-- The request is denied for the reasons in the message. -/
def deny (uid message : String) : AdmissionResponse := ⟨uid, false, some ⟨some message, some 400⟩⟩

end AdmissionResponse

/-! ## Envelopes -/

namespace AdmissionReview

def reviewKind : String := "AdmissionReview"

/-- A fresh envelope around a request. -/
def new (request : AdmissionRequest) : AdmissionReview :=
  ⟨reviewKind, "admission.k8s.io/v1", some request, none⟩

def fields : Fields AdmissionReview :=
  .iso (.cons (.someText "kind") <|
      .cons (.someText "apiVersion") <|
      .cons (.optionalNamed "request" AdmissionRequest.codec) <|
      .cons (.optionalNamed "response" AdmissionResponse.codec) .nil)
    (fun (kind, apiVersion, request, response, ()) => { kind, apiVersion, request, response })
    (fun r => (r.kind, r.apiVersion, r.request, r.response, ()))

def codec : Codec AdmissionReview := .record .plain fields

/-- The kind that a text names, all else being ignored. -/
def kindCodec : Codec (Option String) :=
  .record .plain (.iso (.cons (.optional "kind" .text) .nil) (·.1) (·, ()))

/-- Whether a text names the kind of a review; `none` if it cannot be read that far. -/
def isReview? (body : ByteArray) : Option Bool :=
  (Document.parse? body.data.toList).bind fun d =>
    (kindCodec.read .ofText d).map (· == some reviewKind)

/-- The envelope in a text. -/
def decode? (body : ByteArray) : Option AdmissionReview :=
  (Document.parse? body.data.toList).bind (codec.read .ofText)

/-- The text of an envelope. -/
def encode (r : AdmissionReview) : String := (codec.write r).render

end AdmissionReview

end GatewayAdmission
