import GatewayAdmission.Admission.Engine

/-!
# The HTTP service

One endpoint: a review posted to `/validate` is answered by its reply. A text that is no review is
the fault of the client; a review that cannot be judged is not. A text of more octets than
`Service.bodyLimit` is not looked at.

`Service.serve` gives the answer to a request together with its span, the record of what was learnt
on the way: the request once it is read, and the verdict once there is one.
-/

namespace GatewayAdmission

/-- A request with the whole of its body. -/
structure HttpRequest where
  method : String
  /-- The path, possibly with a query behind it, or a whole address. -/
  target : String
  body : ByteArray

structure HttpAnswer where
  status : Nat
  contentType : Option String
  body : String
deriving DecidableEq

/-- What is recorded about a request. -/
structure Span where
  requestUid : Option String := none
  operation : Option String := none
  resourceGroup : Option String := none
  resourceVersion : Option String := none
  resource : Option String := none
  allowed : Option Bool := none
  responseCode : Option UInt16 := none
deriving DecidableEq

namespace HttpRequest

/-- What stands behind the scheme of an address, `none` if there is no scheme. -/
def afterScheme? : List Char → Option (List Char)
  | ':' :: '/' :: '/' :: rest => some rest
  | _ :: rest => afterScheme? rest
  | [] => none

/-- The text up to its query or fragment. -/
def withoutQuery (cs : List Char) : List Char := cs.takeWhile fun c => c ≠ '?' ∧ c ≠ '#'

/-- The path of the target. In an address it starts behind the name of the host, and is a slash if
nothing stands there; a target that is a host alone has none. -/
def path (r : HttpRequest) : String :=
  let target := withoutQuery r.target.toList
  if target.head? == some '/' || target = ['*'] then String.ofList target
  else match afterScheme? target with
    | none => ""
    | some address =>
      let path := address.dropWhile (· ≠ '/')
      if path.isEmpty then "/" else String.ofList path

end HttpRequest

namespace HttpAnswer

def json (body : String) : HttpAnswer := ⟨200, some "application/json", body⟩

/-- A message on a line of its own. -/
def message (status : Nat) (text : String) : HttpAnswer :=
  ⟨status, some "text/plain; charset=utf-8", text ++ "\n"⟩

def notFound : HttpAnswer := ⟨404, none, ""⟩

def methodNotAllowed (method : String) : HttpAnswer :=
  message 405 ("invalid method " ++ method ++ ", only POST requests are allowed")

/-- The answer to a text that is too long to be read. It does not end its line. -/
def tooLarge : HttpAnswer :=
  ⟨413, some "text/plain; charset=utf-8",
    "Failed to buffer the request body: length limit exceeded"⟩

/-- The answer where there is no reply. -/
def ofError (e : ReviewError) : HttpAnswer :=
  message (if e.isClientError then 400 else 500) e.message

/-- The answer without its body. -/
def head (a : HttpAnswer) : HttpAnswer := { a with body := "" }

end HttpAnswer

namespace Span

/-- The record of a request that has been read. -/
def ofRequest (q : AdmissionRequest) : Span where
  requestUid := some q.uid
  operation := some q.operation.text
  resourceGroup := some q.resource.group
  resourceVersion := some q.resource.version
  resource := some q.resource.resource

/-- The record with the verdict in it. -/
def withResponse (s : Span) (r : AdmissionResponse) : Span :=
  { s with allowed := some r.allowed, responseCode := r.status.bind (·.code) }

end Span

namespace Service

def validatePath : String := "/validate"

/-- The most octets that are read of a text. -/
def bodyLimit : Nat := 2097152

/-- The answer to a text that has been read. -/
def validate (e : Engine) (body : ByteArray) : HttpAnswer × Span :=
  match Engine.decodeReview body with
  | .error err => (.ofError err, {})
  | .ok (review, q) =>
    match e.evaluate q with
    | .error err => (.ofError err, .ofRequest q)
    | .ok response =>
      (.json (Engine.respond review response), (Span.ofRequest q).withResponse response)

/-- The answer to a posted text. -/
def post (e : Engine) (body : ByteArray) : HttpAnswer × Span :=
  if bodyLimit < body.size then (.tooLarge, {}) else validate e body

/-- The answer to a request. -/
def serve (e : Engine) (r : HttpRequest) : HttpAnswer × Span :=
  if r.path ≠ validatePath then (.notFound, {})
  else if r.method = "POST" then post e r.body
  else if r.method = "HEAD" then ((HttpAnswer.methodNotAllowed r.method).head, {})
  else (.methodNotAllowed r.method, {})

end Service

end GatewayAdmission
