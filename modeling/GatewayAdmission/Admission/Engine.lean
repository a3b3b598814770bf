import GatewayAdmission.Admission.Registry

/-!
# The engine

From the text of a review to the text of the reply. What creates or changes an object is judged by
the registry; what deletes one or connects to it passes. A request that cannot be judged has no
reply: nothing is allowed for want of a check.
-/

namespace GatewayAdmission

/-- Why there is no reply. -/
inductive ReviewError where
  | missingBody
  | notAdmissionReview
  | missingRequest
  | malformed
  | dispatch (error : DispatchError)
deriving DecidableEq

namespace ReviewError

def message : ReviewError → String
  | missingBody => "admission review object is missing"
  | notAdmissionReview => "submitted object is not of kind AdmissionReview"
  | missingRequest => "admission review request is missing"
  | malformed => DecodeError.readerReason
  | dispatch error => error.message

/-- Whether the fault lies with the text that was sent. -/
def isClientError : ReviewError → Bool
  | dispatch _ => false
  | _ => true

end ReviewError

/-- What was found out about a request. -/
inductive Verdict where
  /-- The operation is not validated. -/
  | unchecked
  | accepted
  | rejected (errors : List FieldError)

namespace Verdict

/-- The verdict on an object with these errors. -/
def ofErrors : List FieldError → Verdict
  | [] => accepted
  | errors => rejected errors

def response (v : Verdict) (uid : String) : AdmissionResponse :=
  match v with
  | unchecked => .passThrough uid
  | accepted => .allow uid
  | rejected errors => .deny uid (FieldError.aggregate errors)

end Verdict

structure Engine where
  registry : Registry

namespace Engine

/-- The engine for every resource of the Gateway API. -/
def gatewayApi : Engine := ⟨.gatewayApi⟩

/-- The verdict on a request. -/
def judge (e : Engine) (q : AdmissionRequest) : Except DispatchError Verdict :=
  if q.operation.isValidated then (e.registry.dispatch q).map .ofErrors else .ok .unchecked

/-- The response to a request. -/
def evaluate (e : Engine) (q : AdmissionRequest) : Except ReviewError AdmissionResponse :=
  ((e.judge q).map (·.response q.uid)).mapError .dispatch

/-- The review in a text, together with the request in it. -/
def decodeReview (body : ByteArray) : Except ReviewError (AdmissionReview × AdmissionRequest) :=
  if body.isEmpty then .error .missingBody
  else match AdmissionReview.isReview? body with
    | none => .error .malformed
    | some false => .error .notAdmissionReview
    | some true =>
      match AdmissionReview.decode? body with
      | none => .error .malformed
      | some review =>
        match review.request with
        | none => .error .missingRequest
        | some request => .ok (review, request)

/-- The text of a review with its response. -/
def respond (review : AdmissionReview) (response : AdmissionResponse) : String :=
  { review with response := some response }.encode

/-- The text of the reply to a text. -/
def review (e : Engine) (body : ByteArray) : Except ReviewError String := do
  let (review, request) ← decodeReview body
  let response ← e.evaluate request
  return respond review response

end Engine

end GatewayAdmission
