import GatewayAdmission.Admission.Engine
import GatewayAdmission.Config

/-!
# Events

What the webhook tells the log: the resources it registers, what becomes of each review, and how
the program starts and fails. `Engine.announcements` are the events of an engine at its start,
`Engine.reviewEvents` those of one review.
-/

namespace GatewayAdmission

inductive Event where
  | registered (identity : ResourceIdentity) (kind : ResourceKind)
  | unchecked (uid : String) (operation : Operation)
  | rejected (uid : String) (identity : ResourceIdentity) (errors : Nat)
  | evaluated (response : AdmissionResponse)
  | configured (config : Config)
  | ready (resources : Nat)
  /-- A request has failed through no fault of the client. -/
  | requestFailed (status : Nat) (reason : String)
  /-- The program cannot go on. -/
  | failed (reason : String)

/-- The value of a field of an event. -/
inductive LogValue where
  /-- A text, put in quotes where that tells it from what is around it. -/
  | text (s : String)
  /-- The shown form of something else, never put in quotes. -/
  | shown (s : String)
  | count (n : Nat)
deriving DecidableEq

namespace AdmissionResponse

/-- The response as the log shows it. -/
def shown (r : AdmissionResponse) : String :=
  Text.shownRecord "AdmissionResponse" [
    ("uid", Text.quoted r.uid),
    ("allowed", Text.shownFlag r.allowed),
    ("status", Text.shownOption (fun (s : ResponseStatus) =>
      Text.shownRecord "AdmissionResponseStatus" [
        ("message", Text.shownOption Text.quoted s.message),
        ("code", Text.shownOption (fun (c : UInt16) => toString c.toNat) s.code)]) r.status)]

end AdmissionResponse

namespace Event

def level : Event → LogLevel
  | registered .. | unchecked .. | evaluated _ | configured _ => .debug
  | rejected .. | ready _ => .info
  | requestFailed .. | failed _ => .error

/-- The part of the program that the event comes from. -/
def target : Event → String
  | registered .. => "gateway_validator::registry"
  | unchecked .. | rejected .. | evaluated _ => "gateway_validator::engine"
  | ready _ => "admission_server"
  | requestFailed .. => "admission_server::api::api_error"
  | configured _ | failed _ => "gateway_admission_server"

def message : Event → String
  | registered .. => "registering resource"
  | unchecked .. => "operation not validated"
  | rejected .. => "request rejected"
  | evaluated _ => "request evaluated"
  | configured _ => "tracing system ready"
  | ready _ => "admission engine ready"
  | requestFailed _ reason | failed reason => reason

/-- What the event is about, in the order of a line. -/
def fields : Event → List (String × LogValue)
  | registered identity kind =>
    [("resource", .shown identity.text), ("kind", .text kind.text)]
  | unchecked uid operation => [("uid", .text uid), ("operation", .shown operation.text)]
  | rejected uid identity errors =>
    [("uid", .text uid), ("resource", .shown identity.text), ("errors", .count errors)]
  | evaluated response => [("response", .shown response.shown)]
  | configured config => [("config", .shown config.shown)]
  | ready resources => [("resources", .count resources)]
  | requestFailed status _ => [("status", .count status)]
  | failed _ => []

end Event

namespace Verdict

/-- What a verdict tells the log beside the response. -/
def events (v : Verdict) (q : AdmissionRequest) : List Event :=
  match v with
  | unchecked => [.unchecked q.uid q.operation]
  | accepted => []
  | rejected errors => [.rejected q.uid q.resource errors.length]

end Verdict

namespace Engine

/-- The registrations, in their order. -/
def announcements (e : Engine) : List Event :=
  e.registry.registrations.reverse.map fun (identity, check) => .registered identity check.kind

/-- What becomes of the review of a text. -/
def reviewEvents (e : Engine) (body : ByteArray) : List Event :=
  match decodeReview body with
  | .error _ => []
  | .ok (_, q) =>
    match e.judge q with
    | .error _ => []
    | .ok v => v.events q ++ [.evaluated (v.response q.uid)]

end Engine

end GatewayAdmission
