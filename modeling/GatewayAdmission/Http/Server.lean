import GatewayAdmission.Http.Service
import GatewayAdmission.Pem.Keypair

/-!
# The server

The service with a keypair, counting the requests and the connections under way. A request is
under way from its arrival until its answer has been read.
-/

namespace GatewayAdmission

structure Server where
  keypair : Keypair
  engine : Engine
  inFlight : Nat := 0
  connections : Nat := 0

namespace Server

/-- The server of the webhook. -/
def new (keypair : Keypair) : Server := { keypair, engine := .gatewayApi }

def arrive (s : Server) : Server := { s with inFlight := s.inFlight + 1 }

def leave (s : Server) : Server := { s with inFlight := s.inFlight - 1 }

/-- The answer to a request, and the server once the answer has been read. -/
def handle (s : Server) (r : HttpRequest) : (HttpAnswer × Span) × Server :=
  let busy := s.arrive
  (Service.serve busy.engine r, busy.leave)

/-- The answers to requests that come one after the other, each with the number of requests under
way after it, and the server at the end. -/
def handleAll (s : Server) : List HttpRequest → List (HttpAnswer × Span × Nat) × Server
  | [] => ([], s)
  | r :: rest =>
    let ((answer, span), s) := s.handle r
    let (answers, last) := handleAll s rest
    ((answer, span, s.inFlight) :: answers, last)

end Server

end GatewayAdmission
