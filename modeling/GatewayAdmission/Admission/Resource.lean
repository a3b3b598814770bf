import GatewayAdmission.Gateway.Class
import GatewayAdmission.Gateway.Model
import GatewayAdmission.Route.Grpc
import GatewayAdmission.Route.Http
import GatewayAdmission.Route.Stream

/-!
# Resources

The seven kinds of objects that can be under review. `ResourceKind.decode` reads an embedded object
as a kind: an object that names another kind is refused before anything else of it is read, and an
object that names none is taken at its word.
-/

namespace GatewayAdmission

inductive ResourceKind where
  | gateway
  | gatewayClass
  | httpRoute
  | grpcRoute
  | tcpRoute
  | udpRoute
  | tlsRoute
deriving DecidableEq

/-- Why an object could not be read. -/
inductive DecodeError where
  | missingObject
  | missingOldObject
  | unexpectedKind (expected : ResourceKind) (found : String)
  | unreadable (kind : ResourceKind)
deriving DecidableEq

namespace ResourceKind

/-- The name of the kind in an object. -/
def text : ResourceKind → String
  | gateway => "Gateway"
  | gatewayClass => "GatewayClass"
  | httpRoute => "HTTPRoute"
  | grpcRoute => "GRPCRoute"
  | tcpRoute => "TCPRoute"
  | udpRoute => "UDPRoute"
  | tlsRoute => "TLSRoute"

def all : List ResourceKind :=
  [gateway, gatewayClass, httpRoute, grpcRoute, tcpRoute, udpRoute, tlsRoute]

/-- What an object of the kind is read as. -/
def Model : ResourceKind → Type
  | gateway => Gateway
  | gatewayClass => GatewayClass
  | httpRoute => HttpRoute
  | grpcRoute => GrpcRoute
  | tcpRoute | udpRoute | tlsRoute => StreamRoute

def codec : (kind : ResourceKind) → Codec kind.Model
  | gateway => Gateway.codec
  | gatewayClass => GatewayClass.codec
  | httpRoute => HttpRoute.codec
  | grpcRoute => GrpcRoute.codec
  | tcpRoute => StreamRoute.codec
  | udpRoute => StreamRoute.codec
  | tlsRoute => StreamRoute.codec

/-- The kind that an object names. -/
def named? (raw : Raw) : Option String := (raw.json.get? "kind").bind Json.str?

/-- An embedded object as an object of the kind. -/
def decode (kind : ResourceKind) (raw : Raw) : Except DecodeError kind.Model :=
  match named? raw with
  | some found => if found = kind.text then read else .error (.unexpectedKind kind found)
  | none => read
where
  read : Except DecodeError kind.Model :=
    match kind.codec.read none (Document.ofJson raw.json) with
    | some model => .ok model
    | none => .error (.unreadable kind)

end ResourceKind

namespace DecodeError

/-- What stands for the words of a reader about a text it could not read. -/
def readerReason : String := "<parser message>"

/-- The message without the words of the reader. -/
def summary : DecodeError → String
  | missingObject => "object is missing from the admission request"
  | missingOldObject => "oldObject is missing from the admission request"
  | unexpectedKind expected found =>
    "expected an object of kind " ++ expected.text ++ ", got " ++ found
  | unreadable kind => "cannot decode " ++ kind.text ++ " object"

def message : DecodeError → String
  | unreadable kind => (unreadable kind).summary ++ ": " ++ readerReason
  | e => e.summary

end DecodeError

end GatewayAdmission
