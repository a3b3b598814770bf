import GatewayAdmission.Kubernetes.Metadata

/-!
# Gateways

The parts of a Gateway that rules are about, and how they stand in an object.
-/

namespace GatewayAdmission

/-- Whether TLS ends at the Gateway or goes on to the backends. -/
inductive TlsMode where
  | terminate
  | passthrough
deriving DecidableEq

structure SecretReference where
  group : Option String
  kind : Option String
  name : String
  namespace_ : Option String

structure ListenerTls where
  declaredMode : Option TlsMode
  certificateRefs : List SecretReference

/-- A port at which a Gateway accepts connections. -/
structure Listener where
  name : String
  hostname : Option String
  port : Int32
  protocol : String
  tls : Option ListenerTls

structure GatewayAddress where
  declaredType : Option String
  value : String

structure GatewaySpec where
  gatewayClassName : String := ""
  listeners : List Listener := []
  addresses : List GatewayAddress := []

structure Gateway where
  metadata : ObjectMeta
  spec : GatewaySpec

namespace TlsMode

def text : TlsMode → String
  | terminate => "Terminate"
  | passthrough => "Passthrough"

def codec : Codec TlsMode :=
  .choice ([terminate, passthrough].map fun m => (m.text, m)) text

end TlsMode

namespace SecretReference

def fields : Fields SecretReference :=
  .iso (.cons (.optional "group" .text) <|
      .cons (.optional "kind" .text) <|
      .cons (.defaulted "name" .text "") <|
      .cons (.optional "namespace" .text) .nil)
    (fun (group, kind, name, namespace_, ()) => { group, kind, name, namespace_ })
    (fun r => (r.group, r.kind, r.name, r.namespace_, ()))

def codec : Codec SecretReference := .record .plain fields

end SecretReference

namespace ListenerTls

def fields : Fields ListenerTls :=
  .iso (.cons (.optional "mode" TlsMode.codec) <|
      .cons (.someList "certificateRefs" SecretReference.codec) .nil)
    (fun (declaredMode, certificateRefs, ()) => { declaredMode, certificateRefs })
    (fun t => (t.declaredMode, t.certificateRefs, ()))

def codec : Codec ListenerTls := .record .plain fields

/-- The mode, which is to terminate if nothing else is said. -/
def mode (t : ListenerTls) : TlsMode := t.declaredMode.getD .terminate

end ListenerTls

namespace Listener

def fields : Fields Listener :=
  .iso (.cons (.defaulted "name" .text "") <|
      .cons (.optional "hostname" .text) <|
      .cons (.defaulted "port" .int32 0) <|
      .cons (.defaulted "protocol" .text "") <|
      .cons (.optional "tls" ListenerTls.codec) .nil)
    (fun (name, hostname, port, protocol, tls, ()) => { name, hostname, port, protocol, tls })
    (fun l => (l.name, l.hostname, l.port, l.protocol, l.tls, ()))

def codec : Codec Listener := .record .plain fields

end Listener

namespace GatewayAddress

def ipAddress : String := "IPAddress"

def hostname : String := "Hostname"

def fields : Fields GatewayAddress :=
  .iso (.cons (.optional "type" .text) <| .cons (.defaulted "value" .text "") .nil)
    (fun (declaredType, value, ()) => { declaredType, value })
    (fun a => (a.declaredType, a.value, ()))

def codec : Codec GatewayAddress := .record .plain fields

/-- The type, which is an IP address if nothing else is said. -/
def type (a : GatewayAddress) : String := a.declaredType.getD ipAddress

end GatewayAddress

namespace GatewaySpec

def fields : Fields GatewaySpec :=
  .iso (.cons (.defaulted "gatewayClassName" .text "") <|
      .cons (.list "listeners" Listener.codec) <|
      .cons (.someList "addresses" GatewayAddress.codec) .nil)
    (fun (gatewayClassName, listeners, addresses, ()) =>
      { gatewayClassName, listeners, addresses })
    (fun s => (s.gatewayClassName, s.listeners, s.addresses, ()))

def codec : Codec GatewaySpec := .record .plain fields

end GatewaySpec

namespace Gateway

def fields : Fields Gateway :=
  .iso (.cons (.defaulted "metadata" ObjectMeta.codec {}) <|
      .cons (.defaulted "spec" GatewaySpec.codec {}) .nil)
    (fun (metadata, spec, ()) => { metadata, spec })
    (fun g => (g.metadata, g.spec, ()))

def codec : Codec Gateway := .record .plain fields

end Gateway

end GatewayAdmission
