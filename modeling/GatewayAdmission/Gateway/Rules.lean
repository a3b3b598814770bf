import GatewayAdmission.Dns.Name
import GatewayAdmission.Field.Error
import GatewayAdmission.Gateway.Model
import GatewayAdmission.Scan

/-!
# Rules of Gateways

`Gateway.check` holds every rule of the current versions, each one looking at all listeners before
the next: hostnames, TLS by protocol, hostnames by protocol, certificates, names, combinations of
hostname, protocol and port; then addresses. `Gateway.checkHostnames` is the one rule of the first
version.
-/

namespace GatewayAdmission

namespace Listener

/-! ## One listener -/

def tlsRequired (protocol : String) : Bool := protocol == "HTTPS" || protocol == "TLS"

def tlsRefused (protocol : String) : Bool :=
  protocol == "HTTP" || protocol == "TCP" || protocol == "UDP"

def hostnameRefused (protocol : String) : Bool := protocol == "TCP" || protocol == "UDP"

/-- The messages about a hostname. -/
def hostnameFaults (hostname : String) : List String :=
  (if Dns.isIpLiteral hostname then ["must be a DNS hostname, not an IP address"] else [])
    ++ (if hostname.toList.contains '*' then Dns.wildcardFaults hostname
      else Dns.subdomainFaults hostname).map Dns.Fault.message

/-- The hostname is a name, or matches every name: if it is absent, empty or a lone star. -/
def checkHostname (path : FieldPath) (l : Listener) : List FieldError :=
  match l.hostname with
  | none => []
  | some hostname =>
    if hostname = "" ∨ hostname = "*" then []
    else (hostnameFaults hostname).map (.invalid (path.child "hostname") (.str hostname))

/-- TLS is set up where the protocol has it and nowhere else. -/
def checkTls (path : FieldPath) (l : Listener) : List FieldError :=
  (if tlsRequired l.protocol && l.tls.isNone then
      [.forbidden (path.child "tls") ("must be set for protocol " ++ l.protocol)]
    else [])
    ++ if tlsRefused l.protocol && l.tls.isSome then
        [.forbidden (path.child "tls") ("should be empty for protocol " ++ l.protocol)]
      else []

/-- No hostname where the protocol does not tell it. -/
def checkHostnameProtocol (path : FieldPath) (l : Listener) : List FieldError :=
  if hostnameRefused l.protocol && l.hostname.isSome then
    [.forbidden (path.child "hostname") ("should be empty for protocol " ++ l.protocol)]
  else []

/-- Certificates are there where TLS ends at the Gateway. -/
def checkCertificates (path : FieldPath) (l : Listener) : List FieldError :=
  match l.tls with
  | none => []
  | some tls =>
    if tlsRequired l.protocol && tls.mode == .terminate && tls.certificateRefs.isEmpty then
      [.forbidden ((path.child "tls").child "certificateRefs")
        "should be set and not empty when TLSModeType is Terminate"]
    else []

/-! ## All listeners -/

/-- The text by which combinations of hostname, protocol and port are told apart. -/
def combination (l : Listener) : String :=
  l.hostname.getD "" ++ ":" ++ l.protocol ++ ":" ++ toString l.port.toInt

/-- An error at every listener that has the name of an earlier one. -/
def checkNames (path : FieldPath) (ls : List Listener) : List FieldError :=
  (repeatedAt (·.name) ls).map fun i =>
    .duplicate ((path.index i).child "name") (.str "must be unique within the Gateway")

/-- An error at every listener that has the combination of an earlier one. -/
def checkCombinations (path : FieldPath) (ls : List Listener) : List FieldError :=
  (repeatedAt combination ls).map fun i =>
    .duplicate (path.index i)
      (.str "combination of port, protocol, and hostname must be unique for each listener")

end Listener

namespace GatewayAddress

/-- The value is an IP literal or a hostname, as the type says. -/
def checkValue (path : FieldPath) (a : GatewayAddress) : List FieldError :=
  if a.type = ipAddress then
    if Dns.isIpLiteral a.value then [] else [.invalid path (.str a.value) "invalid ip address"]
  else if a.type = hostname then
    if Dns.hostnameForm.accepts a.value then []
    else [.invalid path (.str a.value)
      ("must only contain valid characters (matching " ++ Dns.hostnameSource ++ ")")]
  else []

/-- The values of addresses that have been seen, by the types that rules apply to. -/
structure Seen where
  ipAddresses : List String := []
  hostnames : List String := []

/-- An error for a value that has been seen. -/
def checkSeen (path : FieldPath) (seen : List String) (a : GatewayAddress) : List FieldError :=
  if seen.contains a.value then [.duplicate path (.str a.value)] else []

/-- Looks at an address: at its value, then whether this has been seen. -/
def look (path : FieldPath) (seen : Seen) (index : Nat) (a : GatewayAddress) :
    List FieldError × Seen :=
  let path := path.index index
  if a.type = ipAddress then
    (a.checkValue path ++ a.checkSeen path seen.ipAddresses,
      { seen with ipAddresses := seen.ipAddresses.insert a.value })
  else if a.type = hostname then
    (a.checkValue path ++ a.checkSeen path seen.hostnames,
      { seen with hostnames := seen.hostnames.insert a.value })
  else ([], seen)

def check (path : FieldPath) (as : List GatewayAddress) : List FieldError :=
  scan (look path) {} as

end GatewayAddress

namespace Gateway

def listenersPath : FieldPath := FieldPath.spec.child "listeners"

/-- The errors of one rule at every listener. -/
def eachListener (g : Gateway) (rule : FieldPath → Listener → List FieldError) :
    List FieldError :=
  (listenersPath.entries g.spec.listeners).flatMap fun (path, l) => rule path l

/-- Hostnames of listeners are DNS names. -/
def checkHostnames (g : Gateway) : List FieldError := g.eachListener Listener.checkHostname

/-- Every rule of the current versions. -/
def check (g : Gateway) : List FieldError :=
  g.checkHostnames
    ++ g.eachListener Listener.checkTls
    ++ g.eachListener Listener.checkHostnameProtocol
    ++ g.eachListener Listener.checkCertificates
    ++ Listener.checkNames listenersPath g.spec.listeners
    ++ Listener.checkCombinations listenersPath g.spec.listeners
    ++ GatewayAddress.check (FieldPath.spec.child "addresses") g.spec.addresses

end Gateway

end GatewayAdmission
