import GatewayAdmission.CommandLine.Setting
import GatewayAdmission.Net.IpAddress
import GatewayAdmission.Text.Shown

/-!
# Configuration

The settings that the webhook runs with: what was given, and defaults for the rest.
-/

namespace GatewayAdmission

structure Config where
  endpoint : Endpoint
  certFile : String
  keyFile : String
  /-- The seconds that requests under way are given at the end. -/
  shutdownTimeout : UInt64
  logLevel : LogLevel
  logFormat : LogFormat
  noColor : Bool
deriving DecidableEq

/-- Why options are no configuration. -/
inductive ConfigError where
  | badEndpoint
  | missingKeypair
deriving DecidableEq

def ConfigError.message : ConfigError → String
  | badEndpoint => "error parsing arguments: invalid socket address syntax"
  | missingKeypair => "error parsing arguments: both --cert-file and --key-file must be provided"

namespace Config

/-- The text that address and port are read from. -/
def endpointText (o : Options) : String := o.address.getD "0.0.0.0" ++ ":" ++ o.port.getD "8443"

/-- The configuration of options; the endpoint is looked at first. -/
def ofOptions (o : Options) : Except ConfigError Config :=
  match Endpoint.parse? (endpointText o) with
  | none => .error .badEndpoint
  | some endpoint =>
    let certFile := o.certFile.getD "/etc/certs/tls.crt"
    let keyFile := o.keyFile.getD "/etc/certs/tls.key"
    if certFile.isEmpty || keyFile.isEmpty then .error .missingKeypair
    else .ok {
      endpoint, certFile, keyFile
      shutdownTimeout := o.shutdownTimeout.getD 30
      logLevel := o.logLevel.getD .info
      logFormat := o.logFormat.getD .text
      noColor := o.noColor.getD false }

/-- A time in seconds; none at all is shown in the smallest unit. -/
def shownSeconds (n : UInt64) : String := if n = 0 then "0ns" else toString n.toNat ++ "s"

/-- The configuration as the log shows it. -/
def shown (c : Config) : String :=
  Text.shownRecord "Config" [
    ("addr", c.endpoint.text),
    ("tls_config", Text.shownRecord "TlsConfig" [
      ("cert_file", Text.quoted c.certFile),
      ("key_file", Text.quoted c.keyFile)]),
    ("shutdown_timeout", shownSeconds c.shutdownTimeout),
    ("log_level", Text.quoted c.logLevel.name),
    ("log_fmt", Text.quoted c.logFormat.name),
    ("log_no_color", Text.shownFlag c.noColor)]

end Config

end GatewayAdmission
