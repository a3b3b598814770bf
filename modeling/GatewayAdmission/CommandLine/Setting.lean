import GatewayAdmission.Log.Level
import GatewayAdmission.Text.Split

/-!
# Settings

What can be set on the command line or in the environment. `Options` holds the values that were
given; `Options.put` adds one in the text that was written for it, or says why it cannot be.
-/

namespace GatewayAdmission

inductive Setting where
  | address
  | certFile
  | keyFile
  | logFormat
  | logLevel
  | noColor
  | port
  | shutdownTimeout
deriving DecidableEq

/-- What can be wrong with arguments. -/
inductive UsageError where
  | unknownArgument
  | missingValue
  /-- The value is none of those that the setting allows. -/
  | notAllowed
  /-- The value is no number in the range of the setting. -/
  | malformedNumber
  /-- A switch has no value. -/
  | needlessValue
  | repeated
deriving DecidableEq

/-- The values that were given. -/
structure Options where
  address : Option String := none
  certFile : Option String := none
  keyFile : Option String := none
  logFormat : Option LogFormat := none
  logLevel : Option LogLevel := none
  noColor : Option Bool := none
  port : Option String := none
  shutdownTimeout : Option UInt64 := none
deriving DecidableEq

namespace Setting

/-- The settings in the order in which the environment is asked for them. -/
def all : List Setting :=
  [address, certFile, keyFile, logFormat, logLevel, noColor, port, shutdownTimeout]

/-- The name of the option, without the dashes. -/
def name : Setting → String
  | address => "addr"
  | certFile => "cert-file"
  | keyFile => "key-file"
  | logFormat => "log-fmt"
  | logLevel => "log-level"
  | noColor => "log-no-color"
  | port => "port"
  | shutdownTimeout => "shutdown-timeout"

def ofName? (s : String) : Option Setting := all.find? (·.name == s)

/-- The variable of the environment that sets it where the command line does not. -/
def environmentVariable : Setting → String
  | address => "GATEWAY_ADMISSION_BIND_ADDRESS"
  | certFile => "GATEWAY_ADMISSION_CERT_FILE"
  | keyFile => "GATEWAY_ADMISSION_KEY_FILE"
  | logFormat => "GATEWAY_ADMISSION_LOG_FMT"
  | logLevel => "GATEWAY_ADMISSION_LOG_LEVEL"
  | noColor => "NO_COLOR"
  | port => "GATEWAY_ADMISSION_PORT"
  | shutdownTimeout => "GATEWAY_ADMISSION_SHUTDOWN_TIMEOUT"

/-- Whether the option is a switch, which stands without a value. -/
def isSwitch (s : Setting) : Bool := s == noColor

end Setting

namespace UsageError

def message : UsageError → String
  | unknownArgument => "unexpected argument"
  | missingValue => "a value is required"
  | notAllowed => "invalid value"
  | malformedNumber => "invalid number"
  | needlessValue => "unexpected value"
  | repeated => "the argument cannot be used multiple times"

end UsageError

namespace Options

/-- Whether there is a value for a setting. -/
def holds (o : Options) : Setting → Bool
  | .address => o.address.isSome
  | .certFile => o.certFile.isSome
  | .keyFile => o.keyFile.isSome
  | .logFormat => o.logFormat.isSome
  | .logLevel => o.logLevel.isSome
  | .noColor => o.noColor.isSome
  | .port => o.port.isSome
  | .shutdownTimeout => o.shutdownTimeout.isSome

def flag? (s : String) : Option Bool :=
  if s = "true" then some true else if s = "false" then some false else none

/-- The seconds that a text stands for: decimal digits, possibly after a plus sign. -/
def seconds? (s : String) : Option UInt64 :=
  let digits := match s.toList with
    | '+' :: rest => rest
    | cs => cs
  (Text.decimal? digits).bind fun n => if n < UInt64.size then some (UInt64.ofNat n) else none

/-- Adds the value that a text stands for. -/
def put (o : Options) (setting : Setting) (value : String) : Except UsageError Options :=
  match setting with
  | .address => .ok { o with address := some value }
  | .certFile => .ok { o with certFile := some value }
  | .keyFile => .ok { o with keyFile := some value }
  | .logFormat =>
    match LogFormat.ofName? value with
    | some format => .ok { o with logFormat := some format }
    | none => .error .notAllowed
  | .logLevel =>
    match LogLevel.ofName? value with
    | some level => .ok { o with logLevel := some level }
    | none => .error .notAllowed
  | .noColor =>
    match flag? value with
    | some flag => .ok { o with noColor := some flag }
    | none => .error .notAllowed
  | .port => .ok { o with port := some value }
  | .shutdownTimeout =>
    match seconds? value with
    | some seconds => .ok { o with shutdownTimeout := some seconds }
    | none => .error .malformedNumber

end Options

end GatewayAdmission
