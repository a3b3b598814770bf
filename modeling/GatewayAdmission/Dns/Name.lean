import GatewayAdmission.Net.IpAddress
import GatewayAdmission.Text.Pattern

/-!
# DNS names

Lower-case RFC 1123 subdomains and subdomains under a wildcard label. Each check gives the faults
of a value, the length fault first; a value without faults is a name. Length is counted in octets.
-/

namespace GatewayAdmission

namespace Dns

/-! ## The forms -/

def alphanumeric : List (Char × Char) := [('a', 'z'), ('0', '9')]

/-- A label: letters, digits and hyphens, with a letter or digit at both ends. -/
def labelForm : Pattern :=
  .seq (.one alphanumeric) (.optional
    (.seq (.many (.one (('-', '-') :: alphanumeric))) (.one alphanumeric)))

/-- One or more labels with points between them. -/
def subdomainForm : Pattern := .seq labelForm (.many (.seq (.char '.') labelForm))

/-- A subdomain under the label `*`. -/
def wildcardForm : Pattern := .sequence [.char '*', .char '.', subdomainForm]

/-- A subdomain with or without the label `*` in front. -/
def hostnameForm : Pattern :=
  .seq (.optional (.seq (.char '*') (.char '.'))) subdomainForm

def labelSource : String := "[a-z0-9]([-a-z0-9]*[a-z0-9])?"

def subdomainSource : String := labelSource ++ "(\\." ++ labelSource ++ ")*"

def wildcardSource : String := "\\*\\." ++ subdomainSource

def hostnameSource : String := "^(\\*\\.)?" ++ subdomainSource ++ "$"

/-! ## The checks -/

def maxLength : Nat := 253

/-- What may be wrong with a name. -/
inductive Fault where
  | tooLong
  | notSubdomain
  | notWildcard
deriving DecidableEq

namespace Fault

def withForm (rule example_ source : String) : String :=
  rule ++ " (e.g. '" ++ example_ ++ "', regex used for validation is '" ++ source ++ "')"

def message : Fault → String
  | tooLong => "must be no more than " ++ toString maxLength ++ " characters"
  | notSubdomain => withForm ("a lowercase RFC 1123 subdomain must consist of lower case "
      ++ "alphanumeric characters, '-' or '.', and must start and end with an alphanumeric "
      ++ "character") "example.com" subdomainSource
  | notWildcard => withForm ("a wildcard DNS-1123 subdomain must start with '*.', followed by a "
      ++ "valid DNS subdomain, which must consist of lower case alphanumeric characters, '-' or "
      ++ "'.' and end with an alphanumeric character") "*.example.com" wildcardSource

end Fault

def lengthFaults (value : String) : List Fault :=
  if maxLength < value.utf8ByteSize then [.tooLong] else []

/-- The faults of a value as a lower-case subdomain. -/
def subdomainFaults (value : String) : List Fault :=
  lengthFaults value ++ if subdomainForm.accepts value then [] else [.notSubdomain]

/-- The faults of a value as a subdomain under a wildcard. -/
def wildcardFaults (value : String) : List Fault :=
  lengthFaults value ++ if wildcardForm.accepts value then [] else [.notWildcard]

/-- Whether a value is an IPv4 or IPv6 literal. -/
def isIpLiteral (value : String) : Bool := (IpAddress.parse? value).isSome

end Dns

end GatewayAdmission
