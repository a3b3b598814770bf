import GatewayAdmission.Pem.Section

/-!
# The serving keypair

The certificate and the private key that the webhook shows to its clients. Each file has to hold
exactly one. Both files are looked for before either of them is looked into.
-/

namespace GatewayAdmission

structure Keypair where
  certificate : List UInt8
  key : List UInt8
deriving DecidableEq

/-- Why there is no keypair. -/
inductive KeypairError where
  | missingFile
  | certificateCount (found : Nat)
  | keyCount (found : Nat)
deriving DecidableEq

namespace KeypairError

def reason : KeypairError → String
  | missingFile => "No such file or directory (os error 2)"
  | certificateCount found =>
    "Expected exactly one certificate in certificate file, found " ++ toString found
  | keyCount found => "Expected exactly one key in key file, found " ++ toString found

/-- The message about two files. -/
def message (e : KeypairError) (certFile keyFile : String) : String :=
  "cannot load keypair from " ++ certFile ++ " and " ++ keyFile ++ ": " ++ e.reason

end KeypairError

namespace Keypair

def certificateLabels : List String := ["CERTIFICATE"]

def keyLabels : List String := ["PRIVATE KEY", "RSA PRIVATE KEY", "EC PRIVATE KEY"]

/-- The keypair in the contents of the two files, `none` standing for a file that is not there. -/
def load : (certFile keyFile : Option ByteArray) → Except KeypairError Keypair
  | some certText, some keyText =>
    match PemSection.decoded certificateLabels certText.data.toList with
    | [certificate] =>
      match PemSection.decoded keyLabels keyText.data.toList with
      | [key] => .ok ⟨certificate, key⟩
      | keys => .error (.keyCount keys.length)
    | certificates => .error (.certificateCount certificates.length)
  | _, _ => .error .missingFile

end Keypair

end GatewayAdmission
