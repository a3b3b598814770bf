import GatewayAdmission.Field.Path
import GatewayAdmission.Json.Printer
import GatewayAdmission.Text.Quoted

/-!
# Field errors

An error about one field of an object: where it is and what is wrong there. `FieldError.text`
writes path, kind of fault, the value held if there is one, and the message if it is not empty,
with colons between them; `FieldError.aggregate` puts several on lines of their own.
-/

namespace GatewayAdmission

/-- What is wrong with a field. -/
inductive FieldFault where
  | invalid (value : Json) (message : String)
  | required (message : String)
  | forbidden (message : String)
  | duplicate (value : Json)
  | notSupported (value : Json) (supported : List String)

namespace FieldFault

def heading : FieldFault → String
  | invalid .. => "Invalid value"
  | required .. => "Required value"
  | forbidden .. => "Forbidden"
  | duplicate .. => "Duplicate value"
  | notSupported .. => "Unsupported value"

/-- The value that was found, if the fault is about one. -/
def value? : FieldFault → Option Json
  | invalid value _ | duplicate value | notSupported value _ => some value
  | required _ | forbidden _ => none

def message : FieldFault → String
  | invalid _ message | required message | forbidden message => message
  | duplicate _ => ""
  | notSupported _ supported =>
    if supported.isEmpty then ""
    else "supported values: " ++ ", ".intercalate (supported.map Text.quoted)

end FieldFault

structure FieldError where
  path : FieldPath
  fault : FieldFault

namespace FieldError

def invalid (path : FieldPath) (value : Json) (message : String) : FieldError :=
  ⟨path, .invalid value message⟩

def required (path : FieldPath) (message : String) : FieldError := ⟨path, .required message⟩

def forbidden (path : FieldPath) (message : String) : FieldError := ⟨path, .forbidden message⟩

def duplicate (path : FieldPath) (value : Json) : FieldError := ⟨path, .duplicate value⟩

def notSupported (path : FieldPath) (value : Json) (supported : List String) : FieldError :=
  ⟨path, .notSupported value supported⟩

/-- The error on one line. -/
def text (e : FieldError) : String :=
  let value := match e.fault.value? with
    | some value => ": " ++ value.render
    | none => ""
  let message := if e.fault.message.isEmpty then "" else ": " ++ e.fault.message
  e.path.text ++ ": " ++ e.fault.heading ++ value ++ message

/-- The errors on lines of their own, in their order. -/
def aggregate (errors : List FieldError) : String := "\n".intercalate (errors.map text)

end FieldError

end GatewayAdmission
