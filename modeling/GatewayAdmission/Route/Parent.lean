import GatewayAdmission.Field.Error
import GatewayAdmission.Json.Record
import GatewayAdmission.Scan

/-!
# Parent references

The Gateways a route wants to be attached to. Two references to one parent clash if one of them
names neither section nor port, or if both name the same ones; the first reference that clashes
with an earlier one is reported.
-/

namespace GatewayAdmission

structure ParentReference where
  group : Option String
  kind : Option String
  namespace_ : Option String
  name : String
  sectionName : Option String
  port : Option Int32

namespace ParentReference

def fields : Fields ParentReference :=
  .iso (.cons (.optional "group" .text) <|
      .cons (.optional "kind" .text) <|
      .cons (.optional "namespace" .text) <|
      .cons (.defaulted "name" .text "") <|
      .cons (.optional "sectionName" .text) <|
      .cons (.optional "port" .int32) .nil)
    (fun (group, kind, namespace_, name, sectionName, port, ()) =>
      { group, kind, namespace_, name, sectionName, port })
    (fun r => (r.group, r.kind, r.namespace_, r.name, r.sectionName, r.port, ()))

def codec : Codec ParentReference := .record .plain fields

/-! ## Clashes -/

/-- What tells one parent from another: name, namespace and kind as written. -/
def key (r : ParentReference) : String × String × String :=
  (r.name, r.namespace_.getD "", r.kind.getD "")

/-- The part of the parent that is meant: a section, a port, both or none. -/
structure Qualifier where
  sectionName : String
  port : Int32
deriving DecidableEq

def Qualifier.none : Qualifier := ⟨"", 0⟩

def qualifier (r : ParentReference) : Qualifier := ⟨r.sectionName.getD "", r.port.getD 0⟩

def missingQualifierMessage : String :=
  "sectionNames or ports must be specified when more than one parentRef refers to the same parent"

def repeatedQualifierMessage : String :=
  "must be unique when ParentRefs includes 2 or more references to the same parent"

/-- The error for a reference to a part of a parent that has been referred to. -/
def repeatedError (path : FieldPath) (index : Nat) (q : Qualifier) : FieldError :=
  if q.sectionName.isEmpty then
    .invalid ((path.index index).child "port") (.int32 q.port) repeatedQualifierMessage
  else
    .invalid ((path.index index).child "sectionName") (.str q.sectionName)
      repeatedQualifierMessage

/-- Looks at a reference. Kept are the parts of every parent that have been referred to. -/
def look (path : FieldPath) (seen : List ((String × String × String) × List Qualifier))
    (index : Nat) (r : ParentReference) :
    Except FieldError (List ((String × String × String) × List Qualifier)) :=
  match seen.lookup r.key with
  | none => .ok ((r.key, [r.qualifier]) :: seen)
  | some parts =>
    if r.qualifier == .none || parts.contains .none then
      .error (.required path missingQualifierMessage)
    else if parts.contains r.qualifier then .error (repeatedError path index r.qualifier)
    else .ok ((r.key, r.qualifier :: parts) :: seen)

/-- At most one error, for the first clash. -/
def check (path : FieldPath) (refs : List ParentReference) : List FieldError :=
  if refs.length ≤ 1 then [] else (scanUntil (look path) [] refs).toList

end ParentReference

end GatewayAdmission
