import GatewayAdmission.Json.Codec

/-!
# Records

A `Fields σ` describes, field by field and in order, how a record `σ` stands in a JSON object:
under which names, what a missing entry means, and which values are left out on writing. One
description gives both directions, so what is written under a name is read under it.

A record can take three forms. A plain one may also be written as the array of its fields, and
refuses an object in which a name of its own occurs twice. A shared one, used where a record shares
its object with another, is an object only. A lenient one is an object only too, and of a repeated
name the last entry counts, although all of them have to be readable. Entries under other names
are ignored by all three.
-/

namespace GatewayAdmission

/-- What is known of a field when its entry is missing. -/
inductive Missing (α : Type) where
  /-- The field has to be there. -/
  | refused
  /-- The value, in an object; an array has to hold the field. -/
  | named (value : α)
  /-- The value, in an object and at the end of an array. -/
  | always (value : α)

namespace Missing

def inObject? {α : Type} : Missing α → Option α
  | refused => none
  | named a => some a
  | always a => some a

def inArray? {α : Type} : Missing α → Option α
  | always a => some a
  | _ => none

end Missing

/-- One field of a record. -/
structure Field (α : Type) where
  name : String
  codec : Codec α
  missing : Missing α
  /-- Whether a value is left out on writing. -/
  omits : α → Bool

namespace Field

/-- A field that is always written. -/
def always {α : Type} (name : String) (codec : Codec α) (missing : Missing α) : Field α :=
  ⟨name, codec, missing, fun _ => false⟩

/-- A field that has to be there. -/
def required {α : Type} (name : String) (codec : Codec α) : Field α :=
  always name codec .refused

/-- A field that is always written and may be missing. -/
def defaulted {α : Type} (name : String) (codec : Codec α) (default : α) : Field α :=
  always name codec (.always default)

/-- A field that is written if it has a value. -/
def optional {α : Type} (name : String) (codec : Codec α) : Field (Option α) :=
  ⟨name, codec.optional, .always none, Option.isNone⟩

/-- A field that is written if it has a value, and that an array has to hold. -/
def optionalNamed {α : Type} (name : String) (codec : Codec α) : Field (Option α) :=
  ⟨name, codec.optional, .named none, Option.isNone⟩

/-- A list that is always written. -/
def list {α : Type} (name : String) (codec : Codec α) : Field (List α) :=
  defaulted name codec.list []

/-- A list that is written unless it is empty. -/
def someList {α : Type} (name : String) (codec : Codec α) : Field (List α) :=
  ⟨name, codec.list, .always [], List.isEmpty⟩

/-- A text that is written unless it is empty. -/
def someText (name : String) : Field String :=
  ⟨name, Codec.text, .always "", String.isEmpty⟩

/-- The value in an object: that of the last entry with the name, all of them being readable. -/
def read? {α : Type} (f : Field α) (room : Document.Room) (entries : List (String × Document)) :
    Option α :=
  match (entries.filter (·.1 == f.name)).mapM fun e => f.codec.read room e.2 with
  | none => none
  | some values => values.getLast?.or f.missing.inObject?

/-- The entry that is written, if any. -/
def write {α : Type} (f : Field α) (a : α) : List (String × Json) :=
  if f.omits a then [] else [(f.name, f.codec.write a)]

end Field

/-- The fields of a record in the order of writing. -/
inductive Fields : Type → Type 1 where
  | nil : Fields Unit
  | cons {α β : Type} (f : Field α) (rest : Fields β) : Fields (α × β)
  /-- The fields of a record inside the record, as if they were its own. -/
  | inline {α β : Type} (inner : Fields α) (rest : Fields β) : Fields (α × β)
  /-- The fields of another type of the same content. -/
  | iso {α β : Type} (fields : Fields α) (into : α → β) (out : β → α) : Fields β

namespace Fields

open Document (Room)

/-- The names of the fields. -/
def names {σ : Type} : Fields σ → List String
  | nil => []
  | cons f rest => f.name :: rest.names
  | inline inner rest => inner.names ++ rest.names
  | iso fields _ _ => fields.names

def readEntries? {σ : Type} (fs : Fields σ) (room : Room) (entries : List (String × Document)) :
    Option σ :=
  match fs with
  | nil => some ()
  | cons f rest => (f.read? room entries).bind fun a =>
      (rest.readEntries? room entries).map (a, ·)
  | inline inner rest => (inner.readEntries? room entries).bind fun a =>
      (rest.readEntries? room entries).map (a, ·)
  | iso fields into _ => (fields.readEntries? room entries).map into

/-- Reads the fields from the front of an array, and gives what is left of it. -/
def readItems? {σ : Type} (fs : Fields σ) (room : Room) (items : List Document) :
    Option (σ × List Document) :=
  match fs with
  | nil => some ((), items)
  | cons f rest =>
    match items with
    | [] => f.missing.inArray?.bind fun a =>
        (rest.readItems? room []).map fun (b, left) => ((a, b), left)
    | d :: items => (f.codec.read room d).bind fun a =>
        (rest.readItems? room items).map fun (b, left) => ((a, b), left)
  | inline inner rest => (inner.readItems? room items).bind fun (a, left) =>
      (rest.readItems? room left).map fun (b, left) => ((a, b), left)
  | iso fields into _ => (fields.readItems? room items).map fun (a, left) => (into a, left)

def writeEntries {σ : Type} : Fields σ → σ → List (String × Json)
  | nil, _ => []
  | cons f rest, (a, b) => f.write a ++ rest.writeEntries b
  | inline inner rest, (a, b) => inner.writeEntries a ++ rest.writeEntries b
  | iso fields _ out, b => fields.writeEntries (out b)

/-- Whether a name of the record occurs more than once among the entries. -/
def repeats {σ : Type} (fs : Fields σ) (entries : List (String × Document)) : Bool :=
  fs.names.any fun name => decide (1 < (entries.filter (·.1 == name)).length)

/-- The entries with their keys, if all keys are readable. -/
def keyed? (entries : List (Option String × Document)) : Option (List (String × Document)) :=
  entries.mapM fun (e : Option String × Document) => e.1.map (·, e.2)

end Fields

/-- The forms in which a record may be written. -/
inductive RecordForm where
  | plain
  | shared
  | lenient
deriving DecidableEq

namespace Codec

/-- A record. -/
def record {σ : Type} (form : RecordForm) (fields : Fields σ) : Codec σ where
  read room d := match d with
    | .obj entries => room.enter?.bind fun inner =>
        (Fields.keyed? entries).bind fun keyed =>
          if form = .plain ∧ fields.repeats keyed then none
          else fields.readEntries? inner keyed
    | .arr items =>
      if form = .plain then
        room.enter?.bind fun inner =>
          (fields.readItems? inner items).bind fun (a, left) =>
            if left.isEmpty then some a else none
      else none
    | _ => none
  write a := .obj (fields.writeEntries a)

end Codec

end GatewayAdmission
