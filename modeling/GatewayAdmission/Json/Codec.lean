import GatewayAdmission.Json.Document

/-!
# Codecs

A `Codec α` reads an `α` from a document and writes it as a value. The reader says what of a
document it keeps: only kept parts have to have a value and to fit the room that is left.
-/

namespace GatewayAdmission

structure Codec (α : Type) where
  read : Document.Room → Document → Option α
  write : α → Json

namespace Codec

open Document (Room)

/-- A string. -/
def text : Codec String where
  read _ d := match d with
    | .str s => s
    | _ => none
  write := .str

/-- A truth value. -/
def flag : Codec Bool where
  read _ d := match d with
    | .bool b => some b
    | _ => none
  write := .bool

/-- An integer, in a type that holds some of the integers. -/
def integer {α : Type} (ofInt? : Int → Option α) (toWhole : α → WholeNumber) : Codec α where
  read _ d := match d with
    | .num (some (.whole n)) => ofInt? n.val
    | _ => none
  write n := .num (.whole (toWhole n))

def int32 : Codec Int32 :=
  integer (fun n =>
      if Int32.minValue.toInt ≤ n ∧ n ≤ Int32.maxValue.toInt then some (Int32.ofInt n) else none)
    WholeNumber.ofInt32

def int64 : Codec Int64 :=
  integer (fun n =>
      if Int64.minValue.toInt ≤ n ∧ n ≤ Int64.maxValue.toInt then some (Int64.ofInt n) else none)
    WholeNumber.ofInt64

def uint16 : Codec UInt16 :=
  integer (fun n => if 0 ≤ n ∧ n < UInt16.size then some (UInt16.ofNat n.toNat) else none)
    WholeNumber.ofUInt16

/-- A value or `null`. -/
def optional {α : Type} (c : Codec α) : Codec (Option α) where
  read room d := match d with
    | .null => some none
    | d => (c.read room d).map some
  write
    | none => .null
    | some a => c.write a

/-- A value, or `null` for the one that is meant when nothing is said. -/
def orDefault {α : Type} (c : Codec α) (default : α) : Codec α where
  read room d := match d with
    | .null => some default
    | d => c.read room d
  write := c.write

/-- An array of values. -/
def list {α : Type} (c : Codec α) : Codec (List α) where
  read room d := match d with
    | .arr items => room.enter?.bind fun inner => items.mapM (c.read inner)
    | _ => none
  write as := .arr (as.map c.write)

/-- An object of values under arbitrary keys; of a repeated key the last value counts. -/
def map {α : Type} (c : Codec α) : Codec (KeyedMap α) where
  read room d := match d with
    | .obj entries => room.enter?.bind fun inner =>
        (entries.mapM fun (e : Option String × Document) =>
          e.1.bind fun key => (c.read inner e.2).map (key, ·)).map
          KeyedMap.ofEntries
    | _ => none
  write m := .obj (m.entries.map fun e => (e.1, c.write e.2))

/-- Any value, held as it is. -/
def raw : Codec Raw where
  read room d := (d.toJson? room).map Raw.ofJson
  write r := r.json

/-- One of several names, alone or as the key of an object with the one entry `null`. -/
def choice {α : Type} (names : List (String × α)) (name : α → String) : Codec α where
  read room d := match d with
    | .str s => s.bind (names.lookup ·)
    | .obj [(key, .null)] => room.enter?.bind fun _ => key.bind (names.lookup ·)
    | _ => none
  write a := .str (name a)

end Codec

end GatewayAdmission
