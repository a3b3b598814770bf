/-!
# Field paths

A path says where in an object a field stands: the name of a root, then steps into fields and list
entries. It is kept as its steps; `FieldPath.text` writes it, as in `spec.listeners[0].hostname`.
-/

namespace GatewayAdmission

inductive PathStep where
  | child (name : String)
  | index (i : Nat)
deriving DecidableEq

structure FieldPath where
  root : String
  steps : List PathStep
deriving DecidableEq

namespace FieldPath

def ofRoot (root : String) : FieldPath := ⟨root, []⟩

/-- The field of this name in the value at the path. -/
def child (p : FieldPath) (name : String) : FieldPath :=
  { p with steps := p.steps ++ [.child name] }

/-- The entry of this number in the list at the path. -/
def index (p : FieldPath) (i : Nat) : FieldPath := { p with steps := p.steps ++ [.index i] }

/-- One step behind the text so far. A point stands between names, not in front of the first. -/
def appendStep (text : String) : PathStep → String
  | .child name => if text.isEmpty then name else text ++ "." ++ name
  | .index i => text ++ "[" ++ toString i ++ "]"

def text (p : FieldPath) : String := p.steps.foldl appendStep p.root

/-- The path of what an object asks for, as opposed to its metadata. -/
def spec : FieldPath := ofRoot "spec"

/-- The entries of a list that stands at the path, each with its own path. -/
def entries {α : Type} (p : FieldPath) (as : List α) : List (FieldPath × α) :=
  as.zipIdx.map fun (a, i) => (p.index i, a)

end FieldPath

end GatewayAdmission
