/-!
# Entries of a list among the earlier ones

`occurrences` pairs every entry of a list with its number and the entries before it. An entry that
is the second of its key is the place where a repetition is reported once.
-/

namespace GatewayAdmission

/-- An entry with its number and the entries before it, the nearest first. -/
structure Occurrence (α : Type) where
  index : Nat
  before : List α
  entry : α

/-- The entries, numbered from `index` on, with `before` in front of them. -/
def occurrencesFrom {α : Type} (index : Nat) (before : List α) : List α → List (Occurrence α)
  | [] => []
  | a :: rest => ⟨index, before, a⟩ :: occurrencesFrom (index + 1) (a :: before) rest

/-- The entries of a list, each with its number and those before it. -/
def occurrences {α : Type} (as : List α) : List (Occurrence α) := occurrencesFrom 0 [] as

namespace Occurrence

/-- Whether exactly one earlier entry has the same key. -/
def isSecond {α κ : Type} [BEq κ] (key : α → κ) (o : Occurrence α) : Bool :=
  o.before.countP (fun a => key a == key o.entry) == 1

end Occurrence

/-- The entries that are the second of their key, in their order. -/
def secondOccurrences {α κ : Type} [BEq κ] (key : α → κ) (as : List α) : List α :=
  ((occurrences as).filter (·.isSecond key)).map (·.entry)

end GatewayAdmission
