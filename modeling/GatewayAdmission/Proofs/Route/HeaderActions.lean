import GatewayAdmission.Proofs.Route.Scans

/-!
# Several actions on one header

A modifier has headers to add, headers to set and names of headers to remove, and they are looked at
in this order (`HeaderModifier.entries`). **A header with several actions has one error, at the
second of them; no other header has one** (`HeaderModifier.check_repetitions`). Which headers are
the same is a matter of their names in lower case; what is reported is the entry as it is written.
-/

namespace GatewayAdmission

/-- An entry of one of the lists of a modifier. -/
inductive HeaderEntry where
  | add (header : HttpHeader)
  | set (header : HttpHeader)
  | remove (name : String)

namespace HeaderEntry

/-- The name of the header as it is written. -/
def name : HeaderEntry → String
  | add header | set header => header.name
  | remove name => name

/-- The list that the entry stands in. -/
def list : HeaderEntry → String
  | add _ => "add"
  | set _ => "set"
  | remove _ => "remove"

/-- The entry as it is written. -/
def value : HeaderEntry → Json
  | add header | set header =>
    .obj [("name", .str header.name), ("value", .str header.value)]
  | remove name => .str name

/-- An entry as an action on a header. -/
def action (e : HeaderEntry) : HeaderModifier.Action := ⟨Text.lowerCase e.name, e.list, e.value⟩

end HeaderEntry

namespace HeaderModifier

/-- All entries of a modifier, in the order in which they are looked at. -/
def entries (m : HeaderModifier) : List HeaderEntry :=
  m.add.map .add ++ m.set.map .set ++ m.remove.map .remove

/-- The names of the headers that the entries are about, in lower case. -/
def targets (m : HeaderModifier) : List String := m.entries.map fun e => Text.lowerCase e.name

/-- The actions of a modifier are those of its entries. -/
theorem actions_eq (m : HeaderModifier) : m.actions = m.entries.map HeaderEntry.action := by
  simp only [actions, entries, List.map_append, List.map_map]
  rfl

theorem targets_eq (m : HeaderModifier) : m.targets = m.actions.map (·.name) := by
  rw [actions_eq, List.map_map]
  rfl

/-- **A header with several actions is reported once, at the second of them.** -/
theorem check_repetitions (path : FieldPath) (m : HeaderModifier) :
    ∃ positions, Repetitions m.targets positions
      ∧ List.Forall₂ (fun i error => ∃ e, m.entries[i]? = some e
          ∧ error = .invalid (path.child e.list) e.value
            "cannot specify multiple actions for header")
        positions (m.check path) := by
  refine ⟨secondPositions (·.name) m.actions, ?_, ?_⟩
  · rw [targets_eq]
    exact repetitions_secondPositions
  · rw [check_eq, List.forall₂_map_right_iff]
    refine forall₂_secondOccurrences.imp fun i a ha => ?_
    rw [actions_eq, List.getElem?_map] at ha
    obtain ⟨e, he, rfl⟩ := Option.map_eq_some_iff.1 ha
    exact ⟨e, he, rfl⟩

end HeaderModifier

end GatewayAdmission
