import GatewayAdmission.Proofs.Field.Line
import GatewayAdmission.Proofs.Occurrence
import GatewayAdmission.Route.HttpRules
import Mathlib.Data.List.Forall2

/-!
# Repeated types of filters

A type of filter that occurs more than once in a list is reported once, at the second filter that
has it; filters of extensions do not count (`Filter.checkUnique_repeats`). A type is any text, of
whatever meaning. **Of an HTTP route, each rule has the reports of its own filters, and the rules
are reported on in their order** (`HttpRoute.checkUniqueFilters_rules`). What the filters of other
rules or of backends are is of no importance to the report of a rule.
-/

namespace GatewayAdmission

/-! ## Lists of filters -/

namespace Filter

/-- Whether these are the positions, in their order, at which a type is first repeated that may not
be. Every such type that occurs more than once has one of them, and nothing else has any. -/
structure FirstRepeats (types : List String) (positions : List Nat) : Prop where
  increasing : positions.Pairwise (· < ·)
  second : ∀ i, i ∈ positions ↔ IsSecondAt types i ∧ types[i]? ≠ some "ExtensionRef"
  once : ∀ type, positions.countP (fun i => types[i]? == some type)
    = if type ≠ "ExtensionRef" ∧ 2 ≤ types.count type then 1 else 0

variable {types : List String} {positions : List Nat}

/-- The positions of the types that may not be repeated, among those of all types. -/
theorem firstRepeats_filter (h : Repetitions types positions) :
    FirstRepeats types (positions.filter fun i => types[i]? != some extensionRef) := by
  refine ⟨h.increasing.filter _, fun i => ?_, fun type => ?_⟩
  · rw [List.mem_filter, h.second, bne_iff_ne]
    rfl
  · rw [List.countP_filter]
    by_cases htype : type = "ExtensionRef"
    · rw [if_neg fun hrepeated => hrepeated.1 htype, List.countP_eq_zero]
      intro i _
      simp [htype, extensionRef]
    · have hkept : ∀ i ∈ positions, (types[i]? == some type && types[i]? != some extensionRef) = true
          ↔ (types[i]? == some type) = true := by
        intro i _
        simp only [Bool.and_eq_true, beq_iff_eq, bne_iff_ne, and_iff_left_iff_imp]
        intro hi
        rw [hi]
        exact fun heq => htype (Option.some.inj heq)
      rw [List.countP_congr hkept, h.once]
      exact if_congr (by simp [htype]) rfl rfl

/-- What is reported are second occurrences. -/
theorem checkUnique_eq (path : FieldPath) (types : List String) : checkUnique path types
    = ((secondOccurrences id types).filter (· != extensionRef)).map fun type =>
      .invalid path (.str type) "cannot be used multiple times in the same rule" := by
  rw [checkUnique, secondOccurrences_filter]
  rintro a b rfl
  rfl

/-- **A type that may not be repeated is reported once, at the second filter that has it.** -/
theorem checkUnique_repeats (path : FieldPath) (types : List String) :
    ∃ positions, FirstRepeats types positions
      ∧ List.Forall₂ (fun i error => ∃ type, types[i]? = some type
          ∧ error = .invalid path (.str type) "cannot be used multiple times in the same rule")
        positions (checkUnique path types) := by
  refine ⟨_, firstRepeats_filter repetitions_secondPositions_id, ?_⟩
  rw [checkUnique_eq, List.forall₂_map_right_iff]
  refine (List.rel_filter ?_ forall₂_secondOccurrences).imp fun i type htype => ⟨type, htype, rfl⟩
  intro i type htype
  simp [htype]

end Filter

/-! ## Rules -/

/-- Whether this is what is reported of the filters of a rule with this number: an error for every
type that may not be repeated but is, in the order of the filters that repeat a type first. -/
def HttpRule.ReportsRepeats (r : HttpRule) (i : Nat) (report : List FieldError) : Prop :=
  ∃ positions, Filter.FirstRepeats (r.filters.map (·.type)) positions
    ∧ List.Forall₂ (fun j error => ∃ f, r.filters[j]? = some f
        ∧ error.path.text = "spec.rules[" ++ toString i ++ "].filters"
        ∧ error.fault = .invalid (.str f.type) "cannot be used multiple times in the same rule")
      positions report

namespace HttpRoute

theorem text_filters (i : Nat) : (((FieldPath.spec.child "rules").index i).child "filters").text
    = "spec.rules[" ++ toString i ++ "].filters" :=
  FieldPath.text_index_child_eq (by decide) (by decide) i

theorem reportsRepeats_checkUnique (r : HttpRule) (i : Nat) : r.ReportsRepeats i
    (Filter.checkUnique (((FieldPath.spec.child "rules").index i).child "filters")
      (r.filters.map (·.type))) := by
  obtain ⟨positions, hpositions, herrors⟩ := Filter.checkUnique_repeats
    (((FieldPath.spec.child "rules").index i).child "filters") (r.filters.map (·.type))
  refine ⟨positions, hpositions, herrors.imp ?_⟩
  rintro j _ ⟨type, htype, rfl⟩
  rw [List.getElem?_map, Option.map_eq_some_iff] at htype
  obtain ⟨f, hf, rfl⟩ := htype
  exact ⟨f, hf, text_filters i, rfl⟩

/-- **Each rule has the reports of its own filters, in the order of the rules.** -/
theorem checkUniqueFilters_rules (r : HttpRoute) :
    ∃ reports : List (List FieldError), r.checkUniqueFilters = reports.flatten
      ∧ List.Forall₂ (fun rule report => rule.1.ReportsRepeats rule.2 report)
        r.spec.rules.zipIdx reports := by
  refine ⟨_, by rw [checkUniqueFilters, List.flatMap_def], ?_⟩
  rw [rulesAt, FieldPath.entries, List.map_map, List.forall₂_map_right_iff, List.forall₂_same]
  rintro ⟨rule, i⟩ -
  exact reportsRepeats_checkUnique rule i

end HttpRoute

end GatewayAdmission
