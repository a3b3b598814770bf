import GatewayAdmission.Proofs.Route.Scans
import GatewayAdmission.Route.Filter

/-!
# Parts of routes without errors

The conditions that the rules shared by all routes amount to: for header modifiers and header
matches, for the configurations of filters and their types, for the ports of Services, and for
parent references (`ParentReference.check_eq_nil_iff`).
-/

namespace GatewayAdmission

/-! ## Headers -/

/-- Whether no header, whatever the case of its name, is the target of two actions. -/
def HeaderModifier.Sound (m : HeaderModifier) : Prop :=
  ((m.add.map (·.name) ++ m.set.map (·.name) ++ m.remove).map Text.lowerCase).Nodup

theorem HeaderModifier.check_eq_nil_iff {path : FieldPath} {m : HeaderModifier} :
    m.check path = [] ↔ m.Sound := by
  have hnames : m.actions.map (·.name)
      = (m.add.map (·.name) ++ m.set.map (·.name) ++ m.remove).map Text.lowerCase := by
    simp [actions, Action.ofHeader, Function.comp_def]
  rw [check_eq, List.map_eq_nil_iff, secondOccurrences_eq_nil, hnames, Sound]

theorem HeaderMatch.check_eq_nil_iff {path : FieldPath} {ms : List HeaderMatch} :
    check path ms = [] ↔ (ms.map fun m => Text.lowerCase m.name).Nodup := by
  rw [check, List.map_eq_nil_iff, secondOccurrences_eq_nil, List.map_id]

/-! ## Filters -/

namespace Filter

theorem checkConfiguration_eq_nil_iff {path : FieldPath} {family type : String}
    {c : Configuration} :
    checkConfiguration path family type c = [] ↔ (c.value.isSome = true ↔ c.type = type) := by
  unfold checkConfiguration
  cases c.value <;> by_cases h : c.type = type <;> simp [h]

theorem checkUnique_eq_nil_iff {path : FieldPath} {types : List String} :
    checkUnique path types = [] ↔ (types.filter (· != "ExtensionRef")).Nodup := by
  rw [checkUnique, List.map_eq_nil_iff, secondOccurrences_eq_nil, List.map_id]
  rfl

theorem checkModifier_eq_nil_iff {path : FieldPath} {name : String} {m : Option HeaderModifier} :
    checkModifier path name m = [] ↔ ∀ modifier ∈ m, modifier.Sound := by
  cases m with
  | none => simp [checkModifier]
  | some m => simp [checkModifier, HeaderModifier.check_eq_nil_iff]

end Filter

/-! ## Backends -/

/-- Whether a reference to a Service has a port. -/
def BackendObjectReference.Sound (r : BackendObjectReference) : Prop :=
  r.group.getD "" = "" → r.kind.getD "Service" = "Service" → r.port ≠ none

theorem BackendObjectReference.checkPort_eq_nil_iff {path : FieldPath}
    {r : BackendObjectReference} : r.checkPort path = [] ↔ r.Sound := by
  unfold checkPort isService Sound
  cases r.port <;> simp

/-! ## Parents -/

namespace ParentReference

/-- Whether two references are to one parent, as far as their text says. -/
def SameParent (a b : ParentReference) : Prop :=
  a.name = b.name ∧ a.namespace_.getD "" = b.namespace_.getD "" ∧ a.kind.getD "" = b.kind.getD ""

/-- Whether a reference is to a part of its parent. -/
def Qualified (r : ParentReference) : Prop := r.sectionName.getD "" ≠ "" ∨ r.port.getD 0 ≠ 0

/-- Whether two references can stand beside each other. -/
def Apart (a b : ParentReference) : Prop :=
  SameParent a b → a.Qualified ∧ b.Qualified
    ∧ (a.sectionName.getD "", a.port.getD 0) ≠ (b.sectionName.getD "", b.port.getD 0)

theorem SameParent.symm {a b : ParentReference} (h : SameParent a b) : SameParent b a :=
  ⟨h.1.symm, h.2.1.symm, h.2.2.symm⟩

theorem Apart.symm {a b : ParentReference} (h : Apart a b) : Apart b a := by
  intro hsame
  obtain ⟨ha, hb, hne⟩ := h hsame.symm
  exact ⟨hb, ha, hne.symm⟩

theorem key_eq_iff {a b : ParentReference} : a.key = b.key ↔ SameParent a b := by
  simp [key, SameParent]

theorem qualifier_eq_none_iff {r : ParentReference} :
    r.qualifier = Qualifier.none ↔ ¬ r.Qualified := by
  simp [qualifier, Qualifier.none, Qualified]

theorem qualifier_eq_iff {a b : ParentReference} : a.qualifier = b.qualifier
    ↔ (a.sectionName.getD "", a.port.getD 0) = (b.sectionName.getD "", b.port.getD 0) := by
  simp [qualifier]

theorem mem_siblings {o : Occurrence ParentReference} {a : ParentReference} :
    a ∈ siblings o ↔ a ∈ o.before ∧ SameParent a o.entry := by
  rw [siblings, List.mem_filter, beq_iff_eq, key_eq_iff]

theorem lacksQualifier_eq_false_iff {o : Occurrence ParentReference} :
    lacksQualifier o = false ↔ ∀ a ∈ siblings o, a.Qualified ∧ o.entry.Qualified := by
  have hany : (o.entry :: siblings o).any (·.qualifier == Qualifier.none) = false
      ↔ o.entry.Qualified ∧ ∀ a ∈ siblings o, a.Qualified := by
    rw [List.any_eq_false, List.forall_mem_cons]
    simp only [beq_iff_eq, qualifier_eq_none_iff, not_not]
  rw [lacksQualifier, Bool.and_eq_false_iff, hany, Bool.not_eq_false', List.isEmpty_iff]
  constructor
  · rintro (hnone | ⟨hentry, hsiblings⟩) a ha
    · rw [hnone] at ha
      exact absurd ha (by simp)
    · exact ⟨hsiblings a ha, hentry⟩
  · intro h
    cases hsiblings : siblings o with
    | nil => exact Or.inl rfl
    | cons b rest =>
      refine Or.inr ⟨(h b (by simp [hsiblings])).2, fun a ha => (h a ?_).1⟩
      rwa [hsiblings]

theorem repeatsQualifier_eq_false_iff {o : Occurrence ParentReference} :
    repeatsQualifier o = false ↔ ∀ a ∈ siblings o, a.qualifier ≠ o.entry.qualifier := by
  rw [repeatsQualifier, List.any_eq_false]
  simp only [beq_iff_eq, ne_eq]

/-- A reference does not clash if it can stand beside each earlier one. -/
theorem clashes_eq_false_iff {o : Occurrence ParentReference} :
    clashes o = false ↔ ∀ a ∈ o.before, Apart a o.entry := by
  rw [clashes, Bool.or_eq_false_iff, lacksQualifier_eq_false_iff, repeatsQualifier_eq_false_iff]
  simp only [mem_siblings, ne_eq, qualifier_eq_iff]
  constructor
  · rintro ⟨hqualified, hdifferent⟩ a ha hsame
    obtain ⟨hleft, hright⟩ := hqualified a ⟨ha, hsame⟩
    exact ⟨hleft, hright, hdifferent a ⟨ha, hsame⟩⟩
  · intro hapart
    refine ⟨fun a ha => ?_, fun a ha => (hapart a ha.1 ha.2).2.2⟩
    exact ⟨(hapart a ha.1 ha.2).1, (hapart a ha.1 ha.2).2.1⟩

/-- There is no error if any two references can stand beside each other. -/
theorem check_eq_nil_iff {path : FieldPath} {refs : List ParentReference} :
    check path refs = [] ↔ refs.Pairwise Apart := by
  rw [check_eq, Option.toList_eq_nil_iff, Option.map_eq_none_iff, List.find?_eq_none,
    ← forall_occurrences_iff_pairwise]
  simp only [Bool.not_eq_true, clashes_eq_false_iff]

end ParentReference

end GatewayAdmission
