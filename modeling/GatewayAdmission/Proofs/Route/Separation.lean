import GatewayAdmission.Proofs.Json.Numeral
import GatewayAdmission.Proofs.Route.Places

/-!
# Rules that are looked at one by one

The errors of a route can be sorted by the text of their paths: those that start with
`spec.rules[i]`, for each rule, and those that start with `spec.parentRefs`. **The errors of a rule
are the same in every route in which the rule has the same number, and so are the errors of the
parents in every route with the same parents; there are no others** (`routes_separable`).

Every check of a route consists of passes over its rules and of a look at its parents
(`Separable.of_passes`). A pass tells each rule its own path, and all that it finds there is found
at the path or below (`FieldPath.Under`). So the errors that start with the text of one path are
those that this rule had in each pass.
-/

namespace GatewayAdmission

/-! ## Errors by the text of their path -/

/-- How the paths of errors start that are about a rule. -/
def rulePlace (i : Nat) : String := "spec.rules[" ++ toString i ++ "]"

/-- How the paths of errors start that are about parents. -/
def parentsPlace : String := "spec.parentRefs"

/-- Whether a check looks at each rule by itself, at the parents by themselves, and at nothing else:
what it finds about a rule depends on the rule and its number alone, what it finds about parents on
the parents alone, and it finds nothing besides. -/
structure Separable {Route Rule : Type} (rules : Route → List Rule)
    (parentRefs : Route → List ParentReference) (check : Route → List FieldError) : Prop where
  rule : ∀ {r r' : Route} {i : Nat} {rule : Rule}, (rules r)[i]? = some rule →
    (rules r')[i]? = some rule →
    (check r).filter (·.startsAt (rulePlace i)) = (check r').filter (·.startsAt (rulePlace i))
  parents : ∀ {r r' : Route}, parentRefs r = parentRefs r' →
    (check r).filter (·.startsAt parentsPlace) = (check r').filter (·.startsAt parentsPlace)
  sorted : ∀ r, ∀ e ∈ check r, e.startsAt parentsPlace = true
    ∨ ∃ i < (rules r).length, e.startsAt (rulePlace i) = true

namespace FieldPath

/-- The path of a rule. -/
def rule (i : Nat) : FieldPath := (spec.child "rules").index i

/-- The path of the parents. -/
def parents : FieldPath := spec.child "parentRefs"

end FieldPath

/-! ## Places do not overlap -/

namespace FieldError

variable {e : FieldError}

theorem startsAt_rule {i : Nat} (h : (FieldPath.rule i).Under e.path) :
    e.startsAt (rulePlace i) = true :=
  startsAt_iff.2 (h.prefix_text (show "spec" ≠ "" by decide))

theorem startsAt_parents (h : FieldPath.parents.Under e.path) : e.startsAt parentsPlace = true :=
  startsAt_iff.2 (h.prefix_text (by decide))

theorem toList_rulePlace (i : Nat) :
    (rulePlace i).toList = "spec.rules[".toList ++ (Nat.toDigits 10 i ++ [']']) := by
  rw [rulePlace, String.toList_append, String.toList_append, List.append_assoc]
  congr 1
  simp

/-- The number of a rule is read off from the text up to the bracket. -/
theorem rule_unique {i j : Nat} (hi : e.startsAt (rulePlace i) = true)
    (hj : e.startsAt (rulePlace j) = true) : i = j := by
  obtain ⟨rest, hrest⟩ := startsAt_iff.1 hi
  obtain ⟨rest', hrest'⟩ := startsAt_iff.1 hj
  have htexts := hrest.trans hrest'.symm
  rw [toList_rulePlace, toList_rulePlace] at htexts
  simp only [List.append_assoc, List.append_cancel_left_eq, List.singleton_append] at htexts
  exact (PathStep.number_append_inj htexts).1

/-- The places of rules and of parents differ in the letter behind the point. -/
theorem not_startsAt_rule_and_parents {i : Nat} (hrule : e.startsAt (rulePlace i) = true)
    (hparents : e.startsAt parentsPlace = true) : False := by
  obtain ⟨rest, hrest⟩ := startsAt_iff.1 hrule
  obtain ⟨rest', hrest'⟩ := startsAt_iff.1 hparents
  have hletter := congrArg (·[5]?) (hrest.trans hrest'.symm)
  rw [toList_rulePlace] at hletter
  exact absurd (show some 'r' = some 'p' from hletter) (by decide)

end FieldError

/-! ## Passes over the rules -/

section

variable {Rule : Type}

/-- What is found when each rule is told its own path. -/
def pass (own : FieldPath → Rule → List FieldError) (rules : List Rule) : List FieldError :=
  ((FieldPath.spec.child "rules").entries rules).flatMap fun (path, rule) => own path rule

/-- Whether all that is found in a rule is found at its path or below. -/
def StaysInside (own : FieldPath → Rule → List FieldError) : Prop :=
  ∀ path rule, ∀ e ∈ own path rule, path.Under e.path

variable {own : FieldPath → Rule → List FieldError} {rules : List Rule}

theorem pass_eq : pass own rules = rules.zipIdx.flatMap fun x => own (.rule x.2) x.1 := by
  rw [pass, FieldPath.entries, List.flatMap_map]
  rfl

theorem StaysInside.startsAt_of_mem_pass (h : StaysInside own) {e : FieldError}
    (he : e ∈ pass own rules) : ∃ i < rules.length, e.startsAt (rulePlace i) = true := by
  rw [pass_eq] at he
  obtain ⟨⟨rule, i⟩, hmem, he⟩ := List.mem_flatMap.1 he
  exact ⟨i, List.snd_lt_of_mem_zipIdx hmem, FieldError.startsAt_rule (h _ _ e he)⟩

/-- **The errors of a pass that start with the text of the path of a rule are those of the rule.** -/
theorem StaysInside.filter_pass (h : StaysInside own) {i : Nat} {rule : Rule}
    (hi : rules[i]? = some rule) :
    (pass own rules).filter (·.startsAt (rulePlace i)) = own (.rule i) rule := by
  refine FieldPath.filter_flatMap_entries hi (fun e he => FieldError.startsAt_rule (h _ _ e he)) ?_
  intro j rule' hj e he
  rw [← Bool.not_eq_true]
  exact fun hstarts => hj (FieldError.rule_unique (FieldError.startsAt_rule (h _ _ e he)) hstarts)

end

/-- **A check is separable if it consists of passes that stay inside the rules and of a look at the
parents.** -/
theorem Separable.of_passes {Route Rule : Type} {rules : Route → List Rule}
    {parentRefs : Route → List ParentReference} {check : Route → List FieldError}
    (passes : List (FieldPath → Rule → List FieldError))
    {parents : List ParentReference → List FieldError} (hpasses : ∀ own ∈ passes, StaysInside own)
    (hparents : ∀ refs, ∀ e ∈ parents refs, FieldPath.parents.Under e.path)
    (hcheck : ∀ r, check r
      = (passes.flatMap fun own => pass own (rules r)) ++ parents (parentRefs r)) :
    Separable rules parentRefs check := by
  -- Sorted by its place, each pass is left with one rule, and nothing is left of the parents.
  have hrule : ∀ {r : Route} {i : Nat} {rule : Rule}, (rules r)[i]? = some rule →
      (check r).filter (·.startsAt (rulePlace i)) = passes.flatMap fun own => own (.rule i) rule := by
    intro r i rule hi
    have hnone : (parents (parentRefs r)).filter (·.startsAt (rulePlace i)) = [] :=
      List.filter_eq_nil_iff.2 fun e he hstarts => FieldError.not_startsAt_rule_and_parents hstarts
        (FieldError.startsAt_parents (hparents _ e he))
    rw [hcheck, List.filter_append, hnone, List.append_nil, List.filter_flatMap]
    exact List.flatMap_congr fun own hown => (hpasses own hown).filter_pass hi
  have hparents' : ∀ r, (check r).filter (·.startsAt parentsPlace) = parents (parentRefs r) := by
    intro r
    have hnone : (passes.flatMap fun own => pass own (rules r)).filter (·.startsAt parentsPlace)
        = [] := by
      refine List.filter_eq_nil_iff.2 fun e he hstarts => ?_
      obtain ⟨own, hown, he⟩ := List.mem_flatMap.1 he
      obtain ⟨i, -, hi⟩ := (hpasses own hown).startsAt_of_mem_pass he
      exact FieldError.not_startsAt_rule_and_parents hi hstarts
    rw [hcheck, List.filter_append, hnone, List.nil_append]
    exact List.filter_eq_self.2 fun e he => FieldError.startsAt_parents (hparents _ e he)
  refine ⟨fun hi hi' => (hrule hi).trans (hrule hi').symm, fun h => ?_, fun r e he => ?_⟩
  · rw [hparents', hparents', h]
  · rw [hcheck, List.mem_append] at he
    rcases he with he | he
    · obtain ⟨own, hown, he⟩ := List.mem_flatMap.1 he
      exact Or.inr ((hpasses own hown).startsAt_of_mem_pass he)
    · exact Or.inl (FieldError.startsAt_parents (hparents _ e he))

/-! ## Routes -/

theorem ParentReference.under_of_mem_check (refs : List ParentReference) :
    ∀ e ∈ check FieldPath.parents refs, FieldPath.parents.Under e.path :=
  fun e he => (allWithin_check refs e he).under

namespace HttpRoute

theorem separable_check : Separable (·.spec.rules) (·.spec.parentRefs) check := by
  refine .of_passes [HttpRule.check, HttpRule.checkPorts] ?_ ParentReference.under_of_mem_check
    fun r => ?_
  · refine List.forall_mem_cons.2 ⟨?_, List.forall_mem_singleton.2 ?_⟩
    · exact fun _ rule e he => (rule.allWithin_check e he).under
    · exact fun _ rule e he => (rule.allWithin_checkPorts e he).under
  · rw [List.flatMap_cons, List.flatMap_singleton]
    rfl

theorem separable_checkUniqueFilters :
    Separable (·.spec.rules) (·.spec.parentRefs) checkUniqueFilters := by
  refine .of_passes
    [fun path rule => Filter.checkUnique (path.child "filters") (rule.filters.map (·.type))] ?_
    (fun _ e he => absurd he List.not_mem_nil) fun r => ?_
  · exact List.forall_mem_singleton.2 fun _ rule e he => (rule.allWithin_checkUnique e he).under
  · rw [List.flatMap_singleton, List.append_nil]
    rfl

end HttpRoute

theorem GrpcRoute.separable_check : Separable (·.spec.rules) (·.spec.parentRefs) check := by
  refine .of_passes [GrpcRule.check] ?_ ParentReference.under_of_mem_check fun r => ?_
  · exact List.forall_mem_singleton.2 fun _ rule e he => (rule.allWithin_check e he).under
  · rw [List.flatMap_singleton]
    rfl

theorem StreamRoute.separable_check : Separable (·.spec.rules) (·.spec.parentRefs) check := by
  refine .of_passes [StreamRule.checkPorts] ?_ ParentReference.under_of_mem_check fun r => ?_
  · exact List.forall_mem_singleton.2 fun _ rule e he => (rule.allWithin_checkPorts e he).under
  · rw [List.flatMap_singleton]
    rfl

/-- **Every check of a route looks at its rules one by one**, at the parents by themselves, and at
nothing else. -/
theorem routes_separable :
    Separable (·.spec.rules) (·.spec.parentRefs) HttpRoute.check
      ∧ Separable (·.spec.rules) (·.spec.parentRefs) HttpRoute.checkUniqueFilters
      ∧ Separable (·.spec.rules) (·.spec.parentRefs) GrpcRoute.check
      ∧ Separable (·.spec.rules) (·.spec.parentRefs) StreamRoute.check :=
  ⟨HttpRoute.separable_check, HttpRoute.separable_checkUniqueFilters, GrpcRoute.separable_check,
    StreamRoute.separable_check⟩

/-- A rule that mirrors requests twice. -/
def mirroringRule : HttpRule :=
  let mirror : HttpFilter := ⟨"RequestMirror", none, none, some {}, none, none, none⟩
  ⟨[], [mirror, mirror], []⟩

/-- A route in which the rule stands behind an empty one. -/
def plainRoute : HttpRoute := ⟨{}, { rules := [⟨[], [], []⟩, mirroringRule] }⟩

/-- A route in which the rule stands behind itself, with a parent that is referred to twice. -/
def crowdedRoute : HttpRoute :=
  let shared : ParentReference := ⟨none, none, none, "edge", none, none⟩
  ⟨{}, { parentRefs := [shared, shared], rules := [mirroringRule, mirroringRule] }⟩

theorem routes_separable_mirroringRule :
    plainRoute.check.filter (·.startsAt (rulePlace 1))
        = crowdedRoute.check.filter (·.startsAt (rulePlace 1))
      ∧ (plainRoute.check.filter (·.startsAt (rulePlace 1))).length = 1
      ∧ plainRoute.check.length = 1 ∧ crowdedRoute.check.length = 3 :=
  ⟨routes_separable.1.rule rfl rfl, by decide, rfl, rfl⟩

end GatewayAdmission
