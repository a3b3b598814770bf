import GatewayAdmission.Proofs.Admission.Denial

/-!
# Fields by the texts of their paths

An error tells where it is by the text of its path alone. **The text tells the path**
(`Registry.steps_told_by_text`): different legible steps from `spec` have different texts, and the
path of every error of the Gateway API goes on from `spec` by legible steps. The numbers in it may
be any, so this does not depend on how long a list can get.
-/

namespace GatewayAdmission

open FieldPath (spec)

/-- Whether the path of an error goes on from `spec` by legible steps. -/
def FieldError.Legible (e : FieldError) : Prop :=
  ∃ steps, (∀ s ∈ steps, s.Legible) ∧ e.path = spec.walk steps

theorem FieldError.Clear.legible {e : FieldError} (h : e.Clear) : e.Legible :=
  ⟨e.path.steps, h.path.legible, h.path.eq_walk⟩

namespace Check

/-- Whether every error of a check has a legible path, whatever the objects are. -/
def Legible : Check → Prop
  | object _ rule _ => ∀ m, ∀ e ∈ rule m, e.Legible
  | change _ rule _ => ∀ old new, ∀ e ∈ rule old new, e.Legible

theorem Clear.legible {c : Check} (h : c.Clear) : c.Legible := by
  cases c with
  | object kind rule decode => exact fun m e he => (h m e he).legible
  | change kind rule decode => exact fun old new e he => (h old new e he).legible

end Check

namespace Registry

/-- **The text of a path tells the steps that lead from `spec` to a field**, and all errors of the
Gateway API are at fields that such steps lead to. -/
theorem steps_told_by_text :
    (∀ steps steps' : List PathStep, (∀ s ∈ steps, s.Legible) → (∀ s ∈ steps', s.Legible) →
      (spec.walk steps).text = (spec.walk steps').text → steps = steps')
      ∧ ∀ (i : ResourceIdentity) (c : Check), gatewayApi.find? i = some c → c.Legible := by
  constructor
  · intro steps steps' hsteps hsteps' htext
    exact FieldPath.walk_inj_of_text (by decide) hsteps hsteps' htext
  · intro i c hfind
    exact (allClear_of_find? hfind).legible

/-- A route with one filter twice. -/
def mirroredTwice : HttpRoute :=
  let mirror : HttpFilter := ⟨Filter.requestMirror, none, none, some {}, none, none, none⟩
  ⟨{}, { rules := [⟨[], [mirror, mirror], []⟩] }⟩

/-- Two versions report one text of this route and mean one place by it. Numbers that follow each
other do not run together. -/
theorem steps_told_by_text_mirroredTwice :
    (∃ e ∈ mirroredTwice.checkUniqueFilters, ∃ e' ∈ mirroredTwice.check,
      e.path.text = "spec.rules[0].filters" ∧ e'.path.text = "spec.rules[0].filters"
        ∧ e.path = e'.path)
      ∧ (spec.walk [.index 1, .index 12]).text ≠ (spec.walk [.index 11, .index 2]).text := by
  have hfirst : gatewayApi.find? (gatewayIdentity "v1alpha2" "httproutes")
      = some (.object .httpRoute HttpRoute.checkUniqueFilters) := rfl
  have hstable : gatewayApi.find? (gatewayIdentity "v1" "httproutes")
      = some (.object .httpRoute HttpRoute.check) := rfl
  constructor
  · obtain ⟨e, he, htext⟩ : ∃ e ∈ mirroredTwice.checkUniqueFilters,
        e.path.text = "spec.rules[0].filters" := ⟨_, .head _, by decide⟩
    obtain ⟨e', he', htext'⟩ : ∃ e' ∈ mirroredTwice.check,
        e'.path.text = "spec.rules[0].filters" := ⟨_, .head _, by decide⟩
    obtain ⟨steps, hsteps, hpath⟩ := steps_told_by_text.2 _ _ hfirst mirroredTwice e he
    obtain ⟨steps', hsteps', hpath'⟩ := steps_told_by_text.2 _ _ hstable mirroredTwice e' he'
    have hsame : steps = steps' := by
      refine steps_told_by_text.1 steps steps' hsteps hsteps' ?_
      rw [← hpath, ← hpath', htext, htext']
    exact ⟨e, he, e', he', htext, htext', by rw [hpath, hpath', hsame]⟩
  · intro htext
    exact absurd (steps_told_by_text.1 _ _ (by decide) (by decide) htext) (by decide)

end Registry

end GatewayAdmission
