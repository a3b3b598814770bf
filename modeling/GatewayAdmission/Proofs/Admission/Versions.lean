import GatewayAdmission.Proofs.Admission.Denial
import Mathlib.Data.List.Flatten

/-!
# Later versions

What the first version of a resource denies, every later version denies too, and its message has all
lines of the first one's message, in their order (`Engine.later_versions`).

The one rule of the first version is among the rules of the later ones: hostnames come first among
the errors of a Gateway (`Gateway.checkHostnames_isPrefix`), and repeated types of filters come among
the other errors of each rule of an HTTP route (`HttpRoute.checkUniqueFilters_sublist`). A class is
held to the same rule in every version.
-/

namespace GatewayAdmission

open Registry (gatewayIdentity)

/-! ## Rules of the first version -/

theorem HttpFilter.checkUnique_sublist (path : FieldPath) (ms : List HttpMatch)
    (fs : List HttpFilter) :
    (Filter.checkUnique path (fs.map (·.type))).Sublist (checkAll path ms fs) :=
  List.sublist_append_right _ _

theorem HttpRule.checkUnique_sublist (path : FieldPath) (r : HttpRule) :
    (Filter.checkUnique (path.child "filters") (r.filters.map (·.type))).Sublist (r.check path) := by
  refine (HttpFilter.checkUnique_sublist _ r.matches_ r.filters).trans ?_
  rw [check, List.append_assoc]
  exact List.sublist_append_left _ _

/-- Repeated types of filters are found among the other errors, rule by rule. -/
theorem HttpRoute.checkUniqueFilters_sublist (r : HttpRoute) :
    r.checkUniqueFilters.Sublist r.check := by
  rw [check, List.append_assoc]
  refine List.Sublist.trans ?_ (List.sublist_append_left _ _)
  exact List.Sublist.flatMap_right _ fun x _ => HttpRule.checkUnique_sublist x.1 x.2

/-- Hostnames come first. -/
theorem Gateway.checkHostnames_isPrefix (g : Gateway) : g.checkHostnames <+: g.check := by
  simp only [check, List.append_assoc]
  exact List.prefix_append _ _

/-! ## Checks of later versions -/

/-- Whether all that one check finds is found by another one too, in the same order. -/
inductive Check.Laxer : Check → Check → Prop
  | object {kind : ResourceKind} {rule rule' : kind.Model → List FieldError}
    (h : ∀ m, (rule m).Sublist (rule' m)) : Laxer (.object kind rule) (.object kind rule')
  | change {kind : ResourceKind} {rule rule' : kind.Model → kind.Model → List FieldError}
    (h : ∀ old new, (rule old new).Sublist (rule' old new)) :
    Laxer (.change kind rule) (.change kind rule')

theorem Check.Laxer.run {c c' : Check} (h : c.Laxer c') {q : AdmissionRequest}
    {errors : List FieldError} (hrun : c.run q = .ok errors) :
    ∃ errors', c'.run q = .ok errors' ∧ errors.Sublist errors' := by
  cases h with
  | object h =>
    obtain ⟨raw, m, hraw, hm, rfl⟩ := run_object_eq_ok.1 hrun
    exact ⟨_, run_object_eq_ok.2 ⟨raw, m, hraw, hm, rfl⟩, h m⟩
  | change h =>
    by_cases hupdate : q.operation = .update
    · obtain ⟨before, after, old, new, hbefore, hafter, hold, hnew, rfl⟩ :=
        (run_change_update_eq_ok hupdate).1 hrun
      exact ⟨_, (run_change_update_eq_ok hupdate).2
        ⟨before, after, old, new, hbefore, hafter, hold, hnew, rfl⟩, h old new⟩
    · obtain rfl := Except.ok.inj (hrun.symm.trans (run_change_of_ne hupdate))
      exact ⟨[], run_change_of_ne hupdate, List.Sublist.refl []⟩

/-- A check does not look at the resource that a request names. -/
theorem Check.run_resource (c : Check) (q : AdmissionRequest) (i : ResourceIdentity) :
    c.run { q with resource := i } = c.run q := by
  cases c <;> rfl

namespace Registry

/-- The names of the resources that there are in every version. -/
def resourcesOfAllVersions : List String := ["gateways", "httproutes", "gatewayclasses"]

/-- The versions after the first. -/
def versionsAfterFirst : List String := ["v1beta1", "v1"]

theorem exists_laxer {version resource : String} (hversion : version ∈ versionsAfterFirst)
    (hresource : resource ∈ resourcesOfAllVersions) :
    ∃ c c', gatewayApi.find? (gatewayIdentity "v1alpha2" resource) = some c
      ∧ gatewayApi.find? (gatewayIdentity version resource) = some c' ∧ c.Laxer c' := by
  have hgateway : Check.Laxer (.object .gateway Gateway.checkHostnames)
      (.object .gateway Gateway.check) := .object fun g => (Gateway.checkHostnames_isPrefix g).sublist
  have hroute : Check.Laxer (.object .httpRoute HttpRoute.checkUniqueFilters)
      (.object .httpRoute HttpRoute.check) := .object HttpRoute.checkUniqueFilters_sublist
  have hclass : Check.Laxer (.change .gatewayClass GatewayClass.checkUpdate)
      (.change .gatewayClass GatewayClass.checkUpdate) := .change fun _ _ => List.Sublist.refl _
  simp only [versionsAfterFirst, resourcesOfAllVersions, List.mem_cons, List.not_mem_nil, or_false]
    at hversion hresource
  rcases hversion with rfl | rfl <;> rcases hresource with rfl | rfl | rfl
  · exact ⟨_, _, rfl, rfl, hgateway⟩
  · exact ⟨_, _, rfl, rfl, hroute⟩
  · exact ⟨_, _, rfl, rfl, hclass⟩
  · exact ⟨_, _, rfl, rfl, hgateway⟩
  · exact ⟨_, _, rfl, rfl, hroute⟩
  · exact ⟨_, _, rfl, rfl, hclass⟩

/-- What is found in the first version is found in the later ones. -/
theorem dispatch_later {q : AdmissionRequest} {version resource : String}
    (hversion : version ∈ versionsAfterFirst) (hresource : resource ∈ resourcesOfAllVersions)
    (hfirst : q.resource = gatewayIdentity "v1alpha2" resource) {errors : List FieldError}
    (h : gatewayApi.dispatch q = .ok errors) :
    ∃ errors', gatewayApi.dispatch { q with resource := gatewayIdentity version resource }
      = .ok errors' ∧ errors.Sublist errors' := by
  obtain ⟨c, c', hfind, hfind', hlaxer⟩ := exists_laxer hversion hresource
  obtain ⟨d, hd, hrun⟩ := dispatch_eq_ok.1 h
  rw [hfirst] at hd
  obtain rfl := Option.some.inj (hfind.symm.trans hd)
  obtain ⟨errors', hrun', hsub⟩ := hlaxer.run hrun
  exact ⟨errors', dispatch_eq_ok.2 ⟨c', hfind', (c'.run_resource q _).trans hrun'⟩, hsub⟩

end Registry

namespace Engine

open Registry (versionsAfterFirst resourcesOfAllVersions)

/-- What has errors is denied for them. -/
theorem evaluate_of_errors {e : Engine} {q : AdmissionRequest}
    (hop : q.operation = .create ∨ q.operation = .update) {errors : List FieldError}
    (hdispatch : e.registry.dispatch q = .ok errors) (hne : errors ≠ []) :
    e.evaluate q = .ok (.deny q.uid (FieldError.aggregate errors)) := by
  refine (evaluate_of_validated hop).2 ⟨errors, hdispatch, ?_⟩
  cases errors with
  | nil => exact absurd rfl hne
  | cons e es => rfl

/-- **Later versions find all that the first version finds**, and what the first version denies they
deny with all lines of its message. -/
theorem later_versions :
    (∀ r : HttpRoute, r.checkUniqueFilters.Sublist r.check)
      ∧ (∀ g : Gateway, g.checkHostnames <+: g.check)
      ∧ ∀ (q : AdmissionRequest) (version resource : String), version ∈ versionsAfterFirst →
        resource ∈ resourcesOfAllVersions → q.resource = gatewayIdentity "v1alpha2" resource →
        ∀ response, gatewayApi.evaluate q = .ok response → response.allowed = false →
        ∃ message message', response = .deny q.uid message
          ∧ gatewayApi.evaluate { q with resource := gatewayIdentity version resource }
            = .ok (.deny q.uid message')
          ∧ (message.toList.splitOn '\n').Sublist (message'.toList.splitOn '\n') := by
  refine ⟨HttpRoute.checkUniqueFilters_sublist, Gateway.checkHostnames_isPrefix, ?_⟩
  intro q version resource hversion hresource hfirst response hevaluate hdenied
  obtain ⟨hop, errors, hdispatch, hne, rfl⟩ := exists_errors_of_denied hevaluate hdenied
  -- The errors of the later version hold those of the first, so there are some, and each has a
  -- line of its own.
  obtain ⟨errors', hdispatch', hsub⟩ :=
    Registry.dispatch_later hversion hresource hfirst hdispatch
  have hne' : errors' ≠ [] := by
    rintro rfl
    exact hne (List.sublist_nil.1 hsub)
  refine ⟨_, _, rfl, evaluate_of_errors (by exact hop) hdispatch' hne', ?_⟩
  rw [FieldError.splitOn_aggregate hne (Registry.allTidy_dispatch hdispatch),
    FieldError.splitOn_aggregate hne' (Registry.allTidy_dispatch hdispatch')]
  exact hsub.map _

/-- A new route with two filters of one type, of which the first has no configuration. -/
def twoMirrors : AdmissionRequest :=
  let mirror (rest : List (String × Json)) : Json := .obj (("type", .str "RequestMirror") :: rest)
  { AdmissionRequest.new "705ab4f5" (gatewayIdentity "v1alpha2" "httproutes") .create with
    object := some (.ofJson (.obj [("spec", .obj [("rules", .arr [.obj [("filters",
      .arr [mirror [], mirror [("requestMirror", .obj [])]])]])])])) }

theorem later_versions_twoMirrors : ∃ message message',
    gatewayApi.evaluate twoMirrors = .ok (.deny "705ab4f5" message)
      ∧ gatewayApi.evaluate { twoMirrors with resource := gatewayIdentity "v1" "httproutes" }
        = .ok (.deny "705ab4f5" message')
      ∧ (message.toList.splitOn '\n').Sublist (message'.toList.splitOn '\n') := by
  obtain ⟨errors, hevaluate⟩ : ∃ errors, gatewayApi.evaluate twoMirrors
      = .ok (.deny "705ab4f5" (FieldError.aggregate errors)) := ⟨_, rfl⟩
  obtain ⟨message, message', hmessage, hlater, hlines⟩ := later_versions.2.2 twoMirrors "v1"
    "httproutes" (by decide) (by decide) rfl _ hevaluate rfl
  exact ⟨message, message', hevaluate.trans (congrArg _ hmessage), hlater, hlines⟩

end Engine

end GatewayAdmission
