import GatewayAdmission.Proofs.Admission.Admissible
import GatewayAdmission.Proofs.Gateway.Reordering
import GatewayAdmission.Proofs.Route.Reordering

/-!
# The order of entries

**An object has as many errors in whatever order the entries of its lists stand**
(`HeldTo.order_irrelevant`). So it is accepted in every order or in none. The errors themselves may
differ: their paths have the numbers of the entries, and of several entries with one name another
one is reported.
-/

namespace GatewayAdmission

/-- Whether two objects of a kind ask for the same in different orders. A class has no lists. -/
def ResourceKind.Reordered : (kind : ResourceKind) → kind.Model → kind.Model → Prop
  | .gateway => Gateway.Reordered
  | .gatewayClass => Eq
  | .httpRoute => HttpRoute.Reordered
  | .grpcRoute => GrpcRoute.Reordered
  | .tcpRoute | .udpRoute | .tlsRoute => StreamRoute.Reordered

namespace HeldTo

theorem length_eq {i : ResourceIdentity} {kind : ResourceKind}
    {rule : kind.Model → List FieldError} (h : HeldTo i kind rule) {m m' : kind.Model}
    (hreordered : kind.Reordered m m') : (rule m).length = (rule m').length := by
  cases h with
  | gatewayFirst => exact Gateway.length_checkHostnames hreordered
  | gatewayBeta | gatewayStable => exact Gateway.length_check hreordered
  | httpRouteFirst => exact HttpRoute.length_checkUniqueFilters hreordered
  | httpRouteBeta | httpRouteStable => exact HttpRoute.length_check hreordered
  | grpcRoute => exact GrpcRoute.length_check hreordered
  | tcpRoute | udpRoute | tlsRoute => exact StreamRoute.length_check hreordered

/-- **The order of entries does not change the number of errors**, nor whether there are any. -/
theorem order_irrelevant {i : ResourceIdentity} {kind : ResourceKind}
    {rule : kind.Model → List FieldError} (h : HeldTo i kind rule) {m m' : kind.Model}
    (hreordered : kind.Reordered m m') :
    (rule m).length = (rule m').length ∧ (rule m = [] ↔ rule m' = []) := by
  have hlength := h.length_eq hreordered
  rw [← List.length_eq_zero_iff, ← List.length_eq_zero_iff, hlength]
  exact ⟨rfl, Iff.rfl⟩

/-- A rule that sets headers of these names and adds one of them. -/
def headerRule (names : List String) : HttpRule :=
  let modifier : HeaderModifier := { set := names.map (⟨·, "on"⟩), add := [⟨"Cache", "off"⟩] }
  ⟨[], [⟨"RequestHeaderModifier", some modifier, none, none, none, none, none⟩], []⟩

theorem order_irrelevant_headerRule :
    let route : HttpRoute := ⟨{}, { rules := [⟨[], [], []⟩, headerRule ["cache", "trace"]] }⟩
    let shuffled : HttpRoute := ⟨{}, { rules := [headerRule ["trace", "cache"], ⟨[], [], []⟩] }⟩
    route.check.length = 1 ∧ shuffled.check.length = 1
      ∧ (route.check = [] ↔ shuffled.check = []) := by
  intro route shuffled
  have hrule : (headerRule ["cache", "trace"]).Reordered (headerRule ["trace", "cache"]) := by
    refine ⟨.refl HttpMatch.Reordered.refl _, ?_, .refl HttpBackendRef.Reordered.refl _⟩
    exact .cons ⟨rfl, .some ⟨.swap _ _ _, .refl _, .refl _⟩, .none, rfl, rfl, rfl, rfl⟩ .zero
  have hreordered : route.Reordered shuffled := by
    refine ⟨.refl _, .refl _, ?_⟩
    rw [ReorderedBy, Multiset.coe_eq_coe.2 (List.Perm.swap _ _ _)]
    exact .cons hrule (.cons (HttpRule.Reordered.refl _) .zero)
  obtain ⟨hlength, hnil⟩ := httpRouteStable.order_irrelevant hreordered
  have hone : route.check.length = 1 := by decide
  exact ⟨hone, hlength ▸ hone, hnil⟩

end HeldTo

end GatewayAdmission
