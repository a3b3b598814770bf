import GatewayAdmission.Proofs.Admission.Admissible
import GatewayAdmission.Proofs.Gateway.Messages
import GatewayAdmission.Proofs.Route.Messages

/-!
# Denials

**The message of a denial has one line for each error** (`Engine.denied_lines`): taken apart at its
line breaks it gives back the texts of the errors that the registry found, in their order, and there
is one at least. Nothing in an object can put in a line or break one, since no rule of the Gateway
API has an error that is not on one line (`Registry.allTidy_of_find?`).
-/

namespace GatewayAdmission

open FieldError (AllClear AllTidy)

namespace Check

/-- Whether every error of a check is clear, whatever the objects are. -/
def Clear : Check → Prop
  | object _ rule _ => ∀ m, AllClear (rule m)
  | change _ rule _ => ∀ old new, AllClear (rule old new)

/-- Whether every error of a check is tidy, whatever the objects are. -/
def Tidy : Check → Prop
  | object _ rule _ => ∀ m, AllTidy (rule m)
  | change _ rule _ => ∀ old new, AllTidy (rule old new)

/-- Whether the text of every error of a check is on one line, whatever the objects are. -/
def OneLine : Check → Prop
  | object _ rule _ => ∀ m, ∀ e ∈ rule m, '\n' ∉ e.text.toList
  | change _ rule _ => ∀ old new, ∀ e ∈ rule old new, '\n' ∉ e.text.toList

theorem Clear.tidy {c : Check} (h : c.Clear) : c.Tidy := by
  cases c with
  | object kind rule decode => exact fun m => (h m).tidy
  | change kind rule decode => exact fun old new => (h old new).tidy

theorem Tidy.oneLine {c : Check} (h : c.Tidy) : c.OneLine := by
  cases c with
  | object kind rule decode => exact fun m e he => (h m e he).oneLine_text
  | change kind rule decode => exact fun old new e he => (h old new e he).oneLine_text

/-- What a check finds in a request is what it finds in objects. -/
theorem Tidy.run {c : Check} (h : c.Tidy) {q : AdmissionRequest} {errors : List FieldError}
    (hrun : c.run q = .ok errors) : AllTidy errors := by
  cases c with
  | object kind rule decode =>
    obtain ⟨-, m, -, -, rfl⟩ := run_object_eq_ok.1 hrun
    exact h m
  | change kind rule decode =>
    by_cases hupdate : q.operation = .update
    · obtain ⟨-, -, old, new, -, -, -, -, rfl⟩ := (run_change_update_eq_ok hupdate).1 hrun
      exact h old new
    · obtain rfl := Except.ok.inj (hrun.symm.trans (run_change_of_ne hupdate))
      exact FieldError.allClear_nil.tidy

end Check

namespace Registry

/-- Every check of the Gateway API is clear. -/
theorem allClear_of_find? {i : ResourceIdentity} {c : Check} (h : gatewayApi.find? i = some c) :
    c.Clear := by
  rcases find?_gatewayApi.1 h with ⟨-, rfl⟩ | ⟨kind, rule, hheld, rfl⟩
  · exact GatewayClass.allClear_checkUpdate
  · cases hheld with
    | gatewayFirst => exact Gateway.allClear_checkHostnames
    | gatewayBeta => exact Gateway.allClear_check
    | gatewayStable => exact Gateway.allClear_check
    | httpRouteFirst => exact HttpRoute.allClear_checkUniqueFilters
    | httpRouteBeta => exact HttpRoute.allClear_check
    | httpRouteStable => exact HttpRoute.allClear_check
    | grpcRoute => exact GrpcRoute.allClear_check
    | tcpRoute => exact StreamRoute.allClear_check
    | udpRoute => exact StreamRoute.allClear_check
    | tlsRoute => exact StreamRoute.allClear_check

/-- Every check of the Gateway API is tidy. -/
theorem allTidy_of_find? {i : ResourceIdentity} {c : Check} (h : gatewayApi.find? i = some c) :
    c.Tidy :=
  (allClear_of_find? h).tidy

theorem allTidy_dispatch {q : AdmissionRequest} {errors : List FieldError}
    (h : gatewayApi.dispatch q = .ok errors) : AllTidy errors := by
  obtain ⟨c, hfind, hrun⟩ := dispatch_eq_ok.1 h
  exact (allTidy_of_find? hfind).run hrun

end Registry

namespace Engine

/-- **The message of a denial has one line for each error**, and no error of the Gateway API has a
line break in its text. -/
theorem denied_lines :
    (∀ (q : AdmissionRequest) (response : AdmissionResponse),
      gatewayApi.evaluate q = .ok response → response.allowed = false →
      ∃ errors message, gatewayApi.registry.dispatch q = .ok errors ∧ errors ≠ []
        ∧ response.status = some ⟨some message, some 400⟩
        ∧ message.toList.splitOn '\n' = errors.map (·.text.toList))
      ∧ ∀ (i : ResourceIdentity) (c : Check), gatewayApi.registry.find? i = some c → c.OneLine := by
  constructor
  · intro q response hevaluate hdenied
    obtain ⟨-, errors, hdispatch, hne, rfl⟩ := exists_errors_of_denied hevaluate hdenied
    have htidy := Registry.allTidy_dispatch hdispatch
    exact ⟨errors, _, hdispatch, hne, rfl, FieldError.splitOn_aggregate hne htidy⟩
  · intro i c hfind
    exact (Registry.allTidy_of_find? hfind).oneLine

/-- A class whose new controller has a line break in its name. -/
def brokenController : AdmissionRequest :=
  { AdmissionRequest.new "705ab4f5" (Registry.gatewayIdentity "v1" "gatewayclasses") .update with
    oldObject := some (.ofJson (.obj [("spec", .obj [("controllerName", .str "a")])]))
    object := some (.ofJson (.obj [("spec", .obj [("controllerName", .str "b\nc")])])) }

theorem denied_lines_brokenController : ∃ errors message,
    gatewayApi.registry.dispatch brokenController = .ok errors ∧ errors ≠ []
      ∧ gatewayApi.evaluate brokenController = .ok (.deny "705ab4f5" message)
      ∧ message.toList.splitOn '\n' = errors.map (·.text.toList) := by
  have hevaluate : gatewayApi.evaluate brokenController
      = .ok (.deny "705ab4f5" (FieldError.aggregate [.invalid (FieldPath.spec.child
        "controllerName") (.str "b\nc") "cannot update an immutable field"])) := by rfl
  obtain ⟨errors, message, hdispatch, hne, hstatus, hlines⟩ :=
    denied_lines.1 brokenController _ hevaluate rfl
  refine ⟨errors, message, hdispatch, hne, ?_, hlines⟩
  rw [hevaluate]
  simp only [AdmissionResponse.deny, Option.some.injEq, ResponseStatus.mk.injEq] at hstatus
  rw [hstatus.1]

end Engine

end GatewayAdmission
