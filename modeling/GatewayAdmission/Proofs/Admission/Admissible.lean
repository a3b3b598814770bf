import GatewayAdmission.Proofs.Admission.Reply

/-!
# What is admitted

`Admissible q` lists the four ways in which a request can pass, and `Validated q errors` says that
a request reaches a rule which finds these errors. Both are stated with the table of the Gateway
API written out: `IsClass` for the resources of which only updates are checked, `HeldTo` for the
ten others, with the kind and the rule of each.

**A request is allowed exactly if it is admissible, and denied exactly if its rule finds an error;
in every other case there is no reply** (`Engine.review_gatewayApi`). The responses are those that
stand in the text of the replies.
-/

namespace GatewayAdmission

open Registry (gatewayIdentity)

/-! ## The table -/

/-- The resources whose objects are checked on updates only. -/
def IsClass (i : ResourceIdentity) : Prop :=
  i = gatewayIdentity "v1alpha2" "gatewayclasses" ∨ i = gatewayIdentity "v1beta1" "gatewayclasses"
    ∨ i = gatewayIdentity "v1" "gatewayclasses"

/-- The resources whose objects are held to a rule, and the kind the objects have. -/
inductive HeldTo : ResourceIdentity → (kind : ResourceKind) → (kind.Model → List FieldError) → Prop
  | gatewayFirst : HeldTo (gatewayIdentity "v1alpha2" "gateways") .gateway Gateway.checkHostnames
  | gatewayBeta : HeldTo (gatewayIdentity "v1beta1" "gateways") .gateway Gateway.check
  | gatewayStable : HeldTo (gatewayIdentity "v1" "gateways") .gateway Gateway.check
  | httpRouteFirst :
    HeldTo (gatewayIdentity "v1alpha2" "httproutes") .httpRoute HttpRoute.checkUniqueFilters
  | httpRouteBeta : HeldTo (gatewayIdentity "v1beta1" "httproutes") .httpRoute HttpRoute.check
  | httpRouteStable : HeldTo (gatewayIdentity "v1" "httproutes") .httpRoute HttpRoute.check
  | grpcRoute : HeldTo (gatewayIdentity "v1alpha2" "grpcroutes") .grpcRoute GrpcRoute.check
  | tcpRoute : HeldTo (gatewayIdentity "v1alpha2" "tcproutes") .tcpRoute StreamRoute.check
  | udpRoute : HeldTo (gatewayIdentity "v1alpha2" "udproutes") .udpRoute StreamRoute.check
  | tlsRoute : HeldTo (gatewayIdentity "v1alpha2" "tlsroutes") .tlsRoute StreamRoute.check

/-- The registry is the table, and nothing else is registered. -/
theorem find?_gatewayApi {i : ResourceIdentity} {c : Check} :
    Registry.gatewayApi.find? i = some c
      ↔ (IsClass i ∧ c = .change .gatewayClass GatewayClass.checkUpdate)
        ∨ ∃ kind rule, HeldTo i kind rule ∧ c = .object kind rule := by
  constructor
  · intro h
    obtain ⟨⟨j, d⟩, hfind, rfl⟩ := Option.map_eq_some_iff.1 h
    obtain rfl : j = i := by simpa using List.find?_some hfind
    have hmem := List.mem_of_find?_eq_some hfind
    simp only [Registry.gatewayApi, Registry.ofList, Registry.firstVersion, Registry.laterVersion,
      Registry.register, Registry.empty, List.cons_append, List.nil_append, List.foldl_cons,
      List.foldl_nil, List.mem_cons, List.not_mem_nil, or_false, Prod.mk.injEq] at hmem
    rcases hmem with ⟨rfl, rfl⟩ | ⟨rfl, rfl⟩ | ⟨rfl, rfl⟩ | ⟨rfl, rfl⟩ | ⟨rfl, rfl⟩ | ⟨rfl, rfl⟩
      | ⟨rfl, rfl⟩ | ⟨rfl, rfl⟩ | ⟨rfl, rfl⟩ | ⟨rfl, rfl⟩ | ⟨rfl, rfl⟩ | ⟨rfl, rfl⟩ | ⟨rfl, rfl⟩
    · exact Or.inl ⟨Or.inr (Or.inr rfl), rfl⟩
    · exact Or.inr ⟨_, _, .httpRouteStable, rfl⟩
    · exact Or.inr ⟨_, _, .gatewayStable, rfl⟩
    · exact Or.inl ⟨Or.inr (Or.inl rfl), rfl⟩
    · exact Or.inr ⟨_, _, .httpRouteBeta, rfl⟩
    · exact Or.inr ⟨_, _, .gatewayBeta, rfl⟩
    · exact Or.inr ⟨_, _, .tlsRoute, rfl⟩
    · exact Or.inr ⟨_, _, .udpRoute, rfl⟩
    · exact Or.inr ⟨_, _, .tcpRoute, rfl⟩
    · exact Or.inr ⟨_, _, .grpcRoute, rfl⟩
    · exact Or.inl ⟨Or.inl rfl, rfl⟩
    · exact Or.inr ⟨_, _, .httpRouteFirst, rfl⟩
    · exact Or.inr ⟨_, _, .gatewayFirst, rfl⟩
  · rintro (⟨rfl | rfl | rfl, rfl⟩ | ⟨kind, rule, h, rfl⟩)
    · rfl
    · rfl
    · rfl
    · cases h <;> rfl

/-! ## Requests -/

/-- Whether a request reaches a rule, and the rule finds these errors. -/
inductive Validated (q : AdmissionRequest) : List FieldError → Prop
  /-- An update of a class compares its old and its new state. -/
  | change (resource : IsClass q.resource) (operation : q.operation = .update)
    {before after : Raw} (oldObject : q.oldObject = some before) (object : q.object = some after)
    {old new : GatewayClass} (decodeOld : ResourceKind.gatewayClass.decode before = .ok old)
    (decodeNew : ResourceKind.gatewayClass.decode after = .ok new) :
    Validated q (GatewayClass.checkUpdate old new)
  /-- The new state of any other object is held to its rule. -/
  | object {kind : ResourceKind} {rule : kind.Model → List FieldError}
    (resource : HeldTo q.resource kind rule)
    (operation : q.operation = .create ∨ q.operation = .update) {raw : Raw}
    (object : q.object = some raw) {model : kind.Model} (decode : kind.decode raw = .ok model) :
    Validated q (rule model)

/-- Whether a request passes. -/
inductive Admissible (q : AdmissionRequest) : Prop
  /-- Deletions and connections pass, whatever they are about. -/
  | unchecked (operation : q.operation = .delete ∨ q.operation = .connect)
  /-- A new class passes unread. -/
  | newClass (resource : IsClass q.resource) (operation : q.operation = .create)
  /-- A class may change in anything but its controller. -/
  | sameController (resource : IsClass q.resource) (operation : q.operation = .update)
    {before after : Raw} (oldObject : q.oldObject = some before) (object : q.object = some after)
    {old new : GatewayClass} (decodeOld : ResourceKind.gatewayClass.decode before = .ok old)
    (decodeNew : ResourceKind.gatewayClass.decode after = .ok new)
    (controller : old.spec.controllerName = new.spec.controllerName)
  /-- An object in which its rule finds no error passes. -/
  | clean {kind : ResourceKind} {rule : kind.Model → List FieldError}
    (resource : HeldTo q.resource kind rule)
    (operation : q.operation = .create ∨ q.operation = .update) {raw : Raw}
    (object : q.object = some raw) {model : kind.Model} (decode : kind.decode raw = .ok model)
    (faultless : rule model = [])

namespace Check

variable {kind : ResourceKind} {decode : Decoder kind} {q : AdmissionRequest}
  {errors : List FieldError}

theorem newState_eq_ok {m : kind.Model} :
    q.newState decode = .ok m ↔ ∃ raw, q.object = some raw ∧ decode raw = .ok m := by
  unfold AdmissionRequest.newState
  cases q.object <;> simp

theorem oldState_eq_ok {m : kind.Model} :
    q.oldState decode = .ok m ↔ ∃ raw, q.oldObject = some raw ∧ decode raw = .ok m := by
  unfold AdmissionRequest.oldState
  cases q.oldObject <;> simp

theorem run_object_eq_ok {rule : kind.Model → List FieldError} :
    (object kind rule decode).run q = .ok errors
      ↔ ∃ raw m, q.object = some raw ∧ decode raw = .ok m ∧ rule m = errors := by
  have hstate : (object kind rule decode).run q = .ok errors
      ↔ ∃ m, q.newState decode = .ok m ∧ rule m = errors := by
    show (q.newState decode).map rule = .ok errors ↔ _
    cases q.newState decode <;> simp [Except.map]
  simp only [hstate, newState_eq_ok]
  constructor
  · rintro ⟨m, ⟨raw, hraw, hm⟩, herrors⟩
    exact ⟨raw, m, hraw, hm, herrors⟩
  · rintro ⟨raw, m, hraw, hm, herrors⟩
    exact ⟨m, ⟨raw, hraw, hm⟩, herrors⟩

section

variable {rule : kind.Model → kind.Model → List FieldError}

theorem run_change_update_eq_ok (h : q.operation = .update) :
    (change kind rule decode).run q = .ok errors
      ↔ ∃ before after old new, q.oldObject = some before ∧ q.object = some after
        ∧ decode before = .ok old ∧ decode after = .ok new ∧ rule old new = errors := by
  have hstates : (change kind rule decode).run q = .ok errors ↔ ∃ old new,
      q.oldState decode = .ok old ∧ q.newState decode = .ok new ∧ rule old new = errors := by
    show (if q.operation = .update then do
        let old ← q.oldState decode
        let new ← q.newState decode
        return rule old new
      else Except.ok []) = .ok errors ↔ _
    rw [if_pos h]
    cases q.oldState decode <;> cases q.newState decode <;>
      simp [bind, Except.bind, pure, Except.pure]
  simp only [hstates, oldState_eq_ok, newState_eq_ok]
  constructor
  · rintro ⟨old, new, ⟨before, hbefore, hold⟩, ⟨after, hafter, hnew⟩, herrors⟩
    exact ⟨before, after, old, new, hbefore, hafter, hold, hnew, herrors⟩
  · rintro ⟨before, after, old, new, hbefore, hafter, hold, hnew, herrors⟩
    exact ⟨old, new, ⟨before, hbefore, hold⟩, ⟨after, hafter, hnew⟩, herrors⟩

theorem run_change_of_ne (h : q.operation ≠ .update) : (change kind rule decode).run q = .ok [] :=
  if_neg h

end

end Check

namespace Registry

theorem dispatch_eq_ok {r : Registry} {q : AdmissionRequest} {errors : List FieldError} :
    r.dispatch q = .ok errors ↔ ∃ c, r.find? q.resource = some c ∧ c.run q = .ok errors := by
  unfold dispatch
  cases r.find? q.resource with
  | none => simp
  | some c => cases hrun : c.run q <;> simp [Except.mapError, hrun]

/-- What the registry finds out about a request that it is asked about. -/
theorem dispatch_gatewayApi_eq_ok {q : AdmissionRequest}
    (h : q.operation = .create ∨ q.operation = .update) {errors : List FieldError} :
    gatewayApi.dispatch q = .ok errors
      ↔ (IsClass q.resource ∧ q.operation = .create ∧ errors = []) ∨ Validated q errors := by
  rw [dispatch_eq_ok]
  constructor
  · rintro ⟨c, hfind, hrun⟩
    rcases find?_gatewayApi.1 hfind with ⟨hclass, rfl⟩ | ⟨kind, rule, hheld, rfl⟩
    · rcases h with hcreate | hupdate
      · have hpass := hrun.symm.trans (Check.run_change_of_ne (by simp [hcreate]))
        exact Or.inl ⟨hclass, hcreate, Except.ok.inj hpass⟩
      · obtain ⟨before, after, old, new, hbefore, hafter, hold, hnew, rfl⟩ :=
          (Check.run_change_update_eq_ok hupdate).1 hrun
        exact Or.inr (.change hclass hupdate hbefore hafter hold hnew)
    · obtain ⟨raw, m, hraw, hm, rfl⟩ := Check.run_object_eq_ok.1 hrun
      exact Or.inr (.object hheld h hraw hm)
  · rintro (⟨hclass, hcreate, rfl⟩ | hvalid)
    · exact ⟨_, find?_gatewayApi.2 (Or.inl ⟨hclass, rfl⟩),
        Check.run_change_of_ne (by simp [hcreate])⟩
    · cases hvalid with
      | change hclass hupdate hbefore hafter hold hnew =>
        exact ⟨_, find?_gatewayApi.2 (Or.inl ⟨hclass, rfl⟩),
          (Check.run_change_update_eq_ok hupdate).2
            ⟨_, _, _, _, hbefore, hafter, hold, hnew, rfl⟩⟩
      | object hheld _ hraw hm =>
        exact ⟨_, find?_gatewayApi.2 (Or.inr ⟨_, _, hheld, rfl⟩),
          Check.run_object_eq_ok.2 ⟨_, _, hraw, hm, rfl⟩⟩

end Registry

theorem GatewayClass.checkUpdate_eq_nil {old new : GatewayClass} :
    checkUpdate old new = [] ↔ old.spec.controllerName = new.spec.controllerName := by
  unfold checkUpdate
  split <;> simp [*]

/-- A request passes if it is not asked about, or if nothing is found. -/
theorem admissible_iff {q : AdmissionRequest} :
    Admissible q ↔ (q.operation = .delete ∨ q.operation = .connect)
      ∨ (IsClass q.resource ∧ q.operation = .create) ∨ Validated q [] := by
  constructor
  · rintro (hop | ⟨hclass, hcreate⟩ | ⟨hclass, hupdate, hbefore, hafter, hold, hnew, heq⟩
      | ⟨hheld, hop, hraw, hm, hclean⟩)
    · exact Or.inl hop
    · exact Or.inr (Or.inl ⟨hclass, hcreate⟩)
    · have hvalid := Validated.change hclass hupdate hbefore hafter hold hnew
      rw [GatewayClass.checkUpdate, if_pos heq] at hvalid
      exact Or.inr (Or.inr hvalid)
    · exact Or.inr (Or.inr (hclean ▸ Validated.object hheld hop hraw hm))
  · rintro (hop | ⟨hclass, hcreate⟩ | hvalid)
    · exact .unchecked hop
    · exact .newClass hclass hcreate
    · obtain ⟨errors, hnil, hvalid⟩ : ∃ errors, errors = [] ∧ Validated q errors := ⟨_, rfl, hvalid⟩
      cases hvalid with
      | change hclass hupdate hbefore hafter hold hnew =>
        exact .sameController hclass hupdate hbefore hafter hold hnew
          (GatewayClass.checkUpdate_eq_nil.1 hnil)
      | object hheld hop hraw hm => exact .clean hheld hop hraw hm hnil

theorem Validated.operation {q : AdmissionRequest} {errors : List FieldError}
    (h : Validated q errors) : q.operation = .create ∨ q.operation = .update := by
  cases h with
  | change _ hupdate => exact Or.inr hupdate
  | object _ hop => exact hop

/-! ## Responses -/

theorem Verdict.allowed_ofErrors {errors : List FieldError} {uid : String} {allowed : Bool} :
    ((ofErrors errors).response uid).allowed = allowed ↔ errors.isEmpty = allowed := by
  cases errors <;> rfl

namespace Engine

theorem evaluate_of_unchecked {e : Engine} {q : AdmissionRequest}
    (h : q.operation = .delete ∨ q.operation = .connect) :
    e.evaluate q = .ok (.passThrough q.uid) := by
  rcases h with h | h <;>
    simp [evaluate, judge, h, Operation.isValidated, Except.map, Except.mapError, Verdict.response]

theorem evaluate_of_validated {e : Engine} {q : AdmissionRequest}
    (h : q.operation = .create ∨ q.operation = .update) {response : AdmissionResponse} :
    e.evaluate q = .ok response ↔ ∃ errors, e.registry.dispatch q = .ok errors
      ∧ response = (Verdict.ofErrors errors).response q.uid := by
  have hjudge : e.judge q = (e.registry.dispatch q).map .ofErrors := by
    rcases h with h | h <;> simp [judge, h, Operation.isValidated]
  unfold evaluate
  rw [hjudge]
  cases e.registry.dispatch q <;> simp [Except.map, Except.mapError, eq_comm]

theorem operation_cases (q : AdmissionRequest) :
    (q.operation = .delete ∨ q.operation = .connect)
      ∨ (q.operation = .create ∨ q.operation = .update) := by
  cases q.operation <;> simp

/-- What is denied has errors, and is denied for them. -/
theorem exists_errors_of_denied {e : Engine} {q : AdmissionRequest} {response : AdmissionResponse}
    (h : e.evaluate q = .ok response) (hdenied : response.allowed = false) :
    (q.operation = .create ∨ q.operation = .update)
      ∧ ∃ errors, e.registry.dispatch q = .ok errors ∧ errors ≠ []
        ∧ response = .deny q.uid (FieldError.aggregate errors) := by
  rcases operation_cases q with hop | hop
  · rw [evaluate_of_unchecked hop] at h
    obtain rfl := Except.ok.inj h
    exact absurd hdenied (by simp [AdmissionResponse.passThrough])
  · obtain ⟨errors, hdispatch, rfl⟩ := (evaluate_of_validated hop).1 h
    refine ⟨hop, errors, hdispatch, ?_⟩
    cases errors with
    | nil => exact absurd (Verdict.allowed_ofErrors.1 hdenied) (by simp)
    | cons error errors => exact ⟨by simp, rfl⟩

/-- What the engine of the Gateway API allows. -/
theorem evaluate_gatewayApi_allowed {q : AdmissionRequest} :
    (∃ response, gatewayApi.evaluate q = .ok response ∧ response.allowed = true)
      ↔ Admissible q := by
  rcases operation_cases q with hop | hop
  · refine ⟨fun _ => .unchecked hop, fun _ => ⟨_, evaluate_of_unchecked hop, rfl⟩⟩
  · have hdispatch : (∃ response, gatewayApi.evaluate q = .ok response ∧ response.allowed = true)
        ↔ gatewayApi.registry.dispatch q = .ok [] := by
      constructor
      · rintro ⟨response, hevaluate, hallowed⟩
        obtain ⟨errors, hdispatch, rfl⟩ := (evaluate_of_validated hop).1 hevaluate
        have hempty := Verdict.allowed_ofErrors.1 hallowed
        rw [hdispatch, List.isEmpty_iff.1 hempty]
      · exact fun hdispatch =>
          ⟨_, (evaluate_of_validated hop).2 ⟨[], hdispatch, rfl⟩, rfl⟩
    rw [hdispatch, admissible_iff]
    refine (Registry.dispatch_gatewayApi_eq_ok hop).trans ⟨?_, ?_⟩
    · rintro (⟨hclass, hcreate, -⟩ | hvalid)
      · exact Or.inr (Or.inl ⟨hclass, hcreate⟩)
      · exact Or.inr (Or.inr hvalid)
    · rintro (hother | ⟨hclass, hcreate⟩ | hvalid)
      · rcases hother with h | h <;> simp [h] at hop
      · exact Or.inl ⟨hclass, hcreate, rfl⟩
      · exact Or.inr hvalid

/-- What the engine of the Gateway API denies. -/
theorem evaluate_gatewayApi_denied {q : AdmissionRequest} :
    (∃ response, gatewayApi.evaluate q = .ok response ∧ response.allowed = false)
      ↔ ∃ errors, Validated q errors ∧ errors ≠ [] := by
  constructor
  · rintro ⟨response, hevaluate, hdenied⟩
    obtain ⟨hop, errors, hdispatch, hfound, -⟩ := exists_errors_of_denied hevaluate hdenied
    rcases (Registry.dispatch_gatewayApi_eq_ok hop).1 hdispatch with ⟨-, -, hnil⟩ | hvalid
    · exact absurd hnil hfound
    · exact ⟨errors, hvalid, hfound⟩
  · rintro ⟨errors, hvalid, hfound⟩
    have hop := hvalid.operation
    refine ⟨_, (evaluate_of_validated hop).2 ⟨errors,
      (Registry.dispatch_gatewayApi_eq_ok hop).2 (Or.inr hvalid), rfl⟩, ?_⟩
    exact Verdict.allowed_ofErrors.2 (by simpa using hfound)

/-! ## Replies -/

/-- Whether a text has a reply in which this is said. -/
def Answers (e : Engine) (body : ByteArray) (allowed : Bool) : Prop :=
  ∃ reply response, e.review body = .ok reply ∧ answer? reply = some response
    ∧ response.allowed = allowed

theorem answers_iff {e : Engine} {body : ByteArray} {allowed : Bool} :
    e.Answers body allowed ↔ ∃ v q, decodeReview body = .ok (v, q)
      ∧ ∃ response, e.evaluate q = .ok response ∧ response.allowed = allowed := by
  constructor
  · rintro ⟨reply, response, hreview, hanswer, hallowed⟩
    obtain ⟨v, q, response', hdecode, hevaluate, rfl⟩ := review_eq_ok.1 hreview
    rw [answer?_respond] at hanswer
    obtain rfl := Option.some.inj hanswer
    exact ⟨v, q, hdecode, response', hevaluate, hallowed⟩
  · rintro ⟨v, q, hdecode, response, hevaluate, hallowed⟩
    exact ⟨_, response, review_eq_ok.2 ⟨v, q, response, hdecode, hevaluate, rfl⟩,
      answer?_respond v response, hallowed⟩

/-- Without a reply, nothing is said. -/
theorem exists_error_iff {e : Engine} {body : ByteArray} :
    (∃ err, e.review body = .error err) ↔ ¬ ∃ allowed, e.Answers body allowed := by
  constructor
  · rintro ⟨err, herror⟩ ⟨allowed, reply, response, hreply, -⟩
    exact absurd (herror.symm.trans hreply) (by simp)
  · intro hnone
    cases hreview : e.review body with
    | error err => exact ⟨err, rfl⟩
    | ok reply =>
      obtain ⟨v, q, response, -, -, rfl⟩ := review_eq_ok.1 hreview
      exact absurd ⟨response.allowed, _, response, hreview, answer?_respond v response, rfl⟩ hnone

/-- **What is allowed, what is denied, and what has no reply.** -/
theorem review_gatewayApi (body : ByteArray) :
    (gatewayApi.Answers body true
        ↔ ∃ v q, decodeReview body = .ok (v, q) ∧ Admissible q)
      ∧ (gatewayApi.Answers body false
        ↔ ∃ v q, decodeReview body = .ok (v, q) ∧ ∃ errors, Validated q errors ∧ errors ≠ [])
      ∧ ((∃ err, gatewayApi.review body = .error err)
        ↔ ∀ v q, decodeReview body = .ok (v, q) →
          ¬ Admissible q ∧ ¬ ∃ errors, Validated q errors ∧ errors ≠ []) := by
  have hallowed : gatewayApi.Answers body true
      ↔ ∃ v q, decodeReview body = .ok (v, q) ∧ Admissible q := by
    rw [answers_iff]
    simp only [evaluate_gatewayApi_allowed]
  have hdenied : gatewayApi.Answers body false
      ↔ ∃ v q, decodeReview body = .ok (v, q) ∧ ∃ errors, Validated q errors ∧ errors ≠ [] := by
    rw [answers_iff]
    simp only [evaluate_gatewayApi_denied]
  refine ⟨hallowed, hdenied, ?_⟩
  rw [exists_error_iff]
  constructor
  · intro hnone v q hdecode
    exact ⟨fun hq => hnone ⟨true, hallowed.2 ⟨v, q, hdecode, hq⟩⟩,
      fun hq => hnone ⟨false, hdenied.2 ⟨v, q, hdecode, hq⟩⟩⟩
  · rintro hneither ⟨allowed, hanswers⟩
    cases allowed with
    | true =>
      obtain ⟨v, q, hdecode, hq⟩ := hallowed.1 hanswers
      exact (hneither v q hdecode).1 hq
    | false =>
      obtain ⟨v, q, hdecode, hq⟩ := hdenied.1 hanswers
      exact (hneither v q hdecode).2 hq

end Engine

end GatewayAdmission
