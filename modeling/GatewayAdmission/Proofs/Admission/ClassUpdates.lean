import GatewayAdmission.Proofs.Admission.Admissible

/-!
# Runs of updates of a class

What is stored of a class changes by updates: one that is admitted puts its new state in place of
what is stored, and any other changes nothing. **Along every run of updates the class keeps its
controller** (`Engine.controller_of_storeAll`), whichever versions the updates are of, and the
updates that are admitted on the way are exactly those that name the same controller. What is no
class stays as it is.

A step admits an update if the stored and the new state both decode and agree on the controller
(`Engine.admits_iff`). The run follows, as what a step stores decodes again.
-/

namespace GatewayAdmission

/-- An update of a class, in any version. What the request says of the old state is left open, as
it is what is stored when the update is asked for. -/
structure ClassUpdate where
  request : AdmissionRequest
  new : Raw
  resource : IsClass request.resource
  operation : request.operation = .update
  object : request.object = some new

namespace ClassUpdate

/-- The request to update what is stored. -/
def requestFor (u : ClassUpdate) (stored : Raw) : AdmissionRequest :=
  { u.request with oldObject := some stored }

end ClassUpdate

/-- No resource is both a class and held to a rule of its own. -/
theorem IsClass.not_heldTo {i : ResourceIdentity} (h : IsClass i) {kind : ResourceKind}
    {rule : kind.Model → List FieldError} : ¬ HeldTo i kind rule := by
  intro hheld
  have hclass := find?_gatewayApi.2 (Or.inl ⟨h, rfl⟩)
  have hobject := find?_gatewayApi.2 (Or.inr ⟨kind, rule, hheld, rfl⟩)
  exact Check.noConfusion (Option.some.inj (hclass.symm.trans hobject))

namespace Engine

open ResourceKind (gatewayClass)

/-! ## One update -/

/-- Whether an update of what is stored is admitted. A request without an answer is not. -/
def admits (e : Engine) (stored : Raw) (u : ClassUpdate) : Bool :=
  match e.evaluate (u.requestFor stored) with
  | .ok response => response.allowed
  | .error _ => false

/-- What is stored after an update was asked for. -/
def store (e : Engine) (stored : Raw) (u : ClassUpdate) : Raw :=
  if e.admits stored u then u.new else stored

theorem admits_eq_true {e : Engine} {stored : Raw} {u : ClassUpdate} : e.admits stored u = true
    ↔ ∃ response, e.evaluate (u.requestFor stored) = .ok response ∧ response.allowed = true := by
  unfold admits
  cases e.evaluate (u.requestFor stored) <;> simp

variable {stored : Raw} {u : ClassUpdate}

/-- An update is admitted if both states are classes, and of one controller. -/
theorem admits_iff : gatewayApi.admits stored u = true
    ↔ ∃ old new, gatewayClass.decode stored = .ok old ∧ gatewayClass.decode u.new = .ok new
      ∧ new.spec.controllerName = old.spec.controllerName := by
  have hresource : IsClass (u.requestFor stored).resource := u.resource
  have hupdate : (u.requestFor stored).operation = .update := u.operation
  rw [admits_eq_true, evaluate_gatewayApi_allowed]
  constructor
  · intro h
    cases h with
    | unchecked hop => simp [hupdate] at hop
    | newClass _ hop => simp [hupdate] at hop
    | sameController _ _ hold hnew decodeOld decodeNew hcontroller =>
      obtain rfl := Option.some.inj hold
      obtain rfl := Option.some.inj (u.object.symm.trans hnew)
      exact ⟨_, _, decodeOld, decodeNew, hcontroller.symm⟩
    | clean hheld => exact absurd hheld hresource.not_heldTo
  · rintro ⟨old, new, decodeOld, decodeNew, hcontroller⟩
    exact .sameController hresource hupdate rfl u.object decodeOld decodeNew hcontroller.symm

/-- An update leaves a class, and its controller as it was. -/
theorem controller_of_store {old : GatewayClass} (h : gatewayClass.decode stored = .ok old) :
    ∃ next, gatewayClass.decode (gatewayApi.store stored u) = .ok next
      ∧ next.spec.controllerName = old.spec.controllerName := by
  unfold store
  split
  · rename_i hadmits
    obtain ⟨old', new, hold, hnew, hcontroller⟩ := admits_iff.1 hadmits
    obtain rfl := Except.ok.inj (h.symm.trans hold)
    exact ⟨new, hnew, hcontroller⟩
  · exact ⟨old, h, rfl⟩

/-- What is no class cannot be updated. -/
theorem admits_eq_false (h : ∀ m, gatewayClass.decode stored ≠ .ok m) (u : ClassUpdate) :
    gatewayApi.admits stored u = false := by
  rw [Bool.eq_false_iff]
  intro hadmits
  obtain ⟨old, -, hold, -⟩ := admits_iff.1 hadmits
  exact h old hold

/-! ## Runs of updates -/

/-- What is stored after updates were asked for, one after the other. -/
def storeAll (e : Engine) (initial : Raw) (updates : List ClassUpdate) : Raw :=
  updates.foldl e.store initial

/-- A run of updates leaves a class, and its controller as it was. -/
theorem exists_decode_storeAll {initial : Raw} {first : GatewayClass}
    (h : gatewayClass.decode initial = .ok first) (updates : List ClassUpdate) :
    ∃ last, gatewayClass.decode (gatewayApi.storeAll initial updates) = .ok last
      ∧ last.spec.controllerName = first.spec.controllerName := by
  induction updates generalizing initial first with
  | nil => exact ⟨first, h, rfl⟩
  | cons u rest ih =>
    obtain ⟨next, hnext, hcontroller⟩ := controller_of_store (u := u) h
    obtain ⟨last, hlast, hsame⟩ := ih hnext
    exact ⟨last, hlast, hsame.trans hcontroller⟩

/-- What is no class stays as it is. -/
theorem storeAll_eq_self {initial : Raw} (h : ∀ m, gatewayClass.decode initial ≠ .ok m)
    (updates : List ClassUpdate) : gatewayApi.storeAll initial updates = initial := by
  induction updates with
  | nil => rfl
  | cons u rest ih =>
    have hstore : gatewayApi.store initial u = initial :=
      if_neg (Bool.eq_false_iff.1 (admits_eq_false h u))
    rw [storeAll, List.foldl_cons, hstore]
    exact ih

/-- **A class keeps its controller along every run of updates**, and of the updates that may follow,
those with this controller are admitted. Of what is no class, no update is ever admitted. -/
theorem controller_of_storeAll (initial : Raw) (updates : List ClassUpdate) :
    (∀ first, gatewayClass.decode initial = .ok first →
      (∃ last, gatewayClass.decode (gatewayApi.storeAll initial updates) = .ok last
        ∧ last.spec.controllerName = first.spec.controllerName)
      ∧ ∀ u, gatewayApi.admits (gatewayApi.storeAll initial updates) u = true
        ↔ ∃ new, gatewayClass.decode u.new = .ok new
          ∧ new.spec.controllerName = first.spec.controllerName)
    ∧ ((∀ m, gatewayClass.decode initial ≠ .ok m) →
      gatewayApi.storeAll initial updates = initial
        ∧ ∀ u, gatewayApi.admits (gatewayApi.storeAll initial updates) u = false) := by
  constructor
  · intro first hfirst
    obtain ⟨last, hlast, hcontroller⟩ := exists_decode_storeAll hfirst updates
    refine ⟨⟨last, hlast, hcontroller⟩, fun u => ?_⟩
    rw [admits_iff, ← hcontroller]
    constructor
    · rintro ⟨old, new, hold, hnew, hsame⟩
      obtain rfl := Except.ok.inj (hlast.symm.trans hold)
      exact ⟨new, hnew, hsame⟩
    · rintro ⟨new, hnew, hsame⟩
      exact ⟨last, new, hlast, hnew, hsame⟩
  · intro hnone
    have hself := storeAll_eq_self hnone updates
    refine ⟨hself, fun u => ?_⟩
    rw [hself]
    exact admits_eq_false hnone u

/-- A class of a controller, with these entries beside it. -/
def classOf (controller : String) (entries : List (String × Json)) : Raw :=
  .ofJson (.obj [("kind", .str "GatewayClass"),
    ("spec", .obj (("controllerName", .str controller) :: entries))])

/-- An update to a new state. -/
def updateTo (version : String) (h : IsClass (Registry.gatewayIdentity version "gatewayclasses"))
    (new : Raw) : ClassUpdate where
  request := { AdmissionRequest.new "705ab4f5"
    (Registry.gatewayIdentity version "gatewayclasses") .update with object := some new }
  new
  resource := h
  operation := rfl
  object := rfl

/-- One update is admitted, one is denied and one has no answer; of `null`, nothing is admitted. -/
theorem controller_of_storeAll_threeVersions :
    let described := classOf "example.com/edge" [("description", .str "at the edge")]
    let updates := [updateTo "v1alpha2" (by simp [IsClass]) described,
      updateTo "v1beta1" (by simp [IsClass]) (classOf "example.com/core" []),
      updateTo "v1" (by simp [IsClass]) (.ofJson .null)]
    gatewayApi.storeAll (classOf "example.com/edge" []) updates = described
      ∧ (∃ last, gatewayClass.decode (gatewayApi.storeAll (classOf "example.com/edge" []) updates)
        = .ok last ∧ last.spec.controllerName = "example.com/edge")
      ∧ gatewayApi.storeAll (.ofJson .null) updates = .ofJson .null := by
  intro described updates
  obtain ⟨first, hfirst, hcontroller⟩ : ∃ first,
      gatewayClass.decode (classOf "example.com/edge" []) = .ok first
        ∧ first.spec.controllerName = "example.com/edge" := ⟨_, rfl, rfl⟩
  have hnull : ∀ m, gatewayClass.decode (.ofJson .null) ≠ .ok m := by
    intro m h
    have herror : gatewayClass.decode (.ofJson .null) = .error (.unreadable .gatewayClass) := rfl
    exact absurd (herror.symm.trans h) (by simp)
  obtain ⟨⟨last, hlast, hsame⟩, -⟩ :=
    (controller_of_storeAll (classOf "example.com/edge" []) updates).1 first hfirst
  obtain ⟨hself, -⟩ := (controller_of_storeAll (.ofJson .null) updates).2 hnull
  exact ⟨rfl, ⟨last, hlast, hsame.trans hcontroller⟩, hself⟩

end Engine

end GatewayAdmission
