import GatewayAdmission.Proofs.Admission.Admissible
import Mathlib.Data.Finset.Card
import Mathlib.Data.List.Basic

/-!
# Registrations

What a registry does is fixed by the registrations it is made of, in their order: **a request is
given to the last check that is registered for just its resource, and to none if there is none; the
registry holds as many resources as are registered, however often; and neighbours for different
resources can change places** (`Registry.ofList_registrations`).

A check reads objects with the decoder it is registered with, whatever this makes of them. A check
of objects reads the new one (`Check.Examined`). A check of changes reads nothing but on an update,
and there the old object before the new one (`Check.Compared`).
-/

namespace GatewayAdmission

/-! ## What a check finds out -/

namespace Check

section

variable {kind : ResourceKind} {decode : Decoder kind} {q : AdmissionRequest}

/-- What a check of objects finds out about a request. The old object is not looked at. -/
inductive Examined {kind : ResourceKind} (decode : Decoder kind)
    (rule : kind.Model → List FieldError) (q : AdmissionRequest) :
    Except DecodeError (List FieldError) → Prop
  /-- There is no object. -/
  | missing (hobject : q.object = none) : Examined decode rule q (.error .missingObject)
  /-- The object cannot be read. -/
  | unread {raw : Raw} {e : DecodeError} (hobject : q.object = some raw)
      (hraw : decode raw = .error e) : Examined decode rule q (.error e)
  /-- The object can be read. -/
  | read {raw : Raw} {model : kind.Model} (hobject : q.object = some raw)
      (hraw : decode raw = .ok model) : Examined decode rule q (.ok (rule model))

theorem examined_run {rule : kind.Model → List FieldError} :
    Examined decode rule q ((object kind rule decode).run q) := by
  show Examined decode rule q ((q.newState decode).map rule)
  cases hobject : q.object with
  | none =>
    rw [AdmissionRequest.newState, hobject]
    exact .missing hobject
  | some raw =>
    have hstate : q.newState decode = decode raw := by
      rw [AdmissionRequest.newState, hobject]
    rw [hstate]
    cases hraw : decode raw with
    | error e => exact .unread hobject hraw
    | ok model => exact .read hobject hraw

/-- What a check of changes finds out about an update. The first fault is told. -/
inductive Compared {kind : ResourceKind} (decode : Decoder kind)
    (rule : kind.Model → kind.Model → List FieldError) (q : AdmissionRequest) :
    Except DecodeError (List FieldError) → Prop
  /-- There is no old object, whatever the new one is. -/
  | noOld (hold : q.oldObject = none) : Compared decode rule q (.error .missingOldObject)
  /-- The old object cannot be read, whatever the new one is. -/
  | badOld {before : Raw} {e : DecodeError} (hold : q.oldObject = some before)
      (hbefore : decode before = .error e) : Compared decode rule q (.error e)
  /-- There is no new object. -/
  | noNew {before : Raw} {old : kind.Model} (hold : q.oldObject = some before)
      (hbefore : decode before = .ok old) (hnew : q.object = none) :
    Compared decode rule q (.error .missingObject)
  /-- The new object cannot be read. -/
  | badNew {before after : Raw} {old : kind.Model} {e : DecodeError}
      (hold : q.oldObject = some before) (hbefore : decode before = .ok old)
      (hnew : q.object = some after) (hafter : decode after = .error e) :
    Compared decode rule q (.error e)
  /-- Both can be read. -/
  | both {before after : Raw} {old new : kind.Model} (hold : q.oldObject = some before)
      (hbefore : decode before = .ok old) (hnew : q.object = some after)
      (hafter : decode after = .ok new) : Compared decode rule q (.ok (rule old new))

theorem compared_run {rule : kind.Model → kind.Model → List FieldError}
    (h : q.operation = .update) : Compared decode rule q ((change kind rule decode).run q) := by
  have hrun : (change kind rule decode).run q = do
      let old ← q.oldState decode
      let new ← q.newState decode
      return rule old new := if_pos h
  rw [hrun]
  cases hold : q.oldObject with
  | none =>
    rw [AdmissionRequest.oldState, hold]
    exact .noOld hold
  | some before =>
    have hbeforeState : q.oldState decode = decode before := by
      rw [AdmissionRequest.oldState, hold]
    rw [hbeforeState]
    cases hbefore : decode before with
    | error e => exact .badOld hold hbefore
    | ok old =>
      cases hnew : q.object with
      | none =>
        rw [AdmissionRequest.newState, hnew]
        exact .noNew hold hbefore hnew
      | some after =>
        have hafterState : q.newState decode = decode after := by
          rw [AdmissionRequest.newState, hnew]
        rw [hafterState]
        cases hafter : decode after with
        | error e => exact .badNew hold hbefore hnew hafter
        | ok new => exact .both hold hbefore hnew hafter

end

end Check

/-! ## Registries of registrations -/

namespace Registry

variable {regs before after : List (ResourceIdentity × Check)} {i : ResourceIdentity} {c : Check}

/-- Whether a check is the last to be registered for a resource. -/
def LastFor (i : ResourceIdentity) (c : Check) (regs : List (ResourceIdentity × Check)) : Prop :=
  ∃ earlier later, regs = earlier ++ (i, c) :: later ∧ ∀ r ∈ later, r.1 ≠ i

theorem registrations_foldl (r : Registry) :
    (regs.foldl (fun r (identity, check) => r.register identity check) r).registrations
      = regs.reverse ++ r.registrations := by
  induction regs generalizing r with
  | nil => rfl
  | cons reg regs ih =>
    rw [List.foldl_cons, ih, List.reverse_cons, List.append_assoc]
    rfl

theorem registrations_ofList : (ofList regs).registrations = regs.reverse := by
  rw [ofList, registrations_foldl, empty, List.append_nil]

theorem find?_ofList_eq_some_iff : (ofList regs).find? i = some c ↔ LastFor i c regs := by
  rw [find?, registrations_ofList, Option.map_eq_some_iff]
  constructor
  · rintro ⟨⟨j, c⟩, hfind, rfl⟩
    obtain ⟨hj, later, earlier, hreverse, hlater⟩ := List.find?_eq_some_iff_append.1 hfind
    obtain rfl : j = i := by simpa using hj
    refine ⟨earlier.reverse, later.reverse, ?_, fun r hr => ?_⟩
    · rw [← List.reverse_reverse regs, hreverse]
      simp
    · simpa using hlater r (List.mem_reverse.1 hr)
  · rintro ⟨earlier, later, rfl, hlater⟩
    refine ⟨(i, c), List.find?_eq_some_iff_append.2
      ⟨by simp, later.reverse, earlier.reverse, ?_, ?_⟩, rfl⟩
    · simp
    · intro r hr
      simpa using hlater r (List.mem_reverse.1 hr)

theorem find?_ofList_eq_none_iff : (ofList regs).find? i = none ↔ ∀ r ∈ regs, r.1 ≠ i := by
  rw [find?, registrations_ofList, Option.map_eq_none_iff, List.find?_eq_none]
  simp only [List.mem_reverse, beq_iff_eq]

/-- A request goes to the last check for its resource. -/
theorem dispatch_ofList (q : AdmissionRequest) :
    (∃ c, LastFor q.resource c regs ∧ (ofList regs).dispatch q = (c.run q).mapError .decode)
      ∨ (∀ r ∈ regs, r.1 ≠ q.resource)
        ∧ (ofList regs).dispatch q = .error (.unknownResource q.resource) := by
  cases hfind : (ofList regs).find? q.resource with
  | none => exact Or.inr ⟨find?_ofList_eq_none_iff.1 hfind, by rw [dispatch, hfind]⟩
  | some c => exact Or.inl ⟨c, find?_ofList_eq_some_iff.1 hfind, by rw [dispatch, hfind]⟩

theorem contains_ofList_iff : (ofList regs).contains i = true ↔ i ∈ regs.map (·.1) := by
  rw [contains, Option.isSome_iff_ne_none, Ne, find?_ofList_eq_none_iff, List.mem_map]
  simp

/-! ## How many resources -/

theorem nodup_eraseDups {α : Type} [BEq α] [LawfulBEq α] (as : List α) : as.eraseDups.Nodup := by
  induction hlength : as.length using Nat.strong_induction_on generalizing as with
  | _ n ih =>
    cases as with
    | nil => simp
    | cons a as =>
      -- Of the entries behind the first, those equal to it are gone.
      rw [List.eraseDups_cons, List.nodup_cons]
      refine ⟨by simp, ih _ ?_ _ rfl⟩
      have hfilter := List.length_filter_le (fun b => !b == a) as
      simp only [List.length_cons] at hlength
      omega

theorem size_ofList : (ofList regs).size = (regs.map (·.1)).toFinset.card := by
  rw [size, registrations_ofList, List.map_reverse,
    ← List.toFinset_card_of_nodup (nodup_eraseDups _)]
  congr 1
  ext i
  simp

/-! ## The order of registrations -/

/-- Of two neighbours at most one is for a resource, so their order is of no importance to it. -/
theorem find?_ofList_swap {r s : ResourceIdentity × Check} (h : r.1 ≠ s.1) :
    (ofList (before ++ s :: r :: after)).find? i
      = (ofList (before ++ r :: s :: after)).find? i := by
  have hpair : [r, s].find? (·.1 == i) = [s, r].find? (·.1 == i) := by
    by_cases hr : r.1 = i
    · have hs : s.1 ≠ i := fun hs => h (hr.trans hs.symm)
      simp [hr, hs]
    · by_cases hs : s.1 = i <;> simp [hr, hs]
  have hsplit : ∀ x y : ResourceIdentity × Check, (before ++ x :: y :: after).reverse
      = after.reverse ++ ([y, x] ++ before.reverse) := by
    intro x y
    simp
  rw [find?, find?, registrations_ofList, registrations_ofList, hsplit, hsplit, List.find?_append,
    List.find?_append, List.find?_append, List.find?_append, hpair]

theorem size_ofList_swap {r s : ResourceIdentity × Check} :
    (ofList (before ++ s :: r :: after)).size = (ofList (before ++ r :: s :: after)).size := by
  have hperm : (before ++ s :: r :: after).Perm (before ++ r :: s :: after) :=
    (List.Perm.swap r s after).append_left before
  rw [size_ofList, size_ofList, List.toFinset_eq_of_perm _ _ (hperm.map (·.1))]

/-! ## Any registrations -/

/-- **The last check for a resource counts, and nothing else about the order does.** -/
theorem ofList_registrations (regs : List (ResourceIdentity × Check)) :
    (∀ q, (∃ c, LastFor q.resource c regs
          ∧ (ofList regs).dispatch q = (c.run q).mapError .decode)
        ∨ (∀ r ∈ regs, r.1 ≠ q.resource)
          ∧ (ofList regs).dispatch q = .error (.unknownResource q.resource))
      ∧ (ofList regs).size = (regs.map (·.1)).toFinset.card
      ∧ (∀ i, (ofList regs).contains i = true ↔ i ∈ regs.map (·.1))
      ∧ (∀ before r s after, regs = before ++ r :: s :: after → r.1 ≠ s.1 →
          (∀ q, (ofList (before ++ s :: r :: after)).dispatch q = (ofList regs).dispatch q)
            ∧ (ofList (before ++ s :: r :: after)).size = (ofList regs).size
            ∧ ∀ i, (ofList (before ++ s :: r :: after)).contains i = (ofList regs).contains i)
      ∧ (∀ kind rule (decode : Decoder kind) q,
          Check.Examined decode rule q ((Check.object kind rule decode).run q))
      ∧ ∀ kind rule (decode : Decoder kind) q,
          (q.operation ≠ .update → (Check.change kind rule decode).run q = .ok [])
          ∧ (q.operation = .update →
            Check.Compared decode rule q ((Check.change kind rule decode).run q)) := by
  refine ⟨dispatch_ofList, size_ofList, fun i => contains_ofList_iff, ?_, ?_, ?_⟩
  · rintro before r s after rfl hne
    refine ⟨fun q => ?_, size_ofList_swap, fun i => ?_⟩
    · rw [dispatch, dispatch, find?_ofList_swap hne]
    · rw [contains, contains, find?_ofList_swap hne]
  · exact fun kind rule decode q => Check.examined_run
  · exact fun kind rule decode q => ⟨Check.run_change_of_ne, Check.compared_run⟩

def classUpdates : ResourceIdentity × Check :=
  (gatewayIdentity "v1" "gatewayclasses", .change .gatewayClass GatewayClass.checkUpdate)

def hostnamesOfGateways : ResourceIdentity × Check :=
  (gatewayIdentity "v1" "gateways", .object .gateway Gateway.checkHostnames)

/-- A decoder that reads no Gateway. -/
def refuseGateway : Decoder .gateway := fun _ => .error (.unreadable .gateway)

def unreadGateways : ResourceIdentity × Check :=
  (gatewayIdentity "v1" "gateways", .object .gateway Gateway.check refuseGateway)

/-- Gateways are registered before and after classes, and the classes may as well come last. A
Gateway is read with the decoder of the last registration. -/
theorem ofList_registrations_gatewaysAgain :
    (ofList [hostnamesOfGateways, classUpdates, unreadGateways]).size = 2
      ∧ LastFor (gatewayIdentity "v1" "gateways") (.object .gateway Gateway.check refuseGateway)
          [hostnamesOfGateways, classUpdates, unreadGateways]
      ∧ (∀ q, (ofList [hostnamesOfGateways, unreadGateways, classUpdates]).dispatch q
          = (ofList [hostnamesOfGateways, classUpdates, unreadGateways]).dispatch q)
      ∧ Check.Examined refuseGateway Gateway.check
          { AdmissionRequest.new "705ab4f5" (gatewayIdentity "v1" "gateways") .create with
            object := some (.ofJson .null) }
          (.error (.unreadable .gateway))
      ∧ (Check.change .gatewayClass GatewayClass.checkUpdate).run
          (.new "705ab4f5" (gatewayIdentity "v1" "gatewayclasses") .create) = .ok []
      ∧ Check.Compared ResourceKind.gatewayClass.decode GatewayClass.checkUpdate
          (.new "705ab4f5" (gatewayIdentity "v1" "gatewayclasses") .update)
          (.error .missingOldObject) := by
  obtain ⟨-, hsize, -, hswap, hobject, hchange⟩ :=
    ofList_registrations [hostnamesOfGateways, classUpdates, unreadGateways]
  refine ⟨hsize.trans (by decide), ⟨[hostnamesOfGateways, classUpdates], [], rfl, by simp⟩,
    (hswap [hostnamesOfGateways] classUpdates unreadGateways [] rfl (by decide)).1, ?_, ?_, ?_⟩
  · exact hobject .gateway Gateway.check refuseGateway _
  · exact (hchange .gatewayClass GatewayClass.checkUpdate _ _).1 (by decide)
  · exact (hchange .gatewayClass GatewayClass.checkUpdate _
      (.new "705ab4f5" (gatewayIdentity "v1" "gatewayclasses") .update)).2 rfl

end Registry

end GatewayAdmission
