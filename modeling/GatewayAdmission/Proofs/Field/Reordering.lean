import GatewayAdmission.Field.Error
import GatewayAdmission.Proofs.Occurrence
import Mathlib.Algebra.GroupWithZero.Nat
import Mathlib.Data.Multiset.MapFold

/-!
# Entries in another order

Two lists may have related entries in different orders (`ReorderedBy`). A rule that finds as many
errors in one value as in each related one, wherever these stand (`SameNumber`), finds as many in
all entries of two such lists (`SameNumber.entries`).
-/

namespace GatewayAdmission

/-- Whether two lists have related entries, in whatever order. -/
def ReorderedBy {α : Type} (R : α → α → Prop) (as bs : List α) : Prop :=
  Multiset.Rel R (as : Multiset α) (bs : Multiset α)

/-- Whether two rules find as many errors in related values, wherever these stand. -/
def SameNumber {α : Type} (R : α → α → Prop) (rule rule' : FieldPath → α → List FieldError) :
    Prop :=
  ∀ ⦃a b : α⦄, R a b → ∀ path path', (rule path a).length = (rule' path' b).length

variable {α β : Type} {R : α → α → Prop} {as bs : List α}

namespace ReorderedBy

theorem of_perm (hrefl : ∀ a, R a a) (h : as.Perm bs) : ReorderedBy R as bs := by
  rw [ReorderedBy, Multiset.coe_eq_coe.2 h]
  exact Multiset.rel_refl_of_refl_on fun a _ => hrefl a

theorem refl (hrefl : ∀ a, R a a) (as : List α) : ReorderedBy R as as := of_perm hrefl (.refl as)

/-- What related entries have in common stands in the two lists in different orders. -/
theorem map_perm {f g : α → β} (h : ReorderedBy R as bs) (hfg : ∀ a b, R a b → f a = g b) :
    (as.map f).Perm (bs.map g) := by
  have heq : Multiset.map f (as : Multiset α) = Multiset.map g (bs : Multiset α) :=
    Multiset.rel_eq.1 (Multiset.rel_map.2 (h.mono fun a _ b _ => hfg a b))
  exact Multiset.coe_eq_coe.1 heq

end ReorderedBy

theorem FieldPath.length_flatMap_entries {rule : FieldPath → α → List β} {number : α → Nat}
    (h : ∀ path a, (rule path a).length = number a) (p : FieldPath) (as : List α) :
    ((p.entries as).flatMap fun (path, a) => rule path a).length = (as.map number).sum := by
  rw [List.length_flatMap, entries, List.map_map]
  have hnumber : as.zipIdx.map (fun x => (rule (p.index x.2) x.1).length)
      = as.zipIdx.map (number ∘ Prod.fst) := List.map_congr_left fun x _ => h _ _
  refine congrArg List.sum (hnumber.trans ?_)
  rw [← List.map_map, List.zipIdx_map_fst]

/-! ## Optional values -/

theorem optionRel_refl (hrefl : ∀ a, R a a) (a : Option α) : Option.Rel R a a := by
  cases a with
  | none => exact .none
  | some a => exact .some (hrefl a)

theorem isSome_eq_of_optionRel {a b : Option α} (h : Option.Rel R a b) :
    a.isSome = b.isSome := by
  cases h <;> rfl

/-! ## Lists -/

namespace SameNumber

/-- **A rule finds as many errors in the entries of two lists if it does so in related entries.** -/
theorem entries {rule rule' : FieldPath → α → List FieldError} (h : SameNumber R rule rule')
    (hrefl : ∀ a, R a a) (hreorder : ReorderedBy R as bs) (p p' : FieldPath) :
    ((p.entries as).flatMap fun (path, a) => rule path a).length
      = ((p'.entries bs).flatMap fun (path, b) => rule' path b).length := by
  -- Since a value is related to itself, the number does not depend on the path.
  have hpath : ∀ path a, (rule path a).length = (rule .spec a).length := fun path a =>
    (h (hrefl a) path .spec).trans (h (hrefl a) .spec .spec).symm
  have hpath' : ∀ path a, (rule' path a).length = (rule' .spec a).length := fun path a =>
    (h (hrefl a) .spec path).symm.trans (h (hrefl a) .spec .spec)
  rw [FieldPath.length_flatMap_entries hpath, FieldPath.length_flatMap_entries hpath']
  exact (hreorder.map_perm fun a b hab => h hab .spec .spec).sum_nat

end SameNumber

end GatewayAdmission
