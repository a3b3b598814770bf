import GatewayAdmission.Proofs.Route.Parts
import Mathlib.Order.Bounds.Basic

/-!
# The first clash of two parent references

Whether a list of parent references has a clash is a question about its pairs; what is reported of
it is a question about one reference, the first that clashes with an earlier one. **The check
reports one error for that reference, and no error only if there is none**
(`ParentReference.check_firstClash`).

A reference clashes if one of those before it is at odds with it (`clashes_iff_exists`), and the
search through the references in their order stops at the first that does
(`exists_isLeast_of_find?`).
-/

namespace GatewayAdmission

namespace ParentReference

variable {path : FieldPath} {refs : List ParentReference} {i : Nat} {r : ParentReference}

/-! ## Clashes of two positions -/

/-- Whether the references at two positions are to one parent, as a whole or the same part of it. -/
def ClashAt (refs : List ParentReference) (j i : Nat) : Prop :=
  j < i ∧ ∃ a b, refs[j]? = some a ∧ refs[i]? = some b ∧ SameParent a b
    ∧ (¬ a.Qualified ∨ ¬ b.Qualified
      ∨ (a.sectionName.getD "", a.port.getD 0) = (b.sectionName.getD "", b.port.getD 0))

/-- Whether the reference `r` at a position or an earlier one to its parent is to the whole. -/
def WholeBy (refs : List ParentReference) (i : Nat) (r : ParentReference) : Prop :=
  ¬ r.Qualified ∨ ∃ j a, j < i ∧ refs[j]? = some a ∧ SameParent a r ∧ ¬ a.Qualified

/-- What is reported of the reference `r` at a position, the first that clashes. -/
inductive Reported (path : FieldPath) (refs : List ParentReference) (i : Nat)
    (r : ParentReference) : FieldError → Prop
  /-- A reference to the whole parent. -/
  | whole (hwhole : WholeBy refs i r) :
    Reported path refs i r (.required path missingQualifierMessage)
  /-- A section that is named again. -/
  | sectionName (hparts : ¬ WholeBy refs i r) {name : String} (hname : r.sectionName = some name)
      (hne : name ≠ "") :
    Reported path refs i r
      (.invalid ((path.index i).child "sectionName") (.str name) repeatedQualifierMessage)
  /-- A port that is named again, without a section. -/
  | port (hparts : ¬ WholeBy refs i r) {port : Int32} (hsection : r.sectionName.getD "" = "")
      (hport : r.port = some port) (hne : port ≠ 0) :
    Reported path refs i r
      (.invalid ((path.index i).child "port") (.int32 port) repeatedQualifierMessage)

theorem not_apart_iff {a b : ParentReference} : ¬ Apart a b ↔ SameParent a b
    ∧ (¬ a.Qualified ∨ ¬ b.Qualified
      ∨ (a.sectionName.getD "", a.port.getD 0) = (b.sectionName.getD "", b.port.getD 0)) := by
  rw [Apart, Classical.not_imp, Classical.not_and_iff_not_or_not, Classical.not_and_iff_not_or_not,
    Classical.not_not]

/-- The occurrence of a reference clashes if its position does with an earlier one. -/
theorem clashes_iff_exists (hr : refs[i]? = some r) :
    clashes ⟨i, (refs.take i).reverse, r⟩ = true ↔ ∃ j, ClashAt refs j i := by
  rw [← Bool.not_eq_false, clashes_eq_false_iff]
  constructor
  · intro hclash
    obtain ⟨a, ha, hapart⟩ : ∃ a ∈ (refs.take i).reverse, ¬ Apart a r := by simpa using hclash
    obtain ⟨j, hj, haj⟩ := mem_before_iff.1 ha
    exact ⟨j, hj, a, r, haj, hr, not_apart_iff.1 hapart⟩
  · rintro ⟨j, hj, a, b, haj, hb, hclash⟩ happart
    obtain rfl : b = r := Option.some.inj (hb.symm.trans hr)
    exact not_apart_iff.2 hclash (happart a (mem_before_iff.2 ⟨j, hj, haj⟩))

theorem pairwise_apart_iff : refs.Pairwise Apart ↔ ¬ ∃ j i, ClashAt refs j i := by
  rw [List.pairwise_iff_getElem]
  constructor
  · rintro hapart ⟨j, i, hji, a, b, ha, hb, hclash⟩
    obtain ⟨hj, rfl⟩ := List.getElem?_eq_some_iff.1 ha
    obtain ⟨hi, rfl⟩ := List.getElem?_eq_some_iff.1 hb
    exact not_apart_iff.2 hclash (hapart j i hj hi hji)
  · intro hnone j i hj hi hji
    by_contra hclash
    exact hnone ⟨j, i, hji, refs[j], refs[i], List.getElem?_eq_getElem hj,
      List.getElem?_eq_getElem hi, not_apart_iff.1 hclash⟩

/-! ## The first of them -/

/-- The search stops at the first position that clashes with an earlier one. -/
theorem exists_isLeast_of_find? {o : Occurrence ParentReference}
    (hfind : (occurrences refs).find? clashes = some o) :
    ∃ i r, IsLeast {i | ∃ j, ClashAt refs j i} i ∧ refs[i]? = some r
      ∧ o = ⟨i, (refs.take i).reverse, r⟩ := by
  obtain ⟨hclash, i, hi, ho, hearlier⟩ := List.find?_eq_some_iff_getElem.1 hfind
  have hat : (occurrences refs)[i]? = some o := List.getElem?_eq_some_iff.2 ⟨hi, ho⟩
  rw [getElem?_occurrences, Option.map_eq_some_iff] at hat
  obtain ⟨r, hr, rfl⟩ := hat
  refine ⟨i, r, ⟨(clashes_iff_exists hr).1 hclash, ?_⟩, hr, rfl⟩
  rintro k ⟨j, hk⟩
  by_contra hki
  -- The occurrence of an earlier position was passed over, so nothing clashes there.
  obtain ⟨-, -, b, -, hb, -⟩ := id hk
  have hkat : (occurrences refs)[k]? = some ⟨k, (refs.take k).reverse, b⟩ := by
    rw [getElem?_occurrences, hb, Option.map_some]
  obtain ⟨hlength, hget⟩ := List.getElem?_eq_some_iff.1 hkat
  have hpassed := hearlier k (Nat.lt_of_not_le hki)
  rw [hget, (clashes_iff_exists hb).2 ⟨j, hk⟩] at hpassed
  exact absurd hpassed (by decide)

theorem lacksQualifier_iff_wholeBy (hr : refs[i]? = some r) (hclash : ∃ j, ClashAt refs j i) :
    lacksQualifier ⟨i, (refs.take i).reverse, r⟩ = true ↔ WholeBy refs i r := by
  rw [← Bool.not_eq_false, lacksQualifier_eq_false_iff, not_forall]
  simp only [mem_siblings, mem_before_iff]
  constructor
  · rintro ⟨a, hunqualified⟩
    obtain ⟨⟨⟨j, hj, ha⟩, hsame⟩, hwhole⟩ := Classical.not_imp.1 hunqualified
    by_cases hqualified : r.Qualified
    · exact Or.inr ⟨j, a, hj, ha, hsame, fun h => hwhole ⟨h, hqualified⟩⟩
    · exact Or.inl hqualified
  · rintro (hwhole | ⟨j, a, hj, ha, hsame, hwhole⟩)
    · obtain ⟨j, hj, a, b, ha, hb, hsame, -⟩ := hclash
      obtain rfl : b = r := Option.some.inj (hb.symm.trans hr)
      exact ⟨a, fun h => hwhole (h ⟨⟨j, hj, ha⟩, hsame⟩).2⟩
    · exact ⟨a, fun h => hwhole (h ⟨⟨j, hj, ha⟩, hsame⟩).1⟩

theorem clashError_of_part {o : Occurrence ParentReference} (hpart : ¬ lacksQualifier o = true) :
    clashError path o =
      if o.entry.sectionName.getD "" = "" then
        .invalid ((path.index o.index).child "port") (.int32 (o.entry.port.getD 0))
          repeatedQualifierMessage
      else
        .invalid ((path.index o.index).child "sectionName") (.str (o.entry.sectionName.getD ""))
          repeatedQualifierMessage := by
  simp [clashError, repeatedError, hpart, qualifier]

/-- The error for the first reference that clashes. -/
theorem reported_clashError (hr : refs[i]? = some r) (hclash : ∃ j, ClashAt refs j i) :
    Reported path refs i r (clashError path ⟨i, (refs.take i).reverse, r⟩) := by
  have hlacks := lacksQualifier_iff_wholeBy hr hclash
  by_cases hwhole : WholeBy refs i r
  · rw [clashError, if_pos (hlacks.2 hwhole)]
    exact .whole hwhole
  have hqualified : r.Qualified := not_not.1 fun h => hwhole (Or.inl h)
  rw [clashError_of_part (mt hlacks.1 hwhole)]
  by_cases hsection : r.sectionName.getD "" = ""
  · have hport : r.port.getD 0 ≠ 0 := hqualified.resolve_left (not_not.2 hsection)
    rw [if_pos hsection]
    cases hp : r.port with
    | none => exact absurd (by rw [hp]; rfl) hport
    | some port => exact .port hwhole hsection hp (by rwa [hp] at hport)
  · rw [if_neg hsection]
    cases hname : r.sectionName with
    | none => exact absurd (by rw [hname]; rfl) hsection
    | some name => exact .sectionName hwhole hname (by rwa [hname] at hsection)

/-- **There is no error if no two references clash, and otherwise one, for the first that does.** -/
theorem check_firstClash (path : FieldPath) (refs : List ParentReference) :
    (check path refs = [] ↔ ¬ ∃ j i, ClashAt refs j i)
      ∧ ((∃ j i, ClashAt refs j i) → ∃ i r e, IsLeast {i | ∃ j, ClashAt refs j i} i
          ∧ refs[i]? = some r ∧ Reported path refs i r e ∧ check path refs = [e]) := by
  have hnil : check path refs = [] ↔ ¬ ∃ j i, ClashAt refs j i := by
    rw [check_eq_nil_iff, pairwise_apart_iff]
  refine ⟨hnil, fun hclash => ?_⟩
  cases hfind : (occurrences refs).find? clashes with
  | none =>
    have hnone : check path refs = [] := by
      rw [check_eq, hfind]
      rfl
    exact absurd hclash (hnil.1 hnone)
  | some o =>
    obtain ⟨i, r, hleast, hr, rfl⟩ := exists_isLeast_of_find? hfind
    refine ⟨i, r, _, hleast, hr, reported_clashError hr hleast.1, ?_⟩
    rw [check_eq, hfind]
    rfl

/-- References to two Gateways, empty where a field may as well be absent. -/
def twoGateways : List ParentReference :=
  [⟨none, none, none, "outer", some "", some 80⟩,
   ⟨none, none, none, "inner", none, none⟩,
   ⟨none, none, some "", "outer", some "http", some 0⟩,
   ⟨none, some "", none, "outer", none, some 80⟩,
   ⟨none, none, none, "inner", some "", some 0⟩]

/-- The port named twice stands before the two references to the whole of `inner`. -/
theorem check_firstClash_twoGateways :
    ClashAt twoGateways 0 3
      ∧ (∃ i r e, IsLeast {i | ∃ j, ClashAt twoGateways j i} i ∧ twoGateways[i]? = some r
          ∧ Reported (.child .spec "parentRefs") twoGateways i r e
          ∧ check (.child .spec "parentRefs") twoGateways = [e])
      ∧ check (.child .spec "parentRefs") twoGateways
          = [.invalid (.child (.index (.child .spec "parentRefs") 3) "port") (.int32 80)
              repeatedQualifierMessage] := by
  have hclash : ClashAt twoGateways 0 3 :=
    ⟨by decide, _, _, rfl, rfl, ⟨rfl, rfl, rfl⟩, Or.inr (Or.inr rfl)⟩
  exact ⟨hclash, (check_firstClash (.child .spec "parentRefs") twoGateways).2 ⟨0, 3, hclash⟩, rfl⟩

end ParentReference

end GatewayAdmission
