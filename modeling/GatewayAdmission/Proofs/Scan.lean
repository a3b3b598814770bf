import GatewayAdmission.Proofs.Occurrence
import GatewayAdmission.Scan

/-!
# What a loop finds

What a loop keeps stands for the entries it has passed. If every step keeps that up, and reports
what a rule says of its entry among those, then **the loop reports what the rule says of all
entries** (`scan_eq`), and one that ends with its first report **reports the first entry against a
condition** (`scanUntil_eq`). From there on nothing needs to be said of what is kept.
-/

namespace GatewayAdmission

section

variable {α β σ : Type} {as before : List α} {index : Nat} {kept : σ} {R : List α → σ → Prop}

/-- Whether a step reports by a rule while what is kept stands for the entries that are passed. -/
structure ScansBy (step : σ → Nat → α → List β × σ) (R : List α → σ → Prop)
    (rule : Occurrence α → List β) : Prop where
  reports : ∀ {before kept}, R before kept → ∀ index a,
    (step kept index a).1 = rule ⟨index, before, a⟩
  keeps : ∀ {before kept}, R before kept → ∀ index a, R (a :: before) (step kept index a).2

variable {step : σ → Nat → α → List β × σ} {rule : Occurrence α → List β}

theorem scanFrom_eq (h : ScansBy step R rule) (hkept : R before kept) :
    scanFrom step index kept as = (occurrencesFrom index before as).flatMap rule := by
  induction as generalizing index before kept with
  | nil => rfl
  | cons a as ih =>
    rw [scanFrom, occurrencesFrom, List.flatMap_cons, ← h.reports hkept,
      ← ih (h.keeps hkept index a)]

/-- A loop by a rule reports what the rule says of every entry. -/
theorem scan_eq (h : ScansBy step R rule) (hstart : R [] kept) :
    scan step kept as = (occurrences as).flatMap rule :=
  scanFrom_eq h hstart

/-- A loop with one report for each entry against a condition reports these entries. -/
theorem scan_eq_map_filter {bad : Occurrence α → Bool} {report : Occurrence α → β}
    (h : ScansBy step R fun o => if bad o then [report o] else []) (hstart : R [] kept) :
    scan step kept as = ((occurrences as).filter bad).map report := by
  rw [scan_eq h hstart]
  induction occurrences as with
  | nil => rfl
  | cons o os ih =>
    rw [List.flatMap_cons, ih, List.filter_cons]
    split <;> rfl

/-- Whether a step ends with the report of its entry if this is against a condition, while what is
kept stands for the entries that are passed. -/
structure ScansUntil (step : σ → Nat → α → Except β σ) (R : List α → σ → Prop)
    (bad : Occurrence α → Bool) (report : Occurrence α → β) : Prop where
  ends : ∀ {before kept}, R before kept → ∀ {index a}, bad ⟨index, before, a⟩ = true →
    step kept index a = .error (report ⟨index, before, a⟩)
  keeps : ∀ {before kept}, R before kept → ∀ {index a}, bad ⟨index, before, a⟩ = false →
    ∃ kept', step kept index a = .ok kept' ∧ R (a :: before) kept'

variable {step : σ → Nat → α → Except β σ} {bad : Occurrence α → Bool}
  {report : Occurrence α → β}

theorem scanUntilFrom_eq (h : ScansUntil step R bad report) (hkept : R before kept) :
    scanUntilFrom step index kept as
      = ((occurrencesFrom index before as).find? bad).map report := by
  induction as generalizing index before kept with
  | nil => rfl
  | cons a as ih =>
    rw [scanUntilFrom, occurrencesFrom]
    by_cases hbad : bad ⟨index, before, a⟩ = true
    · rw [h.ends hkept hbad, List.find?_cons_of_pos hbad, Option.map_some]
    · obtain ⟨kept', hstep, hkept'⟩ := h.keeps hkept (Bool.not_eq_true _ ▸ hbad)
      rw [hstep, List.find?_cons_of_neg hbad]
      exact ih hkept'

/-- A loop that ends with its first report ends at the first entry against the condition. -/
theorem scanUntil_eq (h : ScansUntil step R bad report) (hstart : R [] kept) :
    scanUntil step kept as = ((occurrences as).find? bad).map report :=
  scanUntilFrom_eq h hstart

end

/-! ## Keys that have been seen -/

section

variable {α κ : Type} [BEq κ] [LawfulBEq κ] {key : α → κ}

/-- The keys seen are those of the entries that are passed. -/
theorem scansBy_seeKey :
    ScansBy (seeKey key) (fun before seen => ∀ k, k ∈ seen ↔ k ∈ before.map key)
      fun o => if o.repeatsKey key then [o.index] else [] where
  reports := by
    intro before seen hseen index a
    have hrepeats : seen.contains (key a) = (⟨index, before, a⟩ : Occurrence α).repeatsKey key := by
      rw [Bool.eq_iff_iff, List.contains_iff_mem, hseen, List.mem_map, Occurrence.repeatsKey,
        List.any_eq_true]
      simp only [beq_iff_eq]
    rw [seeKey, hrepeats]
    split <;> rfl
  keeps := by
    intro before seen hseen index a k
    rw [seeKey, List.map_cons, List.mem_cons]
    by_cases ha : seen.contains (key a) = true
    · have hmem : key a ∈ before.map key := (hseen _).1 (List.contains_iff_mem.1 ha)
      rw [if_pos ha, hseen]
      exact ⟨Or.inr, fun h => h.elim (fun hk => hk ▸ hmem) id⟩
    · rw [if_neg ha, List.mem_cons, hseen]

theorem repeatedAt_eq (key : α → κ) (as : List α) :
    repeatedAt key as = ((occurrences as).filter (·.repeatsKey key)).map (·.index) :=
  scan_eq_map_filter scansBy_seeKey (by simp)

end

end GatewayAdmission
