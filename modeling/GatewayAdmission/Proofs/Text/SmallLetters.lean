import GatewayAdmission.Text.LowerCase
import Mathlib

/-!
# Texts in small letters

A text in lower case has no capital letter of ASCII (`Text.isUpper_of_mem_lowerCase`). This is more
than that the letters of ASCII become small: characters beyond ASCII may have a small form in
ASCII, such as the Kelvin sign, and none of these may be a capital. In a text of ASCII each letter
becomes small by itself (`Text.toList_lowerCase_ascii`).
-/

namespace GatewayAdmission

namespace Text

/-! ## Capital letters -/

theorem isUpper_iff_toNat {c : Char} : c.isUpper = true ↔ 65 ≤ c.toNat ∧ c.toNat ≤ 90 := by
  simp [Char.isUpper, UInt32.le_iff_toNat_le]

theorem isUpper_eq_false_of_lt {c : Char} (h : 90 < c.toNat) : c.isUpper = false := by
  rw [← Bool.not_eq_true, isUpper_iff_toNat]
  omega

/-- A number that stands for no character gives the first one, which is no letter either. -/
theorem isUpper_ofNat {n : Nat} (h : 90 < n) : (Char.ofNat n).isUpper = false := by
  rw [← Bool.not_eq_true, isUpper_iff_toNat, Char.toNat_ofNat]
  split <;> omega

/-! ## Small forms -/

/-- The first character of a run is led behind the capital letters of ASCII, and so are those that
follow it. -/
theorem lt_of_mem_caseRuns : ∀ run ∈ caseRuns, (90 : Int) < run.1 + run.2.2.2 := by
  decide +kernel

theorem isUpper_of_mem_lowerChar {c d : Char} (h : d ∈ lowerChar c) : d.isUpper = false := by
  unfold lowerChar at h
  split at h
  · rw [List.mem_singleton.1 h]
    exact Char.isUpper_toLower_eq_false c
  · rename_i hascii
    split at h
    · rw [List.mem_pair] at h
      rcases h with rfl | rfl <;> decide
    · dsimp only at h
      split at h
      · rename_i first last step distance hrun
        have hfirst : first ≤ c.toNat := by
          have := List.find?_some hrun
          simp only [Bool.and_eq_true, decide_eq_true_eq] at this
          exact this.1.1
        have hled : (90 : Int) < first + distance :=
          lt_of_mem_caseRuns _ (List.mem_of_find?_eq_some hrun)
        rw [List.mem_singleton.1 h]
        exact isUpper_ofNat (by omega)
      · rw [List.mem_singleton.1 h]
        exact isUpper_eq_false_of_lt (by omega)

theorem isUpper_of_mem_lowerChars {before cs : List Char} {d : Char}
    (h : d ∈ lowerChars before cs) : d.isUpper = false := by
  induction cs generalizing before with
  | nil => exact absurd h (by simp [lowerChars])
  | cons c cs ih =>
    rw [lowerChars, List.mem_append] at h
    rcases h with h | h
    · split at h
      · rw [List.mem_singleton.1 h]
        split <;> decide
      · exact isUpper_of_mem_lowerChar h
    · exact ih h

/-- **A text in lower case has no capital letter of ASCII.** -/
theorem isUpper_of_mem_lowerCase {s : String} {d : Char} (h : d ∈ (lowerCase s).toList) :
    d.isUpper = false := by
  rw [lowerCase, String.toList_ofList] at h
  exact isUpper_of_mem_lowerChars h

/-- There is nothing in it that could be made small. -/
theorem map_toLower_lowerCase (s : String) :
    (lowerCase s).toList.map Char.toLower = (lowerCase s).toList := by
  have hsmall : ∀ d ∈ (lowerCase s).toList, d.toLower = id d := fun d hd =>
    Char.toLower_eq_of_not_isUpper (Bool.not_eq_true _ ▸ isUpper_of_mem_lowerCase hd)
  rw [List.map_congr_left hsmall, List.map_id]

/-! ## ASCII -/

theorem lowerChars_ascii {before cs : List Char} (h : ∀ c ∈ cs, c.toNat < 0x80) :
    lowerChars before cs = cs.map Char.toLower := by
  induction cs generalizing before with
  | nil => rfl
  | cons c cs ih =>
    rw [List.forall_mem_cons] at h
    have hsigma : c ≠ 'Σ' := by
      rintro rfl
      exact absurd h.1 (by decide)
    rw [lowerChars, ih h.2, if_neg hsigma, lowerChar, if_pos h.1]
    rfl

/-- **In a text of ASCII each letter becomes small by itself.** -/
theorem toList_lowerCase_ascii {s : String} (h : ∀ c ∈ s.toList, c.toNat < 0x80) :
    (lowerCase s).toList = s.toList.map Char.toLower := by
  rw [lowerCase, String.toList_ofList, lowerChars_ascii h]

end Text

end GatewayAdmission
