import GatewayAdmission.Dns.Name
import GatewayAdmission.Proofs.Text.Language

/-!
# Names and their labels

A subdomain is made of labels with points between them (`Dns.IsSubdomain`), and a subdomain under a
wildcard stands behind the label `*` (`Dns.IsWildcard`). **A value has no faults exactly if it is
short enough and of this form; of the two faults, each is there whether or not the other is**
(`Dns.faults_of_labels`).

The forms are patterns. That of a label has its first character in front and its last one at the
end of an optional part, so a label of one character is a case of its own
(`Dns.mem_language_labelForm`).
-/

namespace GatewayAdmission

open scoped Computability

namespace Dns

/-! ## What is expected -/

/-- Small letters and digits. -/
def IsAlphanumeric (c : Char) : Prop := ('a' ≤ c ∧ c ≤ 'z') ∨ ('0' ≤ c ∧ c ≤ '9')

/-- What a label has to be like: letters, digits and hyphens, with no hyphen at an end. -/
structure IsLabel (w : List Char) : Prop where
  nonempty : w ≠ []
  characters : ∀ c ∈ w, IsAlphanumeric c ∨ c = '-'
  first : ∀ c ∈ w.head?, IsAlphanumeric c
  last : ∀ c ∈ w.getLast?, IsAlphanumeric c

/-- One or more labels with points between them. -/
def IsSubdomain (w : List Char) : Prop :=
  ∃ labels, labels ≠ [] ∧ (∀ l ∈ labels, IsLabel l) ∧ w = ['.'].intercalate labels

/-- A subdomain behind the label `*`. -/
def IsWildcard (w : List Char) : Prop := ∃ v, IsSubdomain v ∧ w = '*' :: '.' :: v

/-! ## Labels -/

theorem inRanges_alphanumeric {c : Char} :
    Pattern.inRanges alphanumeric c = true ↔ IsAlphanumeric c := by
  simp [Pattern.inRanges, alphanumeric, IsAlphanumeric]

theorem inRanges_labelCharacters {c : Char} :
    Pattern.inRanges (('-', '-') :: alphanumeric) c = true ↔ IsAlphanumeric c ∨ c = '-' := by
  have hsplit : Pattern.inRanges (('-', '-') :: alphanumeric) c = true
      ↔ Pattern.inRanges [('-', '-')] c = true ∨ Pattern.inRanges alphanumeric c = true := by
    simp [Pattern.inRanges]
  rw [hsplit, Pattern.inRanges_single, inRanges_alphanumeric, or_comm]

/-- What follows the first character of a label: nothing, or characters up to the last one. -/
theorem mem_language_labelTail {w : List Char} :
    w ∈ (Pattern.optional (.seq (.many (.one (('-', '-') :: alphanumeric)))
        (.one alphanumeric))).language
      ↔ w = []
        ∨ ∃ u d, (∀ c ∈ u, IsAlphanumeric c ∨ c = '-') ∧ IsAlphanumeric d ∧ w = u ++ [d] := by
  rw [Pattern.optional, Pattern.language, Language.mem_add]
  refine or_congr (Language.mem_one w) ?_
  rw [Pattern.language, Language.mem_mul]
  simp only [Pattern.mem_many_one, inRanges_labelCharacters]
  constructor
  · rintro ⟨u, hu, _, ⟨d, hd, rfl⟩, rfl⟩
    exact ⟨u, d, hu, inRanges_alphanumeric.1 hd, rfl⟩
  · rintro ⟨u, d, hu, hd, rfl⟩
    exact ⟨u, hu, [d], ⟨d, inRanges_alphanumeric.2 hd, rfl⟩, rfl⟩

/-- **The form of a label is that of its characters.** -/
theorem mem_language_labelForm {w : List Char} : w ∈ labelForm.language ↔ IsLabel w := by
  rw [labelForm, Pattern.mem_seq_one]
  simp only [mem_language_labelTail, inRanges_alphanumeric]
  have hlast : ∀ (c : Char) u d, (c :: (u ++ [d])).getLast? = some d := fun c u d =>
    List.getLast?_concat (l := c :: u)
  constructor
  · rintro ⟨c, v, hc, rfl | ⟨u, d, hu, hd, rfl⟩, rfl⟩
    · exact ⟨by simp, by simp [hc], by simp [hc], by simp [hc]⟩
    · refine ⟨by simp, ?_, by simp [hc], ?_⟩
      · simp only [List.forall_mem_cons, List.forall_mem_append]
        exact ⟨Or.inl hc, hu, Or.inl hd, by simp⟩
      · rw [hlast]
        rintro _ ⟨rfl⟩
        exact hd
  · rintro ⟨hne, hall, hfirst, hend⟩
    obtain ⟨c, v, rfl⟩ := List.exists_cons_of_ne_nil hne
    refine ⟨c, v, hfirst c rfl, ?_, rfl⟩
    rcases List.eq_nil_or_concat' v with rfl | ⟨u, d, rfl⟩
    · exact Or.inl rfl
    · refine Or.inr ⟨u, d, fun b hb => hall b (by simp [hb]), ?_, rfl⟩
      exact hend d (hlast c u d)

/-! ## Names -/

theorem mem_language_subdomainForm {w : List Char} :
    w ∈ subdomainForm.language ↔ IsSubdomain w := by
  rw [subdomainForm, Pattern.mem_separated]
  simp only [mem_language_labelForm]
  rfl

theorem mem_language_wildcardForm {w : List Char} :
    w ∈ wildcardForm.language ↔ IsWildcard w := by
  simp only [wildcardForm, Pattern.sequence, Pattern.mem_seq_char, mem_language_subdomainForm]
  constructor
  · rintro ⟨_, ⟨v, hv, rfl⟩, rfl⟩
    exact ⟨v, hv, rfl⟩
  · rintro ⟨v, hv, rfl⟩
    exact ⟨_, ⟨v, hv, rfl⟩, rfl⟩

/-- **The form of an optional wildcard is that of a subdomain, with or without one.** -/
theorem mem_language_hostnameForm {w : List Char} :
    w ∈ hostnameForm.language ↔ IsSubdomain w ∨ IsWildcard w := by
  have hsplit : hostnameForm.language = subdomainForm.language + wildcardForm.language := by
    calc hostnameForm.language
      _ = (1 + Pattern.language (.char '*') * Pattern.language (.char '.'))
          * subdomainForm.language := rfl
      _ = subdomainForm.language + Pattern.language (.char '*')
          * (Pattern.language (.char '.') * subdomainForm.language) := by
        rw [add_mul, one_mul, mul_assoc]
      _ = subdomainForm.language + wildcardForm.language := rfl
  rw [hsplit, Language.mem_add, mem_language_subdomainForm, mem_language_wildcardForm]

theorem accepts_subdomainForm {value : String} :
    subdomainForm.accepts value = true ↔ IsSubdomain value.toList := by
  rw [Pattern.accepts_iff, mem_language_subdomainForm]

theorem accepts_wildcardForm {value : String} :
    wildcardForm.accepts value = true ↔ IsWildcard value.toList := by
  rw [Pattern.accepts_iff, mem_language_wildcardForm]

theorem accepts_hostnameForm {value : String} :
    hostnameForm.accepts value = true ↔ IsSubdomain value.toList ∨ IsWildcard value.toList := by
  rw [Pattern.accepts_iff, mem_language_hostnameForm]

instance : DecidablePred IsSubdomain := fun w =>
  decidable_of_iff (subdomainForm.accepts (String.ofList w) = true)
    (by simp [accepts_subdomainForm])

instance : DecidablePred IsWildcard := fun w =>
  decidable_of_iff (wildcardForm.accepts (String.ofList w) = true)
    (by simp [accepts_wildcardForm])

theorem IsSubdomain.characters {w : List Char} (h : IsSubdomain w) :
    ∀ c ∈ w, IsAlphanumeric c ∨ c = '-' ∨ c = '.' := by
  obtain ⟨labels, -, hlabels, rfl⟩ := h
  intro c hc
  rcases Segments.mem_intercalate hc with hpoint | ⟨l, hl, hc⟩
  · exact Or.inr (Or.inr hpoint)
  · exact ((hlabels l hl).characters c hc).imp_right Or.inl

/-! ## Faults -/

theorem subdomainFaults_eq (value : String) : subdomainFaults value
    = (if 253 < value.utf8ByteSize then [.tooLong] else [])
      ++ if IsSubdomain value.toList then [] else [.notSubdomain] := by
  rw [subdomainFaults, lengthFaults, maxLength]
  exact congrArg _ (if_congr accepts_subdomainForm rfl rfl)

theorem wildcardFaults_eq (value : String) : wildcardFaults value
    = (if 253 < value.utf8ByteSize then [.tooLong] else [])
      ++ if IsWildcard value.toList then [] else [.notWildcard] := by
  rw [wildcardFaults, lengthFaults, maxLength]
  exact congrArg _ (if_congr accepts_wildcardForm rfl rfl)

theorem notSubdomain_not_mem_iff {value : String} :
    Fault.notSubdomain ∉ subdomainFaults value ↔ IsSubdomain value.toList := by
  have hlength : Fault.notSubdomain ∉ if 253 < value.utf8ByteSize then [Fault.tooLong] else [] := by
    split <;> simp
  rw [subdomainFaults_eq, List.mem_append, not_or]
  by_cases hform : IsSubdomain value.toList <;> simp [hform, hlength]

theorem notWildcard_not_mem_iff {value : String} :
    Fault.notWildcard ∉ wildcardFaults value ↔ IsWildcard value.toList := by
  have hlength : Fault.notWildcard ∉ if 253 < value.utf8ByteSize then [Fault.tooLong] else [] := by
    split <;> simp
  rw [wildcardFaults_eq, List.mem_append, not_or]
  by_cases hform : IsWildcard value.toList <;> simp [hform, hlength]

/-- **A name has at most 253 octets and is made of labels**, and a value that is no name has a
fault for each of the two that it misses, that of its length first. -/
theorem faults_of_labels (value : String) :
    (subdomainFaults value = [] ↔ value.utf8ByteSize ≤ 253 ∧ IsSubdomain value.toList)
      ∧ (wildcardFaults value = [] ↔ value.utf8ByteSize ≤ 253 ∧ IsWildcard value.toList)
      ∧ subdomainFaults value = (if 253 < value.utf8ByteSize then [.tooLong] else [])
        ++ (if IsSubdomain value.toList then [] else [.notSubdomain])
      ∧ wildcardFaults value = (if 253 < value.utf8ByteSize then [.tooLong] else [])
        ++ (if IsWildcard value.toList then [] else [.notWildcard]) := by
  refine ⟨?_, ?_, subdomainFaults_eq value, wildcardFaults_eq value⟩
  · rw [subdomainFaults_eq]
    by_cases hform : IsSubdomain value.toList <;> simp [hform]
  · rw [wildcardFaults_eq]
    by_cases hform : IsWildcard value.toList <;> simp [hform]

end Dns

end GatewayAdmission
