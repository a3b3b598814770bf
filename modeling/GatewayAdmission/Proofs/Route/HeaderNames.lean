import GatewayAdmission.Proofs.Occurrence
import GatewayAdmission.Proofs.Text.SmallLetters
import GatewayAdmission.Route.Header

/-!
# Names of headers

A name differs from its canonical spelling in the case of its letters alone
(`HeaderName.map_toLower_canonical`), so names in lower case that have one canonical spelling are
equal. A name of ASCII characters has the canonical spelling of its lower case
(`HeaderName.canonical_lowerCase`). **Names have one canonical spelling if they are the same but for
case, and a text that is no name has one of its own** (`HeaderName.canonical_normalForm`).

So **a header that is matched several times is reported once, and what is reported tells it from
every other header and does not depend on how a match spells it** (`HeaderMatch.check_canonicalNames`).
-/

namespace GatewayAdmission

namespace HeaderName

/-- Whether a name has only characters that may stand in the name of a header. -/
def IsToken (name : String) : Prop := ∀ c ∈ name.toList, isTokenChar c = true

instance : DecidablePred IsToken := fun name =>
  decidable_of_iff (name.toList.all isTokenChar = true) List.all_eq_true

/-- Whether two names are the same but for the case of letters of ASCII. -/
def EqIgnoringCase (a b : String) : Prop := a.toList.map Char.toLower = b.toList.map Char.toLower

instance (a b : String) : Decidable (EqIgnoringCase a b) :=
  inferInstanceAs (Decidable (a.toList.map Char.toLower = b.toList.map Char.toLower))

/-! ## Characters of names -/

theorem toNat_lt_of_isAlphanum {c : Char} (h : c.isAlphanum = true) : c.toNat < 0x80 := by
  have hranges : ((65 ≤ c.toNat ∧ c.toNat ≤ 90) ∨ (97 ≤ c.toNat ∧ c.toNat ≤ 122))
      ∨ (48 ≤ c.toNat ∧ c.toNat ≤ 57) := by
    simpa [Char.isAlphanum, Char.isAlpha, Char.isUpper, Char.isLower, Char.isDigit,
      UInt32.le_iff_toNat_le] using h
  omega

theorem toNat_lt_of_isTokenChar {c : Char} (h : isTokenChar c = true) : c.toNat < 0x80 := by
  have hmarks : ∀ d ∈ "!#$%&'*+-.^_\x60|~".toList, d.toNat < 0x80 := by simp
  rw [isTokenChar, Bool.or_eq_true, List.contains_iff_mem] at h
  exact h.elim toNat_lt_of_isAlphanum (hmarks c)

theorem isTokenChar_toLower {c : Char} : isTokenChar c.toLower = true ↔ isTokenChar c = true := by
  by_cases hupper : c.isUpper = true
  · have hcapital : c.isAlpha = true := by rw [Char.isAlpha, hupper, Bool.true_or]
    have hsmall : c.toLower.isAlpha = true := by rwa [Char.isAlpha_toLower_eq_isAlpha]
    simp only [isTokenChar, Char.isAlphanum, hcapital, hsmall, Bool.true_or]
  · rw [Char.toLower_eq_of_not_isUpper hupper]

/-- Whether a name is a token does not depend on the case of its letters. -/
theorem EqIgnoringCase.isToken_iff {a b : String} (h : EqIgnoringCase a b) :
    IsToken a ↔ IsToken b := by
  have hsmall : ∀ name, IsToken name
      ↔ ∀ c ∈ name.toList.map Char.toLower, isTokenChar c = true := by
    intro name
    simp only [IsToken, List.forall_mem_map, isTokenChar_toLower]
  rw [hsmall, hsmall, h]

theorem toLower_beq_hyphen (c : Char) : (c.toLower == '-') = (c == '-') := by
  by_cases hupper : c.isUpper = true
  · have hsmall : c.toLower.isLower = true := by
      rw [Char.isLower_toLower_eq_isAlpha, Char.isAlpha, hupper, Bool.true_or]
    have hne : c.toLower ≠ '-' := fun h => absurd (h ▸ hsmall) (by decide)
    have hne' : c ≠ '-' := fun h => absurd (h ▸ hupper) (by decide)
    rw [beq_eq_false_iff_ne.2 hne, beq_eq_false_iff_ne.2 hne']
  · rw [Char.toLower_eq_of_not_isUpper hupper]

/-! ## Canonical spellings -/

/-- Capitals are put and taken away, and nothing else changes. -/
theorem map_toLower_capitalize (start : Bool) (cs : List Char) :
    (capitalize start cs).map Char.toLower = cs.map Char.toLower := by
  induction cs generalizing start with
  | nil => rfl
  | cons c cs ih =>
    rw [capitalize, List.map_cons, List.map_cons, ih]
    cases start <;> simp

theorem capitalize_map_toLower (start : Bool) (cs : List Char) :
    capitalize start (cs.map Char.toLower) = capitalize start cs := by
  induction cs generalizing start with
  | nil => rfl
  | cons c cs ih =>
    rw [List.map_cons, capitalize, capitalize, ih, toLower_beq_hyphen]
    cases start <;> simp

theorem canonical_of_isToken {name : String} (h : IsToken name) :
    (canonical name).toList = capitalize true name.toList := by
  have hall : name.toList.all isTokenChar = true := List.all_eq_true.2 h
  rw [canonical, hall]
  by_cases hempty : name.isEmpty = true
  · rw [String.isEmpty_iff.1 hempty]
    rfl
  · rw [if_neg (by simpa using hempty), String.toList_ofList]

theorem canonical_of_not_isToken {name : String} (h : ¬ IsToken name) : canonical name = name := by
  have hall : name.toList.all isTokenChar = false := by
    rw [← Bool.not_eq_true, List.all_eq_true]
    exact h
  rw [canonical, hall]
  exact if_pos (by simp)

/-- **A name differs from its canonical spelling in the case of letters alone.** -/
theorem map_toLower_canonical (name : String) :
    (canonical name).toList.map Char.toLower = name.toList.map Char.toLower := by
  by_cases h : IsToken name
  · rw [canonical_of_isToken h, map_toLower_capitalize]
  · rw [canonical_of_not_isToken h]

/-- Names in lower case are told apart by their canonical spellings. -/
theorem canonical_lowerCase_inj {a b : String}
    (h : canonical (Text.lowerCase a) = canonical (Text.lowerCase b)) :
    Text.lowerCase a = Text.lowerCase b := by
  rw [← String.toList_inj, ← Text.map_toLower_lowerCase a, ← Text.map_toLower_lowerCase b,
    ← map_toLower_canonical, h, map_toLower_canonical]

/-! ## The canonical spelling as a normal form -/

theorem isToken_canonical {name : String} : IsToken (canonical name) ↔ IsToken name :=
  EqIgnoringCase.isToken_iff (map_toLower_canonical name)

theorem capitalize_eq_iff {start : Bool} {cs ds : List Char} :
    capitalize start cs = capitalize start ds ↔ cs.map Char.toLower = ds.map Char.toLower := by
  constructor
  · intro h
    rw [← map_toLower_capitalize start, h, map_toLower_capitalize]
  · intro h
    rw [← capitalize_map_toLower, h, capitalize_map_toLower]

theorem canonical_eq_iff_of_isToken {a b : String} (ha : IsToken a) (hb : IsToken b) :
    canonical a = canonical b ↔ EqIgnoringCase a b := by
  rw [← String.toList_inj, canonical_of_isToken ha, canonical_of_isToken hb, capitalize_eq_iff]
  rfl

/-- A text that is no name is the canonical spelling of itself alone. -/
theorem canonical_eq_iff_of_not_isToken {a b : String} (ha : ¬ IsToken a) :
    canonical a = canonical b ↔ a = b := by
  refine ⟨fun h => ?_, fun h => h ▸ rfl⟩
  rw [canonical_of_not_isToken ha] at h
  have hb : ¬ IsToken b := fun hb => ha (h ▸ isToken_canonical.2 hb)
  rwa [canonical_of_not_isToken hb] at h

theorem canonical_canonical (name : String) : canonical (canonical name) = canonical name := by
  by_cases h : IsToken name
  · exact (canonical_eq_iff_of_isToken (isToken_canonical.2 h) h).2 (map_toLower_canonical name)
  · rw [canonical_of_not_isToken h, canonical_of_not_isToken h]

/-- **The canonical spelling of a name is that of its lower case.** -/
theorem canonical_lowerCase {name : String} (h : IsToken name) :
    canonical (Text.lowerCase name) = canonical name := by
  have hcase : EqIgnoringCase (Text.lowerCase name) name := by
    have hascii : ∀ c ∈ name.toList, c.toNat < 0x80 := fun c hc => toNat_lt_of_isTokenChar (h c hc)
    rw [EqIgnoringCase, Text.map_toLower_lowerCase, Text.toList_lowerCase_ascii hascii]
  exact (canonical_eq_iff_of_isToken (hcase.isToken_iff.2 h) h).2 hcase

theorem canonical_empty_eq_iff {b : String} : canonical "" = canonical b ↔ "" = b := by
  have hempty : IsToken "" := fun c hc => absurd hc (by simp)
  by_cases hb : IsToken b
  · rw [canonical_eq_iff_of_isToken hempty hb, EqIgnoringCase, ← String.toList_inj]
    simp
  · rw [eq_comm, canonical_eq_iff_of_not_isToken hb, eq_comm]

/-- **The canonical spelling is a normal form of names under the case of their letters**, and a text
that is no name is left alone and apart from all others. -/
theorem canonical_normalForm (a b : String) :
    canonical (canonical a) = canonical a
      ∧ (IsToken a → IsToken b → (canonical a = canonical b ↔ EqIgnoringCase a b))
      ∧ (a = "" ∨ ¬ IsToken a → (canonical a = canonical b ↔ a = b)) := by
  refine ⟨canonical_canonical a, canonical_eq_iff_of_isToken, ?_⟩
  rintro (rfl | ha)
  · exact canonical_empty_eq_iff
  · exact canonical_eq_iff_of_not_isToken ha

/-- Words start behind every hyphen, wherever it stands; a text with a blank is no name. -/
theorem canonical_normalForm_hyphens :
    IsToken "-x--API-" ∧ canonical "-x--API-" = "-X--Api-"
      ∧ canonical "-x--API-" = canonical "-X--apI-"
      ∧ canonical "-x--API-" ≠ canonical "-x-API-"
      ∧ ¬ IsToken "api key" ∧ canonical "api key" ≠ canonical "Api Key" := by
  have htoken : IsToken "-x--API-" := by decide
  have hblank : ¬ IsToken "api key" := by decide
  have hcase : canonical "-x--API-" = canonical "-X--apI-" :=
    ((canonical_normalForm _ _).2.1 htoken (by decide)).2 (by decide)
  have hhyphen : canonical "-x--API-" ≠ canonical "-x-API-" := fun h =>
    absurd (((canonical_normalForm _ _).2.1 htoken (by decide)).1 h) (by decide)
  have hkept : canonical "api key" ≠ canonical "Api Key" := fun h =>
    absurd (((canonical_normalForm _ _).2.2 (Or.inr hblank)).1 h) (by decide)
  exact ⟨htoken, by decide, hcase, hhyphen, hblank, hkept⟩

end HeaderName

/-! ## Matched headers -/

namespace HeaderMatch

/-- The names of the matched headers, in lower case. -/
def targets (ms : List HeaderMatch) : List String := ms.map fun m => Text.lowerCase m.name

/-- Whether this is the error for the header of a name, told by the canonical name: by that of the
name in lower case, which is that of every token which spells the name in a match. -/
def Names (path : FieldPath) (ms : List HeaderMatch) (name : String) (error : FieldError) : Prop :=
  error = .invalid path (.str (HeaderName.canonical name))
      "cannot match the same header multiple times in the same rule"
    ∧ ∀ m ∈ ms, Text.lowerCase m.name = name → HeaderName.IsToken m.name →
      error.fault.value? = some (.str (HeaderName.canonical m.name))

theorem canonical_injOn_targets {ms : List HeaderMatch} {a b : String} (ha : a ∈ targets ms)
    (hb : b ∈ targets ms) (h : HeaderName.canonical a = HeaderName.canonical b) : a = b := by
  obtain ⟨m, -, rfl⟩ := List.mem_map.1 ha
  obtain ⟨n, -, rfl⟩ := List.mem_map.1 hb
  exact HeaderName.canonical_lowerCase_inj h

/-- What is reported differs from header to header. -/
theorem nodup_values (path : FieldPath) (ms : List HeaderMatch) :
    ((check path ms).map (·.fault.value?)).Nodup := by
  have hnames : ((secondOccurrences id (targets ms)).map id).Nodup := nodup_secondOccurrences
  rw [List.map_id] at hnames
  have hvalues : (check path ms).map (·.fault.value?) = (secondOccurrences id (targets ms)).map
      fun name => some (.str (HeaderName.canonical name)) := by
    rw [check, List.map_map]
    rfl
  rw [hvalues]
  refine hnames.map_on fun a ha b hb h => ?_
  exact canonical_injOn_targets (mem_of_mem_secondOccurrences ha)
    (mem_of_mem_secondOccurrences hb) (Json.str.inj (Option.some.inj h))

/-- **A header that is matched several times is reported once, at the second of the matches, and
told from all others by its canonical name.** -/
theorem check_canonicalNames (path : FieldPath) (ms : List HeaderMatch) :
    (∃ positions, Repetitions (targets ms) positions
      ∧ List.Forall₂ (fun i error => ∃ name, (targets ms)[i]? = some name
        ∧ Names path ms name error) positions (check path ms))
    ∧ ((check path ms).map (·.fault.value?)).Nodup := by
  refine ⟨⟨_, repetitions_secondPositions_id, ?_⟩, nodup_values path ms⟩
  rw [check, List.forall₂_map_right_iff]
  refine forall₂_secondOccurrences.imp fun i name hname => ⟨name, hname, rfl, ?_⟩
  rintro m - rfl htoken
  rw [← HeaderName.canonical_lowerCase htoken]
  rfl

end HeaderMatch

end GatewayAdmission
