import GatewayAdmission.Proofs.Route.GrpcAcceptance

/-!
# Names of gRPC services

The name of a service is made of identifiers with points between them, possibly after a point. Its
letters are read without regard to case, and to ignore case is to take two characters outside ASCII
for letters as well: the long s, which is a small s, and the Kelvin sign, a capital k. So **the names
that are let pass are the dotted identifiers in which these two are letters** and, as long as a name
has neither of them, the dotted identifiers of ASCII (`MethodMatch.serviceErrors_of_identifiers`).
The name of a method, whose letters are given in both cases, can have neither.
-/

namespace GatewayAdmission

namespace MethodMatch

variable {IsLetter IsOther : Char → Prop} {c : Char} {w : List Char}

/-! ## Dotted identifiers -/

/-- What dotted identifiers are like: at least one, with points between them, and possibly a point
in front. -/
def IsDotted (IsLetter : Char → Prop) (w : List Char) : Prop :=
  ∃ identifiers, identifiers ≠ [] ∧ (∀ v ∈ identifiers, IsIdentifier IsLetter v)
    ∧ (w = ['.'].intercalate identifiers ∨ w = '.' :: ['.'].intercalate identifiers)

theorem IsIdentifier.imp (h : IsIdentifier IsLetter w)
    (himp : ∀ c ∈ w, IsLetter c → IsOther c) : IsIdentifier IsOther w :=
  ⟨h.nonempty, fun c hc => (h.characters c hc).imp_left (himp c hc), h.start⟩

/-- Whether identifiers stay identifiers when other characters are letters is a matter of the
characters that they have. -/
theorem IsDotted.imp (h : IsDotted IsLetter w)
    (himp : ∀ c ∈ w, IsLetter c → IsOther c) : IsDotted IsOther w := by
  obtain ⟨identifiers, hne, hall, hw⟩ := h
  have hmem : ∀ v ∈ identifiers, ∀ c ∈ v, c ∈ w := by
    intro v hv c hc
    have hjoined : c ∈ ['.'].intercalate identifiers := Segments.mem_intercalate_of_mem hv hc
    rcases hw with rfl | rfl
    · exact hjoined
    · exact List.mem_cons_of_mem _ hjoined
  exact ⟨identifiers, hne, fun v hv => (hall v hv).imp fun c hc => himp c (hmem v hv c hc), hw⟩

theorem IsDotted.characters (h : IsDotted IsLetter w) :
    ∀ c ∈ w, c = '.' ∨ IsLetter c ∨ c.isDigit = true := by
  obtain ⟨identifiers, -, hall, hw⟩ := h
  have hjoined : ∀ c ∈ ['.'].intercalate identifiers,
      c = '.' ∨ IsLetter c ∨ c.isDigit = true := by
    intro c hc
    rcases Segments.mem_intercalate hc with hpoint | ⟨v, hv, hc⟩
    · exact Or.inl hpoint
    · exact Or.inr ((hall v hv).characters c hc)
  rcases hw with rfl | rfl
  · exact hjoined
  · exact List.forall_mem_cons.2 ⟨Or.inl rfl, hjoined⟩

/-! ## The form of a name -/

/-- The letters of names where case is ignored: with those of ASCII, the long s and the Kelvin
sign. -/
def IsFoldedLetter (c : Char) : Prop := IsPlainLetter c ∨ c = '\u017f' ∨ c = '\u212a'

theorem inRanges_serviceLetters :
    Pattern.inRanges serviceLetters c = true ↔ IsFoldedLetter c := by
  have hsplit : Pattern.inRanges serviceLetters c = (Pattern.inRanges methodLetters c
      || (Pattern.inRanges [('\u017f', '\u017f')] c
        || Pattern.inRanges [('\u212a', '\u212a')] c)) := by
    simp only [Pattern.inRanges, serviceLetters, methodLetters, List.any_cons, List.any_nil,
      Bool.or_false]
    ac_rfl
  rw [hsplit, Bool.or_eq_true, Bool.or_eq_true, inRanges_methodLetters, Pattern.inRanges_single,
    Pattern.inRanges_single, IsFoldedLetter]

theorem IsFoldedLetter.isDigit (h : IsFoldedLetter c) : c.isDigit = false := by
  rcases h with h | rfl | rfl
  · exact h.isDigit
  · decide
  · decide

/-- The texts of the form are the dotted identifiers. -/
theorem mem_language_serviceForm : w ∈ serviceForm.language ↔ IsDotted IsFoldedLetter w := by
  have hword : ∀ {v}, v ∈ serviceWord.language ↔ IsIdentifier IsFoldedLetter v :=
    mem_language_identifier inRanges_serviceLetters IsFoldedLetter.isDigit
  have hoptional : ∀ {p : Pattern}, w ∈ (Pattern.seq (.optional (.char '.')) p).language
      ↔ w ∈ p.language ∨ ∃ v ∈ p.language, w = '.' :: v := by
    intro p
    rw [← Pattern.mem_seq_char]
    simp only [Pattern.optional, Pattern.language, add_mul, one_mul, Language.mem_add]
  rw [serviceForm, hoptional]
  simp only [Pattern.mem_separated, hword]
  constructor
  · rintro (⟨identifiers, hne, hall, rfl⟩ | ⟨_, ⟨identifiers, hne, hall, rfl⟩, rfl⟩)
    · exact ⟨identifiers, hne, hall, Or.inl rfl⟩
    · exact ⟨identifiers, hne, hall, Or.inr rfl⟩
  · rintro ⟨identifiers, hne, hall, rfl | rfl⟩
    · exact Or.inl ⟨identifiers, hne, hall, rfl⟩
    · exact Or.inr ⟨_, ⟨identifiers, hne, hall, rfl⟩, rfl⟩

/-- The dotted identifiers of ASCII are those that have neither of the two characters that ignoring
case adds. -/
theorem isDotted_plain_iff : IsDotted IsPlainLetter w
    ↔ IsDotted IsFoldedLetter w ∧ '\u017f' ∉ w ∧ '\u212a' ∉ w := by
  constructor
  · intro h
    refine ⟨h.imp fun _ _ => Or.inl, fun hs => ?_, fun hk => ?_⟩
    · exact absurd (h.characters _ hs) (by simp [IsPlainLetter])
    · exact absurd (h.characters _ hk) (by simp [IsPlainLetter])
  · rintro ⟨h, hs, hk⟩
    refine h.imp fun c hc hletter => ?_
    rcases hletter with hplain | rfl | rfl
    · exact hplain
    · exact absurd hc hs
    · exact absurd hc hk

/-! ## Errors about the name of a service -/

/-- What is said of the name of a service. -/
def serviceMessage : String :=
  "must only contain valid characters "
    ++ "(matching ^(?i)\\.?[a-z_][a-z_0-9]*(\\.[a-z_][a-z_0-9]*)*$)"

/-- The errors of a match that are about the name of its service. -/
def serviceErrors (path : FieldPath) (m : MethodMatch) : List FieldError :=
  (m.check path).filter (·.fault.message == serviceMessage)

theorem message_of_mem_checkName {path : FieldPath} {form : Pattern} {source : String}
    {name : Option String} {e : FieldError} (he : e ∈ checkName path form source name) :
    e.fault.message = "must only contain valid characters (matching " ++ source ++ ")" := by
  unfold checkName at he
  split at he
  · exact absurd he (by simp)
  · rw [List.mem_ite_nil_left, List.mem_singleton] at he
    obtain ⟨-, rfl⟩ := he
    rfl

/-- They are those of the check of its form: what else may be wrong with a match is said in other
words. -/
theorem serviceErrors_eq (path : FieldPath) (m : MethodMatch) : m.serviceErrors path
    = if m.isExact then checkName path serviceForm serviceSource m.service else [] := by
  have hrequired : ((if m.service.isNone && m.method.isNone then
        [FieldError.required path "one or both of `service` or `method` must be specified"]
      else []).filter (·.fault.message == serviceMessage)) = [] := by
    have hother : "one or both of `service` or `method` must be specified" ≠ serviceMessage := by
      decide
    refine List.filter_eq_nil_iff.2 fun e he => ?_
    rw [List.mem_ite_nil_right, List.mem_singleton] at he
    obtain ⟨-, rfl⟩ := he
    exact fun h => hother (beq_iff_eq.1 h)
  have hservice : (checkName path serviceForm serviceSource m.service).filter
      (·.fault.message == serviceMessage) = checkName path serviceForm serviceSource m.service :=
    List.filter_eq_self.2 fun e he => by
      rw [message_of_mem_checkName he]
      decide
  have hmethod : (checkName path methodForm methodSource m.method).filter
      (·.fault.message == serviceMessage) = [] :=
    List.filter_eq_nil_iff.2 fun e he => by
      rw [message_of_mem_checkName he]
      decide
  rw [serviceErrors, check, List.filter_append, hrequired, List.nil_append]
  by_cases h : m.isExact = true
  · rw [if_pos h, if_pos h, List.filter_append, hservice, hmethod, List.append_nil]
  · rw [if_neg h, if_neg h, List.filter_nil]

theorem serviceErrors_eq_nil_iff {path : FieldPath} {m : MethodMatch} :
    m.serviceErrors path = [] ↔ (m.type = none ∨ m.type = some "Exact" →
      ∀ name ∈ m.service, IsDotted IsFoldedLetter name.toList) := by
  rw [serviceErrors_eq, ← isExact_iff]
  by_cases h : m.isExact = true
  · simp only [h, if_true, checkName_eq_nil_iff, Pattern.accepts_iff, mem_language_serviceForm,
      true_imp_iff]
  · simp [h]

/-- **The name of a service has no error if it is made of dotted identifiers in which the long s and
the Kelvin sign are letters as well**; the dotted identifiers of ASCII are the names without error
that have neither of the two. -/
theorem serviceErrors_of_identifiers (path : FieldPath) (m : MethodMatch) :
    (m.serviceErrors path = [] ↔ (m.type = none ∨ m.type = some "Exact" →
        ∀ name ∈ m.service, IsDotted IsFoldedLetter name.toList))
      ∧ (m.type = none ∨ m.type = some "Exact" → ∀ name ∈ m.service,
        (IsDotted IsPlainLetter name.toList ↔ m.serviceErrors path = []
          ∧ '\u017f' ∉ name.toList ∧ '\u212a' ∉ name.toList)) := by
  refine ⟨serviceErrors_eq_nil_iff, fun hexact name hname => ?_⟩
  have herrors : m.serviceErrors path = [] ↔ IsDotted IsFoldedLetter name.toList := by
    rw [serviceErrors_eq_nil_iff, Option.mem_def.1 hname]
    simp [hexact]
  rw [herrors, isDotted_plain_iff]

/-- A match that names a service only, and that by one character. -/
def kelvinService : MethodMatch := ⟨none, some "\u212a", none⟩

/-- The Kelvin sign is let pass for the name of a service, though not for that of a method. -/
theorem serviceErrors_of_kelvinService :
    kelvinService.serviceErrors (FieldPath.spec.child "rules") = []
      ∧ ¬ IsDotted IsPlainLetter "\u212a".toList ∧ ¬ IsMethodName "\u212a" := by
  refine ⟨serviceErrors_eq_nil_iff.2 fun _ name hname => ?_, fun h => ?_, fun h => ?_⟩
  · obtain rfl := Option.some.inj hname
    refine ⟨[['\u212a']], by simp, ?_, Or.inl rfl⟩
    rw [List.forall_mem_singleton]
    exact ⟨by simp, by simp [IsFoldedLetter], by simp⟩
  · exact (isDotted_plain_iff.1 h).2.2 (by simp)
  · exact absurd (h.characters '\u212a' (by simp)) (by decide)

end MethodMatch

end GatewayAdmission
