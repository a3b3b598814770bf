import GatewayAdmission.Proofs.Route.Parts
import GatewayAdmission.Proofs.Text.Language
import GatewayAdmission.Route.GrpcRules
import Mathlib.Data.Char

/-!
# gRPC routes without errors

`GrpcRoute.Sound` says what a GRPCRoute has to be like, part by part. **A route has no errors
exactly if it is sound** (`GrpcRoute.grpcRoute_sound_iff`).

Other than in an HTTP route, the filters of a rule do not depend on its matches. What is expected
of the name of a method is said in words of its characters (`MethodMatch.IsMethodName`); the name
of a service is expected to be in the language of its form.
-/

namespace GatewayAdmission

/-! ## What is expected -/

/-- What the name of a method has to be like: letters, digits and low lines, all of them ASCII,
with no digit in front. -/
structure MethodMatch.IsMethodName (name : String) : Prop where
  nonempty : name ≠ ""
  characters : ∀ c ∈ name.toList, c.isAlphanum = true ∨ c = '_'
  start : ∀ c ∈ name.toList.head?, c.isDigit = false

/-- What the match of a method has to be like. Names are judged only if they are meant as they are
written. -/
structure MethodMatch.Sound (m : MethodMatch) : Prop where
  named : m.service ≠ none ∨ m.method ≠ none
  service : m.type = none ∨ m.type = some "Exact" →
    ∀ name ∈ m.service, name.toList ∈ serviceForm.language
  method : m.type = none ∨ m.type = some "Exact" → ∀ name ∈ m.method, IsMethodName name

/-- What a match has to be like. -/
structure GrpcMatch.Sound (m : GrpcMatch) : Prop where
  method : ∀ method ∈ m.method, method.Sound
  headers : (m.headers.map fun h => Text.lowerCase h.name).Nodup

/-- What a filter has to be like: its configurations are that of its type and no other. -/
structure GrpcFilter.Sound (f : GrpcFilter) : Prop where
  extensionRef : f.extensionRef.isSome = true ↔ f.type = "ExtensionRef"
  requestHeaderModifier : f.requestHeaderModifier.isSome = true ↔ f.type = "RequestHeaderModifier"
  responseHeaderModifier :
    f.responseHeaderModifier.isSome = true ↔ f.type = "ResponseHeaderModifier"
  requestMirror : f.requestMirror.isSome = true ↔ f.type = "RequestMirror"
  requestHeaders : ∀ m ∈ f.requestHeaderModifier, m.Sound
  responseHeaders : ∀ m ∈ f.responseHeaderModifier, m.Sound

/-- What a list of filters has to be like. -/
structure GrpcFilter.AllSound (fs : List GrpcFilter) : Prop where
  each : ∀ f ∈ fs, f.Sound
  unique : ((fs.map (·.type)).filter (· != "ExtensionRef")).Nodup

/-- What a rule has to be like. -/
structure GrpcRule.Sound (r : GrpcRule) : Prop where
  matches_ : ∀ m ∈ r.matches_, m.Sound
  filters : GrpcFilter.AllSound r.filters
  backendFilters : ∀ b ∈ r.backendRefs, GrpcFilter.AllSound b.filters

/-- What a GRPCRoute has to be like. -/
structure GrpcRoute.Sound (r : GrpcRoute) : Prop where
  rules : ∀ rule ∈ r.spec.rules, rule.Sound
  parentRefs : r.spec.parentRefs.Pairwise ParentReference.Apart

/-! ## Method matches -/

namespace MethodMatch

theorem isAlpha_iff {c : Char} : c.isAlpha = true
    ↔ (65 ≤ c.val ∧ c.val ≤ 90) ∨ (97 ≤ c.val ∧ c.val ≤ 122) := by
  show (decide (65 ≤ c.val ∧ c.val ≤ 90) || (decide (97 ≤ c.val) && decide (c.val ≤ 122))) = true
    ↔ _
  simp

/-- The letters of names, all of them ASCII. The low line is one. -/
def IsPlainLetter (c : Char) : Prop := c.isAlpha = true ∨ c = '_'

theorem inRanges_methodLetters {c : Char} :
    Pattern.inRanges methodLetters c = true ↔ IsPlainLetter c := by
  have hlowLine : 95 ≤ c.val ∧ c.val ≤ 95 ↔ c = '_' :=
    and_comm.trans (le_antisymm_iff (a := c) (b := '_')).symm
  simp [Pattern.inRanges, methodLetters, IsPlainLetter, isAlpha_iff, Char.le_def, hlowLine,
    or_assoc]

theorem IsPlainLetter.isDigit {c : Char} (h : IsPlainLetter c) : c.isDigit = false := by
  rcases h with h | rfl
  · grind [isAlpha_iff, Char.isDigit]
  · decide

/-- What an identifier is like where it is given which characters are letters: letters and digits,
with no digit in front. -/
structure IsIdentifier (IsLetter : Char → Prop) (w : List Char) : Prop where
  nonempty : w ≠ []
  characters : ∀ c ∈ w, IsLetter c ∨ c.isDigit = true
  start : ∀ c ∈ w.head?, c.isDigit = false

/-- The texts of a word are the identifiers with its letters. -/
theorem mem_language_identifier {letters : List (Char × Char)} {IsLetter : Char → Prop}
    (hletters : ∀ {c}, Pattern.inRanges letters c = true ↔ IsLetter c)
    (hdigit : ∀ {c}, IsLetter c → c.isDigit = false) {w : List Char} :
    w ∈ (Pattern.seq (.one letters) (.many (.one (('0', '9') :: letters)))).language
      ↔ IsIdentifier IsLetter w := by
  have hmore : ∀ {c}, Pattern.inRanges (('0', '9') :: letters) c = true
      ↔ IsLetter c ∨ c.isDigit = true := by
    intro c
    rw [← hletters, or_comm]
    simp [Pattern.inRanges, Char.isDigit, Char.le_def]
  cases w with
  | nil =>
    refine iff_of_false (fun h => ?_) fun h => h.nonempty rfl
    exact Bool.false_ne_true ((Pattern.nil_mem_language _).1 h)
  | cons c w =>
    simp only [Pattern.cons_mem_word, hletters, hmore]
    constructor
    · rintro ⟨hc, hw⟩
      refine ⟨List.cons_ne_nil c w, List.forall_mem_cons.2 ⟨Or.inl hc, hw⟩, ?_⟩
      rintro _ ⟨rfl⟩
      exact hdigit hc
    · rintro ⟨-, hall, hstart⟩
      rw [List.forall_mem_cons] at hall
      exact ⟨hall.1.resolve_right (by simp [hstart c rfl]), hall.2⟩

/-- The form of the name of a method is that of its characters. -/
theorem mem_language_methodForm {name : String} :
    name.toList ∈ methodForm.language ↔ IsMethodName name := by
  have hcharacter : ∀ c, IsPlainLetter c ∨ c.isDigit = true
      ↔ c.isAlphanum = true ∨ c = '_' := by
    intro c
    rw [IsPlainLetter, Char.isAlphanum, Bool.or_eq_true]
    tauto
  rw [methodForm, mem_language_identifier inRanges_methodLetters IsPlainLetter.isDigit]
  constructor
  · rintro ⟨hne, hall, hstart⟩
    exact ⟨fun h => hne (String.toList_eq_nil_iff.2 h), fun c hc => (hcharacter c).1 (hall c hc),
      hstart⟩
  · rintro ⟨hne, hall, hstart⟩
    exact ⟨fun h => hne (String.toList_eq_nil_iff.1 h), fun c hc => (hcharacter c).2 (hall c hc),
      hstart⟩

theorem checkName_eq_nil_iff {path : FieldPath} {form : Pattern} {source : String}
    {name : Option String} :
    checkName path form source name = [] ↔ ∀ text ∈ name, form.accepts text = true := by
  cases name with
  | none => simp [checkName]
  | some text => by_cases h : form.accepts text = true <;> simp [checkName, h]

theorem isExact_iff {m : MethodMatch} :
    m.isExact = true ↔ m.type = none ∨ m.type = some "Exact" := by
  rw [isExact, beq_iff_eq]
  cases m.type <;> simp

theorem check_eq_nil_iff {path : FieldPath} {m : MethodMatch} : m.check path = [] ↔ m.Sound := by
  have hnamed : (m.service.isNone && m.method.isNone) = true
      ↔ ¬ (m.service ≠ none ∨ m.method ≠ none) := by
    simp
  have hexact : (if m.isExact then checkName path serviceForm serviceSource m.service
        ++ checkName path methodForm methodSource m.method else []) = []
      ↔ (m.isExact = true → (∀ name ∈ m.service, name.toList ∈ serviceForm.language)
        ∧ ∀ name ∈ m.method, IsMethodName name) := by
    by_cases h : m.isExact = true
    · simp only [h, if_true, List.append_eq_nil_iff, checkName_eq_nil_iff,
        Pattern.accepts_iff, mem_language_methodForm, true_imp_iff]
    · simp [h]
  rw [check, List.append_eq_nil_iff, hexact, isExact_iff]
  constructor
  · rintro ⟨hrequired, hnames⟩
    refine ⟨?_, fun h => (hnames h).1, fun h => (hnames h).2⟩
    by_contra hmissing
    rw [if_pos (hnamed.2 hmissing)] at hrequired
    exact List.cons_ne_nil _ _ hrequired
  · rintro ⟨hsome, hservice, hmethod⟩
    exact ⟨if_neg fun h => hnamed.1 h hsome, fun h => ⟨hservice h, hmethod h⟩⟩

end MethodMatch

theorem GrpcMatch.check_eq_nil_iff {path : FieldPath} {m : GrpcMatch} :
    m.check path = [] ↔ m.Sound := by
  rw [check, List.append_eq_nil_iff, HeaderMatch.check_eq_nil_iff]
  constructor
  · rintro ⟨hmethod, hheaders⟩
    refine ⟨fun method hm => ?_, hheaders⟩
    rw [Option.mem_def.1 hm] at hmethod
    exact MethodMatch.check_eq_nil_iff.1 hmethod
  · rintro ⟨hmethod, hheaders⟩
    refine ⟨?_, hheaders⟩
    cases hm : m.method with
    | none => rfl
    | some method => exact MethodMatch.check_eq_nil_iff.2 (hmethod method hm)

/-! ## Filters -/

namespace GrpcFilter

theorem configurations_eq_nil_iff {path : FieldPath} {f : GrpcFilter} :
    f.configurations.flatMap (Filter.checkConfiguration path "GRPCRouteFilter" f.type) = []
      ↔ (f.extensionRef.isSome = true ↔ f.type = Filter.extensionRef)
        ∧ (f.requestHeaderModifier.isSome = true ↔ f.type = Filter.requestHeaderModifier)
        ∧ (f.responseHeaderModifier.isSome = true ↔ f.type = Filter.responseHeaderModifier)
        ∧ (f.requestMirror.isSome = true ↔ f.type = Filter.requestMirror) := by
  simp only [List.flatMap_eq_nil_iff, configurations, List.forall_mem_cons,
    Filter.checkConfiguration_eq_nil_iff, Filter.configured, Option.isSome_map,
    eq_comm (b := f.type)]
  simp

theorem check_eq_nil_iff {path : FieldPath} {f : GrpcFilter} : f.check path = [] ↔ f.Sound := by
  simp only [check, List.append_eq_nil_iff, Filter.checkModifier_eq_nil_iff,
    configurations_eq_nil_iff]
  constructor
  · rintro ⟨⟨hrequest, hresponse⟩, hext, hreq, hresp, hmir⟩
    exact ⟨hext, hreq, hresp, hmir, hrequest, hresponse⟩
  · rintro ⟨hext, hreq, hresp, hmir, hrequest, hresponse⟩
    exact ⟨⟨hrequest, hresponse⟩, hext, hreq, hresp, hmir⟩

theorem checkAll_eq_nil_iff {path : FieldPath} {fs : List GrpcFilter} :
    checkAll path fs = [] ↔ AllSound fs := by
  rw [checkAll, List.append_eq_nil_iff, Filter.checkUnique_eq_nil_iff,
    FieldPath.flatMap_entries_eq_nil check fun _ _ => check_eq_nil_iff]
  constructor
  · rintro ⟨heach, hunique⟩
    exact ⟨heach, hunique⟩
  · rintro ⟨heach, hunique⟩
    exact ⟨heach, hunique⟩

end GrpcFilter

/-! ## Routes -/

theorem GrpcRule.check_eq_nil_iff {path : FieldPath} {r : GrpcRule} :
    r.check path = [] ↔ r.Sound := by
  rw [check, List.append_eq_nil_iff, List.append_eq_nil_iff, GrpcFilter.checkAll_eq_nil_iff,
    FieldPath.flatMap_entries_eq_nil GrpcMatch.check fun _ _ => GrpcMatch.check_eq_nil_iff,
    FieldPath.flatMap_entries_eq_nil
      (fun path (b : GrpcBackendRef) => GrpcFilter.checkAll (path.child "filters") b.filters)
      fun _ _ => GrpcFilter.checkAll_eq_nil_iff]
  constructor
  · rintro ⟨⟨hmatches, hfilters⟩, hbackends⟩
    exact ⟨hmatches, hfilters, hbackends⟩
  · rintro ⟨hmatches, hfilters, hbackends⟩
    exact ⟨⟨hmatches, hfilters⟩, hbackends⟩

/-- **A route has no errors exactly if it is sound.** -/
theorem GrpcRoute.grpcRoute_sound_iff (r : GrpcRoute) : r.check = [] ↔ r.Sound := by
  rw [check, rulesAt, List.append_eq_nil_iff, ParentReference.check_eq_nil_iff,
    FieldPath.flatMap_entries_eq_nil GrpcRule.check fun _ _ => GrpcRule.check_eq_nil_iff]
  constructor
  · rintro ⟨hrules, hparents⟩
    exact ⟨hrules, hparents⟩
  · rintro ⟨hrules, hparents⟩
    exact ⟨hrules, hparents⟩

end GatewayAdmission
