import GatewayAdmission.Proofs.Route.Parts
import GatewayAdmission.Proofs.Text.Language
import GatewayAdmission.Route.HttpRules
import Mathlib.Data.List.Infix

/-!
# HTTP routes without errors

`HttpRoute.Sound` says what an HTTPRoute has to be like, part by part. **A route has no errors
exactly if it is sound** (`HttpRoute.httpRoute_sound_iff`).

The parts follow the route: each list of filters is looked at together with the matches of its
rule, whether it is the list of the rule or of a backend; then each match, each backend, and the
parents two by two.
-/

namespace GatewayAdmission

/-! ## What is expected -/

/-- What a path has to be like that is matched as it is written. -/
structure PathMatch.Written (value : String) : Prop where
  absolute : value.toList.head? = some '/'
  parts : ∀ part ∈ ["//", "/./", "/../", "%2f", "%2F", "#"], ¬ part.toList <:+: value.toList
  ends : ∀ ending ∈ ["/..", "/."], ¬ ending.toList <:+ value.toList
  characters : value.toList ∈ PathMatch.characterForm.language

/-- What the match of a path has to be like. -/
structure PathMatch.Sound (m : PathMatch) : Prop where
  type : m.type = some "Exact" ∨ m.type = some "PathPrefix" ∨ m.type = some "RegularExpression"
  value : m.value ≠ none
  written : m.type ≠ some "RegularExpression" → ∀ value ∈ m.value, PathMatch.Written value

/-- What the modifier of a path has to be like in a rule with these matches. -/
structure PathModifier.Sound (ms : List HttpMatch) (m : PathModifier) : Prop where
  fullPath : m.replaceFullPath.isSome = true ↔ m.type = "ReplaceFullPath"
  prefixMatch : m.replacePrefixMatch.isSome = true ↔ m.type = "ReplacePrefixMatch"
  onePrefix : m.type = "ReplacePrefixMatch" →
    ∃ only path, ms = [only] ∧ only.path = some path ∧ path.type = some "PathPrefix"

/-- What a filter has to be like in a rule with these matches: its configurations are that of its
type and no other. -/
structure HttpFilter.Sound (ms : List HttpMatch) (f : HttpFilter) : Prop where
  extensionRef : f.extensionRef.isSome = true ↔ f.type = "ExtensionRef"
  requestHeaderModifier : f.requestHeaderModifier.isSome = true ↔ f.type = "RequestHeaderModifier"
  responseHeaderModifier :
    f.responseHeaderModifier.isSome = true ↔ f.type = "ResponseHeaderModifier"
  requestMirror : f.requestMirror.isSome = true ↔ f.type = "RequestMirror"
  requestRedirect : f.requestRedirect.isSome = true ↔ f.type = "RequestRedirect"
  urlRewrite : f.urlRewrite.isSome = true ↔ f.type = "URLRewrite"
  redirectPath : ∀ redirect ∈ f.requestRedirect, ∀ m ∈ redirect.path, m.Sound ms
  rewritePath : ∀ rewrite ∈ f.urlRewrite, ∀ m ∈ rewrite.path, m.Sound ms
  requestHeaders : ∀ m ∈ f.requestHeaderModifier, m.Sound
  responseHeaders : ∀ m ∈ f.responseHeaderModifier, m.Sound

/-- What a list of filters has to be like in a rule with these matches. -/
structure HttpFilter.AllSound (ms : List HttpMatch) (fs : List HttpFilter) : Prop where
  each : ∀ f ∈ fs, f.Sound ms
  exclusive : ¬ ((∃ f ∈ fs, f.type = "RequestRedirect") ∧ ∃ f ∈ fs, f.type = "URLRewrite")
  unique : ((fs.map (·.type)).filter (· != "ExtensionRef")).Nodup

/-- What a match has to be like. -/
structure HttpMatch.Sound (m : HttpMatch) : Prop where
  path : ∀ path ∈ m.path, path.Sound
  headers : (m.headers.map fun h => Text.lowerCase h.name).Nodup
  queryParams : (m.queryParams.map (·.name)).Nodup

/-- What a rule has to be like. -/
structure HttpRule.Sound (r : HttpRule) : Prop where
  filters : HttpFilter.AllSound r.matches_ r.filters
  backendFilters : ∀ b ∈ r.backendRefs, HttpFilter.AllSound r.matches_ b.filters
  matches_ : ∀ m ∈ r.matches_, m.Sound
  ports : ∀ b ∈ r.backendRefs, b.backend.object.Sound

/-- What an HTTPRoute has to be like. -/
structure HttpRoute.Sound (r : HttpRoute) : Prop where
  rules : ∀ rule ∈ r.spec.rules, rule.Sound
  parentRefs : r.spec.parentRefs.Pairwise ParentReference.Apart

/-! ## Paths -/

namespace PathMatch

theorem occursIn_iff {part whole : List Char} : occursIn part whole = true ↔ part <:+: whole := by
  induction whole with
  | nil => simp [occursIn]
  | cons c rest ih => rw [occursIn, Bool.or_eq_true, ih, List.isPrefixOf_iff_prefix,
      List.infix_cons_iff]

theorem checkValue_eq_nil_iff {path : FieldPath} {value : String} :
    checkValue path value = [] ↔ Written value := by
  have herror {broken : Prop} [Decidable broken] {message : String} :
      (if broken then [FieldError.invalid path (.str value) message] else []) = [] ↔ ¬ broken := by
    split_ifs <;> simp [*]
  have hparts : (∀ part ∈ forbiddenParts, ¬ occursIn part.toList value.toList = true)
      ↔ ∀ part ∈ forbiddenParts, ¬ part.toList <:+: value.toList :=
    forall₂_congr fun part _ => not_congr occursIn_iff
  have hends : (∀ ending ∈ forbiddenEnds, ¬ ending.toList.isSuffixOf value.toList = true)
      ↔ ∀ ending ∈ forbiddenEnds, ¬ ending.toList <:+ value.toList :=
    forall₂_congr fun ending _ => not_congr List.isSuffixOf_iff_suffix
  simp only [checkValue, List.append_eq_nil_iff, List.flatMap_eq_nil_iff, herror, hparts, hends,
    bne_iff_ne, not_not, Bool.not_eq_true', Bool.not_eq_false, Pattern.accepts_iff]
  constructor
  · rintro ⟨⟨⟨habsolute, hparts⟩, hends⟩, hcharacters⟩
    exact ⟨habsolute, hparts, hends, hcharacters⟩
  · rintro ⟨habsolute, hparts, hends, hcharacters⟩
    exact ⟨⟨⟨habsolute, hparts⟩, hends⟩, hcharacters⟩

/-- What is expected of a match that has both its parts. -/
theorem sound_iff {type value : String} : Sound ⟨some type, some value⟩
    ↔ (type = exact ∨ type = pathPrefix ∨ type = regularExpression)
      ∧ (type ≠ regularExpression → Written value) := by
  constructor
  · rintro ⟨htype, -, hwritten⟩
    refine ⟨htype.imp Option.some.inj (Or.imp Option.some.inj Option.some.inj), fun h => ?_⟩
    exact hwritten (fun heq => h (Option.some.inj heq)) value rfl
  · rintro ⟨htype, hwritten⟩
    refine ⟨htype.imp (congrArg some) (Or.imp (congrArg some) (congrArg some)), by simp,
      fun h v hv => ?_⟩
    obtain rfl := Option.some.inj hv
    exact hwritten fun heq => h (congrArg some heq)

theorem check_eq_nil_iff {path : FieldPath} {m : PathMatch} : m.check path = [] ↔ m.Sound := by
  obtain ⟨type, value⟩ := m
  rcases type with _ | type
  · exact ⟨fun h => by simp [check] at h, fun h => by simpa using h.type⟩
  rcases value with _ | value
  · exact ⟨fun h => by simp [check] at h, fun h => absurd rfl h.value⟩
  simp only [sound_iff, check]
  split_ifs with hplain hregular
  · have hne : type ≠ regularExpression := by rcases hplain with rfl | rfl <;> decide
    simp [checkValue_eq_nil_iff, hne, hplain]
  · simp [hregular]
  · simp [hplain, hregular]

end PathMatch

namespace PathModifier

theorem checkReplacement_eq_nil_iff {path : FieldPath} {type own : String}
    {value : Option String} :
    checkReplacement path type own value = [] ↔ (value.isSome = true ↔ type = own) := by
  unfold checkReplacement
  cases value <;> by_cases h : type = own <;> simp [h]

theorem hasOnePrefixMatch_iff {ms : List HttpMatch} : hasOnePrefixMatch ms = true
    ↔ ∃ only path, ms = [only] ∧ only.path = some path ∧ path.type = some "PathPrefix" := by
  unfold hasOnePrefixMatch
  split
  · rename_i m
    cases hpath : m.path <;> simp [hpath, PathMatch.pathPrefix]
  · rename_i hlist
    simp only [Bool.false_eq_true, false_iff]
    rintro ⟨only, path, rfl, -⟩
    exact hlist only rfl

theorem check_eq_nil_iff {path : FieldPath} {ms : List HttpMatch} {m : PathModifier} :
    m.check path ms = [] ↔ m.Sound ms := by
  rw [check, List.append_eq_nil_iff, List.append_eq_nil_iff, checkReplacement_eq_nil_iff,
    checkReplacement_eq_nil_iff]
  constructor
  · rintro ⟨⟨hfull, hprefix⟩, hone⟩
    refine ⟨hfull, hprefix, fun htype => ?_⟩
    rw [← hasOnePrefixMatch_iff]
    by_contra hmany
    simp [htype, hprefix.2 htype, hmany, prefixMatch] at hone
  · rintro ⟨hfull, hprefix, hone⟩
    refine ⟨⟨hfull, hprefix⟩, if_neg ?_⟩
    rintro ⟨htype, -, hmany⟩
    simp [hasOnePrefixMatch_iff.2 (hone htype)] at hmany

theorem checkOptional_eq_nil_iff {path : FieldPath} {ms : List HttpMatch}
    {m : Option PathModifier} :
    checkOptional path ms m = [] ↔ ∀ modifier ∈ m, modifier.Sound ms := by
  cases m with
  | none => simp [checkOptional]
  | some m => simp [checkOptional, check_eq_nil_iff]

end PathModifier

/-! ## Filters -/

namespace HttpFilter

theorem configurations_eq_nil_iff {path : FieldPath} {f : HttpFilter} :
    f.configurations.flatMap (Filter.checkConfiguration path "HTTPRouteFilter" f.type) = []
      ↔ (f.extensionRef.isSome = true ↔ f.type = Filter.extensionRef)
        ∧ (f.requestHeaderModifier.isSome = true ↔ f.type = Filter.requestHeaderModifier)
        ∧ (f.responseHeaderModifier.isSome = true ↔ f.type = Filter.responseHeaderModifier)
        ∧ (f.requestMirror.isSome = true ↔ f.type = Filter.requestMirror)
        ∧ (f.requestRedirect.isSome = true ↔ f.type = Filter.requestRedirect)
        ∧ (f.urlRewrite.isSome = true ↔ f.type = Filter.urlRewrite) := by
  simp only [List.flatMap_eq_nil_iff, configurations, List.forall_mem_cons,
    Filter.checkConfiguration_eq_nil_iff, Filter.configured, Option.isSome_map,
    eq_comm (b := f.type)]
  simp

theorem forall_mem_bind_path {α : Type} {whole : Option α} {part : α → Option PathModifier}
    {ms : List HttpMatch} : (∀ m ∈ whole.bind part, m.Sound ms)
      ↔ ∀ a ∈ whole, ∀ m ∈ part a, m.Sound ms := by
  cases whole <;> simp

theorem check_eq_nil_iff {path : FieldPath} {ms : List HttpMatch} {f : HttpFilter} :
    f.check path ms = [] ↔ f.Sound ms := by
  simp only [check, List.append_eq_nil_iff, PathModifier.checkOptional_eq_nil_iff,
    forall_mem_bind_path, Filter.checkModifier_eq_nil_iff, configurations_eq_nil_iff]
  constructor
  · rintro ⟨⟨⟨⟨hredirect, hrewrite⟩, hrequest⟩, hresponse⟩, hext, hreq, hresp, hmir, hred, hurl⟩
    exact ⟨hext, hreq, hresp, hmir, hred, hurl, hredirect, hrewrite, hrequest, hresponse⟩
  · rintro ⟨hext, hreq, hresp, hmir, hred, hurl, hredirect, hrewrite, hrequest, hresponse⟩
    exact ⟨⟨⟨⟨hredirect, hrewrite⟩, hrequest⟩, hresponse⟩, hext, hreq, hresp, hmir, hred, hurl⟩

theorem contains_type_iff {fs : List HttpFilter} {type : String} :
    (fs.map (·.type)).contains type = true ↔ ∃ f ∈ fs, f.type = type := by
  rw [List.contains_iff_mem, List.mem_map]

theorem checkAll_eq_nil_iff {path : FieldPath} {ms : List HttpMatch} {fs : List HttpFilter} :
    checkAll path ms fs = [] ↔ AllSound ms fs := by
  have hboth : ((fs.map (·.type)).contains Filter.requestRedirect
        && (fs.map (·.type)).contains Filter.urlRewrite) = true
      ↔ (∃ f ∈ fs, f.type = "RequestRedirect") ∧ ∃ f ∈ fs, f.type = "URLRewrite" := by
    rw [Bool.and_eq_true, contains_type_iff, contains_type_iff]
    rfl
  rw [checkAll, List.append_eq_nil_iff, List.append_eq_nil_iff,
    FieldPath.flatMap_entries_eq_nil (fun path f => check path ms f) fun _ _ => check_eq_nil_iff,
    Filter.checkUnique_eq_nil_iff]
  constructor
  · rintro ⟨⟨heach, hexclusive⟩, hunique⟩
    refine ⟨heach, fun h => ?_, hunique⟩
    rw [if_pos (hboth.2 h)] at hexclusive
    exact List.cons_ne_nil _ _ hexclusive
  · rintro ⟨heach, hexclusive, hunique⟩
    exact ⟨⟨heach, if_neg fun h => hexclusive (hboth.1 h)⟩, hunique⟩

end HttpFilter

/-! ## Matches -/

theorem QueryParamMatch.check_eq_nil_iff {path : FieldPath} {ms : List QueryParamMatch} :
    check path ms = [] ↔ (ms.map (·.name)).Nodup := by
  rw [check, List.map_eq_nil_iff, secondOccurrences_eq_nil, List.map_id]

theorem HttpMatch.check_eq_nil_iff {path : FieldPath} {m : HttpMatch} :
    m.check path = [] ↔ m.Sound := by
  rw [check, List.append_eq_nil_iff, List.append_eq_nil_iff, HeaderMatch.check_eq_nil_iff,
    QueryParamMatch.check_eq_nil_iff]
  constructor
  · rintro ⟨⟨hpath, hheaders⟩, hparams⟩
    refine ⟨fun p hp => ?_, hheaders, hparams⟩
    rw [Option.mem_def.1 hp] at hpath
    exact PathMatch.check_eq_nil_iff.1 hpath
  · rintro ⟨hpath, hheaders, hparams⟩
    refine ⟨⟨?_, hheaders⟩, hparams⟩
    cases hp : m.path with
    | none => rfl
    | some p => exact PathMatch.check_eq_nil_iff.2 (hpath p hp)

/-! ## Routes -/

namespace HttpRule

theorem check_eq_nil_iff {path : FieldPath} {r : HttpRule} : r.check path = []
    ↔ HttpFilter.AllSound r.matches_ r.filters
      ∧ (∀ b ∈ r.backendRefs, HttpFilter.AllSound r.matches_ b.filters)
      ∧ ∀ m ∈ r.matches_, m.Sound := by
  rw [check, List.append_eq_nil_iff, List.append_eq_nil_iff, HttpFilter.checkAll_eq_nil_iff,
    FieldPath.flatMap_entries_eq_nil
      (fun path (b : HttpBackendRef) =>
        HttpFilter.checkAll (path.child "filters") r.matches_ b.filters)
      fun _ _ => HttpFilter.checkAll_eq_nil_iff,
    FieldPath.flatMap_entries_eq_nil HttpMatch.check fun _ _ => HttpMatch.check_eq_nil_iff,
    and_assoc]

theorem checkPorts_eq_nil_iff {path : FieldPath} {r : HttpRule} :
    r.checkPorts path = [] ↔ ∀ b ∈ r.backendRefs, b.backend.object.Sound :=
  FieldPath.flatMap_entries_eq_nil
    (fun path (b : HttpBackendRef) => b.backend.object.checkPort path)
    fun _ _ => BackendObjectReference.checkPort_eq_nil_iff

end HttpRule

/-- **A route has no errors exactly if it is sound.** -/
theorem HttpRoute.httpRoute_sound_iff (r : HttpRoute) : r.check = [] ↔ r.Sound := by
  rw [check, rulesAt, List.append_eq_nil_iff, List.append_eq_nil_iff,
    FieldPath.flatMap_entries_eq_nil HttpRule.check fun _ _ => HttpRule.check_eq_nil_iff,
    FieldPath.flatMap_entries_eq_nil HttpRule.checkPorts fun _ _ => HttpRule.checkPorts_eq_nil_iff,
    ParentReference.check_eq_nil_iff]
  constructor
  · rintro ⟨⟨hrules, hports⟩, hparents⟩
    refine ⟨fun rule hrule => ?_, hparents⟩
    obtain ⟨hfilters, hbackends, hmatches⟩ := hrules rule hrule
    exact ⟨hfilters, hbackends, hmatches, hports rule hrule⟩
  · rintro ⟨hrules, hparents⟩
    refine ⟨⟨fun rule hrule => ?_, fun rule hrule => (hrules rule hrule).ports⟩, hparents⟩
    obtain ⟨hfilters, hbackends, hmatches, -⟩ := hrules rule hrule
    exact ⟨hfilters, hbackends, hmatches⟩

end GatewayAdmission
