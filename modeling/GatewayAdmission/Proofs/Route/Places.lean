import GatewayAdmission.Proofs.Field.Place
import GatewayAdmission.Proofs.Route.Scans
import GatewayAdmission.Route.GrpcRules
import GatewayAdmission.Route.HttpRules
import GatewayAdmission.Route.Stream

/-!
# Places in routes

**Every error of a route is about a place in its spec** (`HttpRoute.allWithin_check`,
`GrpcRoute.allWithin_check`, `StreamRoute.allWithin_check`), and every error of one of its rules
about a place in that rule.

The rules of a part are told the path of the part, so each part is looked at by itself. Where a
field is optional, an equation says what is written under its name, and a rule on the field is
asked about it only if it is there.
-/

namespace GatewayAdmission

open FieldError

section

variable {path : FieldPath}

/-! ## Headers -/

/-- The fields of a header modifier are lists. -/
theorem HeaderModifier.isPlain_of_get? {m : HeaderModifier} {name : String} {found : Json}
    (h : (codec.write m).get? name = some found) : found.isPlain = false := by
  rw [codec, Codec.get?_write_record_eq] at h
  simp only [fields, Fields.written?] at h
  -- One case for each field, and the last one for other names.
  split at h
  · obtain rfl := Option.some.inj h
    rfl
  · split at h
    · obtain rfl := Option.some.inj h
      rfl
    · split at h
      · obtain rfl := Option.some.inj h
        rfl
      · exact absurd h (by simp)

theorem HeaderModifier.allWithin_check (m : HeaderModifier) :
    AllWithin path (codec.write m) (m.check path) := by
  rw [check_eq]
  refine List.forall_mem_map.2 fun a _ => within_field fun found hfound hplain => ?_
  rw [isPlain_of_get? hfound] at hplain
  exact absurd hplain Bool.false_ne_true

theorem HeaderMatch.allWithin_check (ms : List HeaderMatch) :
    AllWithin path (codec.list.write ms) (check path ms) :=
  List.forall_mem_map.2 fun _ _ => within_here rfl

/-! ## Filters -/

namespace Filter

section

variable {value : Json} (hplain : value.isPlain = false)
include hplain

theorem allWithin_configurations {family type : String} (cs : List Configuration) :
    AllWithin path value (cs.flatMap (checkConfiguration path family type)) := by
  refine List.forall_mem_flatMap.2 fun c _ => ?_
  unfold checkConfiguration
  split
  · split
    · exact allWithin_nil
    · exact allWithin_here hplain
  · exact allWithin_if fun _ => allWithin_here hplain

theorem allWithin_checkUnique (types : List String) :
    AllWithin path value (checkUnique path types) :=
  List.forall_mem_map.2 fun _ _ => within_here hplain

end

theorem allWithin_checkModifier {value : Json} {name : String} {m : Option HeaderModifier}
    (hget : value.get? name = m.map HeaderModifier.codec.write) :
    AllWithin path value (checkModifier path name m) := by
  cases m with
  | none => exact allWithin_nil
  | some m => exact AllWithin.child hget m.allWithin_check

end Filter

/-! ## Backends and parents -/

theorem BackendObjectReference.allWithin_checkPort {entries : List (String × Json)}
    (r : BackendObjectReference) : AllWithin path (.obj entries) (r.checkPort path) :=
  allWithin_if fun _ => allWithin_missing rfl

namespace ParentReference

theorem get?_port (r : ParentReference) :
    (codec.write r).get? "port" = r.port.map .int32 := by
  obtain ⟨_, _, _, _, _, _ | port⟩ := r <;> exact Codec.get?_write_record_eq _ _ _ _

theorem get?_sectionName (r : ParentReference) :
    (codec.write r).get? "sectionName" = r.sectionName.map .str := by
  obtain ⟨_, _, _, _, _ | sectionName, _⟩ := r <;> exact Codec.get?_write_record_eq _ _ _ _

/-- An error of a clash names the port or the section that is written. -/
theorem within_clashError {refs : List ParentReference} {o : Occurrence ParentReference}
    (ho : o ∈ occurrences refs) : (clashError path o).Within path (codec.list.write refs) := by
  unfold clashError repeatedError
  split
  · exact within_here rfl
  · -- The qualifier has default values, but where a field is written it has that value.
    split
    · refine Within.occurrence ho (within_field fun found hfound _ wrong hwrong => ?_)
      obtain ⟨port, hport, rfl⟩ := Option.map_eq_some_iff.1 ((get?_port _).symm.trans hfound)
      obtain rfl := Option.some.inj hwrong
      rw [qualifier, hport, Option.getD_some]
    · refine Within.occurrence ho (within_field fun found hfound _ wrong hwrong => ?_)
      obtain ⟨name, hname, rfl⟩ := Option.map_eq_some_iff.1 ((get?_sectionName _).symm.trans hfound)
      obtain rfl := Option.some.inj hwrong
      rw [qualifier, hname, Option.getD_some]

theorem allWithin_check (refs : List ParentReference) :
    AllWithin path (codec.list.write refs) (check path refs) := by
  rw [check_eq]
  cases hfind : (occurrences refs).find? clashes with
  | none => exact allWithin_nil
  | some o =>
    exact List.forall_mem_singleton.2 (within_clashError (List.mem_of_find?_eq_some hfind))

end ParentReference

/-! ## Filters and matches of HTTP routes -/

namespace PathMatch

theorem get?_type (m : PathMatch) : (codec.write m).get? "type" = m.type.map .str := by
  obtain ⟨_ | type, _⟩ := m <;> exact Codec.get?_write_record_eq _ _ _ _

theorem get?_value (m : PathMatch) : (codec.write m).get? "value" = m.value.map .str := by
  obtain ⟨_, _ | value⟩ := m <;> exact Codec.get?_write_record_eq _ _ _ _

theorem allWithin_checkValue (value : String) :
    AllWithin path (.str value) (checkValue path value) := by
  have herror : ∀ (broken : Bool) (message : String),
      AllWithin path (.str value) (if broken then [.invalid path (.str value) message] else []) :=
    fun broken message => allWithin_if fun _ => allWithin_wrong rfl
  exact (((herror _ _).append (List.forall_mem_flatMap.2 fun part _ => herror _ _)).append
    (List.forall_mem_flatMap.2 fun ending _ => herror _ _)).append (herror _ _)

theorem allWithin_check (m : PathMatch) : AllWithin path (codec.write m) (m.check path) := by
  obtain ⟨_ | type, _ | value⟩ := m
  · exact allWithin_missing rfl
  · exact allWithin_missing rfl
  · exact allWithin_missing rfl
  · simp only [check]
    split
    · exact AllWithin.child (get?_value _) (allWithin_checkValue value)
    · split
      · exact allWithin_nil
      · exact List.forall_mem_singleton.2 (within_field_wrong (get?_type _) rfl)

end PathMatch

namespace PathModifier

theorem allWithin_check (ms : List HttpMatch) (m : PathModifier) :
    AllWithin path (codec.write m) (m.check path ms) := by
  have hreplacement : ∀ (own : String) (value : Option String),
      AllWithin path (codec.write m) (checkReplacement path m.type own value) := by
    intro own value
    unfold checkReplacement
    split
    · split
      · exact allWithin_nil
      · exact allWithin_here rfl
    · exact allWithin_if fun _ => allWithin_here rfl
  exact ((hreplacement _ _).append (hreplacement _ _)).append
    (allWithin_if fun _ => allWithin_here rfl)

/-- A modifier in a part of a filter, where the part may be missing and so may the modifier. -/
theorem allWithin_checkOptional {α : Type} {whole : Option α} {part : α → Option PathModifier}
    {c : Codec α} {value : Json} {name : String} (ms : List HttpMatch)
    (hwhole : value.get? name = whole.map c.write)
    (hpart : ∀ a, (c.write a).get? "path" = (part a).map codec.write) :
    AllWithin path value (checkOptional ((path.child name).child "path") ms (whole.bind part)) := by
  cases whole with
  | none => exact allWithin_nil
  | some a =>
    refine AllWithin.child hwhole ?_
    rw [Option.bind_some]
    cases h : part a with
    | none => exact allWithin_nil
    | some m => exact AllWithin.child ((hpart a).trans (congrArg _ h)) (m.allWithin_check ms)

end PathModifier

theorem RequestRedirect.get?_path (r : RequestRedirect) :
    (codec.write r).get? "path" = r.path.map PathModifier.codec.write := by
  obtain ⟨_, _, _ | m, _, _⟩ := r <;> exact Codec.get?_write_record_eq _ _ _ _

theorem UrlRewrite.get?_path (r : UrlRewrite) :
    (codec.write r).get? "path" = r.path.map PathModifier.codec.write := by
  obtain ⟨_, _ | m⟩ := r <;> exact Codec.get?_write_record_eq _ _ _ _

namespace HttpFilter

theorem get?_requestHeaderModifier (f : HttpFilter) :
    (codec.write f).get? "requestHeaderModifier"
      = f.requestHeaderModifier.map HeaderModifier.codec.write := by
  obtain ⟨_, _ | m, _, _, _, _, _⟩ := f <;> exact Codec.get?_write_record_eq _ _ _ _

theorem get?_responseHeaderModifier (f : HttpFilter) :
    (codec.write f).get? "responseHeaderModifier"
      = f.responseHeaderModifier.map HeaderModifier.codec.write := by
  obtain ⟨_, _, _ | m, _, _, _, _⟩ := f <;> exact Codec.get?_write_record_eq _ _ _ _

theorem get?_requestRedirect (f : HttpFilter) : (codec.write f).get? "requestRedirect"
    = f.requestRedirect.map RequestRedirect.codec.write := by
  obtain ⟨_, _, _, _, _ | r, _, _⟩ := f <;> exact Codec.get?_write_record_eq _ _ _ _

theorem get?_urlRewrite (f : HttpFilter) :
    (codec.write f).get? "urlRewrite" = f.urlRewrite.map UrlRewrite.codec.write := by
  obtain ⟨_, _, _, _, _, _ | r, _⟩ := f <;> exact Codec.get?_write_record_eq _ _ _ _

theorem allWithin_check (ms : List HttpMatch) (f : HttpFilter) :
    AllWithin path (codec.write f) (f.check path ms) := by
  refine AllWithin.append (AllWithin.append (AllWithin.append (AllWithin.append ?_ ?_) ?_) ?_) ?_
  · exact PathModifier.allWithin_checkOptional ms f.get?_requestRedirect RequestRedirect.get?_path
  · exact PathModifier.allWithin_checkOptional ms f.get?_urlRewrite UrlRewrite.get?_path
  · exact Filter.allWithin_checkModifier f.get?_requestHeaderModifier
  · exact Filter.allWithin_checkModifier f.get?_responseHeaderModifier
  · exact Filter.allWithin_configurations rfl _

theorem allWithin_checkAll (ms : List HttpMatch) (fs : List HttpFilter) :
    AllWithin path (codec.list.write fs) (checkAll path ms fs) := by
  refine AllWithin.append (AllWithin.append ?_ (allWithin_if fun _ => ?_)) ?_
  · exact allWithin_entries (fun _ f => f.allWithin_check ms) fs
  · exact allWithin_here rfl
  · exact Filter.allWithin_checkUnique rfl _

end HttpFilter

theorem QueryParamMatch.allWithin_check (ms : List QueryParamMatch) :
    AllWithin path (codec.list.write ms) (check path ms) :=
  List.forall_mem_map.2 fun _ _ => within_here rfl

namespace HttpMatch

theorem get?_path (m : HttpMatch) :
    (codec.write m).get? "path" = m.path.map PathMatch.codec.write := by
  obtain ⟨_ | p, _, _, _⟩ := m <;> exact Codec.get?_write_record_eq _ _ _ _

theorem get?_headers (m : HttpMatch) :
    (codec.write m).get? "headers" = some (HeaderMatch.codec.list.write m.headers) := by
  rw [codec, Codec.get?_write_record_eq]
  rfl

theorem get?_queryParams (m : HttpMatch) :
    (codec.write m).get? "queryParams" = some (QueryParamMatch.codec.list.write m.queryParams) := by
  rw [codec, Codec.get?_write_record_eq]
  rfl

theorem allWithin_check (m : HttpMatch) : AllWithin path (codec.write m) (m.check path) := by
  refine AllWithin.append (AllWithin.append ?_ ?_) ?_
  · split
    · exact allWithin_nil
    · rename_i p h
      exact AllWithin.child (m.get?_path.trans (congrArg _ h)) p.allWithin_check
  · exact AllWithin.child m.get?_headers (HeaderMatch.allWithin_check _)
  · exact AllWithin.child m.get?_queryParams (QueryParamMatch.allWithin_check _)

end HttpMatch

namespace HttpBackendRef

theorem get?_filters (b : HttpBackendRef) :
    (codec.write b).get? "filters" = some (HttpFilter.codec.list.write b.filters) := by
  rw [codec, Codec.get?_write_record_eq]
  rfl

end HttpBackendRef

namespace HttpRule

theorem get?_backendRefs (r : HttpRule) :
    (codec.write r).get? "backendRefs" = some (HttpBackendRef.codec.list.write r.backendRefs) :=
  rfl

theorem get?_filters (r : HttpRule) :
    (codec.write r).get? "filters" = some (HttpFilter.codec.list.write r.filters) := rfl

theorem get?_matches (r : HttpRule) :
    (codec.write r).get? "matches" = some (HttpMatch.codec.list.write r.matches_) := rfl

theorem allWithin_checkUnique (r : HttpRule) : AllWithin path (codec.write r)
    (Filter.checkUnique (path.child "filters") (r.filters.map (·.type))) :=
  AllWithin.child r.get?_filters (Filter.allWithin_checkUnique rfl _)

theorem allWithin_check (r : HttpRule) : AllWithin path (codec.write r) (r.check path) := by
  have hbackend : ∀ (path : FieldPath) (b : HttpBackendRef),
      AllWithin path (HttpBackendRef.codec.write b)
        (HttpFilter.checkAll (path.child "filters") r.matches_ b.filters) :=
    fun _ b => AllWithin.child b.get?_filters (HttpFilter.allWithin_checkAll r.matches_ b.filters)
  refine AllWithin.append (AllWithin.append ?_ ?_) ?_
  · exact AllWithin.child r.get?_filters (HttpFilter.allWithin_checkAll _ _)
  · exact AllWithin.child r.get?_backendRefs (allWithin_entries hbackend _)
  · exact AllWithin.child r.get?_matches (allWithin_entries (fun _ m => m.allWithin_check) _)

theorem allWithin_checkPorts (r : HttpRule) :
    AllWithin path (codec.write r) (r.checkPorts path) := by
  have hbackend : ∀ (path : FieldPath) (b : HttpBackendRef),
      AllWithin path (HttpBackendRef.codec.write b) (b.backend.object.checkPort path) :=
    fun _ b => b.backend.object.allWithin_checkPort
  exact AllWithin.child r.get?_backendRefs (allWithin_entries hbackend _)

end HttpRule

/-! ## Matches and filters of gRPC routes -/

theorem MethodMatch.allWithin_check (m : MethodMatch) :
    AllWithin path (codec.write m) (m.check path) := by
  have hname : ∀ (form : Pattern) (source : String) (name : Option String),
      AllWithin path (codec.write m) (checkName path form source name) := by
    intro form source name
    unfold checkName
    split
    · exact allWithin_nil
    · split
      · exact allWithin_nil
      · exact allWithin_here rfl
  exact AllWithin.append (allWithin_if fun _ => allWithin_here rfl)
    (allWithin_if fun _ => (hname _ _ _).append (hname _ _ _))

namespace GrpcMatch

theorem get?_method (m : GrpcMatch) :
    (codec.write m).get? "method" = m.method.map MethodMatch.codec.write := by
  obtain ⟨_ | method, _⟩ := m <;> exact Codec.get?_write_record_eq _ _ _ _

theorem get?_headers (m : GrpcMatch) :
    (codec.write m).get? "headers" = some (HeaderMatch.codec.list.write m.headers) := by
  rw [codec, Codec.get?_write_record_eq]
  rfl

theorem allWithin_check (m : GrpcMatch) : AllWithin path (codec.write m) (m.check path) := by
  refine AllWithin.append ?_ (AllWithin.child m.get?_headers (HeaderMatch.allWithin_check _))
  split
  · exact allWithin_nil
  · rename_i method h
    exact AllWithin.child (m.get?_method.trans (congrArg _ h)) method.allWithin_check

end GrpcMatch

namespace GrpcFilter

theorem get?_requestHeaderModifier (f : GrpcFilter) :
    (codec.write f).get? "requestHeaderModifier"
      = f.requestHeaderModifier.map HeaderModifier.codec.write := by
  obtain ⟨_, _ | m, _, _, _⟩ := f <;> exact Codec.get?_write_record_eq _ _ _ _

theorem get?_responseHeaderModifier (f : GrpcFilter) :
    (codec.write f).get? "responseHeaderModifier"
      = f.responseHeaderModifier.map HeaderModifier.codec.write := by
  obtain ⟨_, _, _ | m, _, _⟩ := f <;> exact Codec.get?_write_record_eq _ _ _ _

theorem allWithin_check (f : GrpcFilter) : AllWithin path (codec.write f) (f.check path) := by
  refine AllWithin.append (AllWithin.append ?_ ?_) ?_
  · exact Filter.allWithin_checkModifier f.get?_requestHeaderModifier
  · exact Filter.allWithin_checkModifier f.get?_responseHeaderModifier
  · exact Filter.allWithin_configurations rfl _

theorem allWithin_checkAll (fs : List GrpcFilter) :
    AllWithin path (codec.list.write fs) (checkAll path fs) :=
  (allWithin_entries (fun _ f => f.allWithin_check) fs).append (Filter.allWithin_checkUnique rfl _)

end GrpcFilter

theorem GrpcBackendRef.get?_filters (b : GrpcBackendRef) :
    (codec.write b).get? "filters" = some (GrpcFilter.codec.list.write b.filters) := by
  rw [codec, Codec.get?_write_record_eq]
  rfl

namespace GrpcRule

theorem get?_matches (r : GrpcRule) :
    (codec.write r).get? "matches" = some (GrpcMatch.codec.list.write r.matches_) := rfl

theorem get?_filters (r : GrpcRule) :
    (codec.write r).get? "filters" = some (GrpcFilter.codec.list.write r.filters) := rfl

theorem get?_backendRefs (r : GrpcRule) :
    (codec.write r).get? "backendRefs" = some (GrpcBackendRef.codec.list.write r.backendRefs) :=
  rfl

theorem allWithin_check (r : GrpcRule) : AllWithin path (codec.write r) (r.check path) := by
  have hbackend : ∀ (path : FieldPath) (b : GrpcBackendRef),
      AllWithin path (GrpcBackendRef.codec.write b)
        (GrpcFilter.checkAll (path.child "filters") b.filters) :=
    fun _ b => AllWithin.child b.get?_filters (GrpcFilter.allWithin_checkAll b.filters)
  refine AllWithin.append (AllWithin.append ?_ ?_) ?_
  · exact AllWithin.child r.get?_matches (allWithin_entries (fun _ m => m.allWithin_check) _)
  · exact AllWithin.child r.get?_filters (GrpcFilter.allWithin_checkAll _)
  · exact AllWithin.child r.get?_backendRefs (allWithin_entries hbackend _)

end GrpcRule

theorem StreamRule.allWithin_checkPorts (r : StreamRule) :
    AllWithin path (codec.write r) (r.checkPorts path) := by
  have hbackend : ∀ (path : FieldPath) (b : BackendRef),
      AllWithin path (BackendRef.codec.write b) (b.object.checkPort path) :=
    fun _ b => b.object.allWithin_checkPort
  have hget : (codec.write r).get? "backendRefs" = some (BackendRef.codec.list.write r.backendRefs) :=
    rfl
  exact AllWithin.child hget (allWithin_entries hbackend _)

end

/-! ## Routes -/

namespace HttpRoute

theorem get?_rules (s : HttpRouteSpec) : (HttpRouteSpec.codec.write s).get? "rules"
    = some (HttpRule.codec.list.write s.rules) := rfl

theorem get?_parentRefs (s : HttpRouteSpec) : (HttpRouteSpec.codec.write s).get? "parentRefs"
    = some (ParentReference.codec.list.write s.parentRefs) := rfl

theorem allWithin_check (r : HttpRoute) :
    AllWithin .spec (HttpRouteSpec.codec.write r.spec) r.check := by
  refine AllWithin.append (AllWithin.append ?_ ?_) ?_
  · exact AllWithin.child (get?_rules r.spec)
      (allWithin_entries (fun _ rule => rule.allWithin_check) _)
  · exact AllWithin.child (get?_rules r.spec)
      (allWithin_entries (fun _ rule => rule.allWithin_checkPorts) _)
  · exact AllWithin.child (get?_parentRefs r.spec) (ParentReference.allWithin_check _)

end HttpRoute

theorem GrpcRoute.allWithin_check (r : GrpcRoute) :
    AllWithin .spec (GrpcRouteSpec.codec.write r.spec) r.check := by
  have hrules : (GrpcRouteSpec.codec.write r.spec).get? "rules"
      = some (GrpcRule.codec.list.write r.spec.rules) := rfl
  have hparents : (GrpcRouteSpec.codec.write r.spec).get? "parentRefs"
      = some (ParentReference.codec.list.write r.spec.parentRefs) := rfl
  exact (AllWithin.child hrules (allWithin_entries (fun _ rule => rule.allWithin_check) _)).append
    (AllWithin.child hparents (ParentReference.allWithin_check _))

theorem StreamRoute.allWithin_check (r : StreamRoute) :
    AllWithin .spec (StreamRouteSpec.codec.write r.spec) r.check := by
  have hrules : (StreamRouteSpec.codec.write r.spec).get? "rules"
      = some (StreamRule.codec.list.write r.spec.rules) := by
    rw [StreamRouteSpec.codec, Codec.get?_write_record_eq]
    rfl
  have hparents : (StreamRouteSpec.codec.write r.spec).get? "parentRefs"
      = some (ParentReference.codec.list.write r.spec.parentRefs) := rfl
  exact (AllWithin.child hrules
    (allWithin_entries (fun _ rule => rule.allWithin_checkPorts) _)).append
      (AllWithin.child hparents (ParentReference.allWithin_check _))

end GatewayAdmission
