import GatewayAdmission.Proofs.Field.Line
import GatewayAdmission.Proofs.Route.Scans
import GatewayAdmission.Route.GrpcRules
import GatewayAdmission.Route.HttpRules
import GatewayAdmission.Route.Stream

/-!
# Messages about routes

**Every error of a route is clear** (`HttpRoute.allClear_check`, `GrpcRoute.allClear_check`,
`StreamRoute.allClear_check`). What an object holds is reported as a value; the messages are fixed
texts, put together from the names of filter types, of path modifiers and of forbidden parts of
paths, and the one path that is not fixed ends in the name of the list that an action stands in
(`HeaderModifier.isWord_list`).
-/

namespace GatewayAdmission

open FieldError
open FieldPath (inWords_child inWords_field inWords_index inWords_spec)
open Text (IsWord OneLine isWord_ofList oneLine_ofList)

section

variable {path : FieldPath} (hpath : path.InWords)

/-! ## Headers -/

/-- The lists in which the actions of a modifier stand. -/
theorem HeaderModifier.isWord_list (m : HeaderModifier) : ∀ a ∈ m.actions, IsWord a.list := by
  intro a ha
  rcases List.mem_append.1 ha with ha | ha
  · rcases List.mem_append.1 ha with ha | ha <;> obtain ⟨h, -, rfl⟩ := List.mem_map.1 ha <;>
      exact isWord_ofList rfl
  · obtain ⟨name, -, rfl⟩ := List.mem_map.1 ha
    exact isWord_ofList rfl

include hpath

theorem HeaderModifier.allClear_check (m : HeaderModifier) : AllClear (m.check path) := by
  rw [check_eq]
  exact allClear_secondOccurrences fun a ha =>
    ⟨inWords_child hpath (m.isWord_list a ha), oneLine_ofList rfl⟩

theorem HeaderMatch.allClear_check (ms : List HeaderMatch) : AllClear (check path ms) :=
  allClear_map fun _ _ => ⟨hpath, oneLine_ofList rfl⟩

/-! ## Filters -/

namespace Filter

theorem allClear_checkConfiguration {family type : String} {c : Configuration}
    (hfamily : OneLine family) (hc : OneLine c.type) :
    AllClear (checkConfiguration path family type c) := by
  unfold checkConfiguration
  split
  · exact allClear_ite (fun _ => allClear_nil) fun _ => allClear_invalid hpath _
      ((((oneLine_ofList rfl).append hfamily).append (oneLine_ofList rfl)).append hc)
  · exact allClear_if fun _ => allClear_required hpath
      (((((((oneLine_ofList rfl).append hc).append (oneLine_ofList rfl)).append hc).append
        (oneLine_ofList rfl)).append hfamily).append (oneLine_ofList rfl))

theorem allClear_checkUnique (types : List String) : AllClear (checkUnique path types) :=
  allClear_map fun _ _ => ⟨hpath, oneLine_ofList rfl⟩

theorem allClear_checkModifier {name : String} (hname : IsWord name) (m : Option HeaderModifier) :
    AllClear (checkModifier path name m) := by
  cases m with
  | none => exact allClear_nil
  | some m => exact m.allClear_check (inWords_child hpath hname)

end Filter

/-! ## Backends and parents -/

theorem BackendObjectReference.allClear_checkPort (r : BackendObjectReference) :
    AllClear (r.checkPort path) :=
  allClear_if fun _ => allClear_required (inWords_field hpath rfl) (oneLine_ofList rfl)

namespace ParentReference

theorem clear_clashError (o : Occurrence ParentReference) : (clashError path o).Clear := by
  unfold clashError repeatedError
  have hindex := inWords_index hpath o.index
  split
  · exact ⟨hpath, oneLine_ofList rfl⟩
  · split
    · exact ⟨inWords_field hindex rfl, oneLine_ofList rfl⟩
    · exact ⟨inWords_field hindex rfl, oneLine_ofList rfl⟩

theorem allClear_check (refs : List ParentReference) : AllClear (check path refs) := by
  rw [check_eq]
  cases (occurrences refs).find? clashes with
  | none => exact allClear_nil
  | some o => exact allClear_singleton (clear_clashError hpath o)

end ParentReference

/-! ## Filters and matches of HTTP routes -/

namespace PathMatch

omit hpath in
theorem oneLine_of_mem_forbiddenEnds {ending : String} (h : ending ∈ forbiddenEnds) :
    OneLine ending := by
  simp only [forbiddenEnds, List.mem_cons, List.not_mem_nil, or_false] at h
  rcases h with rfl | rfl <;> exact oneLine_ofList rfl

theorem allClear_checkValue (value : String) : AllClear (checkValue path value) := by
  have herror : ∀ (broken : Bool) {message : String}, OneLine message →
      AllClear (if broken then [.invalid path (.str value) message] else []) :=
    fun broken message hmessage => allClear_if fun _ => allClear_invalid hpath _ hmessage
  refine AllClear.append (AllClear.append (AllClear.append ?_ ?_) ?_) ?_
  · exact herror _ (oneLine_ofList rfl)
  · exact allClear_flatMap fun part _ =>
      herror _ ((oneLine_ofList rfl).append (Text.oneLine_quoted part))
  · exact allClear_flatMap fun ending hending => herror _
      (((oneLine_ofList rfl).append (oneLine_of_mem_forbiddenEnds hending)).append
        (oneLine_ofList rfl))
  · exact herror _ (((oneLine_ofList rfl).append (oneLine_ofList rfl)).append (oneLine_ofList rfl))

theorem allClear_check (m : PathMatch) : AllClear (m.check path) := by
  unfold check
  split
  · exact allClear_required (inWords_field hpath rfl) (oneLine_ofList rfl)
  · exact allClear_required (inWords_field hpath rfl) (oneLine_ofList rfl)
  · exact allClear_ite (fun _ => allClear_checkValue (inWords_field hpath rfl) _) fun _ =>
      allClear_ite (fun _ => allClear_nil) fun _ =>
        allClear_singleton (clear_notSupported (inWords_field hpath rfl) _ _)

end PathMatch

namespace PathModifier

theorem allClear_checkReplacement {own : String} (hown : OneLine own) (type : String)
    (value : Option String) : AllClear (checkReplacement path type own value) := by
  refine allClear_ite (fun _ => ?_) fun _ => ?_
  · exact allClear_ite (fun _ => allClear_nil) fun _ =>
      allClear_invalid hpath _ ((oneLine_ofList rfl).append hown)
  · exact allClear_if fun _ => allClear_invalid hpath _ ((oneLine_ofList rfl).append hown)

theorem allClear_checkOptional (ms : List HttpMatch) (m : Option PathModifier) :
    AllClear (checkOptional path ms m) := by
  cases m with
  | none => exact allClear_nil
  | some m =>
    refine AllClear.append (AllClear.append ?_ ?_) (allClear_if fun _ => ?_)
    · exact allClear_checkReplacement hpath (oneLine_ofList rfl) _ _
    · exact allClear_checkReplacement hpath (oneLine_ofList rfl) _ _
    · exact allClear_invalid hpath _ (oneLine_ofList rfl)

end PathModifier

namespace HttpFilter

omit hpath in
theorem oneLine_of_mem_configurations (f : HttpFilter) :
    ∀ c ∈ f.configurations, OneLine c.type := by
  simp only [configurations, List.forall_mem_cons, List.not_mem_nil, false_implies, implies_true,
    and_true]
  exact ⟨oneLine_ofList rfl, oneLine_ofList rfl, oneLine_ofList rfl, oneLine_ofList rfl,
    oneLine_ofList rfl, oneLine_ofList rfl⟩

theorem allClear_check (ms : List HttpMatch) (f : HttpFilter) : AllClear (f.check path ms) := by
  have hmodifier : ∀ m : Option PathModifier, ∀ {field : FieldPath}, field.InWords →
      AllClear (PathModifier.checkOptional (field.child "path") ms m) := fun m _ hfield =>
    PathModifier.allClear_checkOptional (inWords_field hfield rfl) ms m
  refine AllClear.append (AllClear.append (AllClear.append (AllClear.append ?_ ?_) ?_) ?_) ?_
  · exact hmodifier _ (inWords_field hpath rfl)
  · exact hmodifier _ (inWords_field hpath rfl)
  · exact Filter.allClear_checkModifier hpath (isWord_ofList rfl) _
  · exact Filter.allClear_checkModifier hpath (isWord_ofList rfl) _
  · exact allClear_flatMap fun c hc =>
      Filter.allClear_checkConfiguration hpath (oneLine_ofList rfl)
        (f.oneLine_of_mem_configurations c hc)

theorem allClear_checkAll (ms : List HttpMatch) (fs : List HttpFilter) :
    AllClear (checkAll path ms fs) := by
  refine AllClear.append (AllClear.append ?_ (allClear_if fun _ => ?_)) ?_
  · exact allClear_entries hpath (fun _ f h => f.allClear_check h ms) fs
  · exact allClear_invalid hpath _ ((oneLine_ofList rfl).append (oneLine_ofList rfl))
  · exact Filter.allClear_checkUnique hpath _

end HttpFilter

theorem QueryParamMatch.allClear_check (ms : List QueryParamMatch) : AllClear (check path ms) :=
  allClear_map fun _ _ => ⟨hpath, oneLine_ofList rfl⟩

theorem HttpMatch.allClear_check (m : HttpMatch) : AllClear (m.check path) := by
  refine AllClear.append (AllClear.append ?_ ?_) ?_
  · split
    · exact allClear_nil
    · exact PathMatch.allClear_check (inWords_field hpath rfl) _
  · exact HeaderMatch.allClear_check (inWords_field hpath rfl) _
  · exact QueryParamMatch.allClear_check (inWords_field hpath rfl) _

namespace HttpRule

theorem allClear_check (r : HttpRule) : AllClear (r.check path) := by
  have hbackend : ∀ (path : FieldPath) (b : HttpBackendRef), path.InWords →
      AllClear (HttpFilter.checkAll (path.child "filters") r.matches_ b.filters) :=
    fun _ b h => HttpFilter.allClear_checkAll (inWords_field h rfl) _ b.filters
  refine AllClear.append (AllClear.append ?_ ?_) ?_
  · exact HttpFilter.allClear_checkAll (inWords_field hpath rfl) _ _
  · exact allClear_entries (inWords_field hpath rfl) hbackend _
  · exact allClear_entries (inWords_field hpath rfl) (fun _ m h => m.allClear_check h) _

theorem allClear_checkPorts (r : HttpRule) : AllClear (r.checkPorts path) := by
  have hbackend : ∀ (path : FieldPath) (b : HttpBackendRef), path.InWords →
      AllClear (b.backend.object.checkPort path) :=
    fun _ b h => b.backend.object.allClear_checkPort h
  exact allClear_entries (inWords_field hpath rfl) hbackend _

end HttpRule

/-! ## Matches and filters of gRPC routes -/

namespace MethodMatch

theorem allClear_checkName {source : String} (hsource : OneLine source) (form : Pattern)
    (name : Option String) : AllClear (checkName path form source name) := by
  cases name with
  | none => exact allClear_nil
  | some name =>
    exact allClear_ite (fun _ => allClear_nil) fun _ => allClear_invalid hpath _
      (((oneLine_ofList rfl).append hsource).append (oneLine_ofList rfl))

theorem allClear_check (m : MethodMatch) : AllClear (m.check path) := by
  refine AllClear.append (allClear_if fun _ => ?_) (allClear_if fun _ => ?_)
  · exact allClear_required hpath (oneLine_ofList rfl)
  · exact (allClear_checkName hpath (oneLine_ofList rfl) _ _).append
      (allClear_checkName hpath (oneLine_ofList rfl) _ _)

end MethodMatch

theorem GrpcMatch.allClear_check (m : GrpcMatch) : AllClear (m.check path) := by
  refine AllClear.append ?_ (HeaderMatch.allClear_check (inWords_field hpath rfl) _)
  split
  · exact allClear_nil
  · exact MethodMatch.allClear_check (inWords_field hpath rfl) _

namespace GrpcFilter

omit hpath in
theorem oneLine_of_mem_configurations (f : GrpcFilter) :
    ∀ c ∈ f.configurations, OneLine c.type := by
  simp only [configurations, List.forall_mem_cons, List.not_mem_nil, false_implies, implies_true,
    and_true]
  exact ⟨oneLine_ofList rfl, oneLine_ofList rfl, oneLine_ofList rfl, oneLine_ofList rfl⟩

theorem allClear_check (f : GrpcFilter) : AllClear (f.check path) := by
  refine AllClear.append (AllClear.append ?_ ?_) ?_
  · exact Filter.allClear_checkModifier hpath (isWord_ofList rfl) _
  · exact Filter.allClear_checkModifier hpath (isWord_ofList rfl) _
  · exact allClear_flatMap fun c hc =>
      Filter.allClear_checkConfiguration hpath (oneLine_ofList rfl)
        (f.oneLine_of_mem_configurations c hc)

theorem allClear_checkAll (fs : List GrpcFilter) : AllClear (checkAll path fs) :=
  (allClear_entries hpath (fun _ f h => f.allClear_check h) fs).append
    (Filter.allClear_checkUnique hpath _)

end GrpcFilter

theorem GrpcRule.allClear_check (r : GrpcRule) : AllClear (r.check path) := by
  have hbackend : ∀ (path : FieldPath) (b : GrpcBackendRef), path.InWords →
      AllClear (GrpcFilter.checkAll (path.child "filters") b.filters) :=
    fun _ b h => GrpcFilter.allClear_checkAll (inWords_field h rfl) b.filters
  refine AllClear.append (AllClear.append ?_ ?_) ?_
  · exact allClear_entries (inWords_field hpath rfl) (fun _ m h => m.allClear_check h) _
  · exact GrpcFilter.allClear_checkAll (inWords_field hpath rfl) _
  · exact allClear_entries (inWords_field hpath rfl) hbackend _

theorem StreamRule.allClear_checkPorts (r : StreamRule) : AllClear (r.checkPorts path) := by
  have hbackend : ∀ (path : FieldPath) (b : BackendRef), path.InWords →
      AllClear (b.object.checkPort path) :=
    fun _ b h => b.object.allClear_checkPort h
  exact allClear_entries (inWords_field hpath rfl) hbackend _

end

/-! ## Routes -/

namespace HttpRoute

theorem allClear_checkUniqueFilters (r : HttpRoute) : AllClear r.checkUniqueFilters := by
  have hrule : ∀ (path : FieldPath) (rule : HttpRule), path.InWords →
      AllClear (Filter.checkUnique (path.child "filters") (rule.filters.map (·.type))) :=
    fun _ rule h => Filter.allClear_checkUnique (inWords_field h rfl) _
  exact allClear_entries (inWords_field inWords_spec rfl) hrule _

theorem allClear_check (r : HttpRoute) : AllClear r.check := by
  refine AllClear.append (AllClear.append ?_ ?_) ?_
  · exact allClear_entries (inWords_field inWords_spec rfl)
      (fun _ rule h => rule.allClear_check h) _
  · exact allClear_entries (inWords_field inWords_spec rfl)
      (fun _ rule h => rule.allClear_checkPorts h) _
  · exact ParentReference.allClear_check (inWords_field inWords_spec rfl) _

end HttpRoute

theorem GrpcRoute.allClear_check (r : GrpcRoute) : AllClear r.check := by
  refine AllClear.append ?_ (ParentReference.allClear_check (inWords_field inWords_spec rfl) _)
  exact allClear_entries (inWords_field inWords_spec rfl) (fun _ rule h => rule.allClear_check h) _

theorem StreamRoute.allClear_check (r : StreamRoute) : AllClear r.check := by
  refine AllClear.append ?_ (ParentReference.allClear_check (inWords_field inWords_spec rfl) _)
  exact allClear_entries (inWords_field inWords_spec rfl)
    (fun _ rule h => rule.allClear_checkPorts h) _

end GatewayAdmission
