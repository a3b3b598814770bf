import GatewayAdmission.Proofs.Field.Reordering
import GatewayAdmission.Proofs.Route.Parts
import GatewayAdmission.Route.GrpcRules
import GatewayAdmission.Route.HttpRules
import GatewayAdmission.Route.Stream

/-!
# Routes with their entries in another order

The rules of routes find as many errors if the entries of any lists stand in another order: of
parents, hostnames, rules, matches, filters, backends, headers and parameters, and of the lists of
a header modifier (`HttpRoute.length_check`, `GrpcRoute.length_check`, `StreamRoute.length_check`,
`HttpRoute.length_checkUniqueFilters`).

Names that are used several times are reported at their second use, and each name has one in every
order. Of the parents the first that clashes is reported, and whether there is one depends on pairs
of parents alone (`ParentReference.length_check`).
-/

namespace GatewayAdmission

/-! ## Headers and filters -/

/-- Whether two header modifiers differ in the order of their actions alone. -/
structure HeaderModifier.Reordered (m m' : HeaderModifier) : Prop where
  set : m.set.Perm m'.set
  add : m.add.Perm m'.add
  remove : m.remove.Perm m'.remove

namespace HeaderModifier

theorem Reordered.refl (m : HeaderModifier) : m.Reordered m := ⟨.refl _, .refl _, .refl _⟩

theorem Reordered.perm_actions {m m' : HeaderModifier} (h : m.Reordered m') :
    m.actions.Perm m'.actions :=
  ((h.add.map _).append (h.set.map _)).append (h.remove.map _)

theorem sameNumber_check : SameNumber Reordered check check := by
  intro m m' h path path'
  rw [check_eq, check_eq, List.length_map, List.length_map]
  exact length_secondOccurrences_eq (h.perm_actions.map _)

end HeaderModifier

theorem HeaderMatch.length_check {ms ms' : List HeaderMatch} (h : ms.Perm ms')
    (path path' : FieldPath) : (check path ms).length = (check path' ms').length := by
  rw [check, check, List.length_map, List.length_map]
  exact length_secondOccurrences_eq ((h.map _).map id)

namespace Filter

theorem length_checkUnique {types types' : List String} (h : types.Perm types')
    (path path' : FieldPath) :
    (checkUnique path types).length = (checkUnique path' types').length := by
  rw [checkUnique, checkUnique, List.length_map, List.length_map]
  exact length_secondOccurrences_eq ((h.filter _).map id)

theorem length_checkModifier {m m' : Option HeaderModifier}
    (h : Option.Rel HeaderModifier.Reordered m m') (path path' : FieldPath) (name : String) :
    (checkModifier path name m).length = (checkModifier path' name m').length := by
  cases h with
  | none => rfl
  | some h => exact HeaderModifier.sameNumber_check h _ _

/-- The type of a configuration, and whether it is there. -/
def Configuration.shape (c : Configuration) : String × Bool := (c.type, c.value.isSome)

/-- How many errors a configuration of this shape has in a filter of this type. -/
def shapeFaults (type : String) (shape : String × Bool) : Nat :=
  if (shape.1 = type ↔ shape.2 = true) then 0 else 1

theorem length_checkConfiguration (path : FieldPath) (family type : String) (c : Configuration) :
    (checkConfiguration path family type c).length = shapeFaults type c.shape := by
  unfold checkConfiguration shapeFaults Configuration.shape
  cases c.value <;> by_cases h : c.type = type <;> simp [h]

theorem length_checkConfigurations {cs cs' : List Configuration}
    (h : cs.map (·.shape) = cs'.map (·.shape)) (path path' : FieldPath) (family type : String) :
    (cs.flatMap (checkConfiguration path family type)).length
      = (cs'.flatMap (checkConfiguration path' family type)).length := by
  have hsum : ∀ (path : FieldPath) (cs : List Configuration),
      (cs.flatMap (checkConfiguration path family type)).length
        = ((cs.map (·.shape)).map (shapeFaults type)).sum := by
    intro path cs
    rw [List.length_flatMap, List.map_map]
    exact congrArg List.sum
      (List.map_congr_left fun c _ => length_checkConfiguration path family type c)
  rw [hsum, hsum, h]

theorem shape_configured {α : Type} {codec : Codec α} {type : String} {value value' : Option α}
    (h : value.isSome = value'.isSome) :
    (configured type codec value).shape = (configured type codec value').shape := by
  rw [configured, configured, Configuration.shape, Configuration.shape, Option.isSome_map,
    Option.isSome_map, h]

end Filter

/-! ## Backends and parents -/

theorem BackendObjectReference.length_checkPort (path path' : FieldPath)
    (r : BackendObjectReference) : (r.checkPort path).length = (r.checkPort path').length := by
  unfold checkPort
  split <;> rfl

namespace ParentReference

theorem length_check_le_one (path : FieldPath) (refs : List ParentReference) :
    (check path refs).length ≤ 1 := by
  unfold check
  split <;> simp

theorem length_check {refs refs' : List ParentReference} (h : refs.Perm refs')
    (path path' : FieldPath) : (check path refs).length = (check path' refs').length := by
  -- Which parent is reported depends on the order, but not whether one is.
  have hnone : check path refs = [] ↔ check path' refs' = [] := by
    rw [check_eq_nil_iff, check_eq_nil_iff]
    exact h.pairwise_iff fun hab => hab.symm
  have hle := length_check_le_one path refs
  have hle' := length_check_le_one path' refs'
  rw [← List.length_eq_zero_iff, ← List.length_eq_zero_iff] at hnone
  omega

end ParentReference

/-! ## HTTP routes -/

/-- Whether two filters differ in the order of what they do to headers alone. -/
structure HttpFilter.Reordered (f f' : HttpFilter) : Prop where
  type : f.type = f'.type
  requestHeaderModifier :
    Option.Rel HeaderModifier.Reordered f.requestHeaderModifier f'.requestHeaderModifier
  responseHeaderModifier :
    Option.Rel HeaderModifier.Reordered f.responseHeaderModifier f'.responseHeaderModifier
  requestMirror : f.requestMirror = f'.requestMirror
  requestRedirect : f.requestRedirect = f'.requestRedirect
  urlRewrite : f.urlRewrite = f'.urlRewrite
  extensionRef : f.extensionRef = f'.extensionRef

/-- Whether two backends differ in the order of their filters and of entries in these alone. -/
structure HttpBackendRef.Reordered (b b' : HttpBackendRef) : Prop where
  backend : b.backend = b'.backend
  filters : ReorderedBy HttpFilter.Reordered b.filters b'.filters

/-- Whether two matches differ in the order of headers and parameters alone. -/
structure HttpMatch.Reordered (m m' : HttpMatch) : Prop where
  path : m.path = m'.path
  headers : m.headers.Perm m'.headers
  queryParams : m.queryParams.Perm m'.queryParams
  method : m.method = m'.method

/-- Whether two rules differ in the order of their entries and of entries in these alone. -/
structure HttpRule.Reordered (r r' : HttpRule) : Prop where
  matches_ : ReorderedBy HttpMatch.Reordered r.matches_ r'.matches_
  filters : ReorderedBy HttpFilter.Reordered r.filters r'.filters
  backendRefs : ReorderedBy HttpBackendRef.Reordered r.backendRefs r'.backendRefs

/-- Whether two routes ask for the same in different orders, whatever their metadata are. -/
structure HttpRoute.Reordered (r r' : HttpRoute) : Prop where
  parentRefs : r.spec.parentRefs.Perm r'.spec.parentRefs
  hostnames : r.spec.hostnames.Perm r'.spec.hostnames
  rules : ReorderedBy HttpRule.Reordered r.spec.rules r'.spec.rules

theorem HttpFilter.Reordered.refl (f : HttpFilter) : f.Reordered f :=
  ⟨rfl, optionRel_refl HeaderModifier.Reordered.refl _,
    optionRel_refl HeaderModifier.Reordered.refl _, rfl, rfl, rfl, rfl⟩

theorem HttpBackendRef.Reordered.refl (b : HttpBackendRef) : b.Reordered b :=
  ⟨rfl, .refl HttpFilter.Reordered.refl _⟩

theorem HttpMatch.Reordered.refl (m : HttpMatch) : m.Reordered m := ⟨rfl, .refl _, .refl _, rfl⟩

theorem HttpRule.Reordered.refl (r : HttpRule) : r.Reordered r :=
  ⟨.refl HttpMatch.Reordered.refl _, .refl HttpFilter.Reordered.refl _,
    .refl HttpBackendRef.Reordered.refl _⟩

namespace PathModifier

theorem hasOnePrefixMatch_iff_map {ms : List HttpMatch} :
    hasOnePrefixMatch ms = true
      ↔ ms.map (·.path.bind (·.type)) = [some PathMatch.pathPrefix] := by
  unfold hasOnePrefixMatch
  split <;> simp_all

theorem hasOnePrefixMatch_eq {ms ms' : List HttpMatch}
    (h : ReorderedBy HttpMatch.Reordered ms ms') :
    hasOnePrefixMatch ms = hasOnePrefixMatch ms' := by
  have htypes : (ms.map (·.path.bind (·.type))).Perm (ms'.map (·.path.bind (·.type))) :=
    h.map_perm fun m m' hm => by rw [hm.path]
  rw [Bool.eq_iff_iff, hasOnePrefixMatch_iff_map, hasOnePrefixMatch_iff_map]
  constructor
  · exact fun hone => List.perm_singleton.1 (hone ▸ htypes.symm)
  · exact fun hone => List.perm_singleton.1 (hone ▸ htypes)

theorem length_checkReplacement (path path' : FieldPath) (type own : String)
    (value : Option String) :
    (checkReplacement path type own value).length
      = (checkReplacement path' type own value).length := by
  unfold checkReplacement
  split <;> split <;> rfl

theorem length_checkOptional {ms ms' : List HttpMatch}
    (h : ReorderedBy HttpMatch.Reordered ms ms') (path path' : FieldPath)
    (m : Option PathModifier) :
    (checkOptional path ms m).length = (checkOptional path' ms' m).length := by
  cases m with
  | none => rfl
  | some m =>
    simp only [checkOptional, check, List.length_append, length_checkReplacement path path',
      hasOnePrefixMatch_eq h]
    congr 1
    split <;> rfl

end PathModifier

namespace HttpFilter

variable {ms ms' : List HttpMatch}

theorem Reordered.map_shape_configurations {f f' : HttpFilter} (h : f.Reordered f') :
    f.configurations.map (·.shape) = f'.configurations.map (·.shape) := by
  simp only [configurations, List.map_cons, List.map_nil, h.requestMirror, h.requestRedirect,
    h.urlRewrite, h.extensionRef,
    Filter.shape_configured (isSome_eq_of_optionRel h.requestHeaderModifier),
    Filter.shape_configured (isSome_eq_of_optionRel h.responseHeaderModifier)]

theorem sameNumber_check (h : ReorderedBy HttpMatch.Reordered ms ms') :
    SameNumber Reordered (fun path => check path ms) (fun path => check path ms') := by
  intro f f' hf path path'
  simp only [check, List.length_append]
  rw [hf.requestRedirect, hf.urlRewrite, hf.type,
    PathModifier.length_checkOptional h _ ((path'.child "requestRedirect").child "path"),
    PathModifier.length_checkOptional h _ ((path'.child "urlRewrite").child "path"),
    Filter.length_checkModifier hf.requestHeaderModifier path path',
    Filter.length_checkModifier hf.responseHeaderModifier path path',
    Filter.length_checkConfigurations hf.map_shape_configurations path path']

theorem length_checkAll {fs fs' : List HttpFilter} (h : ReorderedBy HttpMatch.Reordered ms ms')
    (hfs : ReorderedBy Reordered fs fs') (path path' : FieldPath) :
    (checkAll path ms fs).length = (checkAll path' ms' fs').length := by
  have htypes : (fs.map (·.type)).Perm (fs'.map (·.type)) := hfs.map_perm fun _ _ hf => hf.type
  simp only [checkAll, List.length_append]
  rw [(sameNumber_check h).entries Reordered.refl hfs path path', htypes.contains_eq,
    htypes.contains_eq, Filter.length_checkUnique htypes path path']
  congr 2
  split <;> rfl

end HttpFilter

namespace PathMatch

theorem length_checkValue (path path' : FieldPath) (value : String) :
    (checkValue path value).length = (checkValue path' value).length := by
  have herror : ∀ (path : FieldPath) (broken : Bool) (message : String),
      (if broken then [FieldError.invalid path (.str value) message] else []).length
        = if broken then 1 else 0 := by
    intro path broken message
    split <;> rfl
  simp only [checkValue, List.length_append, List.length_flatMap, herror]

theorem length_check (path path' : FieldPath) (m : PathMatch) :
    (m.check path).length = (m.check path').length := by
  unfold check
  split
  · rfl
  · rfl
  · split
    · exact length_checkValue _ _ _
    · split <;> rfl

end PathMatch

theorem QueryParamMatch.length_check {ms ms' : List QueryParamMatch} (h : ms.Perm ms')
    (path path' : FieldPath) : (check path ms).length = (check path' ms').length := by
  rw [check, check, List.length_map, List.length_map]
  exact length_secondOccurrences_eq ((h.map _).map id)

theorem HttpMatch.sameNumber_check : SameNumber Reordered check check := by
  intro m m' h path path'
  simp only [check, List.length_append]
  rw [h.path, HeaderMatch.length_check h.headers _ (path'.child "headers"),
    QueryParamMatch.length_check h.queryParams _ (path'.child "queryParams")]
  congr 2
  cases m'.path with
  | none => rfl
  | some p => exact p.length_check _ _

namespace HttpBackendRef

theorem sameNumber_checkAll {ms ms' : List HttpMatch}
    (h : ReorderedBy HttpMatch.Reordered ms ms') :
    SameNumber Reordered (fun path b => HttpFilter.checkAll (path.child "filters") ms b.filters)
      (fun path b => HttpFilter.checkAll (path.child "filters") ms' b.filters) :=
  fun _ _ hb _ _ => HttpFilter.length_checkAll h hb.filters _ _

theorem sameNumber_checkPort : SameNumber Reordered
    (fun path b => b.backend.object.checkPort path)
    (fun path b => b.backend.object.checkPort path) := by
  intro b b' h path path'
  dsimp only
  rw [h.backend]
  exact b'.backend.object.length_checkPort path path'

end HttpBackendRef

namespace HttpRule

theorem sameNumber_check : SameNumber Reordered check check := by
  intro r r' h path path'
  simp only [check, List.length_append]
  rw [HttpFilter.length_checkAll h.matches_ h.filters _ (path'.child "filters"),
    (HttpBackendRef.sameNumber_checkAll h.matches_).entries HttpBackendRef.Reordered.refl
      h.backendRefs _ (path'.child "backendRefs"),
    HttpMatch.sameNumber_check.entries HttpMatch.Reordered.refl h.matches_ _
      (path'.child "matches")]

theorem sameNumber_checkPorts : SameNumber Reordered checkPorts checkPorts :=
  fun _ _ h _ _ => HttpBackendRef.sameNumber_checkPort.entries HttpBackendRef.Reordered.refl
    h.backendRefs _ _

theorem sameNumber_checkUnique : SameNumber Reordered
    (fun path r => Filter.checkUnique (path.child "filters") (r.filters.map (·.type)))
    (fun path r => Filter.checkUnique (path.child "filters") (r.filters.map (·.type))) :=
  fun _ _ h _ _ => Filter.length_checkUnique (h.filters.map_perm fun _ _ hf => hf.type) _ _

end HttpRule

namespace HttpRoute

variable {r r' : HttpRoute}

theorem length_checkUniqueFilters (h : r.Reordered r') :
    r.checkUniqueFilters.length = r'.checkUniqueFilters.length :=
  HttpRule.sameNumber_checkUnique.entries HttpRule.Reordered.refl h.rules _ _

/-- An HTTP route has as many errors with its entries in another order. -/
theorem length_check (h : r.Reordered r') : r.check.length = r'.check.length := by
  simp only [check, rulesAt, List.length_append]
  rw [HttpRule.sameNumber_check.entries HttpRule.Reordered.refl h.rules,
    HttpRule.sameNumber_checkPorts.entries HttpRule.Reordered.refl h.rules,
    ParentReference.length_check h.parentRefs]

end HttpRoute

/-! ## gRPC routes -/

/-- Whether two filters differ in the order of what they do to headers alone. -/
structure GrpcFilter.Reordered (f f' : GrpcFilter) : Prop where
  type : f.type = f'.type
  requestHeaderModifier :
    Option.Rel HeaderModifier.Reordered f.requestHeaderModifier f'.requestHeaderModifier
  responseHeaderModifier :
    Option.Rel HeaderModifier.Reordered f.responseHeaderModifier f'.responseHeaderModifier
  requestMirror : f.requestMirror = f'.requestMirror
  extensionRef : f.extensionRef = f'.extensionRef

/-- Whether two backends differ in the order of their filters and of entries in these alone. -/
structure GrpcBackendRef.Reordered (b b' : GrpcBackendRef) : Prop where
  backend : b.backend = b'.backend
  filters : ReorderedBy GrpcFilter.Reordered b.filters b'.filters

/-- Whether two matches differ in the order of headers alone. -/
structure GrpcMatch.Reordered (m m' : GrpcMatch) : Prop where
  method : m.method = m'.method
  headers : m.headers.Perm m'.headers

/-- Whether two rules differ in the order of their entries and of entries in these alone. -/
structure GrpcRule.Reordered (r r' : GrpcRule) : Prop where
  matches_ : ReorderedBy GrpcMatch.Reordered r.matches_ r'.matches_
  filters : ReorderedBy GrpcFilter.Reordered r.filters r'.filters
  backendRefs : ReorderedBy GrpcBackendRef.Reordered r.backendRefs r'.backendRefs

/-- Whether two routes ask for the same in different orders, whatever their metadata are. -/
structure GrpcRoute.Reordered (r r' : GrpcRoute) : Prop where
  parentRefs : r.spec.parentRefs.Perm r'.spec.parentRefs
  hostnames : r.spec.hostnames.Perm r'.spec.hostnames
  rules : ReorderedBy GrpcRule.Reordered r.spec.rules r'.spec.rules

theorem GrpcFilter.Reordered.refl (f : GrpcFilter) : f.Reordered f :=
  ⟨rfl, optionRel_refl HeaderModifier.Reordered.refl _,
    optionRel_refl HeaderModifier.Reordered.refl _, rfl, rfl⟩

theorem GrpcBackendRef.Reordered.refl (b : GrpcBackendRef) : b.Reordered b :=
  ⟨rfl, .refl GrpcFilter.Reordered.refl _⟩

theorem GrpcMatch.Reordered.refl (m : GrpcMatch) : m.Reordered m := ⟨rfl, .refl _⟩

theorem GrpcRule.Reordered.refl (r : GrpcRule) : r.Reordered r :=
  ⟨.refl GrpcMatch.Reordered.refl _, .refl GrpcFilter.Reordered.refl _,
    .refl GrpcBackendRef.Reordered.refl _⟩

namespace MethodMatch

theorem length_checkName (path path' : FieldPath) (form : Pattern) (source : String)
    (name : Option String) :
    (checkName path form source name).length = (checkName path' form source name).length := by
  cases name with
  | none => rfl
  | some name =>
    dsimp only [checkName]
    split <;> rfl

theorem length_check (path path' : FieldPath) (m : MethodMatch) :
    (m.check path).length = (m.check path').length := by
  unfold check
  rw [List.length_append, List.length_append]
  congr 1
  · split <;> rfl
  · split
    · rw [List.length_append, List.length_append, length_checkName path path',
        length_checkName path path']
    · rfl

end MethodMatch

theorem GrpcMatch.sameNumber_check : SameNumber Reordered check check := by
  intro m m' h path path'
  rw [check, check, List.length_append, List.length_append, h.method,
    HeaderMatch.length_check h.headers _ (path'.child "headers")]
  congr 1
  cases m'.method with
  | none => rfl
  | some method => exact method.length_check _ _

namespace GrpcFilter

theorem Reordered.map_shape_configurations {f f' : GrpcFilter} (h : f.Reordered f') :
    f.configurations.map (·.shape) = f'.configurations.map (·.shape) := by
  simp only [configurations, List.map_cons, List.map_nil, h.requestMirror, h.extensionRef,
    Filter.shape_configured (isSome_eq_of_optionRel h.requestHeaderModifier),
    Filter.shape_configured (isSome_eq_of_optionRel h.responseHeaderModifier)]

theorem sameNumber_check : SameNumber Reordered check check := by
  intro f f' hf path path'
  simp only [check, List.length_append]
  rw [hf.type, Filter.length_checkModifier hf.requestHeaderModifier path path',
    Filter.length_checkModifier hf.responseHeaderModifier path path',
    Filter.length_checkConfigurations hf.map_shape_configurations path path']

theorem length_checkAll {fs fs' : List GrpcFilter} (hfs : ReorderedBy Reordered fs fs')
    (path path' : FieldPath) : (checkAll path fs).length = (checkAll path' fs').length := by
  rw [checkAll, checkAll, List.length_append, List.length_append,
    sameNumber_check.entries Reordered.refl hfs path path',
    Filter.length_checkUnique (hfs.map_perm fun _ _ hf => hf.type) path path']

end GrpcFilter

theorem GrpcBackendRef.sameNumber_checkAll : SameNumber Reordered
    (fun path b => GrpcFilter.checkAll (path.child "filters") b.filters)
    (fun path b => GrpcFilter.checkAll (path.child "filters") b.filters) :=
  fun _ _ h _ _ => GrpcFilter.length_checkAll h.filters _ _

theorem GrpcRule.sameNumber_check : SameNumber Reordered check check := by
  intro r r' h path path'
  simp only [check, List.length_append]
  rw [GrpcMatch.sameNumber_check.entries GrpcMatch.Reordered.refl h.matches_ _
      (path'.child "matches"),
    GrpcFilter.length_checkAll h.filters _ (path'.child "filters"),
    GrpcBackendRef.sameNumber_checkAll.entries GrpcBackendRef.Reordered.refl h.backendRefs _
      (path'.child "backendRefs")]

/-- A gRPC route has as many errors with its entries in another order. -/
theorem GrpcRoute.length_check {r r' : GrpcRoute} (h : r.Reordered r') :
    r.check.length = r'.check.length := by
  simp only [check, rulesAt, List.length_append]
  rw [GrpcRule.sameNumber_check.entries GrpcRule.Reordered.refl h.rules,
    ParentReference.length_check h.parentRefs]

/-! ## Stream routes -/

/-- Whether two rules differ in the order of their backends alone. -/
structure StreamRule.Reordered (r r' : StreamRule) : Prop where
  backendRefs : r.backendRefs.Perm r'.backendRefs

/-- Whether two routes ask for the same in different orders, whatever their metadata are. -/
structure StreamRoute.Reordered (r r' : StreamRoute) : Prop where
  parentRefs : r.spec.parentRefs.Perm r'.spec.parentRefs
  hostnames : r.spec.hostnames.Perm r'.spec.hostnames
  rules : ReorderedBy StreamRule.Reordered r.spec.rules r'.spec.rules

theorem StreamRule.Reordered.refl (r : StreamRule) : r.Reordered r := ⟨.refl _⟩

theorem BackendRef.sameNumber_checkPort : SameNumber Eq
    (fun path (b : BackendRef) => b.object.checkPort path)
    (fun path b => b.object.checkPort path) := by
  rintro b _ rfl path path'
  exact b.object.length_checkPort path path'

theorem StreamRule.sameNumber_checkPorts : SameNumber Reordered checkPorts checkPorts :=
  fun _ _ h _ _ => BackendRef.sameNumber_checkPort.entries (fun _ => rfl)
    (.of_perm (fun _ => rfl) h.backendRefs) _ _

/-- A stream route has as many errors with its entries in another order. -/
theorem StreamRoute.length_check {r r' : StreamRoute} (h : r.Reordered r') :
    r.check.length = r'.check.length := by
  simp only [check, rulesAt, List.length_append]
  rw [StreamRule.sameNumber_checkPorts.entries StreamRule.Reordered.refl h.rules,
    ParentReference.length_check h.parentRefs]

end GatewayAdmission
