import GatewayAdmission.Proofs.Admission.Admissible
import GatewayAdmission.Proofs.Json.Embedded
import GatewayAdmission.Proofs.Json.Ignored
import Mathlib.Data.Option.Basic

/-!
# What decides a request

Two objects that differ in what is not looked at are judged alike. There are two such statements.

**An entry that no field of the kind reads has no effect** (`ResourceKind.decode_of_gains`),
wherever in an object it stands: the object is read as the same model, or refused for the same
reason, and every check of its kind says the same. At the top of an object this leaves out `kind`.

**Requests that agree on what may decide them have the same outcome** (`Engine.outcome_of_alike`):
operation and resource, and of the object the entries `kind` and `spec`, all else being free, as
long as metadata can be read. An update of a class is decided by its old state too. The model of an
object is its metadata and its spec, so this rests on the spec being read from one entry
(`ResourceKind.map_spec_decode`) and on no rule looking at metadata (`HeldTo.rule_congr`).
-/

namespace GatewayAdmission

/-! ## Entries that no field reads -/

/-- How a check reads objects. -/
def Check.decode : (c : Check) → Decoder c.kind
  | object _ _ decode => decode
  | change _ _ decode => decode

/-- A check sees the states of an object and the operation, and nothing else of a request. -/
theorem Check.run_congr {c : Check} {q q' : AdmissionRequest}
    (hoperation : q'.operation = q.operation) (hnew : q'.newState c.decode = q.newState c.decode)
    (hold : q'.oldState c.decode = q.oldState c.decode) : c.run q' = c.run q := by
  cases c with
  | object kind rule decode => exact congrArg (Except.map rule) hnew
  | change kind rule decode =>
    have hnew' : q'.newState decode = q.newState decode := hnew
    have hold' : q'.oldState decode = q.oldState decode := hold
    rw [run, run, hoperation, hnew', hold']

namespace ResourceKind

/-- What was gained names no other kind. -/
theorem named?_of_gains {kind : ResourceKind} {o o' : Raw} {place : List PathStep} {key : String}
    (h : kind.codec.Gains place key o.json o'.json) (hkind : place = [] → key ≠ "kind") :
    named? o' = named? o :=
  h.str?_get?_eq hkind

theorem decode_eq_of_gains {kind : ResourceKind} {o o' : Raw} {place : List PathStep}
    {key : String} (h : kind.codec.Gains place key o.json o'.json)
    (hkind : place = [] → key ≠ "kind") : kind.decode o' = kind.decode o := by
  have hread : decode.read kind o' = decode.read kind o := by
    rw [decode.read, decode.read, h.read_eq]
  rw [decode, decode, named?_of_gains h hkind, hread]

/-- **An entry that no field reads has no effect**, be it added or taken away: not on what an object
is read as, and so not on what any check finds that reads it as an object of its kind. -/
theorem decode_of_gains {kind : ResourceKind} {o o' : Raw} {place : List PathStep} {key : String}
    (h : kind.codec.Gains place key o.json o'.json) (hkind : place = [] → key ≠ "kind") :
    kind.decode o' = kind.decode o
      ∧ ∀ c : Check, c.kind = kind → c.decode = c.kind.decode → ∀ q : AdmissionRequest,
        c.run { q with object := some o' } = c.run { q with object := some o }
          ∧ c.run { q with oldObject := some o' } = c.run { q with oldObject := some o } := by
  have hdecode := decode_eq_of_gains h hkind
  refine ⟨hdecode, ?_⟩
  rintro c rfl hc q
  have hread : c.decode o' = c.decode o := by
    rw [hc]
    exact hdecode
  exact ⟨Check.run_congr rfl hread rfl, Check.run_congr rfl rfl hread⟩

/-- A route to a backend with these entries beside its name and port. -/
def cartRoute (entries : List (String × Json)) : Json :=
  .obj [("kind", .str "HTTPRoute"), ("spec", .obj [("rules", .arr [.obj [("backendRefs",
    .arr [.obj ([("name", .str "cart"), ("port", .int32 80)] ++ entries)])]])])]

/-- A backend is read from one object as a reference, a weight and filters, none of which reads the
new entry. -/
theorem decode_of_gains_protocolOfBackend :
    let o : Raw := .ofJson (cartRoute [])
    let o' : Raw := .ofJson (cartRoute [("protocol", .str "h2c")])
    (∃ m, httpRoute.decode o = .ok m ∧ httpRoute.decode o' = .ok m)
      ∧ ∀ q : AdmissionRequest, (Check.object httpRoute HttpRoute.check).run
          { q with object := some o' }
        = (Check.object httpRoute HttpRoute.check).run { q with object := some o } := by
  intro o o'
  have hbackend : HttpBackendRef.codec.Gains [] "protocol"
      (.obj [("name", .str "cart"), ("port", .int32 80)])
      (.obj [("name", .str "cart"), ("port", .int32 80), ("protocol", .str "h2c")]) :=
    @Codec.Gains.entry _ .shared HttpBackendRef.fields "protocol" (by decide)
      [("name", .str "cart"), ("port", .int32 80)] [] (.str "h2c")
  have hrule := @Codec.Gains.field _ .plain HttpRule.fields (by decide)
    ⟨_, .list "backendRefs" HttpBackendRef.codec⟩ (.tail _ (.tail _ (.head _))) [] [] _ _ _ _
    (@Codec.Gains.list _ _ [] [] _ _ _ _ hbackend)
  have hspec := @Codec.Gains.field _ .plain HttpRouteSpec.fields (by decide)
    ⟨_, .list "rules" HttpRule.codec⟩ (.tail _ (.tail _ (.head _))) [] [] _ _ _ _
    (@Codec.Gains.list _ _ [] [] _ _ _ _ hrule)
  have hroute : httpRoute.codec.Gains
      [.child "spec", .child "rules", .index 0, .child "backendRefs", .index 0] "protocol"
      o.json o'.json :=
    @Codec.Gains.field _ .plain HttpRoute.fields (by decide)
      ⟨_, .defaulted "spec" HttpRouteSpec.codec {}⟩ (.tail _ (.head _))
      [("kind", .str "HTTPRoute")] [] _ _ _ _ hspec
  obtain ⟨hdecode, hchecks⟩ := decode_of_gains hroute (fun hplace => absurd hplace (by simp))
  exact ⟨⟨_, rfl, hdecode⟩, fun q => (hchecks _ rfl rfl q).1⟩

end ResourceKind

/-! ## Entries by name -/

namespace Field

/-- What a field is read as, given the entry of its name, if any. -/
def readGiven? {α : Type} (f : Field α) (room : Document.Room) : Option Json → Option α
  | none => f.missing.inObject?
  | some j => f.codec.read room (.ofJson j)

/-- Where no key is repeated, a field is read from the one entry of its name. -/
theorem read?_trees {α : Type} (f : Field α) (room : Document.Room) {es : List (String × Json)}
    (hkeys : (es.map (·.1)).Nodup) :
    f.read? room (trees es) = f.readGiven? room ((Json.obj es).get? f.name) := by
  have hfilter : (trees es).filter (·.1 == f.name) = trees (es.filter (·.1 == f.name)) :=
    List.filter_map
  have hget : (Json.obj es).get? f.name = (es.filter (·.1 == f.name)).head?.map (·.2) := by
    rw [Json.get?, List.head?_filter]
  have hlength : (es.filter (·.1 == f.name)).length ≤ 1 := by
    have h := List.nodup_iff_count_le_one.1 hkeys f.name
    rwa [List.count, List.countP_map, List.countP_eq_length_filter] at h
  rw [hget]
  cases hentries : es.filter (·.1 == f.name) with
  | nil => exact read?_of_filter_nil (by rw [hfilter, hentries]; rfl) room
  | cons e rest =>
    rw [hentries] at hlength hfilter
    obtain rfl : rest = [] := List.eq_nil_of_length_eq_zero (by simpa using hlength)
    exact read?_of_filter_singleton hfilter room

end Field

/-! ## What may decide -/

/-- Whether metadata can be read, or are not there. -/
def Raw.HasReadableMetadata (o : Raw) : Prop :=
  ∀ j ∈ o.json.get? "metadata", (ObjectMeta.codec.read none (.ofJson j)).isSome = true

/-- Whether two objects agree on what may decide about them: on their kind and their spec, where
both can be objects of metadata and a spec at all. -/
structure Raw.Alike (o o' : Raw) : Prop where
  object : ∃ entries, o.json = .obj entries
  object' : ∃ entries, o'.json = .obj entries
  kind : o.json.get? "kind" = o'.json.get? "kind"
  spec : o.json.get? "spec" = o'.json.get? "spec"
  metadata : o.HasReadableMetadata
  metadata' : o'.HasReadableMetadata

namespace ResourceKind

/-- What an object of the kind asks for. -/
def Spec : ResourceKind → Type
  | gateway => GatewaySpec
  | gatewayClass => GatewayClassSpec
  | httpRoute => HttpRouteSpec
  | grpcRoute => GrpcRouteSpec
  | tcpRoute | udpRoute | tlsRoute => StreamRouteSpec

def spec : (kind : ResourceKind) → kind.Model → kind.Spec
  | gateway, m => Gateway.spec m
  | gatewayClass, m => GatewayClass.spec m
  | httpRoute, m => HttpRoute.spec m
  | grpcRoute, m => GrpcRoute.spec m
  | tcpRoute, m | udpRoute, m | tlsRoute, m => StreamRoute.spec m

end ResourceKind

/-- In an object of metadata and a spec, the spec is read from one entry, whatever the metadata. -/
theorem Codec.map_read_object {σ τ : Type} {c : Codec τ} {default : τ}
    {into : ObjectMeta × τ × Unit → σ} {out : σ → ObjectMeta × τ × Unit} {spec : σ → τ}
    (hspec : ∀ m s, spec (into (m, s, ())) = s) {o : Raw}
    (hobject : ∃ entries, o.json = .obj entries) (hmetadata : o.HasReadableMetadata) :
    ((record .plain (.iso (.cons (.defaulted "metadata" ObjectMeta.codec {}) <|
        .cons (.defaulted "spec" c default) .nil) into out)).read none (.ofJson o.json)).map spec
      = (Field.defaulted "spec" c default).readGiven? none (o.json.get? "spec") := by
  obtain ⟨m, hm⟩ : ∃ m, (Field.defaulted "metadata" ObjectMeta.codec {}).readGiven? none
      (o.json.get? "metadata") = some m := by
    cases hget : o.json.get? "metadata" with
    | none => exact ⟨{}, rfl⟩
    | some j => exact Option.isSome_iff_exists.1 (hmetadata j hget)
  obtain ⟨json, hsorted⟩ := o
  obtain ⟨es, rfl⟩ := hobject
  have hkeys := Json.nodup_of_increasing hsorted.1
  rw [read_record_trees .plain _ hkeys rfl]
  simp only [Fields.readEntries?, Field.read?_trees _ none hkeys]
  rw [show (Field.defaulted "metadata" ObjectMeta.codec {}).name = "metadata" from rfl, hm,
    show (Field.defaulted "spec" c default).name = "spec" from rfl]
  cases (Field.defaulted "spec" c default).readGiven? none ((Json.obj es).get? "spec") with
  | none => rfl
  | some s => exact congrArg some (hspec m s)

namespace ResourceKind

theorem exists_readSpec (kind : ResourceKind) : ∃ readSpec : Option Json → Option kind.Spec,
    ∀ o : Raw, (∃ entries, o.json = .obj entries) → o.HasReadableMetadata →
      (kind.codec.read none (.ofJson o.json)).map kind.spec = readSpec (o.json.get? "spec") := by
  cases kind <;> exact ⟨_, fun _ => Codec.map_read_object fun _ _ => rfl⟩

/-- Objects that agree on what may decide are refused for one reason, or have one spec. -/
theorem map_spec_decode (kind : ResourceKind) {o o' : Raw} (h : o.Alike o') :
    (kind.decode o).map kind.spec = (kind.decode o').map kind.spec := by
  have hnamed : named? o = named? o' := by rw [named?, named?, h.kind]
  have hread : (kind.codec.read none (.ofJson o.json)).map kind.spec
      = (kind.codec.read none (.ofJson o'.json)).map kind.spec := by
    obtain ⟨readSpec, hspec⟩ := kind.exists_readSpec
    rw [hspec o h.object h.metadata, hspec o' h.object' h.metadata', h.spec]
  have hresult : (decode.read kind o).map kind.spec = (decode.read kind o').map kind.spec := by
    unfold decode.read
    cases hm : kind.codec.read none (.ofJson o.json) <;>
      cases hm' : kind.codec.read none (.ofJson o'.json) <;> simp_all [Except.map]
  unfold decode
  rw [hnamed]
  split
  · split
    · exact hresult
    · rfl
  · exact hresult

end ResourceKind

/-! ## Rules -/

/-- No rule looks at anything but the spec. -/
theorem HeldTo.rule_congr {i : ResourceIdentity} {kind : ResourceKind}
    {rule : kind.Model → List FieldError} (h : HeldTo i kind rule) {m m' : kind.Model}
    (hspec : kind.spec m = kind.spec m') : rule m = rule m' := by
  cases h <;> obtain ⟨metadata, spec⟩ := m <;> obtain ⟨metadata', spec'⟩ := m' <;>
    obtain rfl := hspec <;> rfl

theorem GatewayClass.checkUpdate_congr {old old' new new' : GatewayClass}
    (hold : old.spec = old'.spec) (hnew : new.spec = new'.spec) :
    checkUpdate old new = checkUpdate old' new' := by
  rw [checkUpdate, checkUpdate, hold, hnew]

/-! ## Requests -/

namespace AdmissionRequest

/-- Whether two requests agree on what may decide about them. The old state is free, unless it is
that of a class under update. -/
structure Alike (q q' : AdmissionRequest) : Prop where
  operation : q.operation = q'.operation
  resource : q.resource = q'.resource
  object : Option.Rel Raw.Alike q.object q'.object
  oldObject : q.operation = .update → IsClass q.resource →
    Option.Rel Raw.Alike q.oldObject q'.oldObject

theorem map_spec_newState {q q' : AdmissionRequest}
    (h : Option.Rel Raw.Alike q.object q'.object) (kind : ResourceKind) :
    (q.newState kind.decode).map kind.spec = (q'.newState kind.decode).map kind.spec := by
  unfold newState
  generalize q.object = o, q'.object = o' at h ⊢
  cases h with
  | some h => exact kind.map_spec_decode h
  | none => rfl

theorem map_spec_oldState {q q' : AdmissionRequest}
    (h : Option.Rel Raw.Alike q.oldObject q'.oldObject) (kind : ResourceKind) :
    (q.oldState kind.decode).map kind.spec = (q'.oldState kind.decode).map kind.spec := by
  unfold oldState
  generalize q.oldObject = o, q'.oldObject = o' at h ⊢
  cases h with
  | some h => exact kind.map_spec_decode h
  | none => rfl

end AdmissionRequest

/-- Two results with the same image are the same fault, or two values with the same image. -/
theorem exists_of_map_eq_map {ε α β : Type} {x y : Except ε α} {f : α → β}
    (h : x.map f = y.map f) :
    (∃ e, x = .error e ∧ y = .error e) ∨ ∃ a b, x = .ok a ∧ y = .ok b ∧ f a = f b := by
  cases x with
  | error e =>
    cases y with
    | error e' => exact Or.inl ⟨e, rfl, congrArg Except.error (Except.error.inj h).symm⟩
    | ok b => exact absurd h (by simp [Except.map])
  | ok a =>
    cases y with
    | error e => exact absurd h (by simp [Except.map])
    | ok b => exact Or.inr ⟨a, b, rfl, rfl, Except.ok.inj h⟩

open AdmissionRequest (map_spec_newState map_spec_oldState)

/-- An update of a class finds the same in both requests. -/
theorem Check.run_update_alike {q q' : AdmissionRequest} (h : q.Alike q')
    (hupdate : q.operation = .update) (hclass : IsClass q.resource) :
    (change .gatewayClass GatewayClass.checkUpdate).run q
      = (change .gatewayClass GatewayClass.checkUpdate).run q' := by
  show (if q.operation = .update then do
      let old ← q.oldState ResourceKind.gatewayClass.decode
      let new ← q.newState ResourceKind.gatewayClass.decode
      return GatewayClass.checkUpdate old new
    else Except.ok [])
    = (if q'.operation = .update then do
      let old ← q'.oldState ResourceKind.gatewayClass.decode
      let new ← q'.newState ResourceKind.gatewayClass.decode
      return GatewayClass.checkUpdate old new
    else Except.ok [])
  rw [if_pos hupdate, if_pos (h.operation ▸ hupdate)]
  rcases exists_of_map_eq_map (map_spec_oldState (h.oldObject hupdate hclass) .gatewayClass) with
    ⟨e, hold, hold'⟩ | ⟨old, old', hold, hold', holdSpec⟩
  · rw [hold, hold']
    rfl
  rcases exists_of_map_eq_map (map_spec_newState h.object .gatewayClass) with
    ⟨e, hnew, hnew'⟩ | ⟨new, new', hnew, hnew', hnewSpec⟩
  · rw [hold, hold', hnew, hnew']
    rfl
  · rw [hold, hold', hnew, hnew']
    exact congrArg Except.ok (GatewayClass.checkUpdate_congr holdSpec hnewSpec)

/-- A rule finds the same in the new state of both requests. -/
theorem Check.run_object_alike {q q' : AdmissionRequest} (h : q.Alike q') {i : ResourceIdentity}
    {kind : ResourceKind} {rule : kind.Model → List FieldError} (hheld : HeldTo i kind rule) :
    (object kind rule).run q = (object kind rule).run q' := by
  show (q.newState kind.decode).map rule = (q'.newState kind.decode).map rule
  rcases exists_of_map_eq_map (map_spec_newState h.object kind) with
    ⟨e, hq, hq'⟩ | ⟨m, m', hq, hq', hspec⟩
  · rw [hq, hq']
  · rw [hq, hq']
    exact congrArg Except.ok (hheld.rule_congr hspec)

/-- A check that is registered finds the same in both requests. -/
theorem Check.run_alike {q q' : AdmissionRequest} (h : q.Alike q') {c : Check}
    (hfind : Registry.gatewayApi.find? q.resource = some c) : c.run q = c.run q' := by
  rcases find?_gatewayApi.1 hfind with ⟨hclass, rfl⟩ | ⟨kind, rule, hheld, rfl⟩
  · by_cases hupdate : q.operation = .update
    · exact run_update_alike h hupdate hclass
    · exact (run_change_of_ne hupdate).trans (run_change_of_ne (h.operation ▸ hupdate)).symm
  · exact run_object_alike h hheld

namespace Engine

/-- Requests that agree on what may decide them get the same verdict. -/
theorem judge_alike {q q' : AdmissionRequest} (h : q.Alike q') :
    gatewayApi.judge q = gatewayApi.judge q' := by
  have hdispatch : Registry.gatewayApi.dispatch q = Registry.gatewayApi.dispatch q' := by
    unfold Registry.dispatch
    rw [← h.resource]
    cases hfind : Registry.gatewayApi.find? q.resource with
    | none => rfl
    | some c => exact congrArg (Except.mapError DispatchError.decode) (Check.run_alike h hfind)
  have hregistry : gatewayApi.registry = Registry.gatewayApi := rfl
  rw [judge, judge, ← h.operation, hregistry, hdispatch]

/-- **Requests that agree on what may decide them have the same outcome**, each with its own uid. -/
theorem outcome_of_alike {q q' : AdmissionRequest} (h : q.Alike q') :
    (∃ allowed status, gatewayApi.evaluate q = .ok ⟨q.uid, allowed, status⟩
        ∧ gatewayApi.evaluate q' = .ok ⟨q'.uid, allowed, status⟩)
      ∨ ∃ err, gatewayApi.evaluate q = .error err ∧ gatewayApi.evaluate q' = .error err := by
  unfold evaluate
  rw [← judge_alike h]
  cases gatewayApi.judge q with
  | error e => exact Or.inr ⟨_, rfl, rfl⟩
  | ok v => cases v <;> exact Or.inl ⟨_, _, rfl, rfl⟩

/-- A class of this controller, with these entries beside its kind and its spec. -/
def classAmong (entries : List (String × Json)) (controller : String) : Raw :=
  .ofJson (.obj (("kind", .str "GatewayClass")
    :: ("spec", .obj [("controllerName", .str controller)]) :: entries))

/-- A request to hand a class over to another controller. -/
def handOver (uid : String) (before after : List (String × Json)) : AdmissionRequest :=
  { AdmissionRequest.new uid (Registry.gatewayIdentity "v1" "gatewayclasses") .update with
    object := some (classAmong after "example.com/core")
    oldObject := some (classAmong before "example.com/edge") }

/-- A named class with a status is denied the new controller just as a bare one is. -/
theorem outcome_of_alike_handOver :
    let metadata : String × Json := ("metadata", .obj [("name", .str "public")])
    let q := handOver "705ab4f5" [] []
    let q' := { handOver "2d1e95aa" [metadata] [("status", .null), metadata] with
      name := some "public", dryRun := some true }
    ∃ status, gatewayApi.evaluate q = .ok ⟨"705ab4f5", false, status⟩
      ∧ gatewayApi.evaluate q' = .ok ⟨"2d1e95aa", false, status⟩ := by
  intro metadata q q'
  have halike : ∀ controller (entries : List (String × Json)),
      entries = [metadata] ∨ entries = [("status", .null), metadata] →
      (classAmong [] controller).Alike (classAmong entries controller) := by
    rintro controller _ (rfl | rfl) <;>
      exact ⟨⟨_, rfl⟩, ⟨_, rfl⟩, rfl, rfl, by rintro _ ⟨⟩, by rintro _ ⟨rfl⟩; rfl⟩
  obtain ⟨status, hdenied⟩ : ∃ status,
      gatewayApi.evaluate q = .ok ⟨"705ab4f5", false, status⟩ := ⟨_, rfl⟩
  have h : q.Alike q' :=
    ⟨rfl, rfl, .some (halike _ _ (Or.inr rfl)), fun _ _ => .some (halike _ _ (Or.inl rfl))⟩
  rcases outcome_of_alike h with ⟨allowed, status', hq, hq'⟩ | ⟨err, hq, -⟩
  · obtain ⟨-, rfl, rfl⟩ := AdmissionResponse.mk.inj (Except.ok.inj (hdenied.symm.trans hq))
    exact ⟨_, hq, hq'⟩
  · exact absurd (hdenied.symm.trans hq) (by simp)

end Engine

end GatewayAdmission
