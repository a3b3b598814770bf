import GatewayAdmission.Admission.Review
import GatewayAdmission.Proofs.Json.Printed
import GatewayAdmission.Proofs.Json.Reach

/-!
# Envelopes that come back

**A review that was read is read again from its text** (`AdmissionReview.decode?_encode`), as long
as its embedded values are not `null` and hold no doubles and the text does not nest too deeply.
What a reader gives satisfies the first (`AdmissionReview.ne_null_of_decode?`) and the last
(`AdmissionReview.depth_of_decode?`) by itself.

All of it is put together record by record from the laws of fields: `lawful` says that the fields
of a record are the record, `restores` that it is read back, `whole` that it has no doubles of its
own and `nests` how deep it may be.
-/

namespace GatewayAdmission

open Codec

namespace GroupVersionKind

theorem lawful : fields.Lawful := ⟨⟨fun _ => rfl, fun _ => rfl, trivial⟩, by decide⟩

theorem restores (k : GroupVersionKind) : codec.Restores k :=
  restores_record .plain lawful
    ⟨restores_text k.group, restores_text k.version, restores_text k.kind, trivial⟩

theorem whole (k : GroupVersionKind) : codec.Whole k :=
  whole_record .plain ⟨rfl, rfl, rfl, trivial⟩

theorem nests : codec.Nests 1 :=
  nests_record .plain lawful.inverse ⟨Field.nests_defaulted _ nests_text (Nat.zero_le _),
    Field.nests_required _ nests_text, Field.nests_required _ nests_text, trivial⟩

end GroupVersionKind

namespace ResourceIdentity

theorem lawful : fields.Lawful := ⟨⟨fun _ => rfl, fun _ => rfl, trivial⟩, by decide⟩

theorem restores (i : ResourceIdentity) : codec.Restores i :=
  restores_record .plain lawful
    ⟨restores_text i.group, restores_text i.version, restores_text i.resource, trivial⟩

theorem whole (i : ResourceIdentity) : codec.Whole i :=
  whole_record .plain ⟨rfl, rfl, rfl, trivial⟩

theorem nests : codec.Nests 1 :=
  nests_record .plain lawful.inverse ⟨Field.nests_defaulted _ nests_text (Nat.zero_le _),
    Field.nests_defaulted _ nests_text (Nat.zero_le _),
    Field.nests_defaulted _ nests_text (Nat.zero_le _), trivial⟩

end ResourceIdentity

namespace UserInfo

theorem lawful : fields.Lawful := ⟨⟨fun _ => rfl, fun _ => rfl, trivial⟩, by decide⟩

theorem restores (u : UserInfo) : codec.Restores u := by
  have htexts : ∀ ss : List String, text.list.Restores ss := fun ss =>
    restores_list fun s _ => restores_text s
  refine restores_record .lenient lawful ⟨?_, ?_, ?_, ?_, trivial⟩
  · exact Field.restores_optional _ fun m _ =>
      ⟨restores_map fun e _ => htexts e.2, Json.noConfusion⟩
  · exact Field.restores_optional _ fun ss _ => ⟨htexts ss, Json.noConfusion⟩
  · exact Field.restores_optional _ fun s _ => ⟨restores_text s, Json.noConfusion⟩
  · exact Field.restores_optional _ fun s _ => ⟨restores_text s, Json.noConfusion⟩

theorem whole (u : UserInfo) : codec.Whole u := by
  have htexts : ∀ ss : List String, text.list.Whole ss := fun ss => whole_list fun s _ => rfl
  exact whole_record .lenient ⟨whole_optional fun m _ => whole_map fun e _ => htexts e.2,
    whole_optional fun ss _ => htexts ss, whole_optional fun _ _ => rfl,
    whole_optional fun _ _ => rfl, trivial⟩

theorem nests : codec.Nests 3 :=
  nests_record .lenient lawful.inverse
    ⟨Field.nests_optional _ (nests_map (nests_list nests_text)),
      (Field.nests_optional _ (nests_list nests_text)).mono (by decide),
      (Field.nests_optional _ nests_text).mono (by decide),
      (Field.nests_optional _ nests_text).mono (by decide), trivial⟩

end UserInfo

theorem Operation.restores (o : Operation) : codec.Restores o := by
  refine restores_choice ?_
  cases o <;> decide

/-! ## Requests -/

namespace AdmissionRequest

/-- The values in a request that are held as they came. -/
def raws (q : AdmissionRequest) : List Raw := [q.object, q.oldObject, q.options].filterMap id

theorem mem_raws {q : AdmissionRequest} {r : Raw} :
    r ∈ q.raws ↔ q.object = some r ∨ q.oldObject = some r ∨ q.options = some r := by
  simp [raws, eq_comm]

theorem lawful : fields.Lawful := ⟨⟨fun _ => rfl, fun _ => rfl, trivial⟩, by decide⟩

theorem restores {q : AdmissionRequest} (h : ∀ r ∈ q.raws, r.json ≠ .null) :
    codec.Restores q := by
  have htext : ∀ (name : String) (s : Option String),
      (Field.optionalNamed name text).Restores s := fun name s =>
    Field.restores_optionalNamed name fun s _ => ⟨restores_text s, Json.noConfusion⟩
  have hkind : ∀ (name : String) (k : Option GroupVersionKind),
      (Field.optionalNamed name GroupVersionKind.codec).Restores k := fun name k =>
    Field.restores_optionalNamed name fun k _ => ⟨k.restores, write_record_ne_null _ _ _⟩
  have hraw : ∀ (name : String) (r : Option Raw), (∀ s ∈ r, s ∈ q.raws) →
      (Field.optionalNamed name raw).Restores r := fun name r hr =>
    Field.restores_optionalNamed name fun s hs => ⟨restores_raw s, h s (hr s hs)⟩
  refine restores_record .plain lawful ⟨restores_text q.uid, hkind _ _, q.resource.restores,
    htext _ _, hkind _ _, ?_, htext _ _, htext _ _, htext _ _, q.operation.restores, ?_,
    hraw _ _ ?_, hraw _ _ ?_, ?_, hraw _ _ ?_, trivial⟩
  · exact Field.restores_optionalNamed _ fun i _ => ⟨i.restores, write_record_ne_null _ _ _⟩
  · exact Field.restores_optionalNamed _ fun u _ => ⟨u.restores, write_record_ne_null _ _ _⟩
  · exact fun s hs => mem_raws.2 (Or.inl hs)
  · exact fun s hs => mem_raws.2 (Or.inr (Or.inl hs))
  · exact Field.restores_optionalNamed _ fun b _ => ⟨restores_flag b, Json.noConfusion⟩
  · exact fun s hs => mem_raws.2 (Or.inr (Or.inr hs))

theorem whole {q : AdmissionRequest} (h : ∀ r ∈ q.raws, r.json.isWhole = true) :
    codec.Whole q := by
  have htext : ∀ s : Option String, text.optional.Whole s := fun s => whole_optional fun _ _ => rfl
  have hkind : ∀ k : Option GroupVersionKind, GroupVersionKind.codec.optional.Whole k :=
    fun k => whole_optional fun k _ => k.whole
  have hraw : ∀ r : Option Raw, (∀ s ∈ r, s ∈ q.raws) → raw.optional.Whole r := fun r hr =>
    whole_optional fun s hs => h s (hr s hs)
  exact whole_record .plain ⟨rfl, hkind _, q.resource.whole, htext _, hkind _,
    whole_optional fun i _ => i.whole, htext _, htext _, htext _, rfl,
    whole_optional fun u _ => u.whole, hraw _ fun s hs => mem_raws.2 (Or.inl hs),
    hraw _ fun s hs => mem_raws.2 (Or.inr (Or.inl hs)), whole_optional fun _ _ => rfl,
    hraw _ fun s hs => mem_raws.2 (Or.inr (Or.inr hs)), trivial⟩

theorem nests : codec.Nests 4 := by
  have htext : ∀ name : String, (Field.optionalNamed name text).Nests 3 := fun name =>
    (Field.nests_optionalNamed name nests_text).mono (by decide)
  have hkind : ∀ name : String, (Field.optionalNamed name GroupVersionKind.codec).Nests 3 :=
    fun name => (Field.nests_optionalNamed name GroupVersionKind.nests).mono (by decide)
  have hraw : ∀ name : String, (Field.optionalNamed name raw).Nests 3 := fun name =>
    (Field.nests_optionalNamed name nests_raw).mono (by decide)
  refine nests_record .plain lawful.inverse ⟨?_, hkind _, ?_, htext _, hkind _, ?_, htext _,
    htext _, htext _, ?_, ?_, hraw _, hraw _, ?_, hraw _, trivial⟩
  · exact (Field.nests_defaulted _ nests_text (Nat.le_refl 0)).mono (by decide)
  · exact (Field.nests_defaulted _ ResourceIdentity.nests (by decide)).mono (by decide)
  · exact (Field.nests_optionalNamed _ ResourceIdentity.nests).mono (by decide)
  · exact Field.nests_required _ ((nests_choice _ _).mono (by decide))
  · exact Field.nests_optionalNamed _ UserInfo.nests
  · exact (Field.nests_optionalNamed _ nests_flag).mono (by decide)

/-- A value that is held because it was there is not `null`. -/
theorem ne_null_of_read {room : Document.Room} {d : Document} {q : AdmissionRequest}
    (h : codec.read room d = some q) : ∀ r ∈ q.raws, r.json ≠ .null := by
  obtain ⟨inner, -, -, -, -, -, -, -, -, -, -, -, -, hobject, hold, -, hoptions, -⟩ :=
    reaches_record lawful.inverse h
  have hraw : ∀ {name : String} {r : Option Raw},
      (Field.optionalNamed name raw).Reaches inner r → ∀ s ∈ r, s.json ≠ .null := by
    rintro name r hreach s ⟨rfl⟩
    obtain ⟨d, hd, hread⟩ := Field.exists_of_reaches_optionalNamed hreach
    obtain ⟨j, hj, rfl⟩ := Option.map_eq_some_iff.1 hread
    exact Json.sorted_ne_null (Document.ne_null_of_toJson? hd hj)
  intro r hr
  rcases mem_raws.1 hr with h | h | h
  · exact hraw hobject r h
  · exact hraw hold r h
  · exact hraw hoptions r h

end AdmissionRequest

/-! ## Responses -/

namespace ResponseStatus

theorem lawful : fields.Lawful := ⟨⟨fun _ => rfl, fun _ => rfl, trivial⟩, by decide⟩

theorem restores (s : ResponseStatus) : codec.Restores s :=
  restores_record .plain lawful
    ⟨Field.restores_optionalNamed _ fun m _ => ⟨restores_text m, Json.noConfusion⟩,
      Field.restores_optionalNamed _ fun n _ => ⟨restores_uint16 n, Json.noConfusion⟩, trivial⟩

theorem whole (s : ResponseStatus) : codec.Whole s :=
  whole_record .plain ⟨whole_optional fun _ _ => rfl, whole_optional fun _ _ => rfl, trivial⟩

theorem nests : codec.Nests 1 :=
  nests_record .plain lawful.inverse ⟨Field.nests_optionalNamed _ nests_text,
    Field.nests_optionalNamed _ (nests_integer _ _), trivial⟩

end ResponseStatus

namespace AdmissionResponse

theorem lawful : fields.Lawful := ⟨⟨fun _ => rfl, fun _ => rfl, trivial⟩, by decide⟩

theorem restores (r : AdmissionResponse) : codec.Restores r :=
  restores_record .plain lawful ⟨restores_text r.uid, restores_flag r.allowed,
    Field.restores_optionalNamed _ fun s _ => ⟨s.restores, write_record_ne_null _ _ _⟩, trivial⟩

theorem whole (r : AdmissionResponse) : codec.Whole r :=
  whole_record .plain ⟨rfl, rfl, whole_optional fun s _ => s.whole, trivial⟩

theorem nests : codec.Nests 2 :=
  nests_record .plain lawful.inverse ⟨Field.nests_required _ (nests_text.mono (by decide)),
    Field.nests_required _ (nests_flag.mono (by decide)),
    Field.nests_optionalNamed _ ResponseStatus.nests, trivial⟩

theorem depth_write_le (r : AdmissionResponse) : (codec.write r).depth ≤ 2 := by
  obtain ⟨uid, allowed, _ | ⟨message, code⟩⟩ := r
  · exact Nat.le_succ 1
  · cases message <;> cases code <;> exact Nat.le_refl 2

end AdmissionResponse

/-! ## Reviews -/

namespace AdmissionReview

/-- The values in a review that are held as they came. -/
def raws (v : AdmissionReview) : List Raw := v.request.elim [] (·.raws)

theorem lawful : fields.Lawful := ⟨⟨fun _ => rfl, fun _ => rfl, trivial⟩, by decide⟩

theorem restores {v : AdmissionReview} (h : ∀ r ∈ v.raws, r.json ≠ .null) : codec.Restores v := by
  refine restores_record .plain lawful ⟨Field.restores_someText _ _, Field.restores_someText _ _,
    Field.restores_optionalNamed _ ?_, Field.restores_optionalNamed _ ?_, trivial⟩
  · intro q hq
    refine ⟨AdmissionRequest.restores fun r hr => h r ?_, write_record_ne_null _ _ _⟩
    rwa [raws, show v.request = some q from hq]
  · exact fun r _ => ⟨r.restores, write_record_ne_null _ _ _⟩

theorem whole {v : AdmissionReview} (h : ∀ r ∈ v.raws, r.json.isWhole = true) : codec.Whole v := by
  refine whole_record .plain ⟨rfl, rfl, whole_optional fun q hq => ?_,
    whole_optional fun r _ => r.whole, trivial⟩
  refine AdmissionRequest.whole fun r hr => h r ?_
  rwa [raws, show v.request = some q from hq]

theorem nests : codec.Nests 5 :=
  nests_record .plain lawful.inverse ⟨(Field.nests_someText _).mono (by decide),
    (Field.nests_someText _).mono (by decide),
    Field.nests_optionalNamed _ AdmissionRequest.nests,
    (Field.nests_optionalNamed _ AdmissionResponse.nests).mono (by decide), trivial⟩

/-- **A review is read again from its text.** -/
theorem decode?_encode {v : AdmissionReview} (hnull : ∀ r ∈ v.raws, r.json ≠ .null)
    (hwhole : ∀ r ∈ v.raws, r.json.isWhole = true) (hdepth : (codec.write v).depth ≤ 127) :
    decode? v.encode.toUTF8 = some v := by
  rw [decode?, Text.toList_toUTF8, encode, Document.parse?_render, Option.bind_some,
    Document.ofPrinted_of_isWhole _ (whole hwhole)]
  refine restores hnull .ofText ?_
  rintro k ⟨rfl⟩
  exact hdepth

/-! ## What a text is read as -/

section

variable {body : ByteArray} {v : AdmissionReview} (h : decode? body = some v)
include h

theorem exists_read_of_decode? : ∃ d, Document.parse? body.data.toList = some d
    ∧ codec.read .ofText d = some v :=
  Option.bind_eq_some_iff.1 h

theorem ne_null_of_decode? : ∀ r ∈ v.raws, r.json ≠ .null := by
  obtain ⟨d, -, hread⟩ := exists_read_of_decode? h
  obtain ⟨inner, -, -, -, hrequest, -⟩ := reaches_record lawful.inverse hread
  intro r hr
  obtain ⟨q, hq, hr⟩ : ∃ q, v.request = some q ∧ r ∈ q.raws := by
    cases hq : v.request with
    | none => simp [raws, hq] at hr
    | some q => exact ⟨q, rfl, by simpa [raws, hq] using hr⟩
  obtain ⟨d, -, hread⟩ := Field.exists_of_reaches_optionalNamed (hq ▸ hrequest)
  exact AdmissionRequest.ne_null_of_read hread r hr

theorem depth_of_decode? : (codec.write v).depth ≤ 127 := by
  obtain ⟨d, -, hread⟩ := exists_read_of_decode? h
  exact nests 127 d v hread

end

/-! ## Reading and writing again -/

/-- A text read as a review and written again; `none` if it holds no review. -/
def recode? (body : ByteArray) : Option String := (decode? body).map encode

/-- Besides doubles, only nesting and embedded `null` keep a review from coming back. -/
theorem decode?_encode_iff {v : AdmissionReview} (hwhole : ∀ r ∈ v.raws, r.json.isWhole = true) :
    decode? v.encode.toUTF8 = some v
      ↔ (∀ r ∈ v.raws, r.json ≠ .null) ∧ (codec.write v).depth ≤ 127 := by
  constructor
  · intro h
    exact ⟨ne_null_of_decode? h, depth_of_decode? h⟩
  · rintro ⟨hnull, hdepth⟩
    exact decode?_encode hnull hwhole hdepth

/-- What was read is read again after writing. -/
theorem decode?_encode_of_decode? {body : ByteArray} {v : AdmissionReview}
    (h : decode? body = some v) (hwhole : ∀ r ∈ v.raws, r.json.isWhole = true) :
    decode? v.encode.toUTF8 = some v :=
  decode?_encode (ne_null_of_decode? h) hwhole (depth_of_decode? h)

/-- **Reading undoes writing, and the text of a review that was read is a fixed point.** -/
theorem encode_roundTrip :
    (∀ v : AdmissionReview, (∀ r ∈ v.raws, r.json.isWhole = true) →
      (decode? v.encode.toUTF8 = some v
        ↔ (∀ r ∈ v.raws, r.json ≠ .null) ∧ (codec.write v).depth ≤ 127))
      ∧ ∀ (body : ByteArray) (text : String), recode? body = some text →
        (∀ v, decode? body = some v → ∀ r ∈ v.raws, r.json.isWhole = true) →
        recode? text.toUTF8 = some text := by
  refine ⟨fun v hwhole => decode?_encode_iff hwhole, ?_⟩
  intro body text hrecode hwhole
  obtain ⟨v, hdecode, rfl⟩ := Option.map_eq_some_iff.1 hrecode
  have hagain := decode?_encode_of_decode? hdecode (hwhole v hdecode)
  rw [recode?, hagain, Option.map_some]

/-- A request to update, by a user, with both objects. -/
def updateRequest : AdmissionRequest :=
  { AdmissionRequest.new "705ab4f5" ⟨"gateway.networking.k8s.io", "v1", "gateways"⟩ .update with
    name := some "edge"
    userInfo := some ⟨some (.ofEntries [("scopes", ["a", "b"])]), none, none, some "admin"⟩
    oldObject := some (.ofJson (.obj [("spec", .obj [("listeners", .arr [.null])])]))
    object := some (.ofJson (.obj [("kind", .str "Gateway"), ("generation", .int32 (-2))])) }

/-- A review that holds an answer. -/
def answeredUpdate : AdmissionReview :=
  { AdmissionReview.new updateRequest with response := some (.deny "705ab4f5" "a\nb") }

/-- The same review with its fields in another order, and with one that no review has. -/
def reorderedUpdate : Json :=
  .obj [("response", AdmissionResponse.codec.write (.deny "705ab4f5" "a\nb")), ("extra", .null),
    ("request", AdmissionRequest.codec.write updateRequest),
    ("apiVersion", .str "admission.k8s.io/v1"), ("kind", .str reviewKind)]

theorem decode?_reorderedUpdate :
    decode? reorderedUpdate.render.toUTF8 = some answeredUpdate := by
  rw [decode?, Text.toList_toUTF8, Document.parse?_render]
  rfl

theorem encode_roundTrip_answeredUpdate :
    decode? answeredUpdate.encode.toUTF8 = some answeredUpdate
      ∧ recode? reorderedUpdate.render.toUTF8 = some answeredUpdate.encode
      ∧ recode? answeredUpdate.encode.toUTF8 = some answeredUpdate.encode := by
  have hwhole : ∀ r ∈ answeredUpdate.raws, r.json.isWhole = true := by decide
  have hnull : ∀ r ∈ updateRequest.raws, r.json ≠ .null := by
    intro r hr
    rcases AdmissionRequest.mem_raws.1 hr with ⟨⟨⟩⟩ | ⟨⟨⟩⟩ | h
    · exact Json.noConfusion
    · exact Json.noConfusion
    · exact absurd h (by simp [updateRequest, AdmissionRequest.new])
  have hrecode : recode? reorderedUpdate.render.toUTF8 = some answeredUpdate.encode := by
    rw [recode?, decode?_reorderedUpdate, Option.map_some]
  refine ⟨(encode_roundTrip.1 answeredUpdate hwhole).2 ⟨hnull, by decide⟩, hrecode, ?_⟩
  refine encode_roundTrip.2 _ _ hrecode fun v hv => ?_
  obtain rfl := Option.some.inj (decode?_reorderedUpdate.symm.trans hv)
  exact hwhole

/-! ## Reviews with a response -/

/-- What is written of a review beside its response. -/
def sharedEntries (v : AdmissionReview) : List (String × Json) :=
  (Field.someText "kind").write v.kind ++ (Field.someText "apiVersion").write v.apiVersion
    ++ (Field.optionalNamed "request" AdmissionRequest.codec).write v.request

theorem writeEntries_eq (v : AdmissionReview) : fields.writeEntries v = v.sharedEntries
    ++ (Field.optionalNamed "response" AdmissionResponse.codec).write v.response := by
  rw [sharedEntries, List.append_assoc, List.append_assoc,
    ← List.append_nil ((Field.optionalNamed "response" AdmissionResponse.codec).write v.response)]
  rfl

/-- The entry of a response is the last one of a review. -/
theorem writeEntries_respond (v : AdmissionReview) (r : AdmissionResponse) :
    fields.writeEntries { v with response := some r }
      = v.sharedEntries ++ [("response", AdmissionResponse.codec.write r)] :=
  writeEntries_eq { v with response := some r }

theorem response_not_mem_sharedEntries (v : AdmissionReview) :
    ∀ e ∈ v.sharedEntries, e.1 ≠ "response" := by
  intro e he
  have hkeys : (v.sharedEntries.map (·.1)).Sublist ["kind", "apiVersion", "request"] := by
    rw [sharedEntries, List.map_append, List.map_append]
    exact ((Fields.keys_write _ _).append (Fields.keys_write _ _)).append (Fields.keys_write _ _)
  have hmem := hkeys.subset (List.mem_map_of_mem he)
  rintro hresponse
  rw [hresponse] at hmem
  exact absurd hmem (by decide)

/-- A response makes a review no deeper than a review can be. -/
theorem depth_write_respond (v : AdmissionReview) (r : AdmissionResponse) :
    (codec.write { v with response := some r }).depth ≤ max (codec.write v).depth 3 := by
  have hentries : Json.depthEntries (fields.writeEntries { v with response := some r })
      ≤ max (Json.depthEntries (fields.writeEntries v)) 2 := by
    refine Json.depthEntries_le fun e he => ?_
    rw [writeEntries_respond] at he
    rcases List.mem_append.1 he with he | he
    · have hmem : e ∈ fields.writeEntries v := writeEntries_eq v ▸ List.mem_append_left _ he
      exact Nat.le_trans (Json.depth_le_depthEntries hmem) (Nat.le_max_left _ _)
    · obtain rfl := List.mem_singleton.1 he
      exact Nat.le_trans r.depth_write_le (Nat.le_max_right _ _)
  show 1 + Json.depthEntries _ ≤ max (1 + Json.depthEntries (fields.writeEntries v)) 3
  omega

end AdmissionReview

end GatewayAdmission
