import GatewayAdmission.Admission.Engine
import GatewayAdmission.Proofs.Admission.Envelope

/-!
# The check of the kind

A text is read twice: first only for the kind it names, all else being ignored, then as a review.
**The two readers never disagree** (`Engine.readers_agree`): of an object that is read as a
review, the first reader finds the kind that the second one gives (`isReview?_of_decode?`).

An object without a kind, with `null` for a kind or with two kinds is where they could differ. The
first is a review whose kind is empty and names none; the others are read as no review. The two
array forms exclude each other, as a review has more fields that must be there than the first
reader knows of (`readItems?_eq_none_of_kind`).
-/

namespace GatewayAdmission

open Codec

namespace AdmissionReview

/-- Whether a text is one object with only blanks around it. -/
def IsObject (body : ByteArray) : Prop :=
  ∃ entries, Document.parse? body.data.toList = some (.obj entries)

/-- Whether a text is one array with only blanks around it. -/
def IsArray (body : ByteArray) : Prop :=
  ∃ items, Document.parse? body.data.toList = some (.arr items)

/-! ## The kind that a text names -/

/-- The one field that the check of the kind reads. -/
def kindFields : Fields (Option String) := .iso (.cons (.optional "kind" .text) .nil) (·.1) (·, ())

theorem lawful_kindFields : kindFields.Lawful := ⟨⟨fun _ => rfl, fun _ => rfl, trivial⟩, by decide⟩

/-- The entry of the kind stands by itself in the text of a review. -/
theorem filter_kind_writeEntries (v : AdmissionReview) :
    (Field.trees (fields.writeEntries v)).filter (·.1 == "kind")
      = Field.trees ((Field.someText "kind").write v.kind) :=
  Fields.filter_trees_cons (f := .someText "kind") (by decide) v.kind _

/-- The text of a review names its kind. -/
theorem isReview?_encode {v : AdmissionReview} (hkind : v.kind = reviewKind)
    (hwhole : ∀ r ∈ v.raws, r.json.isWhole = true) :
    isReview? v.encode.toUTF8 = some true := by
  have hentries : kindFields.readEntries? (some 126) (Field.trees (fields.writeEntries v))
      = some (some reviewKind) := by
    refine Fields.readEntries?_of_agree (a := some reviewKind) lawful_kindFields.inverse
      lawful_kindFields.nodup ⟨?_, trivial⟩ ?_ ?_
    · exact Field.restores_optional _ fun s _ => ⟨restores_text s, Json.noConfusion⟩
    · intro e he k _
      obtain rfl := List.mem_singleton.1 he
      exact Nat.zero_le k
    · intro name hname
      obtain rfl := List.mem_singleton.1 hname
      show (Field.trees (fields.writeEntries v)).filter (·.1 == "kind") = _
      rw [filter_kind_writeEntries, hkind]
      rfl
  rw [isReview?, Text.toList_toUTF8, encode, Document.parse?_render, Option.bind_some,
    Document.ofPrinted_of_isWhole _ (whole hwhole)]
  show ((record .plain kindFields).read .ofText (.ofJson (.obj (fields.writeEntries v)))).map _ = _
  rw [read_record_trees .plain kindFields (lawful.nodup_keys v) rfl, hentries]
  rfl

/-! ## Two readers -/

/-- No name that a review has once is found twice by the reader of the kind. -/
theorem repeats_kindFields {entries : List (String × Document)}
    (h : fields.repeats entries = false) : kindFields.repeats entries = false := by
  rw [Fields.repeats, List.any_eq_false] at h ⊢
  intro name hname
  obtain rfl := List.mem_singleton.1 hname
  exact h "kind" (by decide)

/-- Both readers look at the entries of one name, and there is at most one. -/
theorem exists_read?_kind {room : Document.Room} {entries : List (String × Document)}
    {kind : String} (hrepeats : kindFields.repeats entries = false)
    (hkind : (Field.someText "kind").read? room entries = some kind) :
    ∃ named, (Field.optional "kind" .text).read? room entries = some named
      ∧ (named == some reviewKind) = (kind == reviewKind) := by
  cases hentries : entries.filter (·.1 == "kind") with
  | nil =>
    rw [Field.read?_of_filter_nil hentries] at hkind
    obtain rfl : "" = kind := Option.some.inj hkind
    exact ⟨none, Field.read?_of_filter_nil hentries room, by decide⟩
  | cons e rest =>
    cases rest with
    | nil =>
      rw [Field.read?_of_filter_singleton hentries] at hkind
      have hne : e.2 ≠ .null := by
        intro hnull
        rw [hnull] at hkind
        exact absurd hkind (by simp [Field.someText, text])
      have hread : text.optional.read room e.2 = some (some kind) :=
        (read_optional text hne room).trans (congrArg (Option.map some) hkind)
      exact ⟨some kind, (Field.read?_of_filter_singleton hentries room).trans hread, rfl⟩
    | cons e' rest =>
      simp [kindFields, Fields.repeats, Fields.names, Field.optional, hentries] at hrepeats

/-- The kind that the first reader finds in an object is the kind of the review. -/
theorem isReview?_of_decode? {body : ByteArray} {v : AdmissionReview} (hobject : IsObject body)
    (h : decode? body = some v) : isReview? body = some (v.kind == reviewKind) := by
  obtain ⟨entries, hparse⟩ := hobject
  obtain ⟨d, hd, hread⟩ := exists_read_of_decode? h
  obtain rfl := Option.some.inj (hparse.symm.trans hd)
  obtain ⟨inner, keyed, henter, hkeyed, hrepeats, hv⟩ := exists_of_read_record_obj hread
  obtain ⟨_, hfields, rfl⟩ := Option.map_eq_some_iff.1 hv
  obtain ⟨kind, hkind, hrest⟩ := Option.bind_eq_some_iff.1 hfields
  obtain ⟨_, -, rfl⟩ := Option.map_eq_some_iff.1 hrest
  have honce := repeats_kindFields (hrepeats rfl)
  obtain ⟨named, hnamed, heq⟩ := exists_read?_kind honce hkind
  have hfirst : kindFields.readEntries? inner keyed = some named := by
    simp only [kindFields, Fields.readEntries?, hnamed, Option.bind_some, Option.map_some]
  have hcodec : kindCodec.read .ofText (.obj entries) = some named :=
    (read_record_obj henter hkeyed honce).trans hfirst
  rw [isReview?, hparse, Option.bind_some, hcodec, Option.map_some, heq]

/-- The kind is read from one item at most, a review from three at least. -/
theorem readItems?_eq_none_of_kind {room room' : Document.Room} {items : List Document}
    {named : Option String} (hnamed : kindFields.readItems? room' items = some (named, [])) :
    fields.readItems? room items = none := by
  cases items with
  | nil => simp [fields, Fields.readItems?, Field.someText, Field.optionalNamed, Missing.inArray?]
  | cons d rest =>
    cases rest with
    | nil =>
      simp [fields, Fields.readItems?, Field.someText, Field.optionalNamed, Missing.inArray?]
    | cons d' rest =>
      simp [kindFields, Fields.readItems?, Option.bind_eq_some_iff] at hnamed

/-- What both readers take is an object. -/
theorem isObject_of_isReview? {body : ByteArray} {v : AdmissionReview} {b : Bool}
    (hreview : isReview? body = some b) (h : decode? body = some v) : IsObject body := by
  obtain ⟨d, hd, hread⟩ := exists_read_of_decode? h
  obtain ⟨named, hnamed, -⟩ : ∃ named, kindCodec.read .ofText d = some named
      ∧ (named == some reviewKind) = b := by
    rw [isReview?, hd, Option.bind_some] at hreview
    exact Option.map_eq_some_iff.1 hreview
  cases d with
  | obj entries => exact ⟨entries, hd⟩
  | arr items =>
    obtain ⟨inner, -, hv⟩ := exists_of_read_record_arr hread
    obtain ⟨inner', -, hk⟩ := exists_of_read_record_arr hnamed
    exact absurd (hv.symm.trans (readItems?_eq_none_of_kind hk)) (by simp)
  | null => exact absurd hread (by simp [codec, record])
  | bool b => exact absurd hread (by simp [codec, record])
  | num n => exact absurd hread (by simp [codec, record])
  | str s => exact absurd hread (by simp [codec, record])

/-- A text that names the kind of a review is read as a review of that kind. -/
theorem kind_of_isReview? {body : ByteArray} {v : AdmissionReview}
    (hreview : isReview? body = some true) (h : decode? body = some v) : v.kind = reviewKind := by
  have hagree := isReview?_of_decode? (isObject_of_isReview? hreview h) h
  rw [hreview] at hagree
  exact beq_iff_eq.1 (Option.some.inj hagree).symm

end AdmissionReview

namespace Engine

open AdmissionReview

/-! ## Requests in a text -/

/-- A text without octets holds no review. -/
theorem isEmpty_of_decode? {body : ByteArray} {v : AdmissionReview} (h : decode? body = some v) :
    body.isEmpty = false := by
  cases hempty : body.isEmpty with
  | false => rfl
  | true =>
    have hsize : body.data.size = 0 := beq_iff_eq.1 hempty
    rw [decode?, Array.size_eq_zero_iff.1 hsize, Document.parse?, Token.list?, Token.listAux?] at h
    exact absurd h (by simp [Document.build?])

/-- When there is a request: the text is a review of the right kind, and holds one. -/
theorem decodeReview_eq_ok {body : ByteArray} {v : AdmissionReview} {q : AdmissionRequest} :
    decodeReview body = .ok (v, q)
      ↔ isReview? body = some true ∧ decode? body = some v ∧ v.request = some q := by
  constructor
  · intro h
    unfold decodeReview at h
    split at h
    · exact absurd h (by simp)
    · split at h
      · exact absurd h (by simp)
      · exact absurd h (by simp)
      · rename_i hreview
        split at h
        · exact absurd h (by simp)
        · rename_i review hdecode
          split at h
          · exact absurd h (by simp)
          · rename_i request hrequest
            obtain ⟨rfl, rfl⟩ := Prod.mk.inj (Except.ok.inj h)
            exact ⟨hreview, hdecode, hrequest⟩
  · rintro ⟨hreview, hdecode, hrequest⟩
    unfold decodeReview
    rw [isEmpty_of_decode? hdecode, hreview, hdecode]
    simp only [Bool.false_eq_true, if_false, hrequest]

/-- **The check of the kind agrees with the reader of the review**, and a request is found exactly
in an object that is read as a review of the right kind with a request in it. -/
theorem readers_agree (body : ByteArray) :
    (∀ v, IsObject body → decode? body = some v →
        isReview? body = some (v.kind == reviewKind))
      ∧ (∀ v q, decodeReview body = .ok (v, q)
        ↔ IsObject body ∧ decode? body = some v ∧ v.kind = reviewKind ∧ v.request = some q)
      ∧ (IsArray body → ∀ r, decodeReview body ≠ .ok r) := by
  have hiff : ∀ v q, decodeReview body = .ok (v, q)
      ↔ IsObject body ∧ decode? body = some v ∧ v.kind = reviewKind ∧ v.request = some q := by
    intro v q
    rw [decodeReview_eq_ok]
    constructor
    · rintro ⟨hreview, hdecode, hrequest⟩
      exact ⟨isObject_of_isReview? hreview hdecode, hdecode, kind_of_isReview? hreview hdecode,
        hrequest⟩
    · rintro ⟨hobject, hdecode, hkind, hrequest⟩
      refine ⟨?_, hdecode, hrequest⟩
      rw [isReview?_of_decode? hobject hdecode, hkind]
      rfl
  refine ⟨fun v hobject hdecode => isReview?_of_decode? hobject hdecode, hiff, ?_⟩
  rintro ⟨items, harray⟩ ⟨v, q⟩ hok
  obtain ⟨⟨entries, hobject⟩, -⟩ := (hiff v q).1 hok
  exact absurd (harray.symm.trans hobject) (by simp)

/-- The fields of a review in an array. -/
def arrayUpdate : Json :=
  .arr [.str reviewKind, .str "admission.k8s.io/v1", AdmissionRequest.codec.write updateRequest,
    .null]

/-- The array is read as a review as well, but is no object. -/
theorem readers_agree_update :
    isReview? reorderedUpdate.render.toUTF8 = some true
      ∧ decodeReview reorderedUpdate.render.toUTF8 = .ok (answeredUpdate, updateRequest)
      ∧ decode? arrayUpdate.render.toUTF8 = some (.new updateRequest)
      ∧ ∀ r, decodeReview arrayUpdate.render.toUTF8 ≠ .ok r := by
  have hobject : IsObject reorderedUpdate.render.toUTF8 :=
    ⟨_, by rw [Text.toList_toUTF8, Document.parse?_render]; rfl⟩
  have harray : IsArray arrayUpdate.render.toUTF8 :=
    ⟨_, by rw [Text.toList_toUTF8, Document.parse?_render]; rfl⟩
  have hdecode : decode? arrayUpdate.render.toUTF8 = some (.new updateRequest) := by
    rw [decode?, Text.toList_toUTF8, Document.parse?_render]
    rfl
  obtain ⟨hkind, hiff, -⟩ := readers_agree reorderedUpdate.render.toUTF8
  obtain ⟨-, -, hrefused⟩ := readers_agree arrayUpdate.render.toUTF8
  refine ⟨hkind _ hobject decode?_reorderedUpdate, ?_, hdecode, hrefused harray⟩
  exact (hiff _ _).2 ⟨hobject, decode?_reorderedUpdate, rfl, rfl⟩

end Engine

end GatewayAdmission
