import GatewayAdmission.Proofs.Admission.KindCheck

/-!
# Replies

A reply is the review it answers with one field replaced. **It is read as that review, and its own
reply is the reply itself** (`Engine.review_reply`), byte for byte. This holds for every engine: all
that counts is that the verdict comes from the request alone, and the request comes back.
-/

namespace GatewayAdmission

namespace Engine

open AdmissionReview

/-- When there is a reply: the text holds a request that can be judged. -/
theorem review_eq_ok {e : Engine} {body : ByteArray} {reply : String} :
    e.review body = .ok reply ↔ ∃ v q response, decodeReview body = .ok (v, q)
      ∧ e.evaluate q = .ok response ∧ reply = respond v response := by
  unfold review
  cases hdecode : decodeReview body with
  | error err => simp [bind, Except.bind]
  | ok p =>
    obtain ⟨v, q⟩ := p
    cases hevaluate : e.evaluate q with
    | error err => simp [bind, Except.bind, hevaluate]
    | ok response => simp [bind, Except.bind, pure, Except.pure, hevaluate, eq_comm]

/-- A response is a verdict, for the request with its identifier. -/
theorem evaluate_eq_ok {e : Engine} {q : AdmissionRequest} {response : AdmissionResponse} :
    e.evaluate q = .ok response ↔ ∃ verdict, e.judge q = .ok verdict
      ∧ response = verdict.response q.uid := by
  unfold evaluate
  cases e.judge q <;> simp [Except.map, Except.mapError, eq_comm]

theorem uid_response (verdict : Verdict) (uid : String) : (verdict.response uid).uid = uid := by
  cases verdict <;> rfl

/-- The response in the text of a reply. -/
def answer? (reply : String) : Option AdmissionResponse :=
  match Document.parse? reply.toUTF8.data.toList with
  | some (.obj entries) => (entries.find? (·.1 == some "response")).bind fun e =>
      AdmissionResponse.codec.read none e.2
  | _ => none

/-- A reply says what was found, whatever else is in it. -/
theorem answer?_respond (v : AdmissionReview) (response : AdmissionResponse) :
    answer? (respond v response) = some response := by
  have hparse : Document.parse? (respond v response).toUTF8.data.toList
      = some (.obj (Document.ofPrintedEntries (v.sharedEntries
        ++ [("response", AdmissionResponse.codec.write response)]))) := by
    rw [← writeEntries_respond, Text.toList_toUTF8]
    exact Document.parse?_render _
  have hfind : (Document.ofPrintedEntries (v.sharedEntries
      ++ [("response", AdmissionResponse.codec.write response)])).find? (·.1 == some "response")
      = some (some "response", .ofJson (AdmissionResponse.codec.write response)) := by
    rw [Document.ofPrintedEntries_eq_map, List.map_append, List.find?_append, List.find?_map,
      List.find?_eq_none.2 ?_]
    · rw [← Document.ofPrinted_of_isWhole _ response.whole]
      rfl
    · intro e he hkey
      have hne := v.response_not_mem_sharedEntries e he
      exact hne (Option.some.inj (beq_iff_eq.1 hkey))
  simp only [answer?, hparse, hfind, Option.bind_some]
  exact response.restores none fun k hk => absurd hk (by simp)

/-- **A reply echoes its review, and is its own reply.** -/
theorem review_reply {e : Engine} {body : ByteArray} {reply : String}
    (h : e.review body = .ok reply)
    (hwhole : ∀ v, decode? body = some v → ∀ r ∈ v.raws, r.json.isWhole = true) :
    ∃ v q response, decode? body = some v ∧ v.request = some q
      ∧ decode? reply.toUTF8 = some { v with response := some response }
      ∧ response.uid = q.uid
      ∧ e.review reply.toUTF8 = .ok reply := by
  obtain ⟨v, q, response, hreview, hevaluate, rfl⟩ := review_eq_ok.1 h
  obtain ⟨hkind, hdecode, hrequest⟩ := decodeReview_eq_ok.1 hreview
  have hnull : ∀ r ∈ v.raws, r.json ≠ .null := ne_null_of_decode? hdecode
  have hnamed : v.kind = reviewKind := kind_of_isReview? hkind hdecode
  have hreread : decode? (respond v response).toUTF8
      = some { v with response := some response } := by
    refine decode?_encode hnull (hwhole v hdecode) ?_
    exact Nat.le_trans (depth_write_respond v response)
      (Nat.max_le.2 ⟨depth_of_decode? hdecode, by decide⟩)
  have hagain : decodeReview (respond v response).toUTF8
      = .ok ({ v with response := some response }, q) :=
    decodeReview_eq_ok.2 ⟨isReview?_encode hnamed (hwhole v hdecode), hreread, hrequest⟩
  refine ⟨v, q, response, hdecode, hrequest, hreread, ?_, ?_⟩
  · obtain ⟨verdict, -, rfl⟩ := evaluate_eq_ok.1 hevaluate
    exact uid_response verdict q.uid
  · exact review_eq_ok.2 ⟨_, q, response, hagain, hevaluate, rfl⟩

/-- A request to create a class. -/
def createClass : AdmissionRequest :=
  { AdmissionRequest.new "705ab4f5" (Registry.gatewayIdentity "v1" "gatewayclasses") .create with
    object := some (.ofJson (.obj [("kind", .str "GatewayClass"), ("generation", .int32 3)])) }

theorem review_reply_createClass :
    gatewayApi.review (AdmissionReview.new createClass).encode.toUTF8
        = .ok (respond (.new createClass) (.allow "705ab4f5"))
      ∧ gatewayApi.review (respond (.new createClass) (.allow "705ab4f5")).toUTF8
        = .ok (respond (.new createClass) (.allow "705ab4f5")) := by
  have hwhole : ∀ r ∈ (AdmissionReview.new createClass).raws, r.json.isWhole = true := by
    intro r hr
    obtain rfl := List.mem_singleton.1 hr
    decide
  have hdecode : decode? (AdmissionReview.new createClass).encode.toUTF8
      = some (.new createClass) := by
    refine decode?_encode ?_ hwhole (by decide)
    intro r hr
    obtain rfl := List.mem_singleton.1 hr
    exact Json.noConfusion
  have hreply : gatewayApi.review (AdmissionReview.new createClass).encode.toUTF8
      = .ok (respond (.new createClass) (.allow "705ab4f5")) :=
    review_eq_ok.2 ⟨_, createClass, _,
      decodeReview_eq_ok.2 ⟨isReview?_encode rfl hwhole, hdecode, rfl⟩, by rfl, rfl⟩
  refine ⟨hreply, ?_⟩
  obtain ⟨_, _, _, -, -, -, -, hagain⟩ := review_reply hreply fun v hv =>
    Option.some.inj (hdecode.symm.trans hv) ▸ hwhole
  exact hagain

end Engine

end GatewayAdmission
