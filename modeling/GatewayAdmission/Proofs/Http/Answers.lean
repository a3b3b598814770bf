import GatewayAdmission.Http.Service
import GatewayAdmission.Proofs.Admission.Denial
import GatewayAdmission.Proofs.Json.Printed

/-!
# Answers and their records

An answer is made of a status and a body, and a span is recorded beside it. `Service.Told` says of a
posted text how these depend on it, and on each other: nothing is recorded of a text without a
request, no verdict of a request without one, and what is recorded of a verdict is what the reply
says. **Every answer of the service tells the same story as its span** (`Service.serve_told`).

A posted text of more than `Service.bodyLimit` octets is not looked at (`post_of_large`). The three
ends that another one can come to are `validate_of_unread`, `validate_of_unjudged` and
`validate_of_judged`.
-/

namespace GatewayAdmission

/-! ## Paths -/

/-- The path of a target is what stands in front of its query. -/
theorem HttpRequest.path_eq {r : HttpRequest} {place query : String}
    (htarget : r.target = place ++ query) (hslash : place.toList.head? = some '/')
    (hplace : ∀ c ∈ place.toList, c ≠ '?' ∧ c ≠ '#')
    (hquery : ∀ c ∈ query.toList.head?, c = '?' ∨ c = '#') : r.path = place := by
  have hmark : ∀ c ∈ query.toList.head?, decide (c ≠ '?' ∧ c ≠ '#') = false := by
    intro c hc
    rcases hquery c hc with rfl | rfl <;> decide
  have hpath : withoutQuery r.target.toList = place.toList := by
    rw [withoutQuery, htarget, String.toList_append]
    exact Text.takeWhile_append_of_break (by simpa using hplace) hmark
  unfold path
  simp only [hpath, hslash]
  exact String.ofList_toList

/-! ## Errors -/

namespace Engine

theorem isClientError_of_decodeReview {body : ByteArray} {err : ReviewError}
    (h : decodeReview body = .error err) : err.isClientError = true := by
  unfold decodeReview at h
  split at h
  · cases h
    rfl
  · split at h
    · cases h
      rfl
    · cases h
      rfl
    · split at h
      · cases h
        rfl
      · split at h
        · cases h
          rfl
        · cases h

/-- A text of blanks alone holds no review. -/
theorem decodeReview_of_blank {body : ByteArray} (hsize : body.size ≠ 0)
    (hblank : ∀ b ∈ body.data.toList, Token.isBlank b = true) :
    decodeReview body = .error .malformed := by
  have hempty : body.isEmpty = false := by
    rw [ByteArray.isEmpty, beq_eq_false_iff_ne]
    exact hsize
  have hparse : Document.parse? body.data.toList = none := by
    rw [Document.parse?, Token.list?, Token.listAux?_of_isBlank hblank]
    rfl
  have hreview : AdmissionReview.isReview? body = none := by
    rw [AdmissionReview.isReview?, hparse]
    rfl
  rw [decodeReview, hempty, hreview]
  rfl

theorem isClientError_of_evaluate {e : Engine} {q : AdmissionRequest} {err : ReviewError}
    (h : e.evaluate q = .error err) : err.isClientError = false := by
  unfold evaluate at h
  cases hjudge : e.judge q with
  | error fault =>
    rw [hjudge] at h
    cases h
    rfl
  | ok verdict =>
    rw [hjudge] at h
    cases h

end Engine

/-! ## Answers and spans -/

@[simp]
theorem HttpAnswer.status_message (status : Nat) (text : String) :
    (message status text).status = status := rfl

@[simp]
theorem HttpAnswer.status_json (body : String) : (json body).status = 200 := rfl

@[simp]
theorem HttpAnswer.status_tooLarge : tooLarge.status = 413 := rfl

/-- Whether the record names a request. -/
def Span.Names (s : Span) (q : AdmissionRequest) : Prop :=
  s.requestUid = some q.uid ∧ s.operation = some q.operation.text
    ∧ s.resourceGroup = some q.resource.group ∧ s.resourceVersion = some q.resource.version
    ∧ s.resource = some q.resource.resource

/-- Whether the record has the verdict of a response in it. -/
def Span.Tells (s : Span) (r : AdmissionResponse) : Prop :=
  s.requestUid = some r.uid ∧ s.allowed = some r.allowed
    ∧ ∀ code, s.responseCode = some code
      ↔ ∃ status, r.status = some status ∧ status.code = some code

theorem Span.names_ofRequest (q : AdmissionRequest) : (ofRequest q).Names q :=
  ⟨rfl, rfl, rfl, rfl, rfl⟩

theorem Span.tells_withResponse {e : Engine} {q : AdmissionRequest} {response : AdmissionResponse}
    (h : e.evaluate q = .ok response) : ((ofRequest q).withResponse response).Tells response := by
  obtain ⟨verdict, -, rfl⟩ := Engine.evaluate_eq_ok.1 h
  refine ⟨congrArg some (Engine.uid_response verdict q.uid).symm, rfl, fun code => ?_⟩
  rw [withResponse, Option.bind_eq_some_iff]

/-! ## Posted texts -/

namespace Service

open Engine

variable {e : Engine} {body : ByteArray} {v : AdmissionReview} {q : AdmissionRequest}
  {response : AdmissionResponse} {err : ReviewError}

/-- How answer and record depend on a posted text. -/
structure Told (e : Engine) (body : ByteArray) (answer : HttpAnswer) (span : Span) : Prop where
  statuses : answer.status = 200 ∨ answer.status = 400 ∨ answer.status = 413 ∨ answer.status = 500
  /-- A text is refused unread exactly if it is too long, whatever it says. -/
  tooLarge_iff : answer.status = 413 ↔ bodyLimit < body.size
  refused : answer.status = 413 → answer = .tooLarge ∧ span = {}
  /-- The client is at fault exactly if there is no request in a text that is read. -/
  badRequest_iff : answer.status = 400
    ↔ body.size ≤ bodyLimit ∧ ∃ err, decodeReview body = .error err
  unread : answer.status = 400 → span = {}
  /-- The server is at fault exactly if there is one that cannot be judged. -/
  serverError_iff : answer.status = 500 ↔ body.size ≤ bodyLimit
    ∧ ∃ v q err, decodeReview body = .ok (v, q) ∧ e.evaluate q = .error err
  unjudged : answer.status = 500 → span.allowed = none ∧ span.responseCode = none
  /-- All is well exactly if there is one that can. -/
  ok_iff : answer.status = 200 ↔ body.size ≤ bodyLimit
    ∧ ∃ v q response, decodeReview body = .ok (v, q) ∧ e.evaluate q = .ok response
  named : answer.status = 200 ∨ answer.status = 500 →
    ∃ v q, decodeReview body = .ok (v, q) ∧ span.Names q
  /-- The reply is the review with a response in it, and the record is that of this response. -/
  replied : answer.status = 200 → ∃ v q response, decodeReview body = .ok (v, q)
    ∧ e.evaluate q = .ok response ∧ answer.body = { v with response := some response }.encode
    ∧ answer? answer.body = some response ∧ span.Tells response
  line : answer.status = 400 ∨ answer.status = 500 → ∃ text, answer.body = text ++ "\n"

theorem post_of_large (hsize : bodyLimit < body.size) : post e body = (.tooLarge, {}) :=
  if_pos hsize

theorem post_of_size_le (hsize : body.size ≤ bodyLimit) : post e body = validate e body :=
  if_neg hsize.not_gt

theorem validate_of_unread (hdecode : decodeReview body = .error err) :
    validate e body = (.message 400 err.message, {}) := by
  rw [validate, hdecode]
  simp only [HttpAnswer.ofError, isClientError_of_decodeReview hdecode, if_true]

theorem validate_of_unjudged (hdecode : decodeReview body = .ok (v, q))
    (hevaluate : e.evaluate q = .error err) :
    validate e body = (.message 500 err.message, .ofRequest q) := by
  rw [validate, hdecode]
  simp only [hevaluate, HttpAnswer.ofError, isClientError_of_evaluate hevaluate]
  rfl

theorem validate_of_judged (hdecode : decodeReview body = .ok (v, q))
    (hevaluate : e.evaluate q = .ok response) :
    validate e body = (.json (respond v response), (Span.ofRequest q).withResponse response) := by
  rw [validate, hdecode]
  simp only [hevaluate]

theorem told_of_large (hsize : bodyLimit < body.size) : Told e body .tooLarge {} where
  statuses := Or.inr (Or.inr (Or.inl rfl))
  tooLarge_iff := iff_of_true rfl hsize
  refused := fun _ => ⟨rfl, rfl⟩
  badRequest_iff := iff_of_false (by simp) fun h => h.1.not_gt hsize
  unread := fun _ => rfl
  serverError_iff := iff_of_false (by simp) fun h => h.1.not_gt hsize
  unjudged := fun _ => ⟨rfl, rfl⟩
  ok_iff := iff_of_false (by simp) fun h => h.1.not_gt hsize
  named := by simp
  replied := by simp
  line := by simp

/-- Every text that is read comes to one of the three ends. -/
theorem told_validate (e : Engine) (hsize : body.size ≤ bodyLimit) :
    Told e body (validate e body).1 (validate e body).2 := by
  have hread : ¬ bodyLimit < body.size := hsize.not_gt
  cases hdecode : decodeReview body with
  | error err =>
    rw [validate_of_unread hdecode]
    exact {
      statuses := Or.inr (Or.inl rfl)
      tooLarge_iff := by simp [hread]
      refused := by simp
      badRequest_iff := iff_of_true rfl ⟨hsize, err, hdecode⟩
      unread := fun _ => rfl
      serverError_iff := by simp [hdecode]
      unjudged := fun _ => ⟨rfl, rfl⟩
      ok_iff := by simp [hdecode]
      named := by simp
      replied := by simp
      line := fun _ => ⟨err.message, rfl⟩ }
  | ok p =>
    obtain ⟨v, q⟩ := p
    cases hevaluate : e.evaluate q with
    | error err =>
      rw [validate_of_unjudged hdecode hevaluate]
      exact {
        statuses := Or.inr (Or.inr (Or.inr rfl))
        tooLarge_iff := by simp [hread]
        refused := by simp
        badRequest_iff := by simp [hdecode]
        unread := by simp
        serverError_iff := iff_of_true rfl ⟨hsize, v, q, err, hdecode, hevaluate⟩
        unjudged := fun _ => ⟨rfl, rfl⟩
        ok_iff := by simp [hdecode, hevaluate]
        named := fun _ => ⟨v, q, hdecode, Span.names_ofRequest q⟩
        replied := by simp
        line := fun _ => ⟨err.message, rfl⟩ }
    | ok response =>
      rw [validate_of_judged hdecode hevaluate]
      exact {
        statuses := Or.inl rfl
        tooLarge_iff := by simp [hread]
        refused := by simp
        badRequest_iff := by simp [hdecode]
        unread := by simp
        serverError_iff := by simp [hdecode, hevaluate]
        unjudged := by simp
        ok_iff := iff_of_true rfl ⟨hsize, v, q, response, hdecode, hevaluate⟩
        named := fun _ => ⟨v, q, hdecode, Span.names_ofRequest q⟩
        replied := fun _ => ⟨v, q, response, hdecode, hevaluate, rfl, answer?_respond v response,
          Span.tells_withResponse hevaluate⟩
        line := by simp }

/-- A posted text is refused for its size, or read. -/
theorem told_post (e : Engine) (body : ByteArray) :
    Told e body (post e body).1 (post e body).2 := by
  by_cases hsize : bodyLimit < body.size
  · rw [post_of_large hsize]
    exact told_of_large hsize
  · rw [post_of_size_le (Nat.le_of_not_lt hsize)]
    exact told_validate e (Nat.le_of_not_lt hsize)

/-! ## Requests -/

section

variable {r : HttpRequest}

theorem serve_of_path_ne (hpath : r.path ≠ validatePath) : serve e r = (.notFound, {}) :=
  if_pos hpath

theorem serve_of_method_ne (hpath : r.path = validatePath) (hmethod : r.method ≠ "POST") :
    serve e r = if r.method = "HEAD" then ((HttpAnswer.methodNotAllowed r.method).head, {})
      else (.methodNotAllowed r.method, {}) := by
  rw [serve, if_neg (not_not.2 hpath), if_neg hmethod]

theorem serve_of_post (hpath : r.path = validatePath) (hmethod : r.method = "POST") :
    serve e r = post e r.body := by
  rw [serve, if_neg (not_not.2 hpath), if_pos hmethod]

end

/-- **Status, body and record of an answer agree.** -/
theorem serve_told (e : Engine) (r : HttpRequest) :
    (∀ place query : String, r.target = place ++ query → place.toList.head? = some '/' →
        (∀ c ∈ place.toList, c ≠ '?' ∧ c ≠ '#') →
        (∀ c ∈ query.toList.head?, c = '?' ∨ c = '#') → r.path = place)
      ∧ (r.path ≠ "/validate" → (serve e r).1.status = 404 ∧ (serve e r).2 = {})
      ∧ (r.path = "/validate" → r.method ≠ "POST" → (serve e r).1.status = 405
          ∧ (serve e r).2 = {} ∧ (r.method ≠ "HEAD" → ∃ text, (serve e r).1.body = text ++ "\n"))
      ∧ (r.path = "/validate" → r.method = "POST" →
          Told e r.body (serve e r).1 (serve e r).2) := by
  refine ⟨fun _ _ => HttpRequest.path_eq, ?_, ?_, ?_⟩
  · intro hpath
    rw [serve_of_path_ne hpath]
    exact ⟨rfl, rfl⟩
  · intro hpath hmethod
    rw [serve_of_method_ne hpath hmethod]
    by_cases hhead : r.method = "HEAD"
    · rw [if_pos hhead]
      exact ⟨rfl, rfl, fun h => absurd hhead h⟩
    · rw [if_neg hhead]
      exact ⟨rfl, rfl, fun _ => ⟨_, rfl⟩⟩
  · intro hpath hmethod
    rw [serve_of_post hpath hmethod]
    exact told_post e r.body

/-- A class is to get a controller with a line break in its name. -/
def postedUpdate : HttpRequest :=
  ⟨"POST", "/validate?timeout=10s", (AdmissionReview.new brokenController).encode.toUTF8⟩

theorem decodeReview_postedUpdate :
    decodeReview postedUpdate.body = .ok (.new brokenController, brokenController) := by
  have hwhole : ∀ r ∈ (AdmissionReview.new brokenController).raws, r.json.isWhole = true := by
    decide
  have hnull : ∀ r ∈ brokenController.raws, r.json ≠ .null := by
    intro r hr
    rcases AdmissionRequest.mem_raws.1 hr with ⟨⟨⟩⟩ | ⟨⟨⟩⟩ | h
    · exact Json.noConfusion
    · exact Json.noConfusion
    · exact absurd h (by simp [brokenController, AdmissionRequest.new])
  have hdepth : (AdmissionReview.codec.write (.new brokenController)).depth ≤ 127 := by decide
  dsimp only [postedUpdate]
  exact decodeReview_eq_ok.2 ⟨AdmissionReview.isReview?_encode rfl hwhole,
    AdmissionReview.decode?_encode hnull hwhole hdepth, rfl⟩

theorem size_postedUpdate : postedUpdate.body.size ≤ bodyLimit := by
  decide +kernel

/-- The update is denied with status 200, and the record has the code that is in the reply. -/
theorem serve_told_postedUpdate :
    postedUpdate.path = "/validate"
      ∧ Told .gatewayApi postedUpdate.body (serve .gatewayApi postedUpdate).1
          (serve .gatewayApi postedUpdate).2
      ∧ (serve .gatewayApi postedUpdate).1.status = 200
      ∧ (serve .gatewayApi postedUpdate).2.allowed = some false
      ∧ (serve .gatewayApi postedUpdate).2.responseCode = some 400 := by
  obtain ⟨hplace, -, -, hposted⟩ := serve_told .gatewayApi postedUpdate
  have hpath : postedUpdate.path = "/validate" :=
    hplace "/validate" "?timeout=10s" rfl (by simp) (by simp) (by simp)
  have htold := hposted hpath rfl
  obtain ⟨message, hevaluate⟩ : ∃ message,
      gatewayApi.evaluate brokenController = .ok (.deny "705ab4f5" message) := ⟨_, rfl⟩
  have hok := htold.ok_iff.2 ⟨size_postedUpdate, _, _, _, decodeReview_postedUpdate, hevaluate⟩
  obtain ⟨v, q, response, hdecode, hevaluate', -, -, -, hallowed, hcode⟩ := htold.replied hok
  obtain ⟨rfl, rfl⟩ : v = _ ∧ q = _ :=
    Prod.mk.inj (Except.ok.inj (hdecode.symm.trans decodeReview_postedUpdate))
  obtain rfl := Except.ok.inj (hevaluate'.symm.trans hevaluate)
  exact ⟨hpath, htold, hok, hallowed, (hcode 400).2 ⟨_, rfl, rfl⟩⟩

/-- One blank more than is read. -/
def postedBlanks : HttpRequest := ⟨"POST", "/validate", ⟨Array.replicate 2097153 0x20⟩⟩

/-- There is no review in the blanks, but they are refused for their number. -/
theorem serve_postedBlanks :
    postedBlanks.path = "/validate" ∧ postedBlanks.method = "POST"
      ∧ decodeReview postedBlanks.body = .error .malformed
      ∧ (serve .gatewayApi postedBlanks).1.status = 413
      ∧ ¬ ((serve .gatewayApi postedBlanks).1.status = 200
        ∨ (serve .gatewayApi postedBlanks).1.status = 400
        ∨ (serve .gatewayApi postedBlanks).1.status = 500) := by
  have hpath : postedBlanks.path = "/validate" :=
    @HttpRequest.path_eq postedBlanks "/validate" "" rfl rfl (by simp) (by simp)
  have hsize : postedBlanks.body.size = 2097153 := Array.size_replicate
  have hdecode : decodeReview postedBlanks.body = .error .malformed := by
    apply decodeReview_of_blank (by rw [hsize]; decide)
    intro b hb
    rw [postedBlanks, Array.toList_replicate] at hb
    rw [List.eq_of_mem_replicate hb]
    rfl
  have hserve : serve .gatewayApi postedBlanks = (.tooLarge, {}) := by
    rw [serve_of_post hpath rfl]
    exact post_of_large (by rw [hsize]; decide)
  rw [hserve]
  exact ⟨hpath, rfl, hdecode, rfl, by decide⟩

end Service

end GatewayAdmission
