import GatewayAdmission.Proofs.Route.Parts
import GatewayAdmission.Route.GrpcRules
import GatewayAdmission.Route.HttpRules
import Mathlib.Data.List.Perm.Basic

/-!
# Filters that routes of both families have

A filter of a gRPC route can stand in an HTTP route as well (`HttpFilter.ofGrpc`). The errors that
it has there are those it has in the gRPC route, with the name of the one family in place of that of
the other in their messages. One more is there if its type is one that only HTTP routes know, as the
configuration of that type is missing then (`HttpFilter.check_ofGrpc`).

So **the families judge a list of filters alike exactly if no filter is of a type that only HTTP
routes know** (`HttpFilter.checkAll_ofGrpc_iff`), whatever the matches of the HTTP rule are.
-/

namespace GatewayAdmission

/-! ## One word in place of another -/

namespace Text

/-- The characters with `new` in place of each occurrence of `old`; of an occurrence that has been
replaced, `passed` characters are still to be passed over. -/
def exchange (old new : List Char) : Nat → List Char → List Char
  | _, [] => []
  | passed + 1, _ :: rest => exchange old new passed rest
  | 0, c :: rest =>
    if old.isPrefixOf (c :: rest) then new ++ exchange old new (old.length - 1) rest
    else c :: exchange old new 0 rest

def replaceWord (old new text : String) : String :=
  String.ofList (exchange old.toList new.toList 0 text.toList)

section

variable {a : Char} {old new : List Char}

/-- Characters among which the word cannot start stay as they are. -/
theorem exchange_append {front : List Char} (h : old.head? = some a) (hfront : a ∉ front)
    (rest : List Char) :
    exchange old new 0 (front ++ rest) = front ++ exchange old new 0 rest := by
  obtain ⟨tail, rfl⟩ := List.head?_eq_some_iff.1 h
  induction front with
  | nil => rfl
  | cons c front ih =>
    rw [List.mem_cons, not_or] at hfront
    have hstart : (a :: tail).isPrefixOf (c :: (front ++ rest)) = false := by
      rw [List.isPrefixOf_cons_cons, beq_eq_false_iff_ne.2 hfront.1, Bool.false_and]
    rw [List.cons_append, exchange, hstart, if_neg Bool.false_ne_true, ih hfront.2,
      List.cons_append]

theorem exchange_all {text : List Char} (h : old.head? = some a) (htext : a ∉ text) :
    exchange old new 0 text = text := by
  have hall : exchange old new 0 (text ++ []) = text ++ [] := exchange_append h htext []
  rwa [List.append_nil] at hall

theorem exchange_length (passed rest : List Char) :
    exchange old new passed.length (passed ++ rest) = exchange old new 0 rest := by
  induction passed with
  | nil => rfl
  | cons c passed ih => exact ih

theorem exchange_self (h : old.head? = some a) (rest : List Char) :
    exchange old new 0 (old ++ rest) = new ++ exchange old new 0 rest := by
  obtain ⟨tail, rfl⟩ := List.head?_eq_some_iff.1 h
  have hstart : (a :: tail).isPrefixOf (a :: (tail ++ rest)) = true :=
    List.isPrefixOf_iff_prefix.2 (List.prefix_append (a :: tail) rest)
  rw [List.cons_append, exchange, if_pos hstart]
  exact congrArg (new ++ ·) (exchange_length tail rest)

end

section

variable {a : Char} {old new : String}

theorem replaceWord_of_not_mem {text : String} (h : old.toList.head? = some a)
    (htext : a ∉ text.toList) : replaceWord old new text = text := by
  rw [replaceWord, exchange_all h htext, String.ofList_toList]

/-- **A word that stands in a text once is replaced there.** -/
theorem replaceWord_between {front back : String} (h : old.toList.head? = some a)
    (hfront : a ∉ front.toList) (hback : a ∉ back.toList) :
    replaceWord old new (front ++ old ++ back) = front ++ new ++ back := by
  rw [← String.toList_inj, replaceWord, String.toList_ofList]
  simp only [String.toList_append, List.append_assoc]
  rw [exchange_append h hfront, exchange_self h, exchange_all h hback]

end

end Text

namespace FieldFault

/-- The same fault, told with another word in place of one of its message. -/
def reword (old new : String) : FieldFault → FieldFault
  | invalid value message => invalid value (Text.replaceWord old new message)
  | required message => required (Text.replaceWord old new message)
  | forbidden message => forbidden (Text.replaceWord old new message)
  | duplicate value => duplicate value
  | notSupported value supported => notSupported value supported

end FieldFault

namespace FieldError

def reword (old new : String) (e : FieldError) : FieldError := ⟨e.path, e.fault.reword old new⟩

/-- The error with the name of HTTP filters in place of that of gRPC filters. -/
def ofGrpc (e : FieldError) : FieldError := e.reword "GRPCRouteFilter" "HTTPRouteFilter"

/-- Errors with a message that does not name the family. -/
theorem map_ofGrpc_of_message {message : String} (hmessage : 'G' ∉ message.toList)
    {α : Type} (path : α → FieldPath) (value : α → Json) (as : List α) :
    (as.map fun a => invalid (path a) (value a) message).map ofGrpc
      = as.map fun a => invalid (path a) (value a) message := by
  rw [List.map_map]
  refine List.map_congr_left fun a _ => ?_
  rw [Function.comp_apply, ofGrpc, reword, invalid, FieldFault.reword,
    Text.replaceWord_of_not_mem rfl hmessage]

end FieldError

/-! ## Rules of both families -/

namespace Filter

theorem map_ofGrpc_checkModifier (path : FieldPath) (name : String) (m : Option HeaderModifier) :
    (checkModifier path name m).map FieldError.ofGrpc = checkModifier path name m := by
  cases m with
  | none => rfl
  | some m =>
    rw [checkModifier, m.check_eq]
    exact FieldError.map_ofGrpc_of_message (by decide) _ _ _

theorem map_ofGrpc_checkUnique (path : FieldPath) (types : List String) :
    (checkUnique path types).map FieldError.ofGrpc = checkUnique path types :=
  FieldError.map_ofGrpc_of_message (by decide) _ _ _

theorem replaceWord_nil {own : String} (hown : 'G' ∉ own.toList) :
    Text.replaceWord "GRPCRouteFilter" "HTTPRouteFilter"
      ("must be nil if the " ++ "GRPCRouteFilter" ++ ".Type is not " ++ own)
      = "must be nil if the " ++ "HTTPRouteFilter" ++ ".Type is not " ++ own := by
  have hback : 'G' ∉ (".Type is not " ++ own).toList := by
    rw [String.toList_append, List.mem_append, not_or]
    exact ⟨by decide, hown⟩
  rw [String.append_assoc, Text.replaceWord_between rfl (by decide) hback, ← String.append_assoc]

theorem replaceWord_specified {own : String} (hown : 'G' ∉ own.toList) :
    Text.replaceWord "GRPCRouteFilter" "HTTPRouteFilter" ("filter." ++ own
        ++ " must be specified for " ++ own ++ " " ++ "GRPCRouteFilter" ++ ".Type")
      = "filter." ++ own ++ " must be specified for " ++ own ++ " " ++ "HTTPRouteFilter"
        ++ ".Type" := by
  refine Text.replaceWord_between rfl ?_ (by decide)
  simp only [String.toList_append, List.mem_append, not_or]
  exact ⟨⟨⟨⟨by decide, hown⟩, by decide⟩, hown⟩, by decide⟩

/-- A message about a configuration names the family once. -/
theorem map_ofGrpc_checkConfiguration {c : Configuration} (hc : 'G' ∉ c.type.toList)
    (path : FieldPath) (type : String) :
    (checkConfiguration path "GRPCRouteFilter" type c).map FieldError.ofGrpc
      = checkConfiguration path "HTTPRouteFilter" type c := by
  unfold checkConfiguration
  cases c.value with
  | none =>
    by_cases htype : c.type = type
    · simp only [if_pos htype, List.map_cons, List.map_nil, FieldError.ofGrpc, FieldError.reword,
        FieldError.required, FieldFault.reword, replaceWord_specified hc]
    · simp only [if_neg htype, List.map_nil]
  | some value =>
    by_cases htype : c.type = type
    · simp only [if_pos htype, List.map_nil]
    · simp only [if_neg htype, List.map_cons, List.map_nil, FieldError.ofGrpc, FieldError.reword,
        FieldError.invalid, FieldFault.reword, replaceWord_nil hc]

end Filter

theorem GrpcFilter.not_mem_type_of_mem_configurations {f : GrpcFilter} :
    ∀ c ∈ f.configurations, 'G' ∉ c.type.toList := by
  simp only [configurations, Filter.configured, List.forall_mem_cons, List.not_mem_nil,
    false_implies, implies_true, and_true]
  decide

/-! ## A filter of a gRPC route in an HTTP route -/

namespace HttpFilter

/-- The same filter in an HTTP route, without redirect and rewrite. -/
def ofGrpc (f : GrpcFilter) : HttpFilter where
  type := f.type
  requestHeaderModifier := f.requestHeaderModifier
  responseHeaderModifier := f.responseHeaderModifier
  requestMirror := f.requestMirror
  requestRedirect := none
  urlRewrite := none
  extensionRef := f.extensionRef

/-- The errors of a filter for the redirect or the rewrite that its type may want. -/
def checkAbsent (path : FieldPath) (f : GrpcFilter) : List FieldError :=
  [⟨Filter.requestRedirect, none⟩, ⟨Filter.urlRewrite, none⟩].flatMap
    (Filter.checkConfiguration path "HTTPRouteFilter" f.type)

theorem checkAbsent_eq_nil_iff {path : FieldPath} {f : GrpcFilter} :
    checkAbsent path f = [] ↔ f.type ≠ "RequestRedirect" ∧ f.type ≠ "URLRewrite" := by
  rw [checkAbsent, List.flatMap_eq_nil_iff, List.forall_mem_cons, List.forall_mem_singleton,
    Filter.checkConfiguration_eq_nil_iff, Filter.checkConfiguration_eq_nil_iff]
  simp [Filter.requestRedirect, Filter.urlRewrite, eq_comm]

theorem configurations_ofGrpc (f : GrpcFilter) : (ofGrpc f).configurations
    = f.configurations ++ [⟨Filter.requestRedirect, none⟩, ⟨Filter.urlRewrite, none⟩] := rfl

/-- **In an HTTP route a filter has the errors that it has in a gRPC route, and then those for what
its type wants besides.** -/
theorem check_ofGrpc (path : FieldPath) (ms : List HttpMatch) (f : GrpcFilter) :
    (ofGrpc f).check path ms = (f.check path).map FieldError.ofGrpc ++ checkAbsent path f := by
  have hconfigurations : (f.configurations.flatMap
      (Filter.checkConfiguration path "GRPCRouteFilter" f.type)).map FieldError.ofGrpc
        = f.configurations.flatMap (Filter.checkConfiguration path "HTTPRouteFilter" f.type) := by
    rw [List.map_flatMap]
    exact List.flatMap_congr fun c hc =>
      Filter.map_ofGrpc_checkConfiguration (GrpcFilter.not_mem_type_of_mem_configurations c hc) path
        f.type
  rw [check, GrpcFilter.check, configurations_ofGrpc, List.flatMap_append, List.map_append,
    List.map_append, Filter.map_ofGrpc_checkModifier, Filter.map_ofGrpc_checkModifier,
    hconfigurations, ← List.append_assoc]
  rfl

/-! ## Lists of filters -/

variable {path : FieldPath} {ms : List HttpMatch} {fs : List GrpcFilter}

theorem flatMap_entries_ofGrpc :
    ((path.entries (fs.map ofGrpc)).flatMap fun (path, f) => f.check path ms)
      = (path.entries fs).flatMap fun x =>
        (x.2.check x.1).map FieldError.ofGrpc ++ checkAbsent x.1 x.2 := by
  rw [FieldPath.entries, FieldPath.entries, List.zipIdx_map, List.map_map, List.flatMap_map,
    List.flatMap_map]
  exact List.flatMap_congr fun x _ => check_ofGrpc (path.index x.2) ms x.1

theorem map_type_ofGrpc : (fs.map ofGrpc).map (·.type) = fs.map (·.type) := by
  rw [List.map_map]
  rfl

theorem map_ofGrpc_checkAll : (GrpcFilter.checkAll path fs).map FieldError.ofGrpc
    = ((path.entries fs).flatMap fun x => (x.2.check x.1).map FieldError.ofGrpc)
      ++ Filter.checkUnique path (fs.map (·.type)) := by
  rw [GrpcFilter.checkAll, List.map_append, List.map_flatMap, Filter.map_ofGrpc_checkUnique]

/-- Of a list that the families judge alike there are as many errors in one as in the other, so
there are none for what may be wanted besides. -/
theorem checkAbsent_eq_nil_of_checkAll
    (h : checkAll path ms (fs.map ofGrpc) = (GrpcFilter.checkAll path fs).map FieldError.ofGrpc) :
    ((path.entries fs).flatMap fun x => checkAbsent x.1 x.2) = [] := by
  have happend := (List.flatMap_append_perm (path.entries fs)
    (fun x => (x.2.check x.1).map FieldError.ofGrpc) fun x => checkAbsent x.1 x.2).length_eq
  have hlength := congrArg List.length h
  rw [checkAll, flatMap_entries_ofGrpc, map_type_ofGrpc, map_ofGrpc_checkAll] at hlength
  simp only [List.length_append] at hlength happend
  rw [← List.length_eq_zero_iff]
  omega

/-- Nothing being wanted besides, there is no redirect that could stand beside a rewrite. -/
theorem checkAll_ofGrpc (h : ∀ f ∈ fs, f.type ≠ "RequestRedirect" ∧ f.type ≠ "URLRewrite") :
    checkAll path ms (fs.map ofGrpc) = (GrpcFilter.checkAll path fs).map FieldError.ofGrpc := by
  have hredirect : (fs.map (·.type)).contains Filter.requestRedirect = false := by
    rw [← Bool.not_eq_true, List.contains_iff_mem, List.mem_map]
    rintro ⟨f, hf, htype⟩
    exact (h f hf).1 htype
  have hentries : ((path.entries fs).flatMap fun x =>
        (x.2.check x.1).map FieldError.ofGrpc ++ checkAbsent x.1 x.2)
      = (path.entries fs).flatMap fun x => (x.2.check x.1).map FieldError.ofGrpc := by
    refine List.flatMap_congr fun x hx => ?_
    obtain ⟨⟨f, i⟩, hf, rfl⟩ := List.mem_map.1 hx
    rw [checkAbsent_eq_nil_iff.2 (h f (List.fst_mem_of_mem_zipIdx hf)), List.append_nil]
  rw [checkAll, flatMap_entries_ofGrpc, hentries, map_type_ofGrpc, map_ofGrpc_checkAll, hredirect]
  exact congrArg (· ++ _) (List.append_nil _)

/-- **The families judge a list of filters alike exactly if it has no type that only HTTP routes
know**: they find the same errors in the same order, at the same paths and with the same values, and
tell them with the same messages but for the name of the family. -/
theorem checkAll_ofGrpc_iff (path : FieldPath) (ms : List HttpMatch) (fs : List GrpcFilter) :
    checkAll path ms (fs.map ofGrpc)
        = (GrpcFilter.checkAll path fs).map (·.reword "GRPCRouteFilter" "HTTPRouteFilter")
      ↔ ∀ f ∈ fs, f.type ≠ "RequestRedirect" ∧ f.type ≠ "URLRewrite" := by
  constructor
  · intro h
    have habsent := checkAbsent_eq_nil_of_checkAll h
    exact (FieldPath.flatMap_entries_eq_nil checkAbsent fun _ _ => checkAbsent_eq_nil_iff).1 habsent
  · exact checkAll_ofGrpc

end HttpFilter

end GatewayAdmission
