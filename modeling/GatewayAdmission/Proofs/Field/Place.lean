import GatewayAdmission.Field.Error
import GatewayAdmission.Json.Record
import GatewayAdmission.Proofs.Field.Steps
import GatewayAdmission.Proofs.Occurrence

/-!
# Places in an object

A path leads from an object to a place in it, step by step: into the value of a field, or to an
entry of a list. Only at the end may it name a field that the object does not have
(`Json.HasPlace`), for what is missing is reported where it would stand.

An error points into an object if its path does, and if it does not call a text or a number wrong
other than the one that stands there (`FieldError.PointsInto`). The rules of an object are put
together from the rules of its parts, each of which is told its own path. So the same is said of a
part first, with the path of the part taken off (`FieldError.Within`); **what is within a part is
within the whole** (`FieldError.Within.step`), and a record shows its parts under the names of its
fields (`Codec.get?_write_record_eq`).

An error under a path is told by its text, which starts with that of the path
(`FieldPath.Under.prefix_text`).
-/

namespace GatewayAdmission

/-! ## Places -/

namespace Json

/-- The value that is one step further in. -/
def step? (j : Json) : PathStep → Option Json
  | .child name => j.get? name
  | .index i => match j with
    | .arr items => items[i]?
    | _ => none

/-- The value that the steps lead to. -/
def follow? (j : Json) : List PathStep → Option Json
  | [] => some j
  | s :: rest => (j.step? s).bind (·.follow? rest)

/-- Whether each of the steps leads to a value, but for the last one, which may lead to a field
that an object does not have. -/
inductive HasPlace : Json → List PathStep → Prop
  | here (j : Json) : HasPlace j []
  | field (entries : List (String × Json)) (name : String) : HasPlace (.obj entries) [.child name]
  | step {j inner : Json} {s : PathStep} {rest : List PathStep} (found : j.step? s = some inner)
    (place : HasPlace inner rest) : HasPlace j (s :: rest)

/-- Whether a value is a text or a number. -/
def isPlain : Json → Bool
  | .str _ | .num _ => true
  | _ => false

end Json

/-- The value that is said to be wrong, if one is. -/
def FieldFault.wrong? : FieldFault → Option Json
  | .invalid value _ | .notSupported value _ => some value
  | .required _ | .forbidden _ | .duplicate _ => none

namespace FieldPath

/-- Whether one path is the other or leads further in. -/
def Under (base p : FieldPath) : Prop := p.root = base.root ∧ base.steps <+: p.steps

end FieldPath

namespace FieldError

/-- Whether an error is about a place in the value that stands at a path, and right about the text
or the number that stands there. -/
def Within (base : FieldPath) (value : Json) (e : FieldError) : Prop :=
  ∃ steps, e.path = ⟨base.root, base.steps ++ steps⟩ ∧ value.HasPlace steps
    ∧ ∀ found ∈ value.follow? steps, found.isPlain = true →
      ∀ wrong ∈ e.fault.wrong?, wrong = found

namespace Within

variable {base : FieldPath} {value inner : Json} {e : FieldError}

/-- **What is within a part is within the whole.** -/
theorem step {s : PathStep} (hstep : value.step? s = some inner)
    (h : e.Within ⟨base.root, base.steps ++ [s]⟩ inner) : e.Within base value := by
  obtain ⟨steps, hpath, hplace, hvalue⟩ := h
  refine ⟨s :: steps, ?_, .step hstep hplace, ?_⟩
  · rw [hpath, List.append_assoc, List.singleton_append]
  · rwa [Json.follow?, hstep]

theorem child {name : String} (hget : value.get? name = some inner)
    (h : e.Within (base.child name) inner) : e.Within base value :=
  step (s := .child name) hget h

theorem under (h : e.Within base value) : base.Under e.path := by
  obtain ⟨steps, hpath, -, -⟩ := h
  rw [hpath]
  exact ⟨rfl, List.prefix_append _ _⟩

end Within

end FieldError

/-! ## Texts of places -/

namespace FieldPath

/-- The text of a path starts with the text of every path above it. -/
theorem Under.prefix_text {base p : FieldPath} (h : base.Under p) (hroot : base.root ≠ "") :
    base.text.toList <+: p.text.toList := by
  obtain ⟨heq, rest, hsteps⟩ := h
  have hroot' : p.root ≠ "" := by rwa [heq]
  rw [toList_text hroot, toList_text hroot', heq, ← hsteps, List.flatMap_append,
    ← List.append_assoc]
  exact List.prefix_append _ _

end FieldPath

namespace FieldError

/-- Whether the text of the path of an error starts like this. -/
def startsAt (place : String) (e : FieldError) : Bool :=
  place.toList.isPrefixOf e.path.text.toList

theorem startsAt_iff {e : FieldError} {place : String} :
    e.startsAt place = true ↔ place.toList <+: e.path.text.toList :=
  List.isPrefixOf_iff_prefix

end FieldError

/-! ## Records -/

namespace Fields

/-- The value that is written under a name. -/
def written? {σ : Type} (name : String) : Fields σ → σ → Option Json
  | nil, _ => none
  | cons f rest, (a, b) =>
    if f.name = name ∧ f.omits a = false then some (f.codec.write a) else rest.written? name b
  | inline inner rest, (a, b) => (inner.written? name a).or (rest.written? name b)
  | iso fields _ out, b => fields.written? name (out b)

theorem find?_writeEntries {σ : Type} (fs : Fields σ) (name : String) (a : σ) :
    ((fs.writeEntries a).find? (·.1 == name)).map (·.2) = fs.written? name a := by
  induction fs with
  | nil => rfl
  | cons f rest ih =>
    obtain ⟨a, b⟩ := a
    rw [writeEntries, written?, List.find?_append, Option.map_or, ih]
    by_cases hname : f.name = name <;> cases homits : f.omits a <;>
      simp [Field.write, hname, homits]
  | inline inner rest ih1 ih2 =>
    obtain ⟨a, b⟩ := a
    rw [writeEntries, written?, List.find?_append, Option.map_or, ih1, ih2]
  | iso fields into out ih => exact ih (out a)

end Fields

/-- A record shows its fields under their names. -/
theorem Codec.get?_write_record_eq {σ : Type} (form : RecordForm) (fs : Fields σ) (name : String)
    (a : σ) : ((record form fs).write a).get? name = fs.written? name a :=
  fs.find?_writeEntries name a

/-! ## All errors of a check -/

namespace FieldError

/-- Whether all errors are about places in the value that stands at a path. -/
def AllWithin (base : FieldPath) (value : Json) (errors : List FieldError) : Prop :=
  ∀ e ∈ errors, e.Within base value

section

variable {base : FieldPath} {value inner : Json} {es fs : List FieldError} {fault : FieldFault}

/-- An error about the whole value, which is no text and no number. -/
theorem within_here (hplain : value.isPlain = false) :
    (⟨base, fault⟩ : FieldError).Within base value := by
  refine ⟨[], by rw [List.append_nil], .here value, fun found hfound h => ?_⟩
  obtain rfl := Option.some.inj hfound
  exact absurd h (by rw [hplain]; exact Bool.false_ne_true)

/-- One error about the whole value, with that value. -/
theorem allWithin_wrong (hfault : fault.wrong? = some value) :
    AllWithin base value [⟨base, fault⟩] := by
  refine List.forall_mem_singleton.2 ⟨[], by rw [List.append_nil], .here value, ?_⟩
  intro found hfound _ wrong hwrong
  rw [hfault] at hwrong
  exact (Option.some.inj hwrong).symm.trans (Option.some.inj hfound)

/-- An error about a field of an object, with the value that stands there if that is a text or a
number. -/
theorem within_field {entries : List (String × Json)} {name : String}
    (hvalue : ∀ found ∈ (Json.obj entries).get? name, found.isPlain = true →
      ∀ wrong ∈ fault.wrong?, wrong = found) :
    (⟨base.child name, fault⟩ : FieldError).Within base (.obj entries) := by
  have hfollow : (Json.obj entries).follow? [.child name] = (Json.obj entries).get? name :=
    Option.bind_fun_some _
  refine ⟨[.child name], rfl, .field entries name, ?_⟩
  rwa [hfollow]

/-- One error about the whole value, which is no text and no number. -/
theorem allWithin_here (hplain : value.isPlain = false) :
    AllWithin base value [⟨base, fault⟩] :=
  List.forall_mem_singleton.2 (within_here hplain)

/-- An error about a field that may be missing. -/
theorem within_missing {entries : List (String × Json)} {name : String}
    (hfault : fault.wrong? = none) :
    (⟨base.child name, fault⟩ : FieldError).Within base (.obj entries) := by
  refine within_field fun _ _ _ wrong hwrong => ?_
  rw [hfault] at hwrong
  exact absurd hwrong (by simp)

theorem allWithin_missing {entries : List (String × Json)} {name : String}
    (hfault : fault.wrong? = none) :
    AllWithin base (.obj entries) [⟨base.child name, fault⟩] :=
  List.forall_mem_singleton.2 (within_missing hfault)

/-- An error about a field, with the value that stands there. -/
theorem within_field_wrong {entries : List (String × Json)} {name : String} {found : Json}
    (hget : (Json.obj entries).get? name = some found) (hfault : fault.wrong? = some found) :
    (⟨base.child name, fault⟩ : FieldError).Within base (.obj entries) := by
  refine within_field fun there hthere _ wrong hwrong => ?_
  rw [hget] at hthere
  rw [hfault] at hwrong
  exact (Option.some.inj hwrong).symm.trans (Option.some.inj hthere)

theorem AllWithin.append (hes : AllWithin base value es) (hfs : AllWithin base value fs) :
    AllWithin base value (es ++ fs) :=
  List.forall_mem_append.2 ⟨hes, hfs⟩

theorem allWithin_nil : AllWithin base value [] := fun _ h => absurd h (by simp)

/-- Errors that are there under a condition. -/
theorem allWithin_if {c : Prop} [Decidable c] (h : c → AllWithin base value es) :
    AllWithin base value (if c then es else []) := by
  split
  · exact h ‹_›
  · exact allWithin_nil

theorem AllWithin.child {name : String} (hget : value.get? name = some inner)
    (h : AllWithin (base.child name) inner es) : AllWithin base value es :=
  fun e he => (h e he).child hget

/-- A rule on the entries of a list, each with its own path. -/
theorem allWithin_entries {α : Type} {c : Codec α} {rule : FieldPath → α → List FieldError}
    (h : ∀ base a, AllWithin base (c.write a) (rule base a)) (as : List α) :
    AllWithin base (c.list.write as) ((base.entries as).flatMap fun (path, a) => rule path a) := by
  intro e he
  obtain ⟨x, hx, he⟩ := List.mem_flatMap.1 he
  obtain ⟨⟨a, i⟩, hmem, rfl⟩ := List.mem_map.1 hx
  have hget : (as.map c.write)[i]? = some (c.write a) := by
    rw [List.getElem?_map, List.mem_zipIdx_iff_getElem?.1 hmem, Option.map_some]
  exact (h (base.index i) a e he).step (s := .index i) hget

/-- What is within an entry of a list is within the list. -/
theorem Within.occurrence {α : Type} {c : Codec α} {as : List α} {o : Occurrence α}
    {e : FieldError} (ho : o ∈ occurrences as)
    (h : e.Within (base.index o.index) (c.write o.entry)) : e.Within base (c.list.write as) := by
  have hget : (as.map c.write)[o.index]? = some (c.write o.entry) := by
    rw [List.getElem?_map, getElem?_of_mem_occurrences ho, Option.map_some]
  exact h.step (s := .index o.index) hget

end

end FieldError

end GatewayAdmission
