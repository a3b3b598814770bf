import GatewayAdmission.Field.Path
import GatewayAdmission.Proofs.Json.Restore
import Mathlib.Data.List.Nodup

/-!
# Entries that are ignored

`Codec.Gains c place key j j'` says that `j'` is `j` with one more entry: somewhere in what the
codec `c` reads as a record there is an object that now has an entry under `key`, which is no name
of that record. The places are those of the codec itself, through lists, values that may be missing
and the fields of records, however a record is written.

**The reader does not see such an entry** (`Codec.Gains.read_eq`). A record looks at the entries of
its own names only (`Fields.readEntries?_congr`), and at the items of an array by their numbers
(`Fields.readItems?_set`). So what is read of a value does not change if what is read at one place
does not.
-/

namespace GatewayAdmission

open Document (Room)

/-! ## Fields by name -/

/-- The single fields of a record, those of records inside it included. -/
def Fields.toList {σ : Type} : Fields σ → List (Σ α, Field α)
  | nil => []
  | cons f rest => ⟨_, f⟩ :: rest.toList
  | inline inner rest => inner.toList ++ rest.toList
  | iso fields _ _ => fields.toList

namespace Field

variable {α : Type} {f : Field α} {room : Room} {name : String}
  {before after : List (String × Document)}

/-- An entry of another name is not looked at. -/
theorem read?_insert (h : f.name ≠ name) (d : Document) :
    f.read? room (before ++ (name, d) :: after) = f.read? room (before ++ after) := by
  have hfilter : (before ++ (name, d) :: after).filter (·.1 == f.name)
      = (before ++ after).filter (·.1 == f.name) := by
    simp [Ne.symm h]
  rw [read?, hfilter, read?]

/-- Two values that are read alike can stand for each other. -/
theorem read?_set {d d' : Document}
    (h : f.name = name → f.codec.read room d' = f.codec.read room d) :
    f.read? room (before ++ (name, d') :: after) = f.read? room (before ++ (name, d) :: after) := by
  by_cases hname : f.name = name
  · simp only [read?, List.filter_append, List.filter_cons, hname, beq_self_eq_true, if_true,
      List.mapM_append, List.mapM_cons, h hname]
  · rw [read?_insert hname, read?_insert hname]

end Field

namespace Fields

variable {σ : Type}

theorem names_eq_map (fs : Fields σ) : fs.names = fs.toList.map (·.2.name) := by
  induction fs with
  | nil => rfl
  | cons f rest ih => rw [names, ih, toList, List.map_cons]
  | inline inner rest ih1 ih2 => rw [names, ih1, ih2, toList, List.map_append]
  | iso fields into out ih => exact ih

/-- A record is read alike from entries of which each field is. -/
theorem readEntries?_congr {fs : Fields σ} {room : Room}
    {entries entries' : List (String × Document)}
    (h : ∀ f ∈ fs.toList, f.2.read? room entries' = f.2.read? room entries) :
    fs.readEntries? room entries' = fs.readEntries? room entries := by
  induction fs with
  | nil => rfl
  | cons f rest ih =>
    obtain ⟨hf, hrest⟩ := List.forall_mem_cons.1 h
    rw [readEntries?, readEntries?, hf, ih hrest]
  | inline inner rest ih1 ih2 =>
    obtain ⟨hinner, hrest⟩ := List.forall_mem_append.1 h
    rw [readEntries?, readEntries?, ih1 hinner, ih2 hrest]
  | iso fields into out ih => rw [readEntries?, readEntries?, ih h]

theorem repeats_congr {fs : Fields σ} {entries entries' : List (String × Document)}
    (h : ∀ name ∈ fs.names, (entries'.filter (·.1 == name)).length
      = (entries.filter (·.1 == name)).length) : fs.repeats entries' = fs.repeats entries := by
  rw [Bool.eq_iff_iff, repeats, repeats, List.any_eq_true, List.any_eq_true]
  exact exists_congr fun name => and_congr_right fun hname => by rw [h name hname]

end Fields

/-! ## Fields by number -/

namespace Fields

variable {σ : Type}

/-- As many items as there are fields are all taken, and what follows them is left. -/
theorem exists_readItems?_append (fs : Fields σ) (room : Room) (items : List Document)
    (h : items.length = fs.toList.length) :
    ∃ a : Option σ, ∀ rest, fs.readItems? room (items ++ rest) = a.map (·, rest) := by
  induction fs generalizing items with
  | nil =>
    obtain rfl := List.length_eq_zero_iff.1 h
    exact ⟨some (), fun _ => rfl⟩
  | cons f rest ih =>
    obtain ⟨d, items, rfl⟩ := List.exists_cons_of_length_eq_add_one h
    obtain ⟨b, hb⟩ := ih items (Nat.succ.inj h)
    refine ⟨(f.codec.read room d).bind fun a => b.map (a, ·), fun left => ?_⟩
    rw [List.cons_append, readItems?, hb left]
    cases f.codec.read room d <;> cases b <;> rfl
  | inline inner rest ih1 ih2 =>
    rw [toList, List.length_append] at h
    obtain ⟨a, ha⟩ := ih1 (items.take inner.toList.length) (by simp; omega)
    obtain ⟨b, hb⟩ := ih2 (items.drop inner.toList.length) (by simp; omega)
    refine ⟨a.bind fun a => b.map (a, ·), fun left => ?_⟩
    rw [← List.take_append_drop inner.toList.length items, List.append_assoc, readItems?, ha]
    cases a with
    | none => rfl
    | some a =>
      refine (congrArg (Option.map _) (hb left)).trans ?_
      cases b <;> rfl
  | iso fields into out ih =>
    obtain ⟨a, ha⟩ := ih items h
    refine ⟨a.map into, fun left => ?_⟩
    rw [readItems?, ha left]
    cases a <;> rfl

/-- Two items that are read alike can stand for each other. -/
theorem readItems?_set {fs : Fields σ} {room : Room} {before after : List Document}
    {d d' : Document} {f : Σ α, Field α} (hf : fs.toList[before.length]? = some f)
    (h : f.2.codec.read room d' = f.2.codec.read room d) :
    fs.readItems? room (before ++ d' :: after) = fs.readItems? room (before ++ d :: after) := by
  induction fs generalizing before with
  | nil => exact absurd hf (by simp [toList])
  | cons g rest ih =>
    cases before with
    | nil =>
      obtain rfl : ⟨_, g⟩ = f := Option.some.inj hf
      rw [List.nil_append, List.nil_append, readItems?, readItems?, h]
    | cons x before =>
      rw [List.cons_append, List.cons_append, readItems?, readItems?, ih hf]
  | inline inner rest ih1 ih2 =>
    rw [readItems?, readItems?]
    by_cases hlt : before.length < inner.toList.length
    · rw [ih1 (by rwa [toList, List.getElem?_append_left hlt] at hf)]
    · -- The inner record takes the first of the items that stand in front.
      obtain ⟨a, ha⟩ := inner.exists_readItems?_append room
        (before.take inner.toList.length) (by simp; omega)
      have hrest : rest.readItems? room (before.drop inner.toList.length ++ d' :: after)
          = rest.readItems? room (before.drop inner.toList.length ++ d :: after) := by
        refine ih2 ?_
        rw [toList, List.getElem?_append_right (Nat.le_of_not_lt hlt)] at hf
        rwa [List.length_drop]
      rw [← List.take_append_drop inner.toList.length before, List.append_assoc,
        List.append_assoc, ha, ha]
      cases a with
      | none => rfl
      | some a => exact congrArg (Option.map _) hrest
  | iso fields into out ih => rw [readItems?, readItems?, ih hf]

end Fields

/-! ## Entries of other names -/

namespace Codec

/-- Whether a value has one more entry than another, at a place where the codec reads a record and
under a key that is no name of the record. -/
inductive Gains : {α : Type} → Codec α → List PathStep → String → Json → Json → Prop
  /-- The record itself has the entry. -/
  | entry {σ : Type} {form : RecordForm} {fs : Fields σ} {key : String} (unknown : key ∉ fs.names)
    {before after : List (String × Json)} {value : Json} :
    Gains (record form fs) [] key (.obj (before ++ after)) (.obj (before ++ (key, value) :: after))
  /-- The value of a field has it. The names of a lawful record are distinct
  (`Fields.Lawful.nodup`), so the field of the name is the one that reads the value. -/
  | field {σ : Type} {form : RecordForm} {fs : Fields σ} (distinct : fs.names.Nodup)
    {f : Σ α, Field α} (known : f ∈ fs.toList) {before after : List (String × Json)}
    {place : List PathStep} {key : String} {j j' : Json} (inside : Gains f.2.codec place key j j') :
    Gains (record form fs) (.child f.2.name :: place) key
      (.obj (before ++ (f.2.name, j) :: after)) (.obj (before ++ (f.2.name, j') :: after))
  /-- The value of a field has it, in a record that is written as the array of its fields. -/
  | item {σ : Type} {form : RecordForm} {fs : Fields σ} {f : Σ α, Field α}
    {before after : List Json} (known : fs.toList[before.length]? = some f)
    {place : List PathStep} {key : String} {j j' : Json} (inside : Gains f.2.codec place key j j') :
    Gains (record form fs) (.index before.length :: place) key
      (.arr (before ++ j :: after)) (.arr (before ++ j' :: after))
  /-- A value that may be missing is there, and has it. -/
  | optional {α : Type} {c : Codec α} {place : List PathStep} {key : String} {j j' : Json}
    (inside : Gains c place key j j') : Gains c.optional place key j j'
  /-- An entry of a list has it. -/
  | list {α : Type} {c : Codec α} {before after : List Json} {place : List PathStep} {key : String}
    {j j' : Json} (inside : Gains c place key j j') :
    Gains c.list (.index before.length :: place) key
      (.arr (before ++ j :: after)) (.arr (before ++ j' :: after))

theorem read_record_congr {σ : Type} {form : RecordForm} {fs : Fields σ}
    {es es' : List (String × Json)}
    (hrepeats : fs.repeats (Field.trees es') = fs.repeats (Field.trees es))
    (hread : ∀ room, fs.readEntries? room (Field.trees es')
      = fs.readEntries? room (Field.trees es)) (room : Room) :
    (record form fs).read room (.ofJson (.obj es'))
      = (record form fs).read room (.ofJson (.obj es)) := by
  simp only [record, Document.ofJson, Fields.keyed?_ofEntries, Option.bind_some, hrepeats, hread]

namespace Gains

variable {α : Type} {c : Codec α} {place : List PathStep} {key : String} {j j' : Json}

theorem ne_null (h : c.Gains place key j j') : j ≠ .null ∧ j' ≠ .null := by
  induction h with
  | entry => exact ⟨Json.noConfusion, Json.noConfusion⟩
  | field => exact ⟨Json.noConfusion, Json.noConfusion⟩
  | item => exact ⟨Json.noConfusion, Json.noConfusion⟩
  | optional _ ih => exact ih
  | list => exact ⟨Json.noConfusion, Json.noConfusion⟩

theorem str?_eq_none (h : c.Gains place key j j') : j.str? = none ∧ j'.str? = none := by
  induction h with
  | entry => exact ⟨rfl, rfl⟩
  | field => exact ⟨rfl, rfl⟩
  | item => exact ⟨rfl, rfl⟩
  | optional _ ih => exact ih
  | list => exact ⟨rfl, rfl⟩

/-- Under another key than that of the entry stands the same text, if any. -/
theorem str?_get?_eq (h : c.Gains place key j j') {name : String} (hne : place = [] → key ≠ name) :
    (j'.get? name).bind Json.str? = (j.get? name).bind Json.str? := by
  induction h with
  | entry => simp [Json.get?, hne rfl]
  | @field σ form fs distinct f known before after place key j j' inside =>
    obtain ⟨hj, hj'⟩ := inside.str?_eq_none
    by_cases heq : f.2.name = name
    · cases hbefore : before.find? (·.1 == name) <;> simp [Json.get?, heq, hbefore, hj, hj']
    · simp [Json.get?, heq]
  | item => rfl
  | optional _ ih => exact ih hne
  | list => rfl

/-- **The reader does not see the entry.** -/
theorem read_eq (h : c.Gains place key j j') (room : Room) :
    c.read room (.ofJson j') = c.read room (.ofJson j) := by
  induction h generalizing room with
  | @entry σ form fs key unknown before after value =>
    refine read_record_congr (Fields.repeats_congr fun name hname => ?_)
      (fun room => Fields.readEntries?_congr fun f hf => ?_) room
    · have hne : key ≠ name := fun heq => unknown (heq ▸ hname)
      simp [Field.trees, hne]
    · have hne : f.2.name ≠ key := by
        rintro rfl
        exact unknown (fs.names_eq_map ▸ List.mem_map_of_mem hf)
      simp only [Field.trees, List.map_append, List.map_cons]
      exact Field.read?_insert hne _
  | @field σ form fs distinct f known before after place key j j' inside ih =>
    refine read_record_congr (Fields.repeats_congr fun name _ => ?_)
      (fun room => Fields.readEntries?_congr fun g hg => ?_) room
    · by_cases heq : f.2.name = name <;> simp [Field.trees, heq]
    · simp only [Field.trees, List.map_append, List.map_cons]
      refine Field.read?_set fun hname => ?_
      -- Names are distinct, so the field that reads the entry is the one that is meant.
      rw [Fields.names_eq_map] at distinct
      obtain rfl := List.inj_on_of_nodup_map distinct hg known hname
      exact ih room
  | @item σ form fs f before after known place key j j' inside ih =>
    have hitems : ∀ inner,
        fs.readItems? inner (before.map Document.ofJson ++ .ofJson j' :: after.map Document.ofJson)
          = fs.readItems? inner
            (before.map Document.ofJson ++ .ofJson j :: after.map Document.ofJson) :=
      fun inner => Fields.readItems?_set (by simpa using known) (ih inner)
    simp only [record, Document.ofJson, Document.ofItems_eq_map, List.map_append, List.map_cons,
      hitems]
  | optional inside ih =>
    rw [read_optional _ (ofJson_ne_null inside.ne_null.1),
      read_optional _ (ofJson_ne_null inside.ne_null.2), ih]
  | @list α c before after place key j j' inside ih =>
    simp only [Codec.list, Document.ofJson, Document.ofItems_eq_map, List.map_append,
      List.map_cons, List.mapM_append, List.mapM_cons, ih]

end Gains

end Codec

end GatewayAdmission
