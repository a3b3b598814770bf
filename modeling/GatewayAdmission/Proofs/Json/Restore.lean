import GatewayAdmission.Json.Record
import GatewayAdmission.Proofs.Json.Kept
import Mathlib.Data.List.Nodup

/-!
# Reading back what was written

`Codec.Restores c a` says that `a` is read back from the tree of what it is written as, wherever
there is room for it. Each form of codec has one lemma here, and **a record restores if each of
its fields does** (`Codec.restores_record`), in all three forms. What a record needs by itself is
`Fields.Lawful`: its names differ, and the type of its fields is the record again.

A field is read from the entries of its name only. So what is proved of records first is about any
entries that agree with the written ones name by name (`Fields.readEntries?_of_agree`); a reader
of some of the fields of a record sees the same entries as the reader of all.
-/

namespace GatewayAdmission

open Document (Room)

/-! ## Single values -/

namespace Codec

/-- Whether a value is read back from what it is written as. -/
def Restores {α : Type} (c : Codec α) (a : α) : Prop :=
  ∀ room : Room, room.Holds (c.write a).depth → c.read room (.ofJson (c.write a)) = some a

theorem restores_text (s : String) : text.Restores s := fun _ _ => rfl

theorem restores_flag (b : Bool) : flag.Restores b := fun _ _ => rfl

theorem restores_integer {α : Type} {ofInt? : Int → Option α} {toWhole : α → WholeNumber} {a : α}
    (h : ofInt? (toWhole a).val = some a) : (integer ofInt? toWhole).Restores a :=
  fun _ _ => h

theorem restores_uint16 (n : UInt16) : uint16.Restores n := by
  have hval : 0 ≤ (n.toNat : Int) ∧ (n.toNat : Int) < UInt16.size :=
    ⟨Int.natCast_nonneg _, Int.ofNat_lt.2 n.toNat_lt_size⟩
  refine restores_integer ((if_pos hval).trans ?_)
  show some (UInt16.ofNat (n.toNat : Int).toNat) = some n
  rw [Int.toNat_natCast, UInt16.ofNat_toNat]

theorem restores_int32 (n : Int32) : int32.Restores n := by
  have hval : Int32.minValue.toInt ≤ n.toInt ∧ n.toInt ≤ Int32.maxValue.toInt :=
    ⟨n.minValue_le_toInt, n.toInt_le⟩
  refine restores_integer ((if_pos hval).trans ?_)
  exact congrArg some (Int32.ofInt_toInt n)

theorem restores_int64 (n : Int64) : int64.Restores n := by
  have hval : Int64.minValue.toInt ≤ n.toInt ∧ n.toInt ≤ Int64.maxValue.toInt :=
    ⟨n.minValue_le_toInt, n.toInt_le⟩
  refine restores_integer ((if_pos hval).trans ?_)
  exact congrArg some (Int64.ofInt_toInt n)

theorem restores_raw (r : Raw) : raw.Restores r := by
  intro room hroom
  show ((Document.ofJson r.json).toJson? room).map Raw.ofJson = some r
  rw [Document.toJson?_ofJson r.json hroom, Option.map_some, Raw.ofJson_json]

theorem restores_choice {α : Type} {names : List (String × α)} {name : α → String} {a : α}
    (h : names.lookup (name a) = some a) : (choice names name).Restores a :=
  fun _ _ => h

/-! ## Values with parts -/

theorem read_optional {α : Type} (c : Codec α) {d : Document} (h : d ≠ .null) (room : Room) :
    c.optional.read room d = (c.read room d).map some := by
  cases d <;> first | exact absurd rfl h | rfl

theorem read_orDefault {α : Type} (c : Codec α) (default : α) {d : Document} (h : d ≠ .null)
    (room : Room) : (c.orDefault default).read room d = c.read room d := by
  cases d <;> first | exact absurd rfl h | rfl

theorem ofJson_ne_null {j : Json} (h : j ≠ .null) : Document.ofJson j ≠ .null := by
  cases j <;> first | exact absurd rfl h | exact Document.noConfusion

theorem restores_optional {α : Type} {c : Codec α} {a : Option α}
    (h : ∀ b ∈ a, c.Restores b ∧ c.write b ≠ .null) : c.optional.Restores a := by
  intro room hroom
  cases a with
  | none => rfl
  | some b =>
    obtain ⟨hb, hne⟩ := h b rfl
    show c.optional.read room (.ofJson (c.write b)) = _
    rw [read_optional c (ofJson_ne_null hne), hb room hroom, Option.map_some]

theorem mapM_map {α β : Type} {f : β → Option α} {g : α → β} {as : List α}
    (h : ∀ a ∈ as, f (g a) = some a) : (as.map g).mapM f = some as := by
  induction as with
  | nil => rfl
  | cons a as ih =>
    rw [List.map_cons, List.mapM_cons, h a (by simp), ih fun b hb => h b (by simp [hb])]
    rfl

theorem restores_orDefault {α : Type} {c : Codec α} {default a : α} (h : c.Restores a)
    (hne : c.write a ≠ .null) : (c.orDefault default).Restores a := by
  intro room hroom
  refine Eq.trans ?_ (h room hroom)
  show (c.orDefault default).read room (.ofJson (c.write a)) = _
  rw [read_orDefault c default (ofJson_ne_null hne)]

theorem restores_list {α : Type} {c : Codec α} {as : List α} (h : ∀ a ∈ as, c.Restores a) :
    c.list.Restores as := by
  intro room hroom
  obtain ⟨inner, henter, hinner⟩ := hroom.enter?
  show (room.enter?.bind fun inner => (Document.ofItems (as.map c.write)).mapM (c.read inner)) = _
  rw [henter, Option.bind_some, Document.ofItems_eq_map]
  rw [List.map_map]
  exact mapM_map fun a ha =>
    h a ha inner (hinner.mono (Json.depth_le_depthItems (List.mem_map_of_mem ha)))

theorem restores_map {α : Type} {c : Codec α} {m : KeyedMap α}
    (h : ∀ e ∈ m.entries, c.Restores e.2) : c.map.Restores m := by
  intro room hroom
  obtain ⟨inner, henter, hinner⟩ := hroom.enter?
  have hread : ∀ e ∈ m.entries, (c.read inner (Document.ofJson (c.write e.2))).map (e.1, ·)
      = some e := by
    intro e he
    have hmem : (e.1, c.write e.2) ∈ m.entries.map fun e => (e.1, c.write e.2) :=
      List.mem_map_of_mem he
    rw [h e he inner (hinner.mono (Json.depth_le_depthEntries hmem))]
    rfl
  rw [map, Document.ofJson, Document.ofEntries_eq_map, List.map_map]
  simp only [henter, Option.bind_some]
  rw [mapM_map hread, Option.map_some, KeyedMap.ofEntries_entries]

end Codec

/-! ## Fields -/

namespace Field

/-- Whether the value of a field is read back: from its entry, or from there being none. -/
def Restores {α : Type} (f : Field α) (a : α) : Prop :=
  if f.omits a then f.missing.inObject? = some a else f.codec.Restores a

theorem restores_optional {α : Type} (name : String) {c : Codec α} {a : Option α}
    (h : ∀ b ∈ a, c.Restores b ∧ c.write b ≠ .null) : (optional name c).Restores a := by
  cases a with
  | none => exact rfl
  | some b => exact Codec.restores_optional h

theorem restores_optionalNamed {α : Type} (name : String) {c : Codec α} {a : Option α}
    (h : ∀ b ∈ a, c.Restores b ∧ c.write b ≠ .null) : (optionalNamed name c).Restores a := by
  cases a with
  | none => exact rfl
  | some b => exact Codec.restores_optional h

theorem restores_someText (name : String) (s : String) : (someText name).Restores s := by
  unfold Restores
  split
  · rename_i h
    exact congrArg some (String.isEmpty_iff.1 h).symm
  · exact Codec.restores_text s

/-- The entries of a tree, the keys being there. -/
def trees (entries : List (String × Json)) : List (String × Document) :=
  entries.map fun e => (e.1, .ofJson e.2)

section

variable {α : Type} {f : Field α} {entries : List (String × Document)}

theorem read?_of_filter_nil (h : entries.filter (·.1 == f.name) = []) (room : Room) :
    f.read? room entries = f.missing.inObject? := by
  rw [read?, h]
  rfl

theorem read?_of_filter_singleton {e : String × Document}
    (h : entries.filter (·.1 == f.name) = [e]) (room : Room) :
    f.read? room entries = f.codec.read room e.2 := by
  rw [read?, h]
  cases hread : f.codec.read room e.2 <;> simp [hread]

/-- A field is read back from any entries that have the written one under its name. -/
theorem read?_of_agree {a : α} (h : f.Restores a) {room : Room}
    (hroom : ∀ e ∈ f.write a, room.Holds e.2.depth)
    (hentries : entries.filter (·.1 == f.name) = trees (f.write a)) :
    f.read? room entries = some a := by
  unfold Restores at h
  unfold write at hroom hentries
  split at h
  · rename_i homits
    rw [if_pos homits] at hentries
    rw [read?_of_filter_nil hentries, h]
  · rename_i homits
    rw [if_neg homits] at hroom hentries
    rw [read?_of_filter_singleton hentries, h room (hroom _ (List.mem_singleton_self _))]

end

end Field

/-! ## Records -/

namespace Fields

open GatewayAdmission.Field (trees)

/-- Whether every field of a record and the value of the field satisfy something. -/
def Each (P : (α : Type) → Field α → α → Prop) : {σ : Type} → Fields σ → σ → Prop
  | _, nil, _ => True
  | _, cons f rest, (a, b) => P _ f a ∧ rest.Each P b
  | _, inline inner rest, (a, b) => inner.Each P a ∧ rest.Each P b
  | _, iso fields _ out, b => fields.Each P (out b)

/-- Whether the types that have the same content can be exchanged. -/
def Inverse : {σ : Type} → Fields σ → Prop
  | _, nil => True
  | _, cons _ rest => rest.Inverse
  | _, inline inner rest => inner.Inverse ∧ rest.Inverse
  | _, iso fields into out => (∀ b, into (out b) = b) ∧ (∀ a, out (into a) = a) ∧ fields.Inverse

/-- What a record needs to be read back. -/
structure Lawful {σ : Type} (fs : Fields σ) : Prop where
  inverse : fs.Inverse
  nodup : fs.names.Nodup

abbrev Restores {σ : Type} (fs : Fields σ) (a : σ) : Prop := fs.Each (fun _ f a => f.Restores a) a

theorem keys_write {α : Type} (f : Field α) (a : α) :
    ((f.write a).map (·.1)).Sublist [f.name] := by
  unfold Field.write
  split <;> simp

/-- Written are some of the names, in their order. -/
theorem keys_writeEntries {σ : Type} (fs : Fields σ) (a : σ) :
    ((fs.writeEntries a).map (·.1)).Sublist fs.names := by
  induction fs with
  | nil => exact List.Sublist.refl _
  | cons f rest ih =>
    rw [writeEntries, List.map_append]
    exact (keys_write f a.1).append (ih a.2)
  | inline inner rest ih1 ih2 =>
    rw [writeEntries, List.map_append]
    exact (ih1 a.1).append (ih2 a.2)
  | iso fields into out ih => exact ih (out a)

theorem trees_append (es fs : List (String × Json)) : trees (es ++ fs) = trees es ++ trees fs :=
  List.map_append

theorem filter_trees_of_not_mem {name : String} {es : List (String × Json)}
    (h : name ∉ es.map (·.1)) : (trees es).filter (·.1 == name) = [] := by
  rw [List.filter_eq_nil_iff]
  intro e he hname
  obtain ⟨f, hf, rfl⟩ := List.mem_map.1 he
  exact h (List.mem_map.2 ⟨f, hf, beq_iff_eq.1 hname⟩)

/-- A name that does not occur in the second part is looked for in the first. -/
theorem filter_trees_append_left {es es' : List (String × Json)} {name : String}
    (h : name ∉ es'.map (·.1)) :
    (trees (es ++ es')).filter (·.1 == name) = (trees es).filter (·.1 == name) := by
  rw [trees_append, List.filter_append, filter_trees_of_not_mem h, List.append_nil]

/-- A name that does not occur in the first part is looked for in the second. -/
theorem filter_trees_append_right {es es' : List (String × Json)} {name : String}
    (h : name ∉ es.map (·.1)) :
    (trees (es ++ es')).filter (·.1 == name) = (trees es').filter (·.1 == name) := by
  rw [trees_append, List.filter_append, filter_trees_of_not_mem h, List.nil_append]

theorem filter_trees_write {α : Type} (f : Field α) (a : α) :
    (trees (f.write a)).filter (·.1 == f.name) = trees (f.write a) := by
  unfold Field.write
  split <;> simp [trees]

/-- The entries under the first name are those of the first field. -/
theorem filter_trees_cons {α β : Type} {f : Field α} {rest : Fields β}
    (hfresh : f.name ∉ rest.names) (a : α) (b : β) :
    (trees (f.write a ++ rest.writeEntries b)).filter (·.1 == f.name) = trees (f.write a) := by
  have hskip : f.name ∉ (rest.writeEntries b).map (·.1) := fun hmem =>
    hfresh ((rest.keys_writeEntries b).subset hmem)
  rw [filter_trees_append_left hskip, filter_trees_write]

/-- A record is read back from any entries that agree with the written ones name by name. -/
theorem readEntries?_of_agree {σ : Type} {fs : Fields σ} {a : σ} (hinv : fs.Inverse)
    (hnodup : fs.names.Nodup) (h : fs.Restores a) {room : Room}
    (hroom : ∀ e ∈ fs.writeEntries a, room.Holds e.2.depth) {entries : List (String × Document)}
    (hentries : ∀ name ∈ fs.names,
      entries.filter (·.1 == name) = (trees (fs.writeEntries a)).filter (·.1 == name)) :
    fs.readEntries? room entries = some a := by
  induction fs with
  | nil => rfl
  | cons f rest ih =>
    obtain ⟨a, b⟩ := a
    obtain ⟨hfresh, hnodup⟩ := List.nodup_cons.1 hnodup
    have hhead : f.read? room entries = some a := by
      refine Field.read?_of_agree h.1 (fun e he => hroom e (List.mem_append_left _ he)) ?_
      rw [hentries f.name (by simp [names]), writeEntries, filter_trees_cons hfresh]
    have hrest : rest.readEntries? room entries = some b := by
      refine ih hinv hnodup h.2 (fun e he => hroom e (List.mem_append_right _ he)) ?_
      intro name hname
      have hother : name ∉ (f.write a).map (·.1) := fun hmem =>
        hfresh (List.mem_singleton.1 ((keys_write f a).subset hmem) ▸ hname)
      rw [hentries name (by simp [names, hname]), writeEntries, filter_trees_append_right hother]
    rw [readEntries?, hhead, Option.bind_some, hrest]
    rfl
  | inline inner rest ih1 ih2 =>
    obtain ⟨a, b⟩ := a
    obtain ⟨hnodup1, hnodup2, hdisj⟩ := List.nodup_append.1 hnodup
    have hinner : inner.readEntries? room entries = some a := by
      refine ih1 hinv.1 hnodup1 h.1 (fun e he => hroom e (List.mem_append_left _ he)) ?_
      intro name hname
      have hother : name ∉ (rest.writeEntries b).map (·.1) := fun hmem =>
        hdisj name hname name ((rest.keys_writeEntries b).subset hmem) rfl
      rw [hentries name (by simp [names, hname]), writeEntries, filter_trees_append_left hother]
    have hrest : rest.readEntries? room entries = some b := by
      refine ih2 hinv.2 hnodup2 h.2 (fun e he => hroom e (List.mem_append_right _ he)) ?_
      intro name hname
      have hother : name ∉ (inner.writeEntries a).map (·.1) := fun hmem =>
        hdisj name ((inner.keys_writeEntries a).subset hmem) name hname rfl
      rw [hentries name (by simp [names, hname]), writeEntries, filter_trees_append_right hother]
    rw [readEntries?, hinner, Option.bind_some, hrest]
    rfl
  | iso fields into out ih =>
    rw [readEntries?, ih hinv.2.2 hnodup h hroom hentries, Option.map_some, hinv.1]

theorem keyed?_ofEntries (es : List (String × Json)) :
    keyed? (Document.ofEntries es) = some (trees es) := by
  rw [Document.ofEntries_eq_map]
  induction es with
  | nil => rfl
  | cons e es ih =>
    rw [keyed?] at ih ⊢
    rw [List.map_cons, List.mapM_cons, ih]
    rfl

/-- Where no key occurs twice, no name of a record does. -/
theorem repeats_trees {σ : Type} (fs : Fields σ) {es : List (String × Json)}
    (hkeys : (es.map (·.1)).Nodup) : fs.repeats (trees es) = false := by
  rw [repeats, List.any_eq_false]
  intro name _
  have hcount : ((trees es).filter (·.1 == name)).length ≤ 1 := by
    have h : ((trees es).map (·.1)).count name ≤ 1 := by
      rw [trees, List.map_map]
      exact List.nodup_iff_count_le_one.1 hkeys name
    rwa [List.count, List.countP_map, List.countP_eq_length_filter] at h
  simpa using hcount

theorem Lawful.nodup_keys {σ : Type} {fs : Fields σ} (h : fs.Lawful) (a : σ) :
    ((fs.writeEntries a).map (·.1)).Nodup :=
  h.nodup.sublist (fs.keys_writeEntries a)

end Fields

namespace Codec

/-- Reading a record from an object in which no name of the record is repeated. -/
theorem read_record_obj {σ : Type} {form : RecordForm} {fs : Fields σ} {room inner : Room}
    {entries : List (Option String × Document)} {keyed : List (String × Document)}
    (henter : room.enter? = some inner) (hkeyed : Fields.keyed? entries = some keyed)
    (hrepeats : fs.repeats keyed = false) :
    (record form fs).read room (.obj entries) = fs.readEntries? inner keyed := by
  show (room.enter?.bind fun inner => (Fields.keyed? entries).bind
    fun keyed => if form = .plain ∧ fs.repeats keyed then none else fs.readEntries? inner keyed) = _
  rw [henter, Option.bind_some, hkeyed, Option.bind_some, hrepeats, if_neg (by simp)]

/-- Reading a record from the tree of an object without repeated keys. -/
theorem read_record_trees {σ : Type} (form : RecordForm) (fs : Fields σ)
    {es : List (String × Json)} (hkeys : (es.map (·.1)).Nodup) {room inner : Room}
    (henter : room.enter? = some inner) :
    (record form fs).read room (.ofJson (.obj es)) = fs.readEntries? inner (Field.trees es) :=
  read_record_obj henter (Fields.keyed?_ofEntries es) (Fields.repeats_trees fs hkeys)

/-- **A record restores if each of its fields does.** -/
theorem restores_record {σ : Type} (form : RecordForm) {fs : Fields σ} (hlaw : fs.Lawful) {a : σ}
    (h : fs.Restores a) : (record form fs).Restores a := by
  intro room hroom
  obtain ⟨inner, henter, hinner⟩ := hroom.enter?
  show (record form fs).read room (.ofJson (.obj (fs.writeEntries a))) = some a
  rw [read_record_trees form fs (hlaw.nodup_keys a) henter]
  exact Fields.readEntries?_of_agree hlaw.inverse hlaw.nodup h
    (fun e he => hinner.mono (Json.depth_le_depthEntries he)) fun _ _ => rfl

theorem write_record_ne_null {σ : Type} (form : RecordForm) (fs : Fields σ) (a : σ) :
    (record form fs).write a ≠ .null := Json.noConfusion

end Codec

/-! ## Values without doubles -/

namespace Json

theorem isWholeItems_iff {items : List Json} :
    isWholeItems items = true ↔ ∀ j ∈ items, j.isWhole = true := by
  induction items with
  | nil => simp [isWholeItems]
  | cons j rest ih => simp [isWholeItems, ih]

theorem isWholeEntries_iff {entries : List (String × Json)} :
    isWholeEntries entries = true ↔ ∀ e ∈ entries, e.2.isWhole = true := by
  induction entries with
  | nil => simp [isWholeEntries]
  | cons e rest ih => obtain ⟨k, j⟩ := e; simp [isWholeEntries, ih]

end Json

namespace Codec

/-- Whether a value is written without doubles. -/
def Whole {α : Type} (c : Codec α) (a : α) : Prop := (c.write a).isWhole = true

theorem whole_optional {α : Type} {c : Codec α} {a : Option α} (h : ∀ b ∈ a, c.Whole b) :
    c.optional.Whole a := by
  cases a with
  | none => rfl
  | some b => exact h b rfl

theorem whole_list {α : Type} {c : Codec α} {as : List α} (h : ∀ a ∈ as, c.Whole a) :
    c.list.Whole as := by
  refine Json.isWholeItems_iff.2 fun j hj => ?_
  obtain ⟨a, ha, rfl⟩ := List.mem_map.1 hj
  exact h a ha

theorem whole_map {α : Type} {c : Codec α} {m : KeyedMap α} (h : ∀ e ∈ m.entries, c.Whole e.2) :
    c.map.Whole m := by
  refine Json.isWholeEntries_iff.2 fun f hf => ?_
  obtain ⟨e, he, rfl⟩ := List.mem_map.1 hf
  exact h e he

end Codec

namespace Fields

abbrev Whole {σ : Type} (fs : Fields σ) (a : σ) : Prop := fs.Each (fun _ f a => f.codec.Whole a) a

theorem isWhole_writeEntries {σ : Type} {fs : Fields σ} {a : σ} (h : fs.Whole a) :
    ∀ e ∈ fs.writeEntries a, e.2.isWhole = true := by
  induction fs with
  | nil => exact fun e he => absurd he (by simp [writeEntries])
  | cons f rest ih =>
    intro e he
    rcases List.mem_append.1 he with he | he
    · unfold Field.write at he
      split at he
      · exact absurd he (by simp)
      · obtain rfl := List.mem_singleton.1 he
        exact h.1
    · exact ih h.2 e he
  | inline inner rest ih1 ih2 =>
    intro e he
    rcases List.mem_append.1 he with he | he
    · exact ih1 h.1 e he
    · exact ih2 h.2 e he
  | iso fields into out ih => exact ih h

end Fields

/-- A record is written without doubles if each of its fields is. -/
theorem Codec.whole_record {σ : Type} (form : RecordForm) {fs : Fields σ} {a : σ}
    (h : fs.Whole a) : (record form fs).Whole a :=
  Json.isWholeEntries_iff.2 (Fields.isWhole_writeEntries h)

end GatewayAdmission
