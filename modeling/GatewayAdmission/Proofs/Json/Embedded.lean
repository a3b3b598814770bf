import GatewayAdmission.Proofs.Json.Restore

/-!
# Reading back embedded values

An object inside a request is held with sorted entries, so its reader meets the fields in another
order than they were written in. `Codec.Travels c a` says that `a` is read back all the same, and
that nothing of its tree is lost in a text. Each form of codec has one lemma here; **a record
travels if each of its fields does** (`Codec.travels_record`), in all three forms.

`Codec.sorting` is the codec that writes a value in its embedded form. Sorting commutes with every
form of codec but the record, so for those the laws of restoring say it all. A record is found in
any entries that agree with the written ones name by name, and sorting leaves the entries of a
name as they are (`Json.filter_sortEntries`).
-/

namespace GatewayAdmission

open Document (Room)

/-! ## Entries of a name -/

namespace Json

theorem sortedItems_eq_map (items : List Json) : sortedItems items = items.map sorted := by
  induction items with
  | nil => rfl
  | cons j rest ih => rw [sortedItems, ih, List.map_cons]

theorem sortedEntries_eq_map (entries : List (String × Json)) :
    sortedEntries entries = entries.map fun e => (e.1, e.2.sorted) := by
  induction entries with
  | nil => rfl
  | cons e rest ih => rw [sortedEntries, ih, List.map_cons]

theorem keys_sortedEntries (entries : List (String × Json)) :
    (sortedEntries entries).map (·.1) = entries.map (·.1) := by
  rw [sortedEntries_eq_map, List.map_map]
  rfl

theorem nodup_of_increasing {α : Type} {entries : List (String × α)} (h : Increasing entries) :
    (entries.map (·.1)).Nodup := by
  induction entries with
  | nil => exact List.nodup_nil
  | cons e rest ih =>
    refine List.nodup_cons.2 ⟨fun hmem => ?_, ih h.2⟩
    obtain ⟨f, hf, hkey⟩ := List.mem_map.1 hmem
    exact String.lt_irrefl _ (hkey ▸ h.1 f hf)

theorem increasing_map {α β : Type} (f : α → β) {entries : List (String × α)}
    (h : Increasing entries) : Increasing (entries.map fun e => (e.1, f e.2)) := by
  induction entries with
  | nil => trivial
  | cons e rest ih =>
    refine ⟨fun e' he' => ?_, ih h.2⟩
    obtain ⟨e₀, he₀, rfl⟩ := List.mem_map.1 he'
    exact h.1 e₀ he₀

/-- An entry with a new key is found wherever it is put. -/
theorem filter_insertEntry {α : Type} {key : String} {entries : List (String × α)}
    (h : key ∉ entries.map (·.1)) (value : α) (name : String) :
    (insertEntry key value entries).filter (·.1 == name)
      = ((key, value) :: entries).filter (·.1 == name) := by
  induction entries with
  | nil => rfl
  | cons e rest ih =>
    obtain ⟨k, v⟩ := e
    obtain ⟨hne, hrest⟩ : key ≠ k ∧ key ∉ rest.map (·.1) := by simpa using h
    rw [insertEntry, if_neg hne]
    split
    · rfl
    · rw [List.filter_cons, ih hrest]
      -- At most one of the two keys that change places is the name.
      by_cases hk : k = name
      · have hkey : key ≠ name := fun heq => hne (heq.trans hk.symm)
        simp [hk, hkey]
      · simp [List.filter_cons, hk]

/-- Where no key is repeated, sorting leaves the entries of a name as they are. -/
theorem filter_sortEntries {α : Type} {entries : List (String × α)}
    (h : (entries.map (·.1)).Nodup) (name : String) :
    (sortEntries entries).filter (·.1 == name) = entries.filter (·.1 == name) := by
  induction entries with
  | nil => rfl
  | cons e rest ih =>
    obtain ⟨k, v⟩ := e
    obtain ⟨hfresh, hrest⟩ := List.nodup_cons.1 h
    have hfresh' : k ∉ (sortEntries rest).map (·.1) := fun hmem => by
      obtain ⟨e, he, hkey⟩ := List.mem_map.1 hmem
      exact hfresh (List.mem_map.2 ⟨e, mem_sortEntries he, hkey⟩)
    rw [sortEntries, filter_insertEntry hfresh', List.filter_cons, ih hrest, List.filter_cons]

theorem mem_sortEntries_iff {α : Type} {entries : List (String × α)}
    (h : (entries.map (·.1)).Nodup) {e : String × α} : e ∈ sortEntries entries ↔ e ∈ entries := by
  have hname : ∀ es : List (String × α), e ∈ es.filter (·.1 == e.1) ↔ e ∈ es := by simp
  rw [← hname (sortEntries entries), filter_sortEntries h, hname]

theorem get?_obj_of_not_mem {key : String} {entries : List (String × Json)}
    (h : key ∉ entries.map (·.1)) : (obj entries).get? key = none := by
  have hnone : entries.find? (·.1 == key) = none := by
    rw [List.find?_eq_none]
    intro e he hkey
    exact h (List.mem_map.2 ⟨e, he, beq_iff_eq.1 hkey⟩)
  rw [get?, hnone, Option.map_none]

end Json

/-! ## Writing in the embedded form -/

namespace Codec

/-- The codec that writes with sorted entries. -/
def sorting {α : Type} (c : Codec α) : Codec α := ⟨c.read, fun a => (c.write a).sorted⟩

theorem sorting_raw : raw.sorting = raw := by
  rw [sorting, raw]
  congr 1
  funext r
  exact Json.sorted_of_sorted r.json r.sorted

theorem sorting_optional {α : Type} (c : Codec α) : c.optional.sorting = c.sorting.optional := by
  rw [sorting, optional]
  congr 1
  funext a
  cases a <;> rfl

theorem sorting_list {α : Type} (c : Codec α) : c.list.sorting = c.sorting.list := by
  rw [sorting, list]
  congr 1
  funext as
  show Json.arr (Json.sortedItems (as.map c.write)) = .arr (as.map c.sorting.write)
  rw [Json.sortedItems_eq_map, List.map_map]
  rfl

theorem sorting_map {α : Type} (c : Codec α) : c.map.sorting = c.sorting.map := by
  rw [sorting, map]
  congr 1
  funext m
  show Json.obj (Json.sortEntries (Json.sortedEntries (m.entries.map fun e => (e.1, c.write e.2))))
    = .obj (m.entries.map fun e => (e.1, c.sorting.write e.2))
  rw [Json.sortedEntries_eq_map, List.map_map]
  exact congrArg _ (Json.sortEntries_of_increasing (Json.increasing_map c.sorting.write
    m.increasing))

end Codec

namespace Field

/-- The field, written in the embedded form. -/
def sorting {α : Type} (f : Field α) : Field α := { f with codec := f.codec.sorting }

theorem write_sorting {α : Type} (f : Field α) (a : α) :
    f.sorting.write a = Json.sortedEntries (f.write a) := by
  show (if f.omits a then [] else _) = Json.sortedEntries (if f.omits a then [] else _)
  split <;> rfl

end Field

namespace Fields

open GatewayAdmission.Field (trees)

/-- The fields, each written in the embedded form. -/
def sorting {σ : Type} : Fields σ → Fields σ
  | nil => nil
  | cons f rest => cons f.sorting rest.sorting
  | inline inner rest => inline inner.sorting rest.sorting
  | iso fields into out => iso fields.sorting into out

theorem names_sorting {σ : Type} (fs : Fields σ) : fs.sorting.names = fs.names := by
  induction fs with
  | nil => rfl
  | cons f rest ih => exact congrArg (f.name :: ·) ih
  | inline inner rest ih1 ih2 => rw [sorting, names, ih1, ih2, names]
  | iso fields into out ih => exact ih

theorem readEntries?_sorting {σ : Type} (fs : Fields σ) (room : Room)
    (entries : List (String × Document)) :
    fs.sorting.readEntries? room entries = fs.readEntries? room entries := by
  induction fs with
  | nil => rfl
  | cons f rest ih =>
    rw [sorting, readEntries?, ih]
    rfl
  | inline inner rest ih1 ih2 => rw [sorting, readEntries?, ih1, ih2, readEntries?]
  | iso fields into out ih => rw [sorting, readEntries?, ih, readEntries?]

theorem writeEntries_sorting {σ : Type} (fs : Fields σ) (a : σ) :
    fs.sorting.writeEntries a = Json.sortedEntries (fs.writeEntries a) := by
  simp only [Json.sortedEntries_eq_map]
  induction fs with
  | nil => rfl
  | cons f rest ih =>
    rw [sorting, writeEntries, ih, Field.write_sorting, Json.sortedEntries_eq_map,
      ← List.map_append, writeEntries]
  | inline inner rest ih1 ih2 =>
    rw [sorting, writeEntries, ih1, ih2, ← List.map_append, writeEntries]
  | iso fields into out ih => exact ih (out a)

theorem inverse_sorting {σ : Type} {fs : Fields σ} (h : fs.Inverse) : fs.sorting.Inverse := by
  induction fs with
  | nil => trivial
  | cons f rest ih => exact ih h
  | inline inner rest ih1 ih2 => exact ⟨ih1 h.1, ih2 h.2⟩
  | iso fields into out ih => exact ⟨h.1, h.2.1, ih h.2.2⟩

theorem Lawful.sorting {σ : Type} {fs : Fields σ} (h : fs.Lawful) : fs.sorting.Lawful :=
  ⟨inverse_sorting h.inverse, names_sorting fs ▸ h.nodup⟩

/-- The entries of a name are the same before and after sorting. -/
theorem filter_trees_sortEntries {es : List (String × Json)} (h : (es.map (·.1)).Nodup)
    (name : String) :
    (trees (Json.sortEntries es)).filter (·.1 == name) = (trees es).filter (·.1 == name) := by
  have hcomm : ∀ es : List (String × Json),
      (trees es).filter (·.1 == name) = trees (es.filter (·.1 == name)) := fun es => List.filter_map
  rw [hcomm, hcomm, Json.filter_sortEntries h]

end Fields

/-! ## Values that travel -/

/-- Whether a value is read back after it was embedded, and holds nothing that a text would change:
no double, and no `null` in its place. -/
structure Codec.Travels {α : Type} (c : Codec α) (a : α) : Prop where
  restores : c.sorting.Restores a
  whole : c.Whole a
  present : c.write a ≠ .null

/-- Whether the value of a field is read back after the object was embedded. -/
structure Field.Travels {α : Type} (f : Field α) (a : α) : Prop where
  restores : f.sorting.Restores a
  whole : f.codec.Whole a

abbrev Fields.Travels {σ : Type} (fs : Fields σ) (a : σ) : Prop :=
  fs.Each (fun _ f a => f.Travels a) a

namespace Codec

theorem travels_text (s : String) : text.Travels s := ⟨restores_text s, rfl, Json.noConfusion⟩

theorem travels_flag (b : Bool) : flag.Travels b := ⟨restores_flag b, rfl, Json.noConfusion⟩

theorem travels_int32 (n : Int32) : int32.Travels n := ⟨restores_int32 n, rfl, Json.noConfusion⟩

theorem travels_int64 (n : Int64) : int64.Travels n := ⟨restores_int64 n, rfl, Json.noConfusion⟩

theorem travels_choice {α : Type} {names : List (String × α)} {name : α → String} {a : α}
    (h : names.lookup (name a) = some a) : (choice names name).Travels a :=
  ⟨restores_choice h, rfl, Json.noConfusion⟩

theorem travels_raw {r : Raw} (hnull : r.json ≠ .null) (hwhole : r.json.isWhole = true) :
    raw.Travels r :=
  ⟨sorting_raw.symm ▸ restores_raw r, hwhole, hnull⟩

theorem travels_orDefault {α : Type} {c : Codec α} {default a : α} (h : c.Travels a) :
    (c.orDefault default).Travels a :=
  ⟨restores_orDefault (c := c.sorting) h.restores (Json.sorted_ne_null h.present), h.whole,
    h.present⟩

theorem travels_list {α : Type} {c : Codec α} {as : List α} (h : ∀ a ∈ as, c.Travels a) :
    c.list.Travels as where
  restores := sorting_list c ▸ restores_list fun a ha => (h a ha).restores
  whole := whole_list fun a ha => (h a ha).whole
  present := Json.noConfusion

theorem travels_map {α : Type} {c : Codec α} {m : KeyedMap α}
    (h : ∀ e ∈ m.entries, c.Travels e.2) : c.map.Travels m where
  restores := sorting_map c ▸ restores_map fun e he => (h e he).restores
  whole := whole_map fun e he => (h e he).whole
  present := Json.noConfusion

end Codec

namespace Field

theorem travels_defaulted {α : Type} (name : String) {c : Codec α} {default a : α}
    (h : c.Travels a) : (defaulted name c default).Travels a :=
  ⟨h.restores, h.whole⟩

theorem travels_optional {α : Type} (name : String) {c : Codec α} {a : Option α}
    (h : ∀ b ∈ a, c.Travels b) : (optional name c).Travels a where
  restores := by
    rw [sorting, optional, Codec.sorting_optional]
    exact restores_optional name fun b hb =>
      ⟨(h b hb).restores, Json.sorted_ne_null (h b hb).present⟩
  whole := Codec.whole_optional fun b hb => (h b hb).whole

theorem travels_list {α : Type} (name : String) {c : Codec α} {as : List α}
    (h : ∀ a ∈ as, c.Travels a) : (list name c).Travels as :=
  travels_defaulted name (Codec.travels_list h)

theorem travels_someList {α : Type} (name : String) {c : Codec α} {as : List α}
    (h : ∀ a ∈ as, c.Travels a) : (someList name c).Travels as where
  restores := by
    cases as with
    | nil => exact rfl
    | cons a as => exact (Codec.travels_list h).restores
  whole := (Codec.travels_list h).whole

theorem travels_defaultedText (name default s : String) :
    (defaulted name Codec.text default).Travels s :=
  travels_defaulted name (Codec.travels_text s)

theorem travels_optionalText (name : String) (s : Option String) :
    (optional name Codec.text).Travels s :=
  travels_optional name fun s _ => Codec.travels_text s

theorem travels_optionalInt32 (name : String) (n : Option Int32) :
    (optional name Codec.int32).Travels n :=
  travels_optional name fun n _ => Codec.travels_int32 n

/-- What is not there is not written. -/
theorem travels_absent {α : Type} (name : String) {c : Codec α} {a : Option α} (h : a = none) :
    (optional name c).Travels a :=
  travels_optional name fun b hb => absurd (h ▸ hb) (by simp)

end Field

namespace Fields

theorem Travels.restores {σ : Type} {fs : Fields σ} {a : σ} (h : fs.Travels a) :
    fs.sorting.Restores a := by
  induction fs with
  | nil => trivial
  | cons f rest ih => exact ⟨h.1.restores, ih h.2⟩
  | inline inner rest ih1 ih2 => exact ⟨ih1 h.1, ih2 h.2⟩
  | iso fields into out ih => exact ih h

theorem Travels.whole {σ : Type} {fs : Fields σ} {a : σ} (h : fs.Travels a) : fs.Whole a := by
  induction fs with
  | nil => trivial
  | cons f rest ih => exact ⟨h.1.whole, ih h.2⟩
  | inline inner rest ih1 ih2 => exact ⟨ih1 h.1, ih2 h.2⟩
  | iso fields into out ih => exact ih h

end Fields

namespace Codec

/-- **A record travels if each of its fields does.** -/
theorem travels_record {σ : Type} (form : RecordForm) {fs : Fields σ} (hlaw : fs.Lawful) {a : σ}
    (h : fs.Travels a) : (record form fs).Travels a where
  restores := by
    intro room hroom
    have hnodup := hlaw.sorting.nodup_keys a
    obtain ⟨inner, henter, hinner⟩ := hroom.enter?
    show (record form fs).read room
      (.ofJson (.obj (Json.sortEntries (Json.sortedEntries (fs.writeEntries a))))) = some a
    rw [read_record_trees form fs (Json.nodup_of_increasing (Json.increasing_sortEntries _)) henter,
      ← fs.writeEntries_sorting, ← fs.readEntries?_sorting]
    refine Fields.readEntries?_of_agree hlaw.sorting.inverse hlaw.sorting.nodup h.restores ?_
      fun name _ => Fields.filter_trees_sortEntries hnodup name
    intro e he
    rw [fs.writeEntries_sorting] at he hnodup
    exact hinner.mono (Json.depth_le_depthEntries ((Json.mem_sortEntries_iff hnodup).2 he))
  whole := whole_record form h.whole
  present := write_record_ne_null form fs a

/-- A record has no entry but those of its fields. -/
theorem get?_write_record {σ : Type} (form : RecordForm) {fs : Fields σ} {key : String}
    (h : key ∉ fs.names) (a : σ) : ((record form fs).sorting.write a).get? key = none := by
  refine Json.get?_obj_of_not_mem fun hmem => ?_
  obtain ⟨e, he, rfl⟩ := List.mem_map.1 hmem
  have hkey := List.mem_map_of_mem (f := (·.1)) (Json.mem_sortEntries he)
  rw [Json.keys_sortedEntries] at hkey
  exact h ((fs.keys_writeEntries a).subset hkey)

end Codec

end GatewayAdmission
