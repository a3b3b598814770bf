import GatewayAdmission.Proofs.Json.Restore

/-!
# What a reader can give

Whatever a record was read from, an object or an array, each of its fields is either the value of
some part of that or what a missing field stands for (`Codec.reaches_record`). Nothing else has to
be known of the reader to say what the values it gives are like.

The first use is nesting. `Codec.Nests c n` says that a value read where `k` more levels may open
is written with at most `k` levels, or `n` if that is more. **Every form of codec nests if its
parts do** (`Codec.nests_record`); the `n` is there because a field that was missing may be
written all the same.
-/

namespace GatewayAdmission

open Document (Room)

/-- What is read where a value may be missing is read by the reader of the value, if it is there,
and then it is not `null`. -/
theorem Codec.exists_of_read_optional {α : Type} {c : Codec α} {room : Room} {d : Document} {a : α}
    (h : c.optional.read room d = some (some a)) : d ≠ .null ∧ c.read room d = some a := by
  by_cases hd : d = .null
  · rw [hd] at h
    exact absurd h (by simp [optional])
  · rw [read_optional c hd] at h
    obtain ⟨b, hb, heq⟩ := Option.map_eq_some_iff.1 h
    exact ⟨hd, Option.some.inj heq ▸ hb⟩

namespace Field

/-- Whether a field can have a value where there is so much room. -/
def Reaches {α : Type} (room : Room) (f : Field α) (a : α) : Prop :=
  (∃ d, f.codec.read room d = some a) ∨ f.missing.inObject? = some a

theorem exists_of_mem_mapM {α β : Type} {f : α → Option β} {as : List α} {bs : List β}
    (h : as.mapM f = some bs) {b : β} (hb : b ∈ bs) : ∃ a ∈ as, f a = some b := by
  induction as generalizing bs with
  | nil =>
    obtain rfl : [] = bs := Option.some.inj h
    exact absurd hb (by simp)
  | cons a as ih =>
    rw [List.mapM_cons] at h
    obtain ⟨c, hc, h⟩ := Option.bind_eq_some_iff.1 h
    obtain ⟨cs, hcs, h⟩ := Option.bind_eq_some_iff.1 h
    obtain rfl : c :: cs = bs := Option.some.inj h
    rcases List.mem_cons.1 hb with rfl | hb
    · exact ⟨a, by simp, hc⟩
    · obtain ⟨a', ha', hread⟩ := ih hcs hb
      exact ⟨a', by simp [ha'], hread⟩

theorem reaches_of_read? {α : Type} {f : Field α} {room : Room}
    {entries : List (String × Document)} {a : α} (h : f.read? room entries = some a) :
    f.Reaches room a := by
  unfold read? at h
  split at h
  · exact absurd h (by simp)
  · rename_i values hvalues
    rcases Option.or_eq_some_iff.1 h with h | ⟨-, h⟩
    · obtain ⟨e, -, hread⟩ := exists_of_mem_mapM hvalues (List.mem_of_getLast? h)
      exact Or.inl ⟨e.2, hread⟩
    · exact Or.inr h

/-- A value that may be missing was there, if there is one. -/
theorem exists_of_reaches_optionalNamed {α : Type} {name : String} {c : Codec α} {room : Room}
    {a : α} (h : (optionalNamed name c).Reaches room (some a)) :
    ∃ d, d ≠ .null ∧ c.read room d = some a := by
  rcases h with ⟨d, hd⟩ | hmissing
  · exact ⟨d, Codec.exists_of_read_optional hd⟩
  · exact absurd hmissing (by simp [optionalNamed, Missing.inObject?])

theorem inObject?_of_inArray? {α : Type} {m : Missing α} {a : α} (h : m.inArray? = some a) :
    m.inObject? = some a := by
  cases m with
  | refused => exact absurd h (by simp [Missing.inArray?])
  | named b => exact absurd h (by simp [Missing.inArray?])
  | always b => exact h

end Field

namespace Fields

abbrev Reaches {σ : Type} (room : Room) (fs : Fields σ) (a : σ) : Prop :=
  fs.Each (fun _ f a => f.Reaches room a) a

theorem reaches_of_readEntries? {σ : Type} {fs : Fields σ} (hinv : fs.Inverse) {room : Room}
    {entries : List (String × Document)} {a : σ} (h : fs.readEntries? room entries = some a) :
    fs.Reaches room a := by
  induction fs with
  | nil => trivial
  | cons f rest ih =>
    obtain ⟨b, hb, h⟩ := Option.bind_eq_some_iff.1 h
    obtain ⟨c, hc, rfl⟩ := Option.map_eq_some_iff.1 h
    exact ⟨Field.reaches_of_read? hb, ih hinv hc⟩
  | inline inner rest ih1 ih2 =>
    obtain ⟨b, hb, h⟩ := Option.bind_eq_some_iff.1 h
    obtain ⟨c, hc, rfl⟩ := Option.map_eq_some_iff.1 h
    exact ⟨ih1 hinv.1 hb, ih2 hinv.2 hc⟩
  | iso fields into out ih =>
    obtain ⟨b, hb, rfl⟩ := Option.map_eq_some_iff.1 h
    show fields.Reaches room (out (into b))
    rw [hinv.2.1]
    exact ih hinv.2.2 hb

theorem reaches_of_readItems? {σ : Type} {fs : Fields σ} (hinv : fs.Inverse) {room : Room}
    {items left : List Document} {a : σ} (h : fs.readItems? room items = some (a, left)) :
    fs.Reaches room a := by
  induction fs generalizing items left with
  | nil => trivial
  | cons f rest ih =>
    cases items with
    | nil =>
      obtain ⟨b, hb, h⟩ := Option.bind_eq_some_iff.1 h
      obtain ⟨⟨c, left'⟩, hc, h⟩ := Option.map_eq_some_iff.1 h
      obtain ⟨rfl, rfl⟩ := Prod.mk.inj h
      exact ⟨Or.inr (Field.inObject?_of_inArray? hb), ih hinv hc⟩
    | cons d items =>
      obtain ⟨b, hb, h⟩ := Option.bind_eq_some_iff.1 h
      obtain ⟨⟨c, left'⟩, hc, h⟩ := Option.map_eq_some_iff.1 h
      obtain ⟨rfl, rfl⟩ := Prod.mk.inj h
      exact ⟨Or.inl ⟨d, hb⟩, ih hinv hc⟩
  | inline inner rest ih1 ih2 =>
    obtain ⟨⟨b, left1⟩, hb, h⟩ := Option.bind_eq_some_iff.1 h
    obtain ⟨⟨c, left2⟩, hc, h⟩ := Option.map_eq_some_iff.1 h
    obtain ⟨rfl, rfl⟩ := Prod.mk.inj h
    exact ⟨ih1 hinv.1 hb, ih2 hinv.2 hc⟩
  | iso fields into out ih =>
    obtain ⟨⟨b, left'⟩, hb, h⟩ := Option.map_eq_some_iff.1 h
    obtain ⟨rfl, rfl⟩ := Prod.mk.inj h
    show fields.Reaches room (out (into b))
    rw [hinv.2.1]
    exact ih hinv.2.2 hb

end Fields

namespace Codec

/-- A record that was read from an object was read from its entries. -/
theorem exists_of_read_record_obj {σ : Type} {form : RecordForm} {fs : Fields σ} {room : Room}
    {entries : List (Option String × Document)} {a : σ}
    (h : (record form fs).read room (.obj entries) = some a) :
    ∃ inner keyed, room.enter? = some inner ∧ Fields.keyed? entries = some keyed
      ∧ (form = .plain → fs.repeats keyed = false) ∧ fs.readEntries? inner keyed = some a := by
  obtain ⟨inner, henter, h⟩ := Option.bind_eq_some_iff.1 h
  obtain ⟨keyed, hkeyed, h⟩ := Option.bind_eq_some_iff.1 h
  split at h
  · exact absurd h (by simp)
  · rename_i hrepeats
    exact ⟨inner, keyed, henter, hkeyed, fun hform => by simpa [hform] using hrepeats, h⟩

/-- A record that was read from an array took all of its items. -/
theorem exists_of_read_record_arr {σ : Type} {form : RecordForm} {fs : Fields σ} {room : Room}
    {items : List Document} {a : σ} (h : (record form fs).read room (.arr items) = some a) :
    ∃ inner, room.enter? = some inner ∧ fs.readItems? inner items = some (a, []) := by
  unfold record at h
  simp only at h
  split at h
  · obtain ⟨inner, henter, h⟩ := Option.bind_eq_some_iff.1 h
    obtain ⟨⟨b, left⟩, hb, h⟩ := Option.bind_eq_some_iff.1 h
    split at h
    · rename_i hempty
      obtain rfl := Option.some.inj h
      obtain rfl : left = [] := List.isEmpty_iff.1 hempty
      exact ⟨inner, henter, hb⟩
    · exact absurd h (by simp)
  · exact absurd h (by simp)

/-- The fields of a record that was read, in whatever form. -/
theorem reaches_record {σ : Type} {form : RecordForm} {fs : Fields σ} (hinv : fs.Inverse)
    {room : Room} {d : Document} {a : σ} (h : (record form fs).read room d = some a) :
    ∃ inner, room.enter? = some inner ∧ fs.Reaches inner a := by
  cases d with
  | obj entries =>
    obtain ⟨inner, _, henter, -, -, hread⟩ := exists_of_read_record_obj h
    exact ⟨inner, henter, Fields.reaches_of_readEntries? hinv hread⟩
  | arr items =>
    obtain ⟨inner, henter, hread⟩ := exists_of_read_record_arr h
    exact ⟨inner, henter, Fields.reaches_of_readItems? hinv hread⟩
  | null => exact absurd h (by simp [record])
  | bool b => exact absurd h (by simp [record])
  | num n => exact absurd h (by simp [record])
  | str s => exact absurd h (by simp [record])

end Codec

/-! ## Nesting -/

namespace Codec

/-- Whether what is read within `k` levels is written within `k`, or within `n`. -/
def Nests {α : Type} (c : Codec α) (n : Nat) : Prop :=
  ∀ k d a, c.read (some k) d = some a → (c.write a).depth ≤ max k n

theorem Nests.mono {α : Type} {c : Codec α} {m n : Nat} (h : c.Nests m) (hle : m ≤ n) :
    c.Nests n :=
  fun k d a hread => Nat.le_trans (h k d a hread) (max_le_max_left k hle)

theorem nests_text : text.Nests 0 := fun _ _ _ _ => Nat.zero_le _

theorem nests_flag : flag.Nests 0 := fun _ _ _ _ => Nat.zero_le _

theorem nests_integer {α : Type} (ofInt? : Int → Option α) (toWhole : α → WholeNumber) :
    (integer ofInt? toWhole).Nests 0 :=
  fun _ _ _ _ => Nat.zero_le _

theorem nests_choice {α : Type} (names : List (String × α)) (name : α → String) :
    (choice names name).Nests 0 :=
  fun _ _ _ _ => Nat.zero_le _

theorem nests_raw : raw.Nests 0 := by
  intro k d a h
  obtain ⟨j, hj, rfl⟩ := Option.map_eq_some_iff.1 h
  exact Nat.le_trans (Json.depth_sorted_le j)
    (Nat.le_trans (Document.depth_of_toJson? d hj) (Nat.le_max_left k 0))

theorem nests_optional {α : Type} {c : Codec α} {n : Nat} (h : c.Nests n) :
    c.optional.Nests n := by
  intro k d a hread
  cases a with
  | none => exact Nat.zero_le _
  | some a => exact h k d a (exists_of_read_optional hread).2

theorem nests_list {α : Type} {c : Codec α} {n : Nat} (h : c.Nests n) : c.list.Nests (n + 1) := by
  intro k d as hread
  unfold list at hread
  simp only at hread
  split at hread
  · obtain ⟨inner, henter, hread⟩ := Option.bind_eq_some_iff.1 hread
    obtain ⟨m, rfl, rfl⟩ := Room.enter?_some henter
    have hitems : Json.depthItems (as.map c.write) ≤ max m n := by
      refine Json.depthItems_le fun j hj => ?_
      obtain ⟨a, ha, rfl⟩ := List.mem_map.1 hj
      obtain ⟨d, -, hd⟩ := Field.exists_of_mem_mapM hread ha
      exact h m d a hd
    show 1 + Json.depthItems (as.map c.write) ≤ _
    omega
  · exact absurd hread (by simp)

theorem nests_map {α : Type} {c : Codec α} {n : Nat} (h : c.Nests n) : c.map.Nests (n + 1) := by
  intro k d m hread
  unfold map at hread
  simp only at hread
  split at hread
  · obtain ⟨inner, henter, hread⟩ := Option.bind_eq_some_iff.1 hread
    obtain ⟨l, rfl, rfl⟩ := Room.enter?_some henter
    obtain ⟨es, hes, rfl⟩ := Option.map_eq_some_iff.1 hread
    have hentries : Json.depthEntries
        ((KeyedMap.ofEntries es).entries.map fun e => (e.1, c.write e.2)) ≤ max l n := by
      refine Json.depthEntries_le fun f hf => ?_
      obtain ⟨e, he, rfl⟩ := List.mem_map.1 hf
      obtain ⟨d, -, hd⟩ := Field.exists_of_mem_mapM hes (Json.mem_sortEntries he)
      obtain ⟨key, -, hd⟩ := Option.bind_eq_some_iff.1 hd
      obtain ⟨a, ha, rfl⟩ := Option.map_eq_some_iff.1 hd
      exact h l d.2 a ha
    show 1 + Json.depthEntries _ ≤ _
    omega
  · exact absurd hread (by simp)

end Codec

namespace Field

/-- Whether the entry of a field nests, be the field there or missing. -/
def Nests {α : Type} (f : Field α) (n : Nat) : Prop :=
  f.codec.Nests n ∧ ∀ a, f.missing.inObject? = some a → ∀ e ∈ f.write a, e.2.depth ≤ n

theorem nests_required {α : Type} (name : String) {c : Codec α} {n : Nat} (h : c.Nests n) :
    (required name c).Nests n :=
  ⟨h, fun _ hm => absurd hm (by simp [required, always, Missing.inObject?])⟩

theorem nests_defaulted {α : Type} (name : String) {c : Codec α} {default : α} {n : Nat}
    (h : c.Nests n) (hdefault : (c.write default).depth ≤ n) :
    (defaulted name c default).Nests n := by
  refine ⟨h, ?_⟩
  rintro a ⟨rfl⟩ e he
  obtain rfl := List.mem_singleton.1 he
  exact hdefault

theorem nests_optional {α : Type} (name : String) {c : Codec α} {n : Nat} (h : c.Nests n) :
    (optional name c).Nests n := by
  refine ⟨Codec.nests_optional h, ?_⟩
  rintro a ⟨rfl⟩ e he
  exact absurd he (by simp [write, optional])

theorem nests_optionalNamed {α : Type} (name : String) {c : Codec α} {n : Nat} (h : c.Nests n) :
    (optionalNamed name c).Nests n := by
  refine ⟨Codec.nests_optional h, ?_⟩
  rintro a ⟨rfl⟩ e he
  exact absurd he (by simp [write, optionalNamed])

theorem nests_someText (name : String) : (someText name).Nests 0 := by
  refine ⟨Codec.nests_text, ?_⟩
  rintro a ⟨rfl⟩ e he
  exact absurd he (by simp [write, someText])

theorem Nests.mono {α : Type} {f : Field α} {m n : Nat} (h : f.Nests m) (hle : m ≤ n) :
    f.Nests n :=
  ⟨h.1.mono hle, fun a ha e he => Nat.le_trans (h.2 a ha e he) hle⟩

theorem depth_write {α : Type} {f : Field α} {n k : Nat} (h : f.Nests n) {a : α}
    (hreach : f.Reaches (some k) a) : ∀ e ∈ f.write a, e.2.depth ≤ max k n := by
  intro e he
  rcases hreach with ⟨d, hd⟩ | hmissing
  · unfold write at he
    split at he
    · exact absurd he (by simp)
    · obtain rfl := List.mem_singleton.1 he
      exact h.1 k d a hd
  · exact Nat.le_trans (h.2 a hmissing e he) (Nat.le_max_right _ _)

end Field

namespace Fields

/-- Whether the entries of all fields nest. -/
def Nests (n : Nat) : {σ : Type} → Fields σ → Prop
  | _, nil => True
  | _, cons f rest => f.Nests n ∧ rest.Nests n
  | _, inline inner rest => inner.Nests n ∧ rest.Nests n
  | _, iso fields _ _ => fields.Nests n

theorem depth_writeEntries {σ : Type} {fs : Fields σ} {n k : Nat} (h : fs.Nests n) {a : σ}
    (hreach : fs.Reaches (some k) a) : ∀ e ∈ fs.writeEntries a, e.2.depth ≤ max k n := by
  induction fs with
  | nil => exact fun e he => absurd he (by simp [writeEntries])
  | cons f rest ih =>
    intro e he
    rcases List.mem_append.1 he with he | he
    · exact Field.depth_write h.1 hreach.1 e he
    · exact ih h.2 hreach.2 e he
  | inline inner rest ih1 ih2 =>
    intro e he
    rcases List.mem_append.1 he with he | he
    · exact ih1 h.1 hreach.1 e he
    · exact ih2 h.2 hreach.2 e he
  | iso fields into out ih => exact ih h hreach

end Fields

namespace Codec

/-- **A record nests if its fields do.** -/
theorem nests_record {σ : Type} (form : RecordForm) {fs : Fields σ} (hinv : fs.Inverse) {n : Nat}
    (h : fs.Nests n) : (record form fs).Nests (n + 1) := by
  intro k d a hread
  obtain ⟨inner, henter, hreach⟩ := reaches_record hinv hread
  obtain ⟨m, rfl, rfl⟩ := Room.enter?_some henter
  have hentries := Json.depthEntries_le (Fields.depth_writeEntries h hreach)
  show 1 + Json.depthEntries (fs.writeEntries a) ≤ _
  omega

end Codec

end GatewayAdmission
