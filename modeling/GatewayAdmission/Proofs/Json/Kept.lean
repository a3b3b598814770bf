import GatewayAdmission.Json.Document
import Mathlib.Order.MinMax

/-!
# Values held as they are

The tree of a value gives back the value wherever the room is not too small for its nesting
(`Document.toJson?_ofJson`), and nothing that is kept nests deeper than the room
(`Document.depth_of_toJson?`). A value whose entries are sorted is not changed by sorting
(`Json.sorted_of_sorted`), and sorting never makes a value deeper (`Json.depth_sorted_le`).
-/

namespace GatewayAdmission

/-! ## Room -/

namespace Document

namespace Room

/-- Whether the room is enough for so many levels. -/
def Holds (room : Room) (n : Nat) : Prop := ∀ k ∈ room, n ≤ k

theorem Holds.mono {room : Room} {m n : Nat} (h : room.Holds n) (hle : m ≤ n) : room.Holds m :=
  fun k hk => Nat.le_trans hle (h k hk)

/-- There is room inside an array or object that fits itself. -/
theorem Holds.enter? {room : Room} {n : Nat} (h : room.Holds (1 + n)) :
    ∃ inner, room.enter? = some inner ∧ inner.Holds n := by
  cases room with
  | none => exact ⟨none, rfl, fun k hk => absurd hk (by simp)⟩
  | some k =>
    obtain ⟨m, rfl⟩ : ∃ m, k = m + 1 := ⟨k - 1, by have := h k rfl; omega⟩
    refine ⟨some m, rfl, ?_⟩
    rintro l ⟨rfl⟩
    have := h (m + 1) rfl
    omega

theorem enter?_some {k : Nat} {inner : Room} (h : enter? (some k) = some inner) :
    ∃ m, k = m + 1 ∧ inner = some m := by
  cases k with
  | zero => exact absurd h (by simp [enter?])
  | succ m => exact ⟨m, rfl, (Option.some.inj h).symm⟩

end Room

/-! ## Trees of values -/

theorem ofItems_eq_map (items : List Json) : ofItems items = items.map ofJson := by
  induction items with
  | nil => rfl
  | cons j rest ih => rw [ofItems, ih, List.map_cons]

theorem ofEntries_eq_map (entries : List (String × Json)) :
    ofEntries entries = entries.map fun e => (some e.1, ofJson e.2) := by
  induction entries with
  | nil => rfl
  | cons e rest ih => rw [ofEntries, ih, List.map_cons]

mutual

/-- The tree of a value gives back the value. -/
theorem toJson?_ofJson : (j : Json) → ∀ {room : Room}, room.Holds j.depth →
    toJson? room (ofJson j) = some j
  | .null, _, _ => rfl
  | .bool _, _, _ => rfl
  | .num _, _, _ => rfl
  | .str _, _, _ => rfl
  | .arr items, _, h => by
    obtain ⟨inner, henter, hinner⟩ := h.enter?
    rw [ofJson, toJson?, henter, Option.bind_some, itemsToJson?_ofItems items hinner]
    rfl
  | .obj entries, _, h => by
    obtain ⟨inner, henter, hinner⟩ := h.enter?
    rw [ofJson, toJson?, henter, Option.bind_some, entriesToJson?_ofEntries entries hinner]
    rfl

theorem itemsToJson?_ofItems : (items : List Json) → ∀ {room : Room},
    room.Holds (Json.depthItems items) → itemsToJson? room (ofItems items) = some items
  | [], _, _ => rfl
  | j :: rest, _, h => by
    rw [ofItems, itemsToJson?, toJson?_ofJson j (h.mono (Nat.le_max_left _ _)),
      itemsToJson?_ofItems rest (h.mono (Nat.le_max_right _ _))]
    rfl

theorem entriesToJson?_ofEntries : (entries : List (String × Json)) → ∀ {room : Room},
    room.Holds (Json.depthEntries entries) → entriesToJson? room (ofEntries entries) = some entries
  | [], _, _ => rfl
  | (k, j) :: rest, _, h => by
    rw [ofEntries, entriesToJson?, toJson?_ofJson j (h.mono (Nat.le_max_left _ _)),
      entriesToJson?_ofEntries rest (h.mono (Nat.le_max_right _ _))]
    rfl

end

mutual

/-- What is kept fits the room. -/
theorem depth_of_toJson? : (d : Document) → ∀ {k : Nat} {j : Json},
    toJson? (some k) d = some j → j.depth ≤ k
  | .null, _, _, h => by
    obtain rfl := Option.some.inj h
    exact Nat.zero_le _
  | .bool _, _, _, h => by
    obtain rfl := Option.some.inj h
    exact Nat.zero_le _
  | .num _, _, _, h => by
    obtain ⟨n, -, rfl⟩ := Option.map_eq_some_iff.1 h
    exact Nat.zero_le _
  | .str _, _, _, h => by
    obtain ⟨s, -, rfl⟩ := Option.map_eq_some_iff.1 h
    exact Nat.zero_le _
  | .arr items, _, _, h => by
    obtain ⟨inner, henter, h⟩ := Option.bind_eq_some_iff.1 h
    obtain ⟨m, rfl, rfl⟩ := Room.enter?_some henter
    obtain ⟨js, hjs, rfl⟩ := Option.map_eq_some_iff.1 h
    have := depthItems_of_itemsToJson? items hjs
    rw [Json.depth]
    omega
  | .obj entries, _, _, h => by
    obtain ⟨inner, henter, h⟩ := Option.bind_eq_some_iff.1 h
    obtain ⟨m, rfl, rfl⟩ := Room.enter?_some henter
    obtain ⟨es, hes, rfl⟩ := Option.map_eq_some_iff.1 h
    have := depthEntries_of_entriesToJson? entries hes
    rw [Json.depth]
    omega

theorem depthItems_of_itemsToJson? : (items : List Document) → ∀ {k : Nat} {js : List Json},
    itemsToJson? (some k) items = some js → Json.depthItems js ≤ k
  | [], _, _, h => by
    obtain rfl := Option.some.inj h
    exact Nat.zero_le _
  | d :: rest, _, _, h => by
    obtain ⟨j, hj, h⟩ := Option.bind_eq_some_iff.1 h
    obtain ⟨js, hjs, rfl⟩ := Option.map_eq_some_iff.1 h
    exact Nat.max_le.2 ⟨depth_of_toJson? d hj, depthItems_of_itemsToJson? rest hjs⟩

theorem depthEntries_of_entriesToJson? : (entries : List (Option String × Document)) →
    ∀ {k : Nat} {es : List (String × Json)},
    entriesToJson? (some k) entries = some es → Json.depthEntries es ≤ k
  | [], _, _, h => by
    obtain rfl := Option.some.inj h
    exact Nat.zero_le _
  | (_, d) :: rest, _, _, h => by
    obtain ⟨_, -, h⟩ := Option.bind_eq_some_iff.1 h
    obtain ⟨j, hj, h⟩ := Option.bind_eq_some_iff.1 h
    obtain ⟨es, hes, rfl⟩ := Option.map_eq_some_iff.1 h
    exact Nat.max_le.2 ⟨depth_of_toJson? d hj, depthEntries_of_entriesToJson? rest hes⟩

end

/-- Only `null` is kept as `null`. -/
theorem ne_null_of_toJson? {room : Room} {d : Document} {j : Json} (hd : d ≠ .null)
    (h : toJson? room d = some j) : j ≠ .null := by
  rintro rfl
  cases d with
  | null => exact hd rfl
  | bool b => exact Json.noConfusion (Option.some.inj h)
  | num n =>
    obtain ⟨_, -, h⟩ := Option.map_eq_some_iff.1 h
    exact Json.noConfusion h
  | str s =>
    obtain ⟨_, -, h⟩ := Option.map_eq_some_iff.1 h
    exact Json.noConfusion h
  | arr items =>
    obtain ⟨_, -, h⟩ := Option.bind_eq_some_iff.1 h
    obtain ⟨_, -, h⟩ := Option.map_eq_some_iff.1 h
    exact Json.noConfusion h
  | obj entries =>
    obtain ⟨_, -, h⟩ := Option.bind_eq_some_iff.1 h
    obtain ⟨_, -, h⟩ := Option.map_eq_some_iff.1 h
    exact Json.noConfusion h

end Document

/-! ## Depth -/

namespace Json

theorem depth_le_depthItems {items : List Json} {j : Json} (h : j ∈ items) :
    j.depth ≤ depthItems items := by
  induction items with
  | nil => exact absurd h (by simp)
  | cons k rest ih =>
    rcases List.mem_cons.1 h with rfl | h
    · exact Nat.le_max_left _ _
    · exact Nat.le_trans (ih h) (Nat.le_max_right _ _)

theorem depth_le_depthEntries {entries : List (String × Json)} {e : String × Json}
    (h : e ∈ entries) : e.2.depth ≤ depthEntries entries := by
  induction entries with
  | nil => exact absurd h (by simp)
  | cons f rest ih =>
    rcases List.mem_cons.1 h with rfl | h
    · exact Nat.le_max_left _ _
    · exact Nat.le_trans (ih h) (Nat.le_max_right _ _)

theorem depthItems_le {items : List Json} {n : Nat} (h : ∀ j ∈ items, j.depth ≤ n) :
    depthItems items ≤ n := by
  induction items with
  | nil => exact Nat.zero_le n
  | cons k rest ih =>
    exact Nat.max_le.2 ⟨h k (by simp), ih fun j hj => h j (by simp [hj])⟩

theorem depthEntries_le {entries : List (String × Json)} {n : Nat}
    (h : ∀ e ∈ entries, e.2.depth ≤ n) : depthEntries entries ≤ n := by
  induction entries with
  | nil => exact Nat.zero_le n
  | cons f rest ih =>
    exact Nat.max_le.2 ⟨h f (by simp), ih fun e he => h e (by simp [he])⟩

theorem depthEntries_sortEntries_le (entries : List (String × Json)) :
    depthEntries (sortEntries entries) ≤ depthEntries entries :=
  depthEntries_le fun _ he => depth_le_depthEntries (mem_sortEntries he)

mutual

/-- Sorting may drop entries, but moves none to another level. -/
theorem depth_sorted_le : (j : Json) → j.sorted.depth ≤ j.depth
  | .arr items => Nat.add_le_add_left (depthItems_sortedItems_le items) 1
  | .obj entries => Nat.add_le_add_left
      (Nat.le_trans (depthEntries_sortEntries_le _) (depthEntries_sortedEntries_le entries)) 1
  | .null | .bool _ | .num _ | .str _ => Nat.le_refl _

theorem depthItems_sortedItems_le : (items : List Json) →
    depthItems (sortedItems items) ≤ depthItems items
  | [] => Nat.le_refl _
  | j :: rest => max_le_max (depth_sorted_le j) (depthItems_sortedItems_le rest)

theorem depthEntries_sortedEntries_le : (entries : List (String × Json)) →
    depthEntries (sortedEntries entries) ≤ depthEntries entries
  | [] => Nat.le_refl _
  | (_, j) :: rest => max_le_max (depth_sorted_le j) (depthEntries_sortedEntries_le rest)

end

/-! ## Sorted values -/

theorem sortEntries_of_increasing {α : Type} {entries : List (String × α)}
    (h : Increasing entries) : sortEntries entries = entries := by
  induction entries with
  | nil => rfl
  | cons e rest ih =>
    obtain ⟨k, v⟩ := e
    rw [sortEntries, ih h.2]
    cases rest with
    | nil => rfl
    | cons f rest => rw [insertEntry, if_pos (h.1 f (by simp))]

mutual

/-- What is sorted stays as it is. -/
theorem sorted_of_sorted : (j : Json) → j.Sorted → j.sorted = j
  | .arr items, h => by rw [sorted, sortedItems_of_sorted items h]
  | .obj entries, h => by
    rw [sorted, sortedEntries_of_sorted entries h.2, sortEntries_of_increasing h.1]
  | .null, _ => rfl
  | .bool _, _ => rfl
  | .num _, _ => rfl
  | .str _, _ => rfl

theorem sortedItems_of_sorted : (items : List Json) → SortedItems items →
    sortedItems items = items
  | [], _ => rfl
  | j :: rest, h => by rw [sortedItems, sorted_of_sorted j h.1, sortedItems_of_sorted rest h.2]

theorem sortedEntries_of_sorted : (entries : List (String × Json)) → SortedEntries entries →
    sortedEntries entries = entries
  | [], _ => rfl
  | (k, j) :: rest, h => by
    rw [sortedEntries, sorted_of_sorted j h.1, sortedEntries_of_sorted rest h.2]

end

/-- Only `null` becomes `null`. -/
theorem sorted_ne_null {j : Json} (h : j ≠ .null) : j.sorted ≠ .null := by
  cases j <;> first | exact absurd rfl h | exact Json.noConfusion

end Json

/-- A value held sorted is not changed by holding it again. -/
theorem Raw.ofJson_json (r : Raw) : Raw.ofJson r.json = r := by
  obtain ⟨j, hj⟩ := r
  simp only [Raw.ofJson, Json.sorted_of_sorted j hj]

theorem KeyedMap.ofEntries_entries {α : Type} (m : KeyedMap α) : ofEntries m.entries = m := by
  obtain ⟨entries, h⟩ := m
  simp only [ofEntries, Json.sortEntries_of_increasing h]

end GatewayAdmission
