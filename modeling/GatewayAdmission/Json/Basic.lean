import GatewayAdmission.Json.Number

/-!
# JSON values

Objects are lists of entries, so one type serves both for values whose entries stand in a chosen
order (a record on its way out) and for values whose entries are sorted by key.

`Json.sorted` puts a value in the second form at every level, the last of several entries with one
key winning. `Raw` is a value in that form: it is how an embedded object is held.
-/

namespace GatewayAdmission

inductive Json where
  | null
  | bool (value : Bool)
  | num (value : Number)
  | str (value : String)
  | arr (items : List Json)
  | obj (entries : List (String × Json))

namespace Json

instance : Inhabited Json := ⟨.null⟩

def int32 (n : Int32) : Json := .num (.whole (.ofInt32 n))

/-- The value of the first entry with this key; `none` also where the value is no object. -/
def get? (key : String) : Json → Option Json
  | .obj entries => (entries.find? (·.1 == key)).map (·.2)
  | _ => none

def str? : Json → Option String
  | .str s => some s
  | _ => none

mutual

/-- How many arrays and objects lie around the innermost value. -/
def depth : Json → Nat
  | .arr items => 1 + depthItems items
  | .obj entries => 1 + depthEntries entries
  | _ => 0

def depthItems : List Json → Nat
  | [] => 0
  | j :: rest => max j.depth (depthItems rest)

def depthEntries : List (String × Json) → Nat
  | [] => 0
  | (_, j) :: rest => max j.depth (depthEntries rest)

end

mutual

/-- Whether no number in the value is a double. -/
def isWhole : Json → Bool
  | .num (.double _) => false
  | .arr items => isWholeItems items
  | .obj entries => isWholeEntries entries
  | _ => true

def isWholeItems : List Json → Bool
  | [] => true
  | j :: rest => j.isWhole && isWholeItems rest

def isWholeEntries : List (String × Json) → Bool
  | [] => true
  | (_, j) :: rest => j.isWhole && isWholeEntries rest

end

/-! ## Sorted entries -/

/-- Puts an entry in its place, unless its key is there already. -/
def insertEntry {α : Type} (key : String) (value : α) : List (String × α) → List (String × α)
  | [] => [(key, value)]
  | (k, v) :: rest =>
    if key < k then (key, value) :: (k, v) :: rest
    else if key = k then (k, v) :: rest
    else (k, v) :: insertEntry key value rest

/-- The entries sorted by key, the last one of each key. -/
def sortEntries {α : Type} : List (String × α) → List (String × α)
  | [] => []
  | (k, v) :: rest => insertEntry k v (sortEntries rest)

mutual

/-- The value with the entries of every object sorted by key. -/
def sorted : Json → Json
  | .arr items => .arr (sortedItems items)
  | .obj entries => .obj (sortEntries (sortedEntries entries))
  | .null => .null
  | .bool b => .bool b
  | .num n => .num n
  | .str s => .str s

def sortedItems : List Json → List Json
  | [] => []
  | j :: rest => j.sorted :: sortedItems rest

def sortedEntries : List (String × Json) → List (String × Json)
  | [] => []
  | (k, j) :: rest => (k, j.sorted) :: sortedEntries rest

end

/-- Whether keys are strictly increasing. -/
def Increasing {α : Type} : List (String × α) → Prop
  | [] => True
  | (k, _) :: rest => (∀ e ∈ rest, k < e.1) ∧ Increasing rest

mutual

/-- Whether the entries of every object are sorted by key, without repetition. -/
def Sorted : Json → Prop
  | .arr items => SortedItems items
  | .obj entries => Increasing entries ∧ SortedEntries entries
  | _ => True

def SortedItems : List Json → Prop
  | [] => True
  | j :: rest => j.Sorted ∧ SortedItems rest

def SortedEntries : List (String × Json) → Prop
  | [] => True
  | (_, j) :: rest => j.Sorted ∧ SortedEntries rest

end

theorem mem_insertEntry {α : Type} {key : String} {value : α} {entries : List (String × α)}
    {e : String × α} (h : e ∈ insertEntry key value entries) :
    e = (key, value) ∨ e ∈ entries := by
  induction entries with
  | nil => simpa [insertEntry] using h
  | cons head rest ih =>
    obtain ⟨k, v⟩ := head
    simp only [insertEntry] at h
    split at h
    · simpa using h
    · split at h
      · exact Or.inr h
      · rcases List.mem_cons.1 h with rfl | h
        · simp
        · rcases ih h with h | h <;> simp [h]

theorem increasing_insertEntry {α : Type} (key : String) (value : α)
    {entries : List (String × α)} (h : Increasing entries) :
    Increasing (insertEntry key value entries) := by
  induction entries with
  | nil => simp [insertEntry, Increasing]
  | cons head rest ih =>
    obtain ⟨k, v⟩ := head
    simp only [Increasing] at h
    simp only [insertEntry]
    split
    · rename_i hlt
      refine ⟨?_, h⟩
      intro e he
      rcases List.mem_cons.1 he with rfl | he
      · exact hlt
      · exact String.lt_trans hlt (h.1 e he)
    · split
      · exact h
      · rename_i hnlt hne
        refine ⟨?_, ih h.2⟩
        intro e he
        rcases mem_insertEntry he with rfl | he
        · exact Decidable.byContradiction fun hn =>
            hne (String.le_antisymm (String.not_lt.1 hn) (String.not_lt.1 hnlt))
        · exact h.1 e he

theorem increasing_sortEntries {α : Type} (entries : List (String × α)) :
    Increasing (sortEntries entries) := by
  induction entries with
  | nil => trivial
  | cons e rest ih => exact increasing_insertEntry _ _ ih

theorem sortedEntries_iff {entries : List (String × Json)} :
    SortedEntries entries ↔ ∀ e ∈ entries, e.2.Sorted := by
  induction entries with
  | nil => simp [SortedEntries]
  | cons e rest ih => obtain ⟨k, j⟩ := e; simp [SortedEntries, ih]

theorem mem_sortEntries {α : Type} {entries : List (String × α)} {e : String × α}
    (h : e ∈ sortEntries entries) : e ∈ entries := by
  induction entries with
  | nil => exact h
  | cons head rest ih =>
    rcases mem_insertEntry h with rfl | h
    · simp
    · exact List.mem_cons_of_mem _ (ih h)

mutual

theorem sorted_sorted : (j : Json) → j.sorted.Sorted
  | .arr items => sortedItems_sorted items
  | .obj entries => ⟨increasing_sortEntries _, sortedEntries_iff.2 fun e he =>
      sortedEntries_iff.1 (sortedEntries_sorted entries) e (mem_sortEntries he)⟩
  | .null | .bool _ | .num _ | .str _ => trivial

theorem sortedItems_sorted : (items : List Json) → SortedItems (sortedItems items)
  | [] => trivial
  | j :: rest => ⟨sorted_sorted j, sortedItems_sorted rest⟩

theorem sortedEntries_sorted : (entries : List (String × Json)) →
    SortedEntries (sortedEntries entries)
  | [] => trivial
  | (_, j) :: rest => ⟨sorted_sorted j, sortedEntries_sorted rest⟩

end

end Json

/-- A JSON value held as it came, with sorted entries. -/
structure Raw where
  json : Json
  sorted : json.Sorted

namespace Raw

/-- The value with its entries sorted. -/
def ofJson (j : Json) : Raw := ⟨j.sorted, Json.sorted_sorted j⟩

end Raw

/-! ## Values by key -/

/-- Values under keys, sorted by key. -/
structure KeyedMap (α : Type) where
  entries : List (String × α)
  increasing : Json.Increasing entries

namespace KeyedMap

/-- The last value under each key. -/
def ofEntries {α : Type} (entries : List (String × α)) : KeyedMap α :=
  ⟨Json.sortEntries entries, Json.increasing_sortEntries entries⟩

end KeyedMap

end GatewayAdmission
