import GatewayAdmission.Field.Path
import GatewayAdmission.Occurrence
import Mathlib.Data.List.Nodup
import Mathlib.Data.List.Perm.Basic

/-!
# Entries and those before them

A rule on the entries of a list finds nothing if it finds nothing at each
(`FieldPath.flatMap_entries_eq_nil`). A rule about an entry and those before it is a rule about any
two entries in their order (`forall_occurrences_iff_pairwise`). So **no entry repeats the key of an
earlier one exactly if the keys are all different** (`filter_repeatsKey_eq_nil`), and it is enough
to look for the second entry of each key (`secondOccurrences_eq_nil`).

What is reported of a key that occurs more than once is its second entry. **The second entries stand
where a key is first repeated, one for each such key** (`repetitions_secondPositions`).

The order of the entries is of no importance to such a rule: **in any order, the entries of one key
are numbered one after the other** (`perm_rank_occurrences`), so as many of them repeat an earlier
one, and as many are the second of their key.
-/

namespace GatewayAdmission

theorem FieldPath.flatMap_entries_eq_nil {α β : Type} {p : FieldPath} {as : List α}
    (rule : FieldPath → α → List β) {Holds : α → Prop}
    (h : ∀ path a, rule path a = [] ↔ Holds a) :
    ((p.entries as).flatMap fun (path, a) => rule path a) = [] ↔ ∀ a ∈ as, Holds a := by
  rw [entries, List.flatMap_eq_nil_iff]
  constructor
  · intro hrule a ha
    obtain ⟨i, hi, rfl⟩ := List.mem_iff_getElem.1 ha
    have hmem : (as[i], i) ∈ as.zipIdx := List.mem_zipIdx_iff_getElem?.2 (by simp [hi])
    exact (h _ _).1 (hrule (p.index i, as[i]) (List.mem_map.2 ⟨_, hmem, rfl⟩))
  · intro hholds x hx
    obtain ⟨⟨a, i⟩, hmem, rfl⟩ := List.mem_map.1 hx
    exact (h _ _).2 (hholds a (List.fst_mem_of_mem_zipIdx hmem))

/-- Of what a rule finds at the entries, what belongs to one of them is what it finds there. -/
theorem FieldPath.filter_flatMap_entries {α β : Type} {p : FieldPath} {as : List α}
    {rule : FieldPath → α → List β} {belongs : β → Bool} {i : Nat} {a : α} (ha : as[i]? = some a)
    (hself : ∀ e ∈ rule (p.index i) a, belongs e = true)
    (hother : ∀ j b, j ≠ i → ∀ e ∈ rule (p.index j) b, belongs e = false) :
    ((p.entries as).flatMap fun (path, a) => rule path a).filter belongs = rule (p.index i) a := by
  have hnone : ∀ xs : List (α × Nat), i ∉ xs.map (·.2) →
      (xs.flatMap fun x => (rule (p.index x.2) x.1).filter belongs) = [] := by
    intro xs hxs
    refine List.flatMap_eq_nil_iff.2 fun x hx => List.filter_eq_nil_iff.2 fun e he => ?_
    rw [hother x.2 x.1 (fun heq => hxs (heq ▸ List.mem_map_of_mem hx)) e he]
    exact Bool.false_ne_true
  -- The entry has its number alone, so it can be cut out of the list.
  have hmem : (a, i) ∈ as.zipIdx := List.mem_zipIdx_iff_getElem?.2 ha
  obtain ⟨front, back, hsplit⟩ := List.append_of_mem hmem
  have hnodup : (as.zipIdx.map (·.2)).Nodup := by
    rw [List.zipIdx_map_snd]
    exact List.nodup_range'
  rw [hsplit, List.map_append, List.map_cons, List.nodup_middle, List.nodup_cons,
    List.mem_append, not_or] at hnodup
  rw [entries, List.flatMap_map, List.filter_flatMap, hsplit, List.flatMap_append,
    List.flatMap_cons, hnone front hnodup.1.1, hnone back hnodup.1.2, List.filter_eq_self.2 hself,
    List.nil_append, List.append_nil]

/-! ## Pairs of entries -/

section

variable {α : Type} {as before : List α} {index : Nat}

theorem forall_occurrencesFrom {R : α → α → Prop} :
    (∀ o ∈ occurrencesFrom index before as, ∀ a ∈ o.before, R a o.entry)
      ↔ (∀ b ∈ as, ∀ a ∈ before, R a b) ∧ as.Pairwise R := by
  induction as generalizing index before with
  | nil => simp [occurrencesFrom]
  | cons b as ih =>
    simp only [occurrencesFrom, List.forall_mem_cons, ih, List.pairwise_cons, forall_and]
    constructor
    · rintro ⟨hb, ⟨hbas, has⟩, hpairs⟩
      exact ⟨⟨hb, has⟩, hbas, hpairs⟩
    · rintro ⟨⟨hb, has⟩, hbas, hpairs⟩
      exact ⟨hb, ⟨hbas, has⟩, hpairs⟩

/-- What holds of every entry and those before it holds of any two entries in their order. -/
theorem forall_occurrences_iff_pairwise {R : α → α → Prop} :
    (∀ o ∈ occurrences as, ∀ a ∈ o.before, R a o.entry) ↔ as.Pairwise R := by
  rw [occurrences, forall_occurrencesFrom]
  simp

theorem forall_occurrencesFrom_entry {P : α → Prop} :
    (∀ o ∈ occurrencesFrom index before as, P o.entry) ↔ ∀ a ∈ as, P a := by
  induction as generalizing index before with
  | nil => simp [occurrencesFrom]
  | cons b as ih => simp only [occurrencesFrom, List.forall_mem_cons, ih]

theorem forall_occurrences_entry {P : α → Prop} :
    (∀ o ∈ occurrences as, P o.entry) ↔ ∀ a ∈ as, P a :=
  forall_occurrencesFrom_entry

/-! ## Numbers of entries -/

theorem getElem?_occurrencesFrom (i : Nat) : (occurrencesFrom index before as)[i]?
    = as[i]?.map fun a => ⟨index + i, (as.take i).reverse ++ before, a⟩ := by
  induction as generalizing index before i with
  | nil => rfl
  | cons b as ih =>
    cases i with
    | zero => rfl
    | succ i =>
      rw [occurrencesFrom, List.getElem?_cons_succ, List.getElem?_cons_succ, ih,
        List.take_succ_cons, List.reverse_cons, List.append_assoc, List.singleton_append, Nat.add_right_comm]
      rfl

/-- The entries are taken in their order, each with the number at which it stands. -/
theorem getElem?_occurrences (i : Nat) :
    (occurrences as)[i]? = as[i]?.map fun a => ⟨i, (as.take i).reverse, a⟩ := by
  rw [occurrences, getElem?_occurrencesFrom]
  simp only [Nat.zero_add, List.append_nil]

theorem occurrences_eq_map_zipIdx :
    occurrences as = as.zipIdx.map fun x => ⟨x.2, (as.take x.2).reverse, x.1⟩ := by
  refine List.ext_getElem? fun i => ?_
  rw [getElem?_occurrences, List.getElem?_map, List.getElem?_zipIdx, Option.map_map, Nat.zero_add]
  rfl

/-- The entries before a number are those with a smaller one. -/
theorem mem_before_iff {a : α} {i : Nat} :
    a ∈ (as.take i).reverse ↔ ∃ j < i, as[j]? = some a := by
  rw [List.mem_reverse, List.mem_iff_getElem?]
  refine exists_congr fun j => ?_
  rw [List.getElem?_take]
  by_cases hj : j < i <;> simp [hj]

/-- An entry stands in the list where its number says. -/
theorem getElem?_of_mem_occurrences {o : Occurrence α} (h : o ∈ occurrences as) :
    as[o.index]? = some o.entry := by
  obtain ⟨i, hi⟩ := List.mem_iff_getElem?.1 h
  rw [getElem?_occurrences, Option.map_eq_some_iff] at hi
  obtain ⟨a, ha, rfl⟩ := hi
  exact ha

/-- With an entry stand its number and the entries with a smaller one. -/
theorem eq_of_mem_occurrences {o : Occurrence α} (h : o ∈ occurrences as) :
    o = ⟨o.index, (as.take o.index).reverse, o.entry⟩ := by
  obtain ⟨i, hi⟩ := List.mem_iff_getElem?.1 h
  rw [getElem?_occurrences, Option.map_eq_some_iff] at hi
  obtain ⟨a, -, rfl⟩ := hi
  rfl

theorem map_index_occurrencesFrom :
    (occurrencesFrom index before as).map (·.index) = List.range' index as.length := by
  induction as generalizing index before with
  | nil => rfl
  | cons b as ih => rw [occurrencesFrom, List.map_cons, ih, List.length_cons, List.range'_succ]

/-- The numbers of the entries increase. -/
theorem pairwise_index_occurrences : ((occurrences as).map (·.index)).Pairwise (· < ·) := by
  rw [occurrences, map_index_occurrencesFrom]
  exact List.pairwise_lt_range'

theorem le_index_of_mem {o : Occurrence α} (h : o ∈ occurrencesFrom index before as) :
    index ≤ o.index := by
  have hmem : o.index ∈ (occurrencesFrom index before as).map (·.index) := List.mem_map_of_mem h
  rw [map_index_occurrencesFrom, List.mem_range'_1] at hmem
  exact hmem.1

theorem filter_index_occurrencesFrom (i : Nat) :
    (occurrencesFrom index before as).filter (·.index == index + i)
      = (occurrencesFrom index before as)[i]?.toList := by
  induction as generalizing index before i with
  | nil => rfl
  | cons b as ih =>
    rw [occurrencesFrom]
    cases i with
    | zero =>
      have hrest : (occurrencesFrom (index + 1) (b :: before) as).filter (·.index == index + 0)
          = [] := by
        refine List.filter_eq_nil_iff.2 fun o ho => ?_
        have := le_index_of_mem ho
        simp only [beq_iff_eq]
        omega
      rw [List.filter_cons_of_pos (by simp), hrest]
      rfl
    | succ i =>
      rw [List.filter_cons_of_neg (by simp), List.getElem?_cons_succ, ← ih, Nat.add_right_comm,
        Nat.add_assoc]

/-- A number is that of one entry at most, the one that stands there. -/
theorem filter_index_occurrences (i : Nat) :
    (occurrences as).filter (·.index == i) = (occurrences as)[i]?.toList := by
  have h : (occurrencesFrom 0 [] as).filter (·.index == 0 + i) = (occurrences as)[i]?.toList :=
    filter_index_occurrencesFrom i
  rwa [Nat.zero_add] at h

/-! ## Repeated keys -/

/-- Whether an earlier entry has the same key. -/
def Occurrence.repeatsKey {κ : Type} [BEq κ] (key : α → κ) (o : Occurrence α) : Bool :=
  o.before.any fun a => key a == key o.entry

variable {κ : Type} [BEq κ] [LawfulBEq κ] {key : α → κ}

theorem Occurrence.repeatsKey_eq_false {o : Occurrence α} :
    o.repeatsKey key = false ↔ ∀ a ∈ o.before, key a ≠ key o.entry := by
  simp [repeatsKey]

/-- An entry repeats an earlier one if one with a smaller number has its key. -/
theorem Occurrence.repeatsKey_iff {i : Nat} {a : α} :
    (⟨i, (as.take i).reverse, a⟩ : Occurrence α).repeatsKey key = true
      ↔ ∃ j < i, ∃ b, as[j]? = some b ∧ key b = key a := by
  rw [repeatsKey, List.any_eq_true]
  simp only [mem_before_iff, beq_iff_eq]
  constructor
  · rintro ⟨b, ⟨j, hj, hb⟩, hkey⟩
    exact ⟨j, hj, b, hb, hkey⟩
  · rintro ⟨j, hj, b, hb, hkey⟩
    exact ⟨b, ⟨j, hj, hb⟩, hkey⟩

theorem filter_repeatsKey_getElem?_ne_nil_iff {i : Nat} :
    (occurrences as)[i]?.toList.filter (·.repeatsKey key) ≠ []
      ↔ ∃ a, as[i]? = some a ∧ ∃ j < i, ∃ b, as[j]? = some b ∧ key b = key a := by
  rw [getElem?_occurrences]
  cases as[i]? with
  | none => simp
  | some a => simp [List.filter_cons, Occurrence.repeatsKey_iff]

/-- Keys are all different if no entry repeats an earlier one. -/
theorem filter_repeatsKey_eq_nil :
    (occurrences as).filter (·.repeatsKey key) = [] ↔ (as.map key).Nodup := by
  rw [List.filter_eq_nil_iff, List.Nodup, List.pairwise_map, ← forall_occurrences_iff_pairwise]
  simp only [Bool.not_eq_true, Occurrence.repeatsKey_eq_false]

/-- After entries with different keys, the first to repeat one is the second of its key. -/
theorem forall_isSecond_iff (h : (before.map key).Nodup) :
    (∀ o ∈ occurrencesFrom index before as, o.isSecond key = false)
      ↔ ∀ o ∈ occurrencesFrom index before as, o.repeatsKey key = false := by
  induction as generalizing index before with
  | nil => simp [occurrencesFrom]
  | cons b as ih =>
    have hcount : before.countP (fun a => key a == key b) ≤ 1 := by
      have := List.nodup_iff_count_le_one.1 h (key b)
      rwa [List.count, List.countP_map] at this
    have hfirst : (⟨index, before, b⟩ : Occurrence α).isSecond key = false
        ↔ (⟨index, before, b⟩ : Occurrence α).repeatsKey key = false := by
      simp only [Occurrence.isSecond, Occurrence.repeatsKey, beq_eq_false_iff_ne,
        List.any_eq_false, ← List.countP_eq_zero]
      omega
    simp only [occurrencesFrom, List.forall_mem_cons, hfirst]
    refine and_congr_right fun hfresh => ih ?_
    rw [List.map_cons, List.nodup_cons]
    refine ⟨fun hmem => ?_, h⟩
    obtain ⟨a, ha, hkey⟩ := List.mem_map.1 hmem
    exact Occurrence.repeatsKey_eq_false.1 hfresh a ha hkey

/-- Keys are all different if no entry is the second of its key. -/
theorem secondOccurrences_eq_nil : secondOccurrences key as = [] ↔ (as.map key).Nodup := by
  rw [← filter_repeatsKey_eq_nil, secondOccurrences, List.map_eq_nil_iff, List.filter_eq_nil_iff,
    List.filter_eq_nil_iff]
  simp only [Bool.not_eq_true]
  exact forall_isSecond_iff List.nodup_nil

end

/-! ## Second entries -/

section

variable {α κ : Type} [BEq κ] {as before : List α} {index : Nat} {key : α → κ}

theorem mem_of_mem_secondOccurrences {a : α} (h : a ∈ secondOccurrences key as) : a ∈ as := by
  obtain ⟨o, ho, rfl⟩ := List.mem_map.1 h
  exact List.mem_of_getElem? (getElem?_of_mem_occurrences (List.mem_of_mem_filter ho))

variable [LawfulBEq κ] {keep : α → Bool}

theorem filter_isSecond_occurrencesFrom (hkeep : ∀ a b, key a = key b → keep a = keep b) (i : Nat) :
    ((occurrencesFrom i (before.filter keep) (as.filter keep)).filter (·.isSecond key)).map (·.entry)
      = (((occurrencesFrom index before as).filter (·.isSecond key)).map (·.entry)).filter keep := by
  induction as generalizing before index i with
  | nil => rfl
  | cons b as ih =>
    by_cases hb : keep b = true
    · -- An entry that is kept has all the earlier ones of its key before it.
      have hcount : (before.filter keep).countP (fun a => key a == key b)
          = before.countP fun a => key a == key b := by
        rw [List.countP_filter]
        refine List.countP_congr fun a _ => ?_
        simp only [Bool.and_eq_true, beq_iff_eq, and_iff_left_iff_imp]
        exact fun hkey => (hkeep a b hkey).trans hb
      have hsecond : (⟨i, before.filter keep, b⟩ : Occurrence α).isSecond key
          = (⟨index, before, b⟩ : Occurrence α).isSecond key := by
        rw [Occurrence.isSecond, Occurrence.isSecond, hcount]
      have hrest := @ih (b :: before) (index + 1) (i + 1)
      rw [List.filter_cons_of_pos hb] at hrest
      rw [List.filter_cons_of_pos hb, occurrencesFrom, occurrencesFrom, List.filter_cons,
        List.filter_cons, hsecond]
      split
      · rw [List.map_cons, List.map_cons, List.filter_cons_of_pos hb, hrest]
      · exact hrest
    · have hrest := @ih (b :: before) (index + 1) i
      rw [List.filter_cons_of_neg hb] at hrest
      rw [List.filter_cons_of_neg hb, occurrencesFrom, List.filter_cons, hrest]
      split
      · rw [List.map_cons, List.filter_cons_of_neg hb]
      · rfl

/-- Leaving out all entries of some keys leaves out these second entries and no other. -/
theorem secondOccurrences_filter (hkeep : ∀ a b, key a = key b → keep a = keep b) :
    secondOccurrences key (as.filter keep) = (secondOccurrences key as).filter keep := by
  have h : ((occurrencesFrom 0 (([] : List α).filter keep) (as.filter keep)).filter
      (·.isSecond key)).map (·.entry) = (secondOccurrences key as).filter keep :=
    filter_isSecond_occurrencesFrom hkeep 0
  exact h

end

/-! ## Numbers within a key -/

section

variable {α κ : Type} [BEq κ] {as bs before : List α} {index : Nat} {key : α → κ}

namespace Occurrence

/-- How many earlier entries have the same key. -/
def earlier (key : α → κ) (o : Occurrence α) : Nat := (o.before.map key).count (key o.entry)

/-- The key of an entry and its number among the entries of that key. -/
def rank (key : α → κ) (o : Occurrence α) : κ × Nat := (key o.entry, o.earlier key)

theorem isSecond_eq (o : Occurrence α) : o.isSecond key = (o.earlier key == 1) := by
  rw [isSecond, earlier, List.count, List.countP_map]
  rfl

theorem repeatsKey_eq (o : Occurrence α) : o.repeatsKey key = (o.earlier key != 0) := by
  rw [Bool.eq_iff_iff, bne_iff_ne, ← Nat.pos_iff_ne_zero, earlier, List.count, List.countP_map,
    List.countP_pos_iff, repeatsKey, List.any_eq_true]
  rfl

end Occurrence

variable [LawfulBEq κ]

/-- The entries of a key have the numbers that follow those of the entries before. -/
theorem count_rank_occurrencesFrom (k : κ) (n : Nat) :
    ((occurrencesFrom index before as).map (·.rank key)).count (k, n)
      = if (before.map key).count k ≤ n ∧ n < (before.map key).count k + (as.map key).count k
        then 1 else 0 := by
  induction as generalizing index before with
  | nil =>
    rw [if_neg (by rw [List.map_nil, List.count_nil]; omega)]
    rfl
  | cons b as ih =>
    have hrank : (⟨index, before, b⟩ : Occurrence α).rank key
        = (key b, (before.map key).count (key b)) := rfl
    rw [occurrencesFrom, List.map_cons, List.count_cons, ih, hrank, List.map_cons, List.map_cons]
    -- An entry of the key takes the first of the numbers, and the rest go on from the next one.
    by_cases hkey : key b = k
    · subst hkey
      rw [List.count_cons_self, List.count_cons_self]
      by_cases hn : (before.map key).count (key b) = n
      · rw [if_neg (by omega), if_pos (by simp [hn]), if_pos (by omega)]
      · rw [if_neg (show ¬ ((_, _) == (_, _)) = true by simpa using hn), Nat.add_zero]
        exact if_congr (by omega) rfl rfl
    · rw [List.count_cons_of_ne hkey, List.count_cons_of_ne hkey,
        if_neg (show ¬ ((_, _) == (_, _)) = true by simp [hkey]), Nat.add_zero]

/-- **In another order, the keys have the same numbers.** -/
theorem perm_rank_occurrences (h : (as.map key).Perm (bs.map key)) :
    ((occurrences as).map (·.rank key)).Perm ((occurrences bs).map (·.rank key)) := by
  refine List.perm_iff_count.2 fun (k, n) => ?_
  rw [occurrences, occurrences, count_rank_occurrencesFrom, count_rank_occurrencesFrom,
    h.count_eq k]

theorem length_flatMap_occurrences {β : Type} {rule rule' : Occurrence α → List β}
    (number : κ × Nat → Nat) (hrule : ∀ o, (rule o).length = number (o.rank key))
    (hrule' : ∀ o, (rule' o).length = number (o.rank key)) (h : (as.map key).Perm (bs.map key)) :
    ((occurrences as).flatMap rule).length = ((occurrences bs).flatMap rule').length := by
  have hsum : ∀ (cs : List α) (r : Occurrence α → List β),
      (∀ o, (r o).length = number (o.rank key)) → ((occurrences cs).flatMap r).length
        = (((occurrences cs).map (·.rank key)).map number).sum := by
    intro cs r hr
    rw [List.length_flatMap, List.map_map]
    exact congrArg List.sum (List.map_congr_left fun o _ => hr o)
  rw [hsum as rule hrule, hsum bs rule' hrule', ((perm_rank_occurrences h).map number).sum_nat]

theorem length_filter_occurrences (p : κ × Nat → Bool) (h : (as.map key).Perm (bs.map key)) :
    ((occurrences as).filter fun o => p (o.rank key)).length
      = ((occurrences bs).filter fun o => p (o.rank key)).length := by
  have hcount : ∀ cs : List α, ((occurrences cs).filter fun o => p (o.rank key)).length
      = ((occurrences cs).map (·.rank key)).countP p := by
    intro cs
    rw [← List.countP_eq_length_filter, List.countP_map]
    rfl
  rw [hcount, hcount, (perm_rank_occurrences h).countP_eq]

theorem length_secondOccurrences_eq (h : (as.map key).Perm (bs.map key)) :
    (secondOccurrences key as).length = (secondOccurrences key bs).length := by
  simp only [secondOccurrences, List.length_map, Occurrence.isSecond_eq]
  exact length_filter_occurrences (fun x => x.2 == 1) h

theorem length_filter_repeatsKey_eq (h : (as.map key).Perm (bs.map key)) :
    ((occurrences as).filter (·.repeatsKey key)).length
      = ((occurrences bs).filter (·.repeatsKey key)).length := by
  simp only [Occurrence.repeatsKey_eq]
  exact length_filter_occurrences (fun x => x.2 != 0) h

end

/-! ## Positions of repetitions -/

section

variable {α κ : Type} [BEq κ] {as before : List α} {index : Nat} {key : α → κ}

/-- Whether a key stands at a position for the second time. -/
def IsSecondAt (keys : List κ) (i : Nat) : Prop :=
  ∃ k, keys[i]? = some k ∧ (keys.take i).count k = 1

/-- Whether these are the positions, in their order, at which a key is first repeated. Every key
that occurs more than once has one of them, and no other key has any. -/
structure Repetitions (keys : List κ) (positions : List Nat) : Prop where
  increasing : positions.Pairwise (· < ·)
  second : ∀ i, i ∈ positions ↔ IsSecondAt keys i
  once : ∀ k, positions.countP (fun i => keys[i]? == some k) = if 2 ≤ keys.count k then 1 else 0

/-- The positions of the entries that are the second of their key. -/
def secondPositions (key : α → κ) (as : List α) : List Nat :=
  ((occurrences as).filter (·.isSecond key)).map (·.index)

theorem increasing_secondPositions : (secondPositions key as).Pairwise (· < ·) :=
  pairwise_index_occurrences.sublist (List.filter_sublist.map _)

theorem forall₂_secondOccurrences :
    List.Forall₂ (fun i a => as[i]? = some a) (secondPositions key as)
      (secondOccurrences key as) := by
  rw [secondPositions, secondOccurrences, List.forall₂_map_left_iff, List.forall₂_map_right_iff,
    List.forall₂_same]
  intro o ho
  exact getElem?_of_mem_occurrences (List.mem_filter.1 ho).1

theorem Occurrence.isSecond_iff {i : Nat} {a : α} :
    (⟨i, (as.take i).reverse, a⟩ : Occurrence α).isSecond key = true
      ↔ ((as.map key).take i).count (key a) = 1 := by
  rw [isSecond_eq, earlier, beq_iff_eq, List.map_reverse, List.count_reverse, List.map_take]

theorem mem_secondPositions {i : Nat} :
    i ∈ secondPositions key as ↔ IsSecondAt (as.map key) i := by
  rw [secondPositions, List.mem_map, IsSecondAt, List.getElem?_map]
  constructor
  · rintro ⟨o, ho, rfl⟩
    obtain ⟨hmem, hsecond⟩ := List.mem_filter.1 ho
    have hentry := getElem?_of_mem_occurrences hmem
    rw [eq_of_mem_occurrences hmem, Occurrence.isSecond_iff] at hsecond
    exact ⟨key o.entry, by rw [hentry, Option.map_some], hsecond⟩
  · rintro ⟨k, hk, hcount⟩
    obtain ⟨a, ha, rfl⟩ := Option.map_eq_some_iff.1 hk
    have hat : (occurrences as)[i]? = some ⟨i, (as.take i).reverse, a⟩ := by
      rw [getElem?_occurrences, ha, Option.map_some]
    exact ⟨_, List.mem_filter.2 ⟨List.mem_of_getElem? hat, Occurrence.isSecond_iff.2 hcount⟩, rfl⟩

variable [LawfulBEq κ]

/-- Of a key that occurs more than once there is one second entry, and of another there is none. -/
theorem countP_isSecond (k : κ) :
    ((occurrences as).filter (·.isSecond key)).countP (fun o => key o.entry == k)
      = if 2 ≤ (as.map key).count k then 1 else 0 := by
  -- Among the entries of a key, the second is the one with the number one.
  have hrank : ∀ o : Occurrence α,
      (key o.entry == k && o.isSecond key) = (o.rank key == (k, 1)) := by
    intro o
    rw [Occurrence.isSecond_eq]
    rfl
  have hcount : ((occurrences as).filter (·.isSecond key)).countP (fun o => key o.entry == k)
      = ((occurrences as).map (·.rank key)).count (k, 1) := by
    rw [List.countP_filter, List.count, List.countP_map]
    exact List.countP_congr fun o _ => by rw [hrank o, Function.comp_apply]
  rw [hcount, occurrences, count_rank_occurrencesFrom, List.map_nil, List.count_nil]
  exact if_congr (by omega) rfl rfl

/-- The second entries have different keys. -/
theorem nodup_secondOccurrences : ((secondOccurrences key as).map key).Nodup := by
  rw [List.nodup_iff_count_le_one]
  intro k
  have hcount : ((secondOccurrences key as).map key).count k
      = if 2 ≤ (as.map key).count k then 1 else 0 := by
    rw [secondOccurrences, List.map_map, List.count, List.countP_map]
    exact countP_isSecond k
  rw [hcount]
  split <;> omega

/-- **The entries that are the second of their key stand where a key is first repeated.** -/
theorem repetitions_secondPositions : Repetitions (as.map key) (secondPositions key as) := by
  refine ⟨increasing_secondPositions, fun i => mem_secondPositions, fun k => ?_⟩
  rw [secondPositions, List.countP_map, ← countP_isSecond]
  refine List.countP_congr fun o ho => ?_
  rw [Function.comp_apply, List.getElem?_map,
    getElem?_of_mem_occurrences (List.mem_of_mem_filter ho), Option.map_some, Option.some_beq_some]

/-- Where entries are their own keys. -/
theorem repetitions_secondPositions_id {keys : List κ} :
    Repetitions keys (secondPositions id keys) := by
  have h : Repetitions (keys.map id) (secondPositions id keys) := repetitions_secondPositions
  rwa [List.map_id] at h

end

end GatewayAdmission
