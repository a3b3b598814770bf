import GatewayAdmission.Text.Split
import Mathlib.Data.List.Infix

/-!
# Segments behind separators

`Segments.join sep segments` writes every segment behind a separator of its own, as a path writes
its segments behind slashes. As long as no segment has the separator in it, what a text of this
form has between two separators is a segment other than the last (`Segments.between_infix_join`),
and what stands behind the last separator is the last segment (`Segments.behind_suffix_join`). So
**a segment is what stands between two separators or behind the last one** (`Segments.mem_iff`).

A reader of such a text goes the other way. A run of characters ends where the first one stands that
does not belong to it (`Text.append_inj_of_break`), `Text.splitAt` finds the segments again
(`Text.splitAt_intercalate`), and `Text.breakAtPair` breaks a text at the first place where two
given characters follow each other (`Text.breakAtPair_append`), which is in no text whose segments
are not empty (`Segments.pair_not_infix`).
-/

namespace GatewayAdmission

namespace Segments

variable {α : Type} {sep : α} {s t : List α} {segments : List (List α)}

/-- The segments, each behind a separator. -/
def join (sep : α) (segments : List (List α)) : List α := segments.flatMap (sep :: ·)

theorem join_cons (t : List α) (segments : List (List α)) :
    join sep (t :: segments) = sep :: (t ++ join sep segments) := by
  rw [join, List.flatMap_cons, List.cons_append, join]

theorem join_eq_nil : join sep segments = [] ↔ segments = [] := by
  cases segments with
  | nil => exact iff_of_true rfl rfl
  | cons t segments => rw [join_cons]; simp

/-- Segments behind separators are a separator and the segments with separators between them. -/
theorem join_eq_cons_intercalate (hne : segments ≠ []) :
    join sep segments = sep :: [sep].intercalate segments := by
  induction segments with
  | nil => exact absurd rfl hne
  | cons t segments ih =>
    rw [join_cons]
    cases segments with
    | nil => simp [join]
    | cons u segments => rw [ih (by simp), List.intercalate_cons_cons]; simp

theorem intercalate_cons (t : List α) (segments : List (List α)) :
    [sep].intercalate (t :: segments) = t ++ join sep segments := by
  have hjoin := @join_eq_cons_intercalate _ sep _ (List.cons_ne_nil t segments)
  rw [join_cons, List.cons.injEq] at hjoin
  exact hjoin.2.symm

/-- Every text behind a separator is made of segments. -/
theorem exists_join (sep : α) (w : List α) :
    ∃ segments, segments ≠ [] ∧ (∀ s ∈ segments, sep ∉ s) ∧ sep :: w = join sep segments := by
  induction w with
  | nil => exact ⟨[[]], by simp, by simp, rfl⟩
  | cons c w ih =>
    obtain ⟨segments, hne, hfree, hjoin⟩ := ih
    by_cases hc : c = sep
    · refine ⟨[] :: segments, by simp, by simpa using hfree, ?_⟩
      rw [join_cons, ← hjoin, hc, List.nil_append]
    · obtain ⟨t, rest, rfl⟩ := List.exists_cons_of_ne_nil hne
      rw [List.forall_mem_cons] at hfree
      rw [join_cons, List.cons.injEq] at hjoin
      refine ⟨(c :: t) :: rest, by simp, ?_, by rw [join_cons, List.cons_append, ← hjoin.2]⟩
      rw [List.forall_mem_cons]
      exact ⟨by simp [Ne.symm hc, hfree.1], hfree.2⟩

/-! ## Between two separators -/

/-- What begins with a separator does not begin inside a segment. -/
theorem infix_append_iff (ht : sep ∉ t) {p w : List α} :
    sep :: p <:+: t ++ w ↔ sep :: p <:+: w := by
  induction t with
  | nil => rfl
  | cons c t ih =>
    rw [List.mem_cons, not_or] at ht
    have hstart : ¬ sep :: p <+: c :: (t ++ w) := fun h => ht.1 (List.cons_prefix_cons.1 h).1
    rw [List.cons_append, List.infix_cons_iff, ih ht.2]
    exact or_iff_right hstart

/-- What stands in front of the first separator is the first segment. -/
theorem prefix_append_join_iff (hs : sep ∉ s) (ht : sep ∉ t) :
    s ++ [sep] <+: t ++ join sep segments ↔ s = t ∧ segments ≠ [] := by
  induction s generalizing t with
  | nil =>
    cases t with
    | nil =>
      cases segments with
      | nil => simp [join]
      | cons u segments => simp [join_cons]
    | cons c t =>
      have hc : sep ≠ c := fun h => ht (h ▸ List.mem_cons_self)
      simp [hc]
  | cons d s ih =>
    rw [List.mem_cons, not_or] at hs
    cases t with
    | nil =>
      cases segments with
      | nil => simp [join]
      | cons u segments => simp [join_cons, Ne.symm hs.1]
    | cons c t =>
      rw [List.mem_cons, not_or] at ht
      rw [List.cons_append, List.cons_append, List.cons_prefix_cons, ih hs.2 ht.2, List.cons.injEq,
        and_assoc]

/-- **Between two separators stands a segment that is not the last.** -/
theorem between_infix_join (hs : sep ∉ s) (hfree : ∀ t ∈ segments, sep ∉ t) :
    sep :: (s ++ [sep]) <:+: join sep segments ↔ s ∈ segments.dropLast := by
  induction segments with
  | nil => simp [join]
  | cons t segments ih =>
    rw [List.forall_mem_cons] at hfree
    rw [join_cons, List.infix_cons_iff, List.cons_prefix_cons, infix_append_iff hfree.1,
      prefix_append_join_iff hs hfree.1, ih hfree.2]
    cases segments with
    | nil => simp
    | cons u segments => simp

/-! ## Behind the last separator -/

theorem suffix_append_iff (ht : sep ∉ t) {p w : List α} :
    sep :: p <:+ t ++ w ↔ sep :: p <:+ w := by
  induction t with
  | nil => rfl
  | cons c t ih =>
    rw [List.mem_cons, not_or] at ht
    have hwhole : ¬ sep :: p = c :: (t ++ w) := fun h => ht.1 (List.cons.inj h).1
    rw [List.cons_append, List.suffix_cons_iff, ih ht.2]
    exact or_iff_right hwhole

/-- **Behind the last separator stands the last segment.** -/
theorem behind_suffix_join (hs : sep ∉ s) (hfree : ∀ t ∈ segments, sep ∉ t) :
    sep :: s <:+ join sep segments ↔ segments.getLast? = some s := by
  induction segments with
  | nil => simp [join]
  | cons t segments ih =>
    rw [List.forall_mem_cons] at hfree
    rw [join_cons, List.suffix_cons_iff, suffix_append_iff hfree.1, ih hfree.2]
    cases segments with
    | nil => simp [join, eq_comm]
    | cons u segments =>
      have hwhole : ¬ sep :: s = sep :: (t ++ join sep (u :: segments)) := by
        intro h
        rw [List.cons.injEq, join_cons] at h
        exact hs (by simp [h.2])
      rw [List.getLast?_cons_cons]
      exact or_iff_right hwhole

/-- **Every segment stands between two separators or behind the last one.** -/
theorem mem_iff (hs : sep ∉ s) (hfree : ∀ t ∈ segments, sep ∉ t) : s ∈ segments
    ↔ sep :: (s ++ [sep]) <:+: join sep segments ∨ sep :: s <:+ join sep segments := by
  rw [between_infix_join hs hfree, behind_suffix_join hs hfree]
  cases segments with
  | nil => simp
  | cons t segments =>
    have hlast : (t :: segments).dropLast ++ [(t :: segments).getLast (by simp)] = t :: segments :=
      List.dropLast_append_getLast (by simp)
    rw [List.getLast?_eq_some_getLast (by simp), Option.some.injEq]
    conv_lhs => rw [← hlast, List.mem_append, List.mem_singleton]
    rw [eq_comm (a := s)]

/-! ## No empty segment -/

/-- Segments that are not empty have no two separators in a row, not even before another one. -/
theorem pair_not_infix (hfree : ∀ t ∈ segments, sep ∉ t) (hne : [] ∉ segments) :
    ¬ [sep, sep] <:+: [sep].intercalate segments ++ [sep] := by
  rcases eq_or_ne segments [] with rfl | hsegments
  · intro h
    exact absurd h.length_le (by simp)
  · -- With an empty segment at the end, the separators that the text is put between are there too.
    have hjoin : join sep (segments ++ [[]]) = sep :: ([sep].intercalate segments ++ [sep]) := by
      rw [← List.cons_append, ← join_eq_cons_intercalate hsegments, join, List.flatMap_append]
      rfl
    intro h
    have hinside : sep :: ([] ++ [sep]) <:+: join sep (segments ++ [[]]) := by
      rw [hjoin]
      exact h.trans (List.suffix_cons _ _).isInfix
    have hall : ∀ t ∈ segments ++ [[]], sep ∉ t := List.forall_mem_append.2 ⟨hfree, by simp⟩
    rw [between_infix_join (by simp) hall, List.dropLast_concat] at hinside
    exact hne hinside

theorem mem_intercalate {c : α} (h : c ∈ [sep].intercalate segments) :
    c = sep ∨ ∃ t ∈ segments, c ∈ t := by
  rcases eq_or_ne segments [] with rfl | hsegments
  · exact absurd h (by simp)
  · have hjoin : c ∈ join sep segments := by
      rw [join_eq_cons_intercalate hsegments]
      exact List.mem_cons_of_mem _ h
    obtain ⟨t, ht, hc⟩ := List.mem_flatMap.1 hjoin
    exact (List.mem_cons.1 hc).imp_right fun hc => ⟨t, ht, hc⟩

theorem mem_intercalate_of_mem {c : α} (hs : s ∈ segments) (hc : c ∈ s) :
    c ∈ [sep].intercalate segments := by
  cases segments with
  | nil => exact absurd hs (by simp)
  | cons t segments =>
    rw [intercalate_cons, List.mem_append]
    rcases List.mem_cons.1 hs with rfl | hs
    · exact Or.inl hc
    · exact Or.inr (List.mem_flatMap.2 ⟨s, hs, List.mem_cons_of_mem _ hc⟩)

theorem mem_intercalate_of_two_le (h : 2 ≤ segments.length) : sep ∈ [sep].intercalate segments := by
  match segments, h with
  | t :: u :: rest, _ => simp [List.intercalate_cons_cons]

/-- Every segment has a separator in front of it. -/
theorem length_join_le {k : Nat} (h : ∀ t ∈ segments, t.length ≤ k) :
    (join sep segments).length ≤ segments.length * (k + 1) := by
  induction segments with
  | nil => simp [join]
  | cons t segments ih =>
    rw [List.forall_mem_cons] at h
    have hrest := ih h.2
    rw [join_cons, List.length_cons, List.length_append, List.length_cons, Nat.add_mul]
    omega

theorem length_intercalate_le {k : Nat} (h : ∀ t ∈ segments, t.length ≤ k) :
    ([sep].intercalate segments).length ≤ segments.length * (k + 1) := by
  rcases eq_or_ne segments [] with rfl | hsegments
  · simp
  · have hjoin := @length_join_le _ sep _ _ h
    rw [join_eq_cons_intercalate hsegments, List.length_cons] at hjoin
    exact Nat.le_of_succ_le hjoin

end Segments

/-! ## Reading -/

namespace Text

section

variable {α : Type} {p : α → Bool} {run run' rest rest' : List α}

/-- What is read as long as a condition holds is a run of entries that meet it, if the text ends
there or goes on with an entry that does not. -/
theorem takeWhile_append_of_break (hrun : ∀ a ∈ run, p a = true)
    (hrest : ∀ a ∈ rest.head?, p a = false) : (run ++ rest).takeWhile p = run := by
  have hnone : rest.takeWhile p = [] := by
    cases rest with
    | nil => rfl
    | cons a rest => simp [hrest a rfl]
  rw [List.takeWhile_append_of_pos hrun, hnone, List.append_nil]

theorem dropWhile_append_of_break (hrun : ∀ a ∈ run, p a = true)
    (hrest : ∀ a ∈ rest.head?, p a = false) : (run ++ rest).dropWhile p = rest := by
  have hsplit := @List.takeWhile_append_dropWhile _ p (run ++ rest)
  rw [takeWhile_append_of_break hrun hrest] at hsplit
  exact List.append_cancel_left hsplit

/-- A run is told apart from what follows it. -/
theorem append_inj_of_break (hrun : ∀ a ∈ run, p a = true) (hrun' : ∀ a ∈ run', p a = true)
    (hrest : ∀ a ∈ rest.head?, p a = false) (hrest' : ∀ a ∈ rest'.head?, p a = false)
    (h : run ++ rest = run' ++ rest') : run = run' ∧ rest = rest' := by
  have hsame : run = run' := by
    rw [← takeWhile_append_of_break hrun hrest, h, takeWhile_append_of_break hrun' hrest']
  subst hsame
  exact ⟨rfl, List.append_cancel_left h⟩

end

variable {a b sep : Char} {u v w : List Char}

theorem splitAt_eq_splitOn (sep : Char) (w : List Char) : splitAt sep w = w.splitOn sep := by
  induction w with
  | nil => rfl
  | cons c w ih =>
    rw [List.splitOn_cons_eq_if_modifyHead, ← ih, splitAt]
    by_cases hc : c = sep
    · simp [hc]
    · rw [if_neg hc, if_neg (by simpa using hc)]
      obtain ⟨t, rest, hsplit⟩ := List.exists_cons_of_ne_nil (ih ▸ List.splitOn_ne_nil sep w)
      rw [hsplit]
      rfl

/-- Parts with separators between them are found again. -/
theorem splitAt_intercalate {parts : List (List Char)} (hne : parts ≠ [])
    (hfree : ∀ p ∈ parts, sep ∉ p) : splitAt sep ([sep].intercalate parts) = parts := by
  rw [splitAt_eq_splitOn, List.splitOn_intercalate sep hfree hne]

theorem intercalate_splitAt : [sep].intercalate (splitAt sep w) = w := by
  rw [splitAt_eq_splitOn, List.intercalate_splitOn]

theorem splitAt_ne_nil : splitAt sep w ≠ [] := by
  rw [splitAt_eq_splitOn]
  exact List.splitOn_ne_nil sep w

theorem eq_append_of_breakAtPair (h : breakAtPair a b w = some (u, v)) : w = u ++ a :: b :: v := by
  induction w generalizing u with
  | nil => exact absurd h (by simp [breakAtPair])
  | cons c w ih =>
    cases w with
    | nil => exact absurd h (by simp [breakAtPair])
    | cons d w =>
      rw [breakAtPair] at h
      split at h
      · rename_i hpair
        obtain ⟨rfl, rfl⟩ := hpair
        cases h
        rfl
      · obtain ⟨⟨u', v'⟩, hrest, hsome⟩ := Option.map_eq_some_iff.1 h
        cases hsome
        rw [ih hrest, List.cons_append]

/-- A text is broken at the first place where the characters follow each other. -/
theorem breakAtPair_append (h : ¬ [a, b] <:+: u ++ [a]) :
    breakAtPair a b (u ++ a :: b :: v) = some (u, v) := by
  induction u with
  | nil => simp [breakAtPair]
  | cons c u ih =>
    rw [List.cons_append, List.infix_cons_iff, not_or] at h
    obtain ⟨d, rest, hrest⟩ := List.exists_cons_of_ne_nil (show u ++ a :: b :: v ≠ [] by simp)
    have hd : (u ++ [a]).head? = some d := by
      have hhead := congrArg List.head? hrest
      cases u <;> simpa using hhead
    have hpair : ¬ (c = a ∧ d = b) := by
      rintro ⟨rfl, rfl⟩
      obtain ⟨tail, htail⟩ := List.head?_eq_some_iff.1 hd
      exact h.1 (by simp [htail])
    rw [List.cons_append, hrest, breakAtPair, if_neg hpair, ← hrest, ih h.2]
    rfl

theorem breakAtPair_eq_none (h : ¬ [a, b] <:+: w) : breakAtPair a b w = none := by
  cases hbreak : breakAtPair a b w with
  | none => rfl
  | some parts =>
    obtain ⟨u, v⟩ := parts
    refine absurd ?_ h
    rw [eq_append_of_breakAtPair hbreak]
    exact ⟨u, v, by simp⟩

end Text

end GatewayAdmission
