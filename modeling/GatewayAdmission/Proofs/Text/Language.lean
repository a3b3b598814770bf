import GatewayAdmission.Proofs.Text.Segments
import GatewayAdmission.Text.Pattern
import Mathlib.Computability.Language

/-!
# The language of a pattern

`Pattern.language` is the set of texts that have the form of a pattern, defined on the pattern.
**`Pattern.accepts` decides it** (`Pattern.accepts_iff`): the residuals of a pattern after a
character have, taken together, the texts that may follow the character
(`Pattern.cons_mem_language`), and reading a text goes from residuals to residuals.

What a text of the language is made of is seen on the pattern too: parts of one form with a
separator between them are an intercalation (`Pattern.mem_separated`), and `Pattern.uses` says
whether a character can occur in a text at all.
-/

namespace GatewayAdmission

namespace Pattern

open Computability

/-- The texts of the form. -/
def language : Pattern → Language Char
  | empty => 1
  | one ranges => {w | ∃ c, inRanges ranges c = true ∧ w = [c]}
  | seq p q => p.language * q.language
  | either p q => p.language + q.language
  | many p => p.language∗

/-! ## Reading a text -/

theorem nil_mem_language (p : Pattern) : [] ∈ p.language ↔ p.acceptsEmpty = true := by
  induction p with
  | empty => exact iff_of_true Language.nil_mem_one rfl
  | one ranges =>
    refine iff_of_false ?_ Bool.false_ne_true
    rintro ⟨c, -, h⟩
    exact absurd h (by simp)
  | seq p q ihp ihq =>
    rw [language, acceptsEmpty, Bool.and_eq_true, ← ihp, ← ihq, Language.mem_mul]
    constructor
    · rintro ⟨a, ha, b, hb, h⟩
      obtain ⟨rfl, rfl⟩ := List.append_eq_nil_iff.1 h
      exact ⟨ha, hb⟩
    · rintro ⟨ha, hb⟩
      exact ⟨[], ha, [], hb, rfl⟩
  | either p q ihp ihq =>
    rw [language, acceptsEmpty, Bool.or_eq_true, ← ihp, ← ihq, Language.mem_add]
  | many p _ => exact iff_of_true (Language.nil_mem_kstar _) rfl

theorem language_andThen (p q : Pattern) : (andThen p q).language = p.language * q.language := by
  cases p with
  | empty => exact (one_mul q.language).symm
  | one ranges => rfl
  | seq p p' => rfl
  | either p p' => rfl
  | many p => rfl

/-- A text of a repetition starts with a text that is repeated, and goes on as a repetition. -/
theorem cons_mem_kstar {l : Language Char} {c : Char} {w : List Char} :
    c :: w ∈ l∗ ↔ ∃ u v, c :: u ∈ l ∧ v ∈ l∗ ∧ u ++ v = w := by
  constructor
  · intro h
    obtain ⟨parts, hparts, hmem⟩ := Language.mem_kstar_iff_exists_nonempty.1 h
    cases parts with
    | nil => exact absurd hparts (by simp)
    | cons part parts =>
      obtain ⟨hpart, hne⟩ := hmem part (by simp)
      obtain ⟨d, u, rfl⟩ := List.exists_cons_of_ne_nil hne
      rw [List.flatten_cons, List.cons_append, List.cons.injEq] at hparts
      obtain ⟨rfl, hw⟩ := hparts
      exact ⟨u, parts.flatten, hpart,
        Language.join_mem_kstar fun y hy => (hmem y (by simp [hy])).1, hw.symm⟩
  · rintro ⟨u, v, hu, hv, rfl⟩
    have h : (c :: u) ++ v ∈ l * l∗ := Language.append_mem_mul hu hv
    rw [← Language.one_add_self_mul_kstar_eq_kstar]
    exact Or.inr h

/-- What may follow a character where something else comes after the pattern. -/
theorem exists_mem_map_andThen {p q : Pattern} {c : Char} {w : List Char}
    (ih : ∀ u, c :: u ∈ p.language ↔ ∃ r ∈ p.residuals c, u ∈ r.language) :
    (∃ r ∈ (p.residuals c).map (andThen · q), w ∈ r.language)
      ↔ ∃ u v, c :: u ∈ p.language ∧ v ∈ q.language ∧ u ++ v = w := by
  constructor
  · rintro ⟨r, hr, hw⟩
    obtain ⟨p', hp', rfl⟩ := List.mem_map.1 hr
    rw [language_andThen, Language.mem_mul] at hw
    obtain ⟨u, hu, v, hv, rfl⟩ := hw
    exact ⟨u, v, (ih u).2 ⟨p', hp', hu⟩, hv, rfl⟩
  · rintro ⟨u, v, hu, hv, rfl⟩
    obtain ⟨r, hr, hu⟩ := (ih u).1 hu
    refine ⟨andThen r q, List.mem_map_of_mem hr, ?_⟩
    rw [language_andThen]
    exact Language.append_mem_mul hu hv

/-- The residuals after a character have the texts that may follow it. -/
theorem cons_mem_language (p : Pattern) (c : Char) (w : List Char) :
    c :: w ∈ p.language ↔ ∃ r ∈ p.residuals c, w ∈ r.language := by
  induction p generalizing w with
  | empty => simp [language, residuals, Language.mem_one]
  | one ranges =>
    rw [residuals]
    constructor
    · rintro ⟨d, hd, h⟩
      obtain ⟨rfl, rfl⟩ := List.cons.inj h
      exact ⟨empty, by simp [hd], Language.nil_mem_one⟩
    · rintro ⟨r, hr, hw⟩
      split at hr
      · rename_i hc
        obtain rfl := List.mem_singleton.1 hr
        exact ⟨c, hc, by rw [(Language.mem_one w).1 hw]⟩
      · exact absurd hr (by simp)
  | seq p q ihp ihq =>
    simp only [residuals, List.mem_append, or_and_right, exists_or]
    rw [exists_mem_map_andThen ihp, language, Language.mem_mul]
    constructor
    · rintro ⟨a, ha, b, hb, h⟩
      cases a with
      | nil =>
        rw [List.nil_append] at h
        rw [h] at hb
        refine Or.inr ?_
        rw [if_pos ((nil_mem_language p).1 ha)]
        exact (ihq w).1 hb
      | cons d u =>
        obtain ⟨rfl, rfl⟩ := List.cons.inj h
        exact Or.inl ⟨u, b, ha, hb, rfl⟩
    · rintro (⟨u, v, hu, hv, rfl⟩ | ⟨r, hr, hw⟩)
      · exact ⟨c :: u, hu, v, hv, rfl⟩
      · split at hr
        · rename_i hempty
          exact ⟨[], (nil_mem_language p).2 hempty, c :: w, (ihq w).2 ⟨r, hr, hw⟩, rfl⟩
        · exact absurd hr (by simp)
  | either p q ihp ihq =>
    simp only [residuals, List.mem_append, or_and_right, exists_or]
    rw [language, Language.mem_add, ihp, ihq]
  | many p ih => rw [residuals, exists_mem_map_andThen ih, language, cons_mem_kstar]

theorem anyAccepts_iff (ps : List Pattern) (w : List Char) :
    anyAccepts ps w = true ↔ ∃ p ∈ ps, w ∈ p.language := by
  induction w generalizing ps with
  | nil => simp only [anyAccepts, List.any_eq_true, nil_mem_language]
  | cons c w ih =>
    rw [anyAccepts, ih]
    simp only [List.mem_eraseDups, List.mem_flatMap, cons_mem_language]
    constructor
    · rintro ⟨r, ⟨p, hp, hr⟩, hw⟩
      exact ⟨p, hp, r, hr, hw⟩
    · rintro ⟨p, hp, r, hr, hw⟩
      exact ⟨r, ⟨p, hp, hr⟩, hw⟩

/-- **A pattern accepts exactly the texts of its language.** -/
theorem accepts_iff (p : Pattern) (s : String) :
    p.accepts s = true ↔ s.toList ∈ p.language := by
  rw [accepts, anyAccepts_iff]
  simp

/-! ## Words -/

/-- The texts of a repeated class are those of its characters. -/
theorem mem_many_one {ranges : List (Char × Char)} {w : List Char} :
    w ∈ (many (one ranges)).language ↔ ∀ c ∈ w, inRanges ranges c = true := by
  induction w with
  | nil => exact iff_of_true (Language.nil_mem_kstar _) (by simp)
  | cons c w ih =>
    rw [language] at ih ⊢
    rw [cons_mem_kstar, List.forall_mem_cons, ← ih]
    constructor
    · rintro ⟨u, v, ⟨d, hd, h⟩, hv, rfl⟩
      obtain ⟨rfl, rfl⟩ := List.cons.inj h
      exact ⟨hd, hv⟩
    · rintro ⟨hc, hw⟩
      exact ⟨[], w, ⟨c, hc, rfl⟩, hw, rfl⟩

/-- One character of a class, and what follows it. -/
theorem mem_seq_one {ranges : List (Char × Char)} {q : Pattern} {w : List Char} :
    w ∈ (seq (one ranges) q).language
      ↔ ∃ c v, inRanges ranges c = true ∧ v ∈ q.language ∧ w = c :: v := by
  rw [language, Language.mem_mul]
  constructor
  · rintro ⟨_, ⟨c, hc, rfl⟩, v, hv, rfl⟩
    exact ⟨c, v, hc, hv, rfl⟩
  · rintro ⟨c, v, hc, hv, rfl⟩
    exact ⟨[c], ⟨c, hc, rfl⟩, v, hv, rfl⟩

/-- The texts of a word: a character that may start it, and others that may follow. -/
theorem cons_mem_word {start more : List (Char × Char)} {c : Char} {w : List Char} :
    c :: w ∈ (seq (one start) (many (one more))).language
      ↔ inRanges start c = true ∧ ∀ d ∈ w, inRanges more d = true := by
  rw [mem_seq_one, ← mem_many_one]
  constructor
  · rintro ⟨_, _, hc, hw, ⟨⟩⟩
    exact ⟨hc, hw⟩
  · rintro ⟨hc, hw⟩
    exact ⟨c, w, hc, hw, rfl⟩

/-- What is not empty occurs at least once if it occurs any number of times. -/
theorem mem_atLeastOnce {p : Pattern} {w : List Char} (h : w ≠ []) :
    w ∈ (atLeastOnce p).language ↔ w ∈ (many p).language := by
  have hsplit : w ∈ p.language∗ ↔ w ∈ (1 : Language Char) ∨ w ∈ p.language * p.language∗ := by
    rw [← Language.mem_add, Language.one_add_self_mul_kstar_eq_kstar]
  rw [atLeastOnce, language, language, hsplit, Language.mem_one]
  exact (or_iff_right h).symm

/-! ## Parts with separators between them -/

theorem inRanges_single {c d : Char} : inRanges [(c, c)] d = true ↔ d = c := by
  have hboth : c ≤ d ∧ d ≤ c ↔ d = c :=
    ⟨fun h => Char.le_antisymm h.2 h.1, fun h => ⟨h ▸ Char.le_refl d, h ▸ Char.le_refl d⟩⟩
  simpa [inRanges] using hboth

/-- A given character, and what follows it. -/
theorem mem_seq_char {c : Char} {q : Pattern} {w : List Char} :
    w ∈ (seq (char c) q).language ↔ ∃ v ∈ q.language, w = c :: v := by
  rw [char, mem_seq_one]
  simp only [inRanges_single]
  constructor
  · rintro ⟨_, v, rfl, hv, rfl⟩
    exact ⟨v, hv, rfl⟩
  · rintro ⟨v, hv, rfl⟩
    exact ⟨c, v, rfl, hv, rfl⟩

/-- Parts that each stand behind a separator, any number of them. -/
theorem mem_many_seq_char {sep : Char} {p : Pattern} {w : List Char} :
    w ∈ (many (seq (char sep) p)).language
      ↔ ∃ parts, (∀ v ∈ parts, v ∈ p.language) ∧ w = Segments.join sep parts := by
  rw [language, Language.mem_kstar]
  constructor
  · rintro ⟨pieces, rfl, hpieces⟩
    induction pieces with
    | nil => exact ⟨[], by simp, rfl⟩
    | cons piece pieces ih =>
      rw [List.forall_mem_cons, mem_seq_char] at hpieces
      obtain ⟨⟨v, hv, rfl⟩, hrest⟩ := hpieces
      obtain ⟨parts, hparts, hjoin⟩ := ih hrest
      refine ⟨v :: parts, List.forall_mem_cons.2 ⟨hv, hparts⟩, ?_⟩
      rw [List.flatten_cons, hjoin, Segments.join_cons, List.cons_append]
  · rintro ⟨parts, hparts, rfl⟩
    refine ⟨parts.map (sep :: ·), by rw [Segments.join, List.flatMap_def], fun piece hpiece => ?_⟩
    obtain ⟨v, hv, rfl⟩ := List.mem_map.1 hpiece
    exact mem_seq_char.2 ⟨v, hparts v hv, rfl⟩

/-- **One or more parts with a separator between any two of them.** -/
theorem mem_separated {sep : Char} {p : Pattern} {w : List Char} :
    w ∈ (seq p (many (seq (char sep) p))).language
      ↔ ∃ parts, parts ≠ [] ∧ (∀ v ∈ parts, v ∈ p.language) ∧ w = [sep].intercalate parts := by
  rw [language, Language.mem_mul]
  simp only [mem_many_seq_char]
  constructor
  · rintro ⟨v, hv, _, ⟨parts, hparts, rfl⟩, rfl⟩
    exact ⟨v :: parts, by simp, List.forall_mem_cons.2 ⟨hv, hparts⟩,
      (Segments.intercalate_cons v parts).symm⟩
  · rintro ⟨parts, hne, hparts, rfl⟩
    obtain ⟨v, parts, rfl⟩ := List.exists_cons_of_ne_nil hne
    rw [List.forall_mem_cons] at hparts
    exact ⟨v, hparts.1, _, ⟨parts, hparts.2, rfl⟩, (Segments.intercalate_cons v parts).symm⟩

/-! ## The characters of a text -/

/-- Whether a character can occur in a text of the form. -/
def uses (c : Char) : Pattern → Bool
  | empty => false
  | one ranges => inRanges ranges c
  | seq p q => p.uses c || q.uses c
  | either p q => p.uses c || q.uses c
  | many p => p.uses c

theorem uses_of_mem {p : Pattern} {w : List Char} (h : w ∈ p.language) {c : Char} (hc : c ∈ w) :
    p.uses c = true := by
  induction p generalizing w with
  | empty =>
    rw [(Language.mem_one w).1 h] at hc
    exact absurd hc (by simp)
  | one ranges =>
    obtain ⟨d, hd, rfl⟩ := h
    rwa [List.mem_singleton.1 hc]
  | seq p q ihp ihq =>
    obtain ⟨a, ha, b, hb, rfl⟩ := Language.mem_mul.1 h
    rw [uses, Bool.or_eq_true]
    rcases List.mem_append.1 hc with hc | hc
    · exact Or.inl (ihp ha hc)
    · exact Or.inr (ihq hb hc)
  | either p q ihp ihq =>
    rw [uses, Bool.or_eq_true]
    rcases h with h | h
    · exact Or.inl (ihp h hc)
    · exact Or.inr (ihq h hc)
  | many p ih =>
    obtain ⟨parts, rfl, hparts⟩ := Language.mem_kstar.1 h
    obtain ⟨part, hpart, hc⟩ := List.mem_flatten.1 hc
    exact ih (hparts part hpart) hc

/-- A character that the pattern does not use occurs in none of its texts. -/
theorem not_mem_of_mem_language {p : Pattern} {c : Char} (hc : p.uses c = false) {w : List Char}
    (h : w ∈ p.language) : c ∉ w := by
  intro hmem
  have := uses_of_mem h hmem
  rw [hc] at this
  exact Bool.false_ne_true this

end Pattern

end GatewayAdmission
