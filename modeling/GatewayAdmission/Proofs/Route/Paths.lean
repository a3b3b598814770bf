import GatewayAdmission.Proofs.Route.HttpAcceptance
import GatewayAdmission.Proofs.Text.Segments
import Mathlib.Data.Char

/-!
# Paths that are matched as they are written

**A path that is matched as a whole or by its beginning is accepted exactly if it is absolute and
normalized** (`PathMatch.literal_normalized_iff`): segments behind slashes, none of which is a step
to the same or the parent directory, and none of which is empty but possibly the last.

The rules look at the text of the path, not at its segments: for parts that must not occur in it,
for ends that it must not have, and for its characters. A part with a slash at both ends is a
segment other than the last, and an end behind a slash is the last segment (`Segments.mem_iff`).
Characters are a matter of each segment, because a slash is never part of an escape
(`Spelled.join_iff`), and so is the escape of a slash, because no escape begins inside another
(`Spelled.without_iff`).
-/

namespace GatewayAdmission

open scoped Computability

namespace PathMatch

/-! ## What is expected -/

/-- Texts of plain characters and of escapes, which are percent signs with two more characters. -/
inductive Spelled (plain : Char → Prop) (escape : Char → Char → Prop) : List Char → Prop
  | nil : Spelled plain escape []
  | character {c : Char} {w : List Char} (hc : plain c) (hw : Spelled plain escape w) :
    Spelled plain escape (c :: w)
  | escaped {a b : Char} {w : List Char} (h : escape a b) (hw : Spelled plain escape w) :
    Spelled plain escape ('%' :: a :: b :: w)

/-- Letters, digits and the other characters that stand for themselves in a segment. -/
def IsPlain (c : Char) : Prop := c.isAlphanum = true ∨ c ∈ "-._~!$&'()*+,;=:@".toList

def IsHexDigit (c : Char) : Prop :=
  c.isDigit = true ∨ ('a' ≤ c ∧ c ≤ 'f') ∨ ('A' ≤ c ∧ c ≤ 'F')

/-- The two digits of a slash. -/
def IsSlashCode (a b : Char) : Prop := a = '2' ∧ (b = 'f' ∨ b = 'F')

/-- What a segment is spelled with: any escape but that of the slash. -/
def IsSegment (s : List Char) : Prop :=
  Spelled IsPlain (fun a b => (IsHexDigit a ∧ IsHexDigit b) ∧ ¬ IsSlashCode a b) s

/-- Whether a path is absolute, and nothing in it is left to be resolved. -/
def IsNormalized (value : String) : Prop :=
  ∃ segments : List (List Char), segments ≠ []
    ∧ value.toList = '/' :: ['/'].intercalate segments
    ∧ (∀ s ∈ segments, IsSegment s ∧ s ≠ ['.'] ∧ s ≠ ['.', '.'])
    ∧ ∀ s ∈ segments.dropLast, s ≠ []

/-! ## Spelling -/

namespace Spelled

variable {plain plain' : Char → Prop} {escape escape' : Char → Char → Prop} {u v w : List Char}

theorem mono (h : Spelled plain escape w) (hplain : ∀ c ∈ w, plain c → plain' c)
    (hescape : ∀ a b, escape a b → escape' a b) : Spelled plain' escape' w := by
  induction h with
  | nil => exact nil
  | character hc _ ih =>
    rw [List.forall_mem_cons] at hplain
    exact character (hplain.1 hc) (ih hplain.2)
  | escaped h _ ih =>
    simp only [List.forall_mem_cons] at hplain
    exact escaped (hescape _ _ h) (ih hplain.2.2.2)

/-- What holds of all plain characters and of those of escapes holds of the whole text. -/
theorem forall_mem {P : Char → Prop} (h : Spelled plain escape w) (hplain : ∀ c, plain c → P c)
    (hpercent : P '%') (hescape : ∀ a b, escape a b → P a ∧ P b) : ∀ c ∈ w, P c := by
  induction h with
  | nil => simp
  | character hc _ ih => exact List.forall_mem_cons.2 ⟨hplain _ hc, ih⟩
  | escaped h _ ih =>
    simp only [List.forall_mem_cons]
    exact ⟨hpercent, (hescape _ _ h).1, (hescape _ _ h).2, ih⟩

theorem append (hu : Spelled plain escape u) (hv : Spelled plain escape v) :
    Spelled plain escape (u ++ v) := by
  induction hu with
  | nil => exact hv
  | character hc _ ih => exact character hc ih
  | escaped h _ ih => exact escaped h ih

/-! ### Slashes -/

section

variable (hescape : ∀ a b, escape a b → a ≠ '/' ∧ b ≠ '/')
include hescape

/-- In front of a slash, no escape is cut in two. -/
theorem of_append_slash (h : Spelled plain escape (u ++ '/' :: v)) :
    Spelled plain escape u ∧ Spelled plain escape ('/' :: v) := by
  generalize hw : u ++ '/' :: v = w at h
  induction h generalizing u with
  | nil => exact absurd hw (by simp)
  | character hc hrest ih =>
    cases u with
    | nil =>
      rw [List.nil_append] at hw
      exact ⟨nil, hw ▸ character hc hrest⟩
    | cons d u =>
      rw [List.cons_append, List.cons.injEq] at hw
      obtain ⟨rfl, hw⟩ := hw
      exact ⟨character hc (ih hw).1, (ih hw).2⟩
  | escaped hab hrest ih =>
    obtain ⟨ha, hb⟩ := hescape _ _ hab
    match u with
    | [] => exact absurd (List.cons.inj hw).1 (by decide)
    | [_] => exact absurd (List.cons.inj (List.cons.inj hw).2).1.symm ha
    | [_, _] =>
      exact absurd (List.cons.inj (List.cons.inj (List.cons.inj hw).2).2).1.symm hb
    | _ :: _ :: _ :: u =>
      simp only [List.cons_append, List.cons.injEq] at hw
      obtain ⟨rfl, rfl, rfl, hw⟩ := hw
      exact ⟨escaped hab (ih hw).1, (ih hw).2⟩

/-- Segments behind slashes are spelled one by one. -/
theorem join_iff (hslash : plain '/') {segments : List (List Char)} :
    Spelled plain escape (Segments.join '/' segments) ↔ ∀ s ∈ segments, Spelled plain escape s := by
  have hcons {u : List Char} : Spelled plain escape ('/' :: u) ↔ Spelled plain escape u := by
    refine ⟨fun h => ?_, character hslash⟩
    cases h with
    | character _ hu => exact hu
  induction segments with
  | nil => exact iff_of_true nil (by simp)
  | cons t segments ih =>
    have hsplit : Spelled plain escape (t ++ Segments.join '/' segments)
        ↔ Spelled plain escape t ∧ Spelled plain escape (Segments.join '/' segments) := by
      refine ⟨fun h => ?_, fun h => h.1.append h.2⟩
      cases segments with
      | nil =>
        rw [Segments.join, List.flatMap_nil, List.append_nil] at h
        exact ⟨h, nil⟩
      | cons u segments =>
        rw [Segments.join_cons] at h ⊢
        exact of_append_slash hescape h
    rw [Segments.join_cons, List.forall_mem_cons, hcons, hsplit]
    exact and_congr_right fun _ => ih

end

/-! ### Escapes -/

/-- Escapes that must not be used are those that must not occur in the text. -/
theorem without_iff {banned : Char → Char → Prop} (hplain : ¬ plain '%')
    (hescape : ∀ a b, escape a b → a ≠ '%' ∧ b ≠ '%') :
    Spelled plain (fun a b => escape a b ∧ ¬ banned a b) w
      ↔ Spelled plain escape w ∧ ∀ a b, banned a b → ¬ ['%', a, b] <:+: w := by
  constructor
  · intro h
    refine ⟨h.mono (fun _ _ => id) fun _ _ => And.left, fun a b hbanned => ?_⟩
    induction h with
    | nil => simp
    | character hc _ ih =>
      rw [List.infix_cons_iff, List.cons_prefix_cons]
      rintro (⟨rfl, -⟩ | hinside)
      · exact hplain hc
      · exact ih hinside
    | escaped hab _ ih =>
      obtain ⟨ha, hb⟩ := hescape _ _ hab.1
      simp only [List.infix_cons_iff, List.cons_prefix_cons]
      rintro (⟨-, rfl, rfl, -⟩ | ⟨rfl, -⟩ | ⟨rfl, -⟩ | hinside)
      · exact hab.2 hbanned
      · exact ha rfl
      · exact hb rfl
      · exact ih hinside
  · rintro ⟨h, hbanned⟩
    induction h with
    | nil => exact nil
    | @character c w hc _ ih =>
      exact character hc (ih fun a b hab hinside =>
        hbanned a b hab (hinside.trans (List.suffix_cons c w).isInfix))
    | @escaped a b w hab _ ih =>
      refine escaped ⟨hab, fun h => hbanned a b h (List.prefix_append _ w).isInfix⟩ ?_
      exact ih fun a' b' h hinside =>
        hbanned a' b' h (hinside.trans (List.suffix_append ['%', a, b] w).isInfix)

end Spelled

/-! ## Characters -/

theorem inRanges_hexDigits {c : Char} : Pattern.inRanges hexDigits c = true ↔ IsHexDigit c := by
  simp [Pattern.inRanges, hexDigits, IsHexDigit, Char.isDigit, Char.le_def]

theorem inRanges_singles {cs : List Char} {c : Char} :
    Pattern.inRanges (cs.map fun d => (d, d)) c = true ↔ c ∈ cs := by
  have hsingle : ∀ d : Char, (d ≤ c ∧ c ≤ d) ↔ d = c := fun d => (le_antisymm_iff).symm
  simp [Pattern.inRanges, hsingle]

theorem inRanges_plain {c : Char} :
    Pattern.inRanges ([('A', 'Z'), ('a', 'z'), ('0', '9')]
      ++ "/-._~!$&'()*+,;=:@".toList.map fun c => (c, c)) c = true ↔ c = '/' ∨ IsPlain c := by
  have hranges : Pattern.inRanges [('A', 'Z'), ('a', 'z'), ('0', '9')] c = c.isAlphanum := by
    have halphanum : c.isAlphanum = (decide (65 ≤ c.val ∧ c.val ≤ 90)
        || (decide (97 ≤ c.val) && decide (c.val ≤ 122)) || c.isDigit) := rfl
    simp [Pattern.inRanges, halphanum, Char.isDigit, Char.le_def, Bool.or_assoc]
  have hcharacters : c ∈ "/-._~!$&'()*+,;=:@".toList
      ↔ c = '/' ∨ c ∈ "-._~!$&'()*+,;=:@".toList := List.mem_cons
  rw [Pattern.inRanges, List.any_append, Bool.or_eq_true]
  change Pattern.inRanges _ c = true ∨ Pattern.inRanges _ c = true ↔ _
  rw [hranges, inRanges_singles, hcharacters, IsPlain, or_left_comm]

/-- A repetition of plain characters and escapes is a spelling. -/
theorem Spelled.mem_kstar_iff {plain : Char → Prop} {escape : Char → Char → Prop}
    {part : Language Char} {w : List Char} (hpart : ∀ v, v ∈ part
      ↔ (∃ c, plain c ∧ v = [c]) ∨ ∃ a b, escape a b ∧ v = ['%', a, b]) :
    w ∈ part∗ ↔ Spelled plain escape w := by
  constructor
  · intro h
    obtain ⟨parts, rfl, hparts⟩ := Language.mem_kstar.1 h
    clear h
    induction parts with
    | nil => exact nil
    | cons v parts ih =>
      rw [List.forall_mem_cons, hpart] at hparts
      rw [List.flatten_cons]
      rcases hparts with ⟨⟨c, hc, rfl⟩ | ⟨a, b, hab, rfl⟩, hparts⟩
      · exact character hc (ih hparts)
      · exact escaped hab (ih hparts)
  · intro h
    induction h with
    | nil => exact Language.nil_mem_kstar _
    | @character c w hc _ ih =>
      have hone : [c] ∈ part := (hpart _).2 (Or.inl ⟨c, hc, rfl⟩)
      exact Pattern.cons_mem_kstar.2 ⟨[], w, hone, ih, rfl⟩
    | @escaped a b w hab _ ih =>
      have hthree : ['%', a, b] ∈ part := (hpart _).2 (Or.inr ⟨a, b, hab, rfl⟩)
      exact Pattern.cons_mem_kstar.2 ⟨[a, b], w, hthree, ih, rfl⟩

/-- The form of the characters, as a spelling. -/
theorem mem_language_characterForm {w : List Char} (hne : w ≠ []) :
    w ∈ characterForm.language
      ↔ Spelled (fun c => c = '/' ∨ IsPlain c) (fun a b => IsHexDigit a ∧ IsHexDigit b) w := by
  rw [characterForm, Pattern.mem_atLeastOnce hne, Pattern.language]
  refine Spelled.mem_kstar_iff fun v => ?_
  have hpercent : ∀ c, Pattern.inRanges [('%', '%')] c = true ↔ c = '%' := fun c =>
    (@inRanges_singles ['%'] c).trans List.mem_singleton
  have hone : ∀ {ranges : List (Char × Char)} {u : List Char}, u ∈ (Pattern.one ranges).language
      ↔ ∃ c, Pattern.inRanges ranges c = true ∧ u = [c] := Iff.rfl
  rw [Pattern.language, Language.mem_add]
  simp only [Pattern.sequence, Pattern.char, Pattern.mem_seq_one, hone, inRanges_plain,
    inRanges_hexDigits, hpercent]
  refine or_congr_right ⟨?_, ?_⟩
  · rintro ⟨_, _, rfl, ⟨a, _, ha, ⟨b, hb, rfl⟩, rfl⟩, rfl⟩
    exact ⟨a, b, ⟨ha, hb⟩, rfl⟩
  · rintro ⟨a, b, ⟨ha, hb⟩, rfl⟩
    exact ⟨'%', [a, b], rfl, ⟨a, [b], ha, ⟨b, hb, rfl⟩, rfl⟩, rfl⟩

theorem IsHexDigit.ne {c d : Char} (hc : IsHexDigit c) (hd : Pattern.inRanges hexDigits d = false) :
    c ≠ d := by
  rintro rfl
  rw [inRanges_hexDigits.2 hc] at hd
  exact Bool.noConfusion hd

/-! ## Segments -/

/-- A segment has no slash in it. -/
theorem IsSegment.slash_not_mem {s : List Char} (h : IsSegment s) : '/' ∉ s := by
  have hplain : ∀ c, IsPlain c → c ≠ '/' := by
    rintro c hc rfl
    exact absurd hc (by simp [IsPlain])
  have hall : ∀ c ∈ s, c ≠ '/' := h.forall_mem hplain (by decide) fun a b hab =>
    ⟨hab.1.1.ne (by decide), hab.1.2.ne (by decide)⟩
  exact fun hmem => hall _ hmem rfl

/-- Where there is no slash, the characters of a path are those of a segment. -/
theorem isSegment_iff {s : List Char} (hfree : '/' ∉ s) :
    IsSegment s ↔ Spelled (fun c => c = '/' ∨ IsPlain c)
      (fun a b => (IsHexDigit a ∧ IsHexDigit b) ∧ ¬ IsSlashCode a b) s := by
  constructor
  · exact fun h => h.mono (fun _ _ => Or.inr) fun _ _ => id
  · intro h
    refine h.mono (fun c hc hplain => ?_) fun _ _ => id
    exact hplain.resolve_left fun heq => hfree (heq ▸ hc)

theorem isNormalized_iff {value : String} : IsNormalized value
    ↔ ∃ segments : List (List Char), segments ≠ [] ∧ (∀ s ∈ segments, '/' ∉ s)
      ∧ value.toList = Segments.join '/' segments
      ∧ (∀ s ∈ segments, IsSegment s ∧ s ≠ ['.'] ∧ s ≠ ['.', '.'])
      ∧ ∀ s ∈ segments.dropLast, s ≠ [] := by
  constructor
  · rintro ⟨segments, hne, hvalue, hall, hlast⟩
    exact ⟨segments, hne, fun s hs => (hall s hs).1.slash_not_mem,
      hvalue.trans (Segments.join_eq_cons_intercalate hne).symm, hall, hlast⟩
  · rintro ⟨segments, hne, -, hvalue, hall, hlast⟩
    exact ⟨segments, hne, hvalue.trans (Segments.join_eq_cons_intercalate hne), hall, hlast⟩

/-- The characters of a path without an escaped slash are those of its segments. -/
theorem characters_iff {segments : List (List Char)} (hne : segments ≠ [])
    (hfree : ∀ s ∈ segments, '/' ∉ s) :
    (Segments.join '/' segments ∈ characterForm.language
      ∧ ¬ "%2f".toList <:+: Segments.join '/' segments
      ∧ ¬ "%2F".toList <:+: Segments.join '/' segments) ↔ ∀ s ∈ segments, IsSegment s := by
  have hcodes : (¬ "%2f".toList <:+: Segments.join '/' segments
      ∧ ¬ "%2F".toList <:+: Segments.join '/' segments)
        ↔ ∀ a b, IsSlashCode a b → ¬ ['%', a, b] <:+: Segments.join '/' segments := by
    constructor
    · rintro ⟨hlower, hupper⟩ a b ⟨rfl, rfl | rfl⟩
      · exact hlower
      · exact hupper
    · intro h
      exact ⟨h '2' 'f' ⟨rfl, Or.inl rfl⟩, h '2' 'F' ⟨rfl, Or.inr rfl⟩⟩
  have hjoin : Segments.join '/' segments ≠ [] := fun h => hne (Segments.join_eq_nil.1 h)
  rw [mem_language_characterForm hjoin, hcodes, ← Spelled.without_iff (by simp [IsPlain])
    fun a b h => ⟨h.1.ne (by decide), h.2.ne (by decide)⟩]
  rw [Spelled.join_iff (fun a b h => ⟨h.1.1.ne (by decide), h.1.2.ne (by decide)⟩) (Or.inl rfl)]
  exact forall₂_congr fun s hs => (isSegment_iff (hfree s hs)).symm

/-- What the rule looks for in a path, segment by segment. -/
theorem written_iff {value : String} {segments : List (List Char)} (hne : segments ≠ [])
    (hfree : ∀ s ∈ segments, '/' ∉ s) (hvalue : value.toList = Segments.join '/' segments) :
    Written value ↔ (∀ s ∈ segments, IsSegment s ∧ s ≠ ['.'] ∧ s ≠ ['.', '.'])
      ∧ ∀ s ∈ segments.dropLast, s ≠ [] := by
  have habsolute : value.toList.head? = some '/' := by
    obtain ⟨t, rest, rfl⟩ := List.exists_cons_of_ne_nil hne
    rw [hvalue, Segments.join_cons, List.head?_cons]
  have hempty := @Segments.between_infix_join _ '/' [] segments (by simp) hfree
  have hsame := @Segments.mem_iff _ '/' ['.'] segments (by simp) hfree
  have hparent := @Segments.mem_iff _ '/' ['.', '.'] segments (by simp) hfree
  have hcharacters := characters_iff hne hfree
  rw [← hvalue] at hempty hsame hparent hcharacters
  constructor
  · rintro ⟨-, hparts, hends, hform⟩
    simp only [List.forall_mem_cons] at hparts hends
    obtain ⟨hdouble, hsameInside, hparentInside, hlower, hupper, -⟩ := hparts
    obtain ⟨hparentEnd, hsameEnd, -⟩ := hends
    have hsegments := hcharacters.1 ⟨hform, hlower, hupper⟩
    refine ⟨fun s hs => ⟨hsegments s hs, ?_, ?_⟩, ?_⟩
    · rintro rfl
      exact (hsame.1 hs).elim hsameInside hsameEnd
    · rintro rfl
      exact (hparent.1 hs).elim hparentInside hparentEnd
    · rintro s hs rfl
      exact hdouble (hempty.2 hs)
  · rintro ⟨hall, hlast⟩
    obtain ⟨hform, hlower, hupper⟩ := hcharacters.2 fun s hs => (hall s hs).1
    have hsameOut := mt hsame.2 fun hs => (hall _ hs).2.1 rfl
    have hparentOut := mt hparent.2 fun hs => (hall _ hs).2.2 rfl
    have hhash : ¬ "#".toList <:+: value.toList := by
      intro h
      have hmem : '#' ∈ value.toList := h.subset List.mem_cons_self
      exact Pattern.not_mem_of_mem_language (by decide) hform hmem
    refine ⟨habsolute, ?_, ?_, hform⟩
    · simp only [List.forall_mem_cons]
      exact ⟨fun h => hlast [] (hempty.1 h) rfl, fun h => hsameOut (Or.inl h),
        fun h => hparentOut (Or.inl h), hlower, hupper, hhash, by simp⟩
    · simp only [List.forall_mem_cons]
      exact ⟨fun h => hparentOut (Or.inr h), fun h => hsameOut (Or.inr h), by simp⟩

/-- **A path that is matched as it is written has to be absolute and normalized**, and nothing else
is asked of it. -/
theorem literal_normalized_iff {type : String} (h : type = "Exact" ∨ type = "PathPrefix")
    (path : FieldPath) (value : String) :
    check path ⟨some type, some value⟩ = [] ↔ IsNormalized value := by
  have hrule : check path ⟨some type, some value⟩ = [] ↔ Written value := by
    have hliteral : type ≠ regularExpression := by rcases h with rfl | rfl <;> decide
    rw [check_eq_nil_iff, sound_iff]
    exact ⟨fun hsound => hsound.2 hliteral,
      fun hwritten => ⟨h.imp_right Or.inl, fun _ => hwritten⟩⟩
  rw [hrule, isNormalized_iff]
  constructor
  · intro hwritten
    obtain ⟨w, hw⟩ := List.head?_eq_some_iff.1 hwritten.absolute
    obtain ⟨segments, hne, hfree, hjoin⟩ := Segments.exists_join '/' w
    have hvalue := hw.trans hjoin
    obtain ⟨hall, hlast⟩ := (written_iff hne hfree hvalue).1 hwritten
    exact ⟨segments, hne, hfree, hvalue, hall, hlast⟩
  · rintro ⟨segments, hne, hfree, hvalue, hall, hlast⟩
    exact (written_iff hne hfree hvalue).2 ⟨hall, hlast⟩

/-- Dots that are escaped, or more than two, are no steps; two dots at the end are one. -/
theorem literal_normalized_iff_dots :
    check .spec ⟨some "PathPrefix", some "/%2e%2E/.../a+b/"⟩ = []
      ∧ IsNormalized "/%2e%2E/.../a+b/"
      ∧ (check .spec ⟨some "Exact", some "/%2e/.."⟩).length = 1 ∧ ¬ IsNormalized "/%2e/.." := by
  have haccepted : check .spec ⟨some "PathPrefix", some "/%2e%2E/.../a+b/"⟩ = [] := by rfl
  have hrejected : (check .spec ⟨some "Exact", some "/%2e/.."⟩).length = 1 := by rfl
  refine ⟨haccepted, (literal_normalized_iff (Or.inr rfl) .spec _).1 haccepted, hrejected, ?_⟩
  intro hnormalized
  have hnone := (literal_normalized_iff (Or.inl rfl) .spec _).2 hnormalized
  rw [hnone] at hrejected
  exact absurd hrejected (by decide)

end PathMatch

end GatewayAdmission
