import GatewayAdmission.Json.Printer
import GatewayAdmission.Proofs.Json.Numeral
import GatewayAdmission.Text.Quoted

/-!
# Texts on one line

`Text.OneLine` says of a text that it has no line break. **The compact text of a JSON value is on
one line, whatever the value holds** (`Json.oneLine_render`), and so is a quoted text
(`Text.oneLine_quoted`): line breaks inside strings are escaped. Lines joined by line breaks are
told apart again (`Text.splitOn_lines`).
-/

namespace GatewayAdmission

namespace Text

/-- Whether a text has no line break. -/
def OneLine (s : String) : Prop := '\n' ∉ s.toList

/-- A text that is written out can be looked through character by character. -/
theorem oneLine_ofList {cs : List Char} (h : cs.contains '\n' = false) :
    OneLine (String.ofList cs) := by
  rw [OneLine, String.toList_ofList]
  simpa using h

theorem OneLine.append {s t : String} (hs : OneLine s) (ht : OneLine t) : OneLine (s ++ t) := by
  rw [OneLine, String.toList_append, List.mem_append]
  exact fun h => h.elim hs ht

theorem oneLine_intercalate {sep : String} {ss : List String} (hsep : OneLine sep)
    (h : ∀ s ∈ ss, OneLine s) : OneLine (sep.intercalate ss) := by
  induction ss with
  | nil => exact oneLine_ofList rfl
  | cons s ss ih =>
    have hs := h s List.mem_cons_self
    cases ss with
    | nil => rwa [String.intercalate_singleton]
    | cons t ss =>
      rw [String.intercalate_cons_cons]
      exact (hs.append hsep).append (ih fun u hu => h u (List.mem_cons_of_mem s hu))

theorem oneLine_toString (n : Nat) : OneLine (toString n) := by
  intro h
  have hmem : '\n' ∈ Nat.toDigits 10 n := by simpa using h
  exact absurd ((digits_toDigits n).2 _ hmem) (by decide)

/-- Lines are told apart by the breaks between them. -/
theorem splitOn_lines {ss : List String} (hne : ss ≠ []) (h : ∀ s ∈ ss, OneLine s) :
    ("\n".intercalate ss).toList.splitOn '\n' = ss.map String.toList := by
  rw [String.toList_intercalate]
  refine List.splitOn_intercalate '\n' ?_ (by simpa using hne)
  intro cs hcs
  obtain ⟨s, hs, rfl⟩ := List.mem_map.1 hcs
  exact h s hs

/-! ## Quoted texts -/

theorem newline_not_mem_toDigits (n : Nat) : '\n' ∉ Nat.toDigits 16 n := by
  induction n using Nat.strongRecOn with
  | _ n ih =>
    have hdigit : ∀ m < 16, '\n' ≠ m.digitChar := by decide
    rw [Nat.toDigits_eq_if (by decide)]
    split
    · rename_i hlt
      exact fun h => hdigit n hlt (List.mem_singleton.1 h)
    · have hhigh := ih (n / 16) (by omega)
      have hlow := hdigit (n % 16) (Nat.mod_lt n (by decide))
      simp [hhigh, hlow]

theorem newline_not_mem_quoteChar (c : Char) : '\n' ∉ quoteChar c := by
  unfold quoteChar
  split
  · rename_i hc
    rcases hc with rfl | rfl <;> decide
  split
  · decide
  rename_i hnewline
  split
  · decide
  split
  · decide
  split
  · decide
  split
  · simp only [List.mem_append, not_or]
    exact ⟨⟨by decide, newline_not_mem_toDigits _⟩, by decide⟩
  · simpa using Ne.symm hnewline

theorem oneLine_quoted (s : String) : OneLine (quoted s) := by
  rw [quoted, OneLine, String.toList_ofList]
  simp [newline_not_mem_quoteChar]

end Text

/-! ## JSON -/

namespace Json

theorem newline_not_mem_escapeChar (c : Char) : '\n' ∉ escapeChar c := by
  have hhex : ∀ n < 0x20, '\n' ∉ ['\\', 'u', '0', '0', hexDigit (n / 16), hexDigit (n % 16)] := by
    decide
  unfold escapeChar
  iterate 3
    split
    · decide
  split
  · decide
  split
  · decide
  rename_i hnewline
  iterate 2
    split
    · decide
  split
  · rename_i hlow
    exact hhex _ hlow
  · simpa using Ne.symm hnewline

theorem newline_not_mem_stringChars (s : String) : '\n' ∉ stringChars s := by
  simp [stringChars, newline_not_mem_escapeChar]

theorem newline_not_mem_numberChars (n : Number) : '\n' ∉ numberChars n := by
  obtain ⟨s, hs, hchars⟩ := n.exists_spelling
  have hdigits : ∀ ds, Text.Digits ds → '\n' ∉ ds := fun ds hds h =>
    absurd (hds.2 _ h) (by decide)
  rw [hchars]
  simp only [Spelling.chars, List.mem_append, not_or]
  refine ⟨?_, hdigits _ hs.whole, ?_, ?_⟩
  · unfold Spelling.signChars
    split <;> decide
  · unfold Spelling.fractionChars
    split
    · decide
    · rename_i ds hfraction
      have hds := hdigits ds (hs.fraction ds hfraction)
      simp [hds]
  · unfold Spelling.exponentChars
    split
    · decide
    · rename_i negative ds hexponent
      have hds := hdigits ds (hs.exponent (negative, ds) hexponent)
      cases negative <;> simp [hds]

mutual

/-- No line break stands in the characters of a value. -/
theorem newline_not_mem_chars : (j : Json) → '\n' ∉ j.chars
  | .null => by decide
  | .bool true => by decide
  | .bool false => by decide
  | .num n => newline_not_mem_numberChars n
  | .str s => newline_not_mem_stringChars s
  | .arr items => by simp [chars, newline_not_mem_itemChars items]
  | .obj entries => by simp [chars, newline_not_mem_entryChars entries]

theorem newline_not_mem_itemChars : (items : List Json) → '\n' ∉ itemChars items
  | [] => by simp [itemChars]
  | [j] => newline_not_mem_chars j
  | j :: k :: items => by
    simp [itemChars, newline_not_mem_chars j, newline_not_mem_itemChars (k :: items)]

theorem newline_not_mem_entryChars : (entries : List (String × Json)) → '\n' ∉ entryChars entries
  | [] => by simp [entryChars]
  | [(k, j)] => by simp [entryChars, newline_not_mem_stringChars, newline_not_mem_chars j]
  | (k, j) :: e :: entries => by
    simp [entryChars, newline_not_mem_stringChars, newline_not_mem_chars j,
      newline_not_mem_entryChars (e :: entries)]

end

/-- **The compact text of a value is on one line.** -/
theorem oneLine_render (j : Json) : Text.OneLine j.render := by
  rw [render, Text.OneLine, String.toList_ofList]
  exact newline_not_mem_chars j

end Json

end GatewayAdmission
