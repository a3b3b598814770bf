import GatewayAdmission.Json.Printer
import GatewayAdmission.Json.Token
import GatewayAdmission.Proofs.Text.Octets

/-!
# Strings in a text

**A printed string is read as itself, up to its closing quote** (`next?_stringChars`).

The reader takes a string apart into pieces and only then decodes them. The printer leaves every
character but a few control characters as its octets, and writes those few as one unit each, never
a surrogate. So the pieces of a printed string are those of its characters, one after the other,
and decoding them gives back the octets of the characters.
-/

namespace GatewayAdmission

namespace Token

open Text Json

/-! ## Pieces -/

/-- Whether an octet inside a string stands for itself. -/
def Stands (b : UInt8) : Prop := 0x20 ≤ b ∧ b ≠ 0x22 ∧ b ≠ 0x5C

theorem pieces?_cons_stands {b : UInt8} (h : Stands b) (done : List Piece) (rest : List UInt8) :
    pieces? done (b :: rest) = pieces? (.octet b :: done) rest := by
  obtain ⟨h1, h2, h3⟩ := h
  rw [pieces?]
  · rw [if_neg (UInt8.not_lt.2 h1)]
  · exact h2
  · exact fun _ _ _ _ _ hb _ => h3 hb
  · exact fun _ _ hb _ => h3 hb

theorem pieces?_append_stands {bs : List UInt8} (h : ∀ b ∈ bs, Stands b) (done : List Piece)
    (rest : List UInt8) :
    pieces? done (bs ++ rest) = pieces? ((bs.map Piece.octet).reverse ++ done) rest := by
  induction bs generalizing done with
  | nil => rfl
  | cons b bs ih =>
    rw [List.cons_append, pieces?_cons_stands (h b (by simp)), ih fun c hc => h c (by simp [hc])]
    simp

/-- The control characters with a letter of their own. -/
def hasShortEscape (c : Char) : Bool :=
  c.toNat == 0x08 || c.toNat == 0x0C || c == '\n' || c == '\r' || c == '\t'

/-- The pieces of a character in a printed string. -/
def charPieces (c : Char) : List Piece :=
  if c.toNat < 0x20 ∧ hasShortEscape c = false then [.unit c.toNat]
  else (String.utf8EncodeChar c).map .octet

theorem stands_of_mem_utf8EncodeChar {c : Char} (h : 0x20 ≤ c.toNat) (hq : c ≠ '"') (hb : c ≠ '\\')
    {b : UInt8} (hmem : b ∈ String.utf8EncodeChar c) : Stands b := by
  have hchar : ∀ d : Char, c ≠ d → c.toNat ≠ d.toNat := fun d hne he =>
    hne (by rw [← Char.ofNat_toNat c, he, Char.ofNat_toNat])
  have h22 := hchar _ hq
  have h5C := hchar _ hb
  by_cases hascii : c.toNat < 0x80
  · rw [utf8EncodeChar_ascii hascii, List.mem_singleton] at hmem
    rw [hmem, Stands, UInt8.le_iff_toNat_le, ← UInt8.toNat_inj.ne, ← UInt8.toNat_inj.ne,
      UInt8.toNat_ofNat', Nat.mod_eq_of_lt (by omega)]
    exact ⟨h, h22, h5C⟩
  · have := le_of_mem_utf8EncodeChar (Nat.not_lt.1 hascii) hmem
    rw [Stands, UInt8.le_iff_toNat_le, ← UInt8.toNat_inj.ne, ← UInt8.toNat_inj.ne]
    exact ⟨Nat.le_trans (by decide) this, Nat.ne_of_gt (Nat.lt_of_lt_of_le (by decide) this),
      Nat.ne_of_gt (Nat.lt_of_lt_of_le (by decide) this)⟩

/-- The hexadecimal digits of a control character. -/
theorem hexUnit?_hexDigit : ∀ n < 0x20,
    octets [hexDigit (n / 16), hexDigit (n % 16)]
        = [UInt8.ofNat (hexDigit (n / 16)).toNat, UInt8.ofNat (hexDigit (n % 16)).toNat]
      ∧ hexUnit? 0x30 0x30 (UInt8.ofNat (hexDigit (n / 16)).toNat)
        (UInt8.ofNat (hexDigit (n % 16)).toNat) = some n := by
  decide

/-- A printed character is read as its pieces. -/
theorem pieces?_escapeChar (c : Char) (done : List Piece) (rest : List UInt8) :
    pieces? done (octets (escapeChar c) ++ rest)
      = pieces? ((charPieces c).reverse ++ done) rest := by
  have hof : ∀ n : Nat, c.toNat = n → c = Char.ofNat n := fun n hn => by
    rw [← hn, Char.ofNat_toNat]
  by_cases hq : c = '"'
  · subst hq
    rfl
  by_cases hb : c = '\\'
  · subst hb
    rfl
  by_cases hs : hasShortEscape c
  · simp only [hasShortEscape, Bool.or_eq_true, beq_iff_eq] at hs
    rcases hs with (((hs | hs) | rfl) | rfl) | rfl
    · rw [hof _ hs]
      rfl
    · rw [hof _ hs]
      rfl
    · rfl
    · rfl
    · rfl
  · have hnone := hs
    simp only [hasShortEscape, Bool.or_eq_true, beq_iff_eq, not_or] at hs
    obtain ⟨⟨⟨⟨h1, h2⟩, h3⟩, h4⟩, h5⟩ := hs
    rw [escapeChar, if_neg hq, if_neg hb, if_neg h1, if_neg h2, if_neg h3, if_neg h4, if_neg h5,
      charPieces]
    by_cases hlow : c.toNat < 0x20
    · obtain ⟨hoct, hunit⟩ := hexUnit?_hexDigit _ hlow
      rw [if_pos hlow, if_pos ⟨hlow, by simpa using hnone⟩]
      show pieces? done (0x5C :: 0x75 :: 0x30 :: 0x30 ::
        (octets [hexDigit (c.toNat / 16), hexDigit (c.toNat % 16)] ++ rest)) = _
      rw [hoct]
      simp only [List.cons_append, List.nil_append, pieces?, hunit, List.reverse_singleton]
    · rw [if_neg hlow, if_neg fun h => hlow h.1,
        show octets [c] = String.utf8EncodeChar c from List.append_nil _]
      exact pieces?_append_stands
        (fun b hmem => stands_of_mem_utf8EncodeChar (Nat.not_lt.1 hlow) hq hb hmem) done rest

/-- The pieces of a printed string. -/
theorem pieces?_string (cs : List Char) (done : List Piece) (rest : List UInt8) :
    pieces? done (octets (cs.flatMap escapeChar) ++ 0x22 :: rest)
      = some (done.reverse ++ cs.flatMap charPieces, rest) := by
  induction cs generalizing done with
  | nil => simp [pieces?]
  | cons c cs ih =>
    rw [List.flatMap_cons, octets_append, List.append_assoc, pieces?_escapeChar, ih]
    simp

/-! ## The text of the pieces -/

theorem octets?_map_octet (bs : List UInt8) (ps : List Piece) :
    octets? (bs.map .octet ++ ps) = (octets? ps).map (bs ++ ·) := by
  induction bs with
  | nil => simp
  | cons b bs ih =>
    rw [List.map_cons, List.cons_append, octets?, ih, Option.map_map]
    rfl

/-- A unit that is no surrogate stands for its character. -/
theorem octets?_unit {u : Nat} (h : u < 0xD800) (ps : List Piece) :
    octets? (.unit u :: ps) = (octets? ps).map (String.utf8EncodeChar (Char.ofNat u) ++ ·) := by
  have hhigh : ¬ (0xD800 ≤ u ∧ u < 0xDC00) := by omega
  have hlow : ¬ (0xDC00 ≤ u ∧ u < 0xE000) := by omega
  have hany : ¬ (0xD800 ≤ u ∧ u < 0xE000) := by omega
  cases ps with
  | nil => simp [octets?, hany]
  | cons p ps =>
    cases p with
    | octet b => simp [octets?, hany]
    | unit v => rw [octets?, if_neg hhigh, if_neg hlow]

theorem octets?_charPieces (cs : List Char) :
    octets? (cs.flatMap charPieces) = some (octets cs) := by
  induction cs with
  | nil => rfl
  | cons c cs ih =>
    rw [List.flatMap_cons, charPieces]
    split
    · rename_i h
      rw [List.singleton_append, octets?_unit (by omega), ih, Char.ofNat_toNat]
      rfl
    · rw [octets?_map_octet, ih]
      rfl

/-- **A printed string is read as itself**, up to its closing quote. -/
theorem next?_stringChars (s : String) (rest : List UInt8) :
    ∃ tail, octets (stringChars s) ++ rest = 0x22 :: tail
      ∧ next? 0x22 tail = some (.str (some s), rest) := by
  refine ⟨octets (s.toList.flatMap escapeChar) ++ 0x22 :: rest, ?_, ?_⟩
  · simp [stringChars, octets_cons_ascii]
  · simp [next?, pieces?_string, text?, octets?_charPieces, fromUTF8?_octets]

end Token

end GatewayAdmission
