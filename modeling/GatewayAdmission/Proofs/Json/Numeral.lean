import GatewayAdmission.Json.Printer
import GatewayAdmission.Json.Token
import GatewayAdmission.Proofs.Text.Octets
import GatewayAdmission.Proofs.Text.Segments
import Mathlib.Data.List.Basic

/-!
# Numbers in a text

A `Spelling` is the written form of a number, part by part. **A valid spelling is read as one
numeral** (`Token.numeral?_octets`): the reader stops exactly where the spelling ends, as long as
what follows cannot belong to a number.

The text of every number has a valid spelling (`Number.exists_spelling`), doubles included, and
the numeral of a whole number has its value (`Number.reread_whole`). Of a double no more is said:
what it is read back as is `Number.reread`.
-/

namespace GatewayAdmission

/-! ## Digits -/

namespace Text

/-- The values of decimal digits. -/
def digitValues (cs : List Char) : List Nat := cs.map fun c => c.toNat - '0'.toNat

/-- Whether characters are decimal digits, at least one. -/
def Digits (cs : List Char) : Prop := cs ≠ [] ∧ ∀ c ∈ cs, c.isDigit

theorem toNat_lt_of_isDigit {c : Char} (h : c.isDigit) : 48 ≤ c.toNat ∧ c.toNat ≤ 57 := by
  simp only [Char.isDigit, ge_iff_le, Bool.and_eq_true, decide_eq_true_eq] at h
  exact ⟨h.1, h.2⟩

theorem Digits.of_subset {cs ds : List Char} (h : Digits cs) (hne : ds ≠ []) (hsub : ds ⊆ cs) :
    Digits ds :=
  ⟨hne, fun c hc => h.2 c (hsub hc)⟩

theorem Digits.append {cs ds : List Char} (h : Digits cs) (hds : ∀ c ∈ ds, c.isDigit) :
    Digits (cs ++ ds) := by
  refine ⟨by simp [h.1], fun c hc => ?_⟩
  rcases List.mem_append.1 hc with hc | hc
  · exact h.2 c hc
  · exact hds c hc

theorem Digits.append_left {cs ds : List Char} (h : Digits cs) (hds : ∀ c ∈ ds, c.isDigit) :
    Digits (ds ++ cs) :=
  (h.append hds).of_subset (by simp [h.1]) fun _ hc => List.mem_append.2 (List.mem_append.1 hc).symm

theorem isDigit_replicate (n : Nat) : ∀ c ∈ List.replicate n '0', c.isDigit := by
  intro c hc
  rw [List.eq_of_mem_replicate hc]
  decide

theorem digits_zero : Digits ['0'] := ⟨List.cons_ne_nil _ _, isDigit_replicate 1⟩

theorem digits_toDigits (n : Nat) : Digits (Nat.toDigits 10 n) :=
  ⟨Nat.toDigits_ne_nil, fun _ hc => Nat.isDigit_of_mem_toDigits (by decide) (by decide) hc⟩

theorem toDigits_injective {m n : Nat} (h : Nat.toDigits 10 m = Nat.toDigits 10 n) : m = n := by
  rw [← Nat.ofDigitChars_ten_toDigits (n := m), h, Nat.ofDigitChars_ten_toDigits]

/-- The digits of a number start with a zero only if it is zero. -/
theorem head?_toDigits {n : Nat} (h : n ≠ 0) : (Nat.toDigits 10 n).head? ≠ some '0' := by
  induction n using Nat.strongRecOn with
  | _ n ih =>
    rw [Nat.toDigits_eq_if (by decide)]
    split
    · rename_i hlt
      have hdigit : ∀ m < 10, m ≠ 0 → m.digitChar ≠ '0' := by decide
      simpa using hdigit n hlt h
    · have hdiv := ih (n / 10) (by omega) (by omega)
      rw [List.head?_append_of_ne_nil _ Nat.toDigits_ne_nil]
      exact hdiv

end Text

namespace Token

open Text

/-- Whether a text goes on with something that is no digit, or ends. -/
def NoDigit (rest : List UInt8) : Prop := ∀ b ∈ rest.head?, isDigit b = false

/-- Whether a text goes on with something that cannot belong to a number, or ends. -/
def Breaks (rest : List UInt8) : Prop :=
  ∀ b ∈ rest.head?, isDigit b = false ∧ b ≠ 0x2E ∧ b ≠ 0x65 ∧ b ≠ 0x45

theorem Breaks.noDigit {rest : List UInt8} (h : Breaks rest) : NoDigit rest :=
  fun b hb => (h b hb).1

theorem breaks_nil : Breaks [] := by simp [Breaks]

theorem noDigit_cons {b : UInt8} (h : isDigit b = false) (rest : List UInt8) :
    NoDigit (b :: rest) := by
  simpa [NoDigit] using h

theorem isDigit_ofNat {c : Char} (h : c.isDigit) : isDigit (UInt8.ofNat c.toNat) := by
  obtain ⟨h1, h2⟩ := toNat_lt_of_isDigit h
  simp only [isDigit, Bool.and_eq_true, decide_eq_true_eq, UInt8.le_iff_toNat_le]
  have : (UInt8.ofNat c.toNat).toNat = c.toNat := by simp only [UInt8.toNat_ofNat']; omega
  rw [this]
  exact ⟨h1, h2⟩

theorem digitValue_ofNat {c : Char} (h : c.isDigit) :
    digitValue (UInt8.ofNat c.toNat) = c.toNat - 48 := by
  obtain ⟨-, h2⟩ := toNat_lt_of_isDigit h
  simp only [digitValue, UInt8.toNat_ofNat']
  omega

theorem octets_digits {cs : List Char} (h : ∀ c ∈ cs, c.isDigit) :
    octets cs = cs.map fun c => UInt8.ofNat c.toNat :=
  octets_ascii fun c hc => by have := toNat_lt_of_isDigit (h c hc); omega

theorem digits_octets {cs : List Char} (h : ∀ c ∈ cs, c.isDigit) {rest : List UInt8}
    (hr : NoDigit rest) : digits (octets cs ++ rest) = (digitValues cs, rest) := by
  have hall : ∀ b ∈ octets cs, isDigit b := by
    rw [octets_digits h]
    intro b hb
    obtain ⟨c, hc, rfl⟩ := List.mem_map.1 hb
    exact isDigit_ofNat (h c hc)
  have hvalues : (octets cs).map digitValue = digitValues cs := by
    rw [octets_digits h, digitValues, List.map_map]
    exact List.map_congr_left fun c hc => digitValue_ofNat (h c hc)
  rw [digits, takeWhile_append_of_break hall hr, dropWhile_append_of_break hall hr, hvalues]

/-! ## The parts of a numeral -/

theorem digitValues_ne_nil {cs : List Char} (h : Digits cs) : digitValues cs ≠ [] := by
  simpa [digitValues] using h.1

theorem intDigits?_octets {cs : List Char} (h : Digits cs) (hz : cs.head? = some '0' → cs = ['0'])
    {rest : List UInt8} (hr : NoDigit rest) :
    intDigits? (octets cs ++ rest) = some (digitValues cs, rest) := by
  by_cases h0 : cs.head? = some '0'
  · rw [hz h0]
    rfl
  · obtain ⟨c, cs, rfl⟩ := List.exists_cons_of_ne_nil h.1
    have hc := toNat_lt_of_isDigit (h.2 c (by simp))
    have hne : UInt8.ofNat c.toNat ≠ 0x30 := by
      intro he
      have hn : c.toNat % 256 = 48 := by simpa using congrArg UInt8.toNat he
      have : c = '0' := by
        rw [← Char.ofNat_toNat c, show c.toNat = 48 by omega]
      simp [this] at h0
    have hd := digits_octets h.2 hr
    rw [octets_cons_ascii (by omega)] at hd ⊢
    unfold intDigits?
    split
    · rename_i heq
      simp only [List.cons_append, List.cons.injEq] at heq
      exact absurd heq.1 hne
    · rw [hd, if_neg (digitValues_ne_nil h)]

theorem fractionDigits?_octets {cs : List Char} (h : Digits cs) {rest : List UInt8}
    (hr : NoDigit rest) :
    fractionDigits? (0x2E :: (octets cs ++ rest)) = some (some (digitValues cs), rest) := by
  simp only [fractionDigits?, digits_octets h.2 hr, if_neg (digitValues_ne_nil h)]

theorem fractionDigits?_none {rest : List UInt8} (h : ∀ b ∈ rest.head?, b ≠ 0x2E) :
    fractionDigits? rest = some (none, rest) := by
  unfold fractionDigits?
  split
  · exact absurd rfl (h 0x2E rfl)
  · rfl

theorem exponent?_octets (negative : Bool) {cs : List Char} (h : Digits cs) {rest : List UInt8}
    (hr : NoDigit rest) :
    exponent? (0x65 :: (if negative then 0x2D else 0x2B) :: (octets cs ++ rest))
      = some (some (if negative then -(decimalValue (digitValues cs) : Int)
          else decimalValue (digitValues cs)), rest) := by
  cases negative <;>
    simp [exponent?, exponentSign, digits_octets h.2 hr, digitValues_ne_nil h]

theorem exponent?_none {rest : List UInt8} (h : ∀ b ∈ rest.head?, b ≠ 0x65 ∧ b ≠ 0x45) :
    exponent? rest = some (none, rest) := by
  cases rest with
  | nil => rfl
  | cons b rest =>
    obtain ⟨h1, h2⟩ := h b rfl
    simp [exponent?, h1, h2]

end Token

/-! ## Spellings -/

/-- The written form of a number: digits, digits behind a point, an exponent with its sign. -/
structure Spelling where
  negative : Bool
  whole : List Char
  fraction : Option (List Char)
  exponent : Option (Bool × List Char)

namespace Spelling

open Text

def signChars (s : Spelling) : List Char := if s.negative then ['-'] else []

def fractionChars (s : Spelling) : List Char :=
  match s.fraction with
  | none => []
  | some ds => '.' :: ds

def exponentChars (s : Spelling) : List Char :=
  match s.exponent with
  | none => []
  | some (negative, ds) => 'e' :: (if negative then '-' else '+') :: ds

def chars (s : Spelling) : List Char :=
  s.signChars ++ (s.whole ++ (s.fractionChars ++ s.exponentChars))

/-- What the spelling is read as. -/
def numeral (s : Spelling) : Numeral where
  negative := s.negative
  digits := digitValues s.whole
  fraction := s.fraction.map digitValues
  exponent := s.exponent.map fun (negative, ds) =>
    if negative then -(Token.decimalValue (digitValues ds) : Int)
    else Token.decimalValue (digitValues ds)

/-- Whether there are digits wherever they have to be, and no zero in front of others. -/
structure Valid (s : Spelling) : Prop where
  whole : Digits s.whole
  leading : s.whole.head? = some '0' → s.whole = ['0']
  fraction : ∀ ds ∈ s.fraction, Digits ds
  exponent : ∀ e ∈ s.exponent, Digits e.2

end Spelling

namespace Token

open Text

theorem exponent?_spelling {s : Spelling} (h : s.Valid) {rest : List UInt8} (hr : Breaks rest) :
    exponent? (octets s.exponentChars ++ rest) = some (s.numeral.exponent, rest) := by
  unfold Spelling.exponentChars Spelling.numeral
  cases he : s.exponent with
  | none => exact exponent?_none fun b hb => ⟨(hr b hb).2.2.1, (hr b hb).2.2.2⟩
  | some e =>
    obtain ⟨negative, ds⟩ := e
    have hd : Digits ds := h.exponent (negative, ds) he
    cases negative with
    | true => exact exponent?_octets true hd hr.noDigit
    | false => exact exponent?_octets false hd hr.noDigit

theorem fractionDigits?_spelling {s : Spelling} (h : s.Valid) {rest : List UInt8}
    (hr : Breaks rest) :
    fractionDigits? (octets (s.fractionChars ++ s.exponentChars) ++ rest)
      = some (s.numeral.fraction, octets s.exponentChars ++ rest) := by
  have hexp : ∀ b ∈ (octets s.exponentChars ++ rest).head?, isDigit b = false ∧ b ≠ 0x2E := by
    unfold Spelling.exponentChars
    cases s.exponent with
    | none => exact fun b hb => ⟨(hr b hb).1, (hr b hb).2.1⟩
    | some e =>
      intro b hb
      obtain rfl : (0x65 : UInt8) = b := Option.some.inj hb
      decide
  rw [octets_append, List.append_assoc]
  unfold Spelling.fractionChars Spelling.numeral
  cases hf : s.fraction with
  | none => exact fractionDigits?_none fun b hb => (hexp b hb).2
  | some ds =>
    exact fractionDigits?_octets (h.fraction ds hf) fun b hb => (hexp b hb).1

/-- **A valid spelling is read as one numeral**, up to its end. -/
theorem numeral?_octets {s : Spelling} (h : s.Valid) {rest : List UInt8} (hr : Breaks rest) :
    numeral? (octets s.chars ++ rest) = some (s.numeral, rest) := by
  -- The sign is looked at first; what stands behind it begins with a digit.
  obtain ⟨c, cs, hcs⟩ := List.exists_cons_of_ne_nil h.whole.1
  have hc := toNat_lt_of_isDigit (h.whole.2 c (by simp [hcs]))
  have hbody : ∀ tail : List UInt8, octets s.whole ++ tail
      = UInt8.ofNat c.toNat :: (octets cs ++ tail) := by
    intro tail
    rw [hcs, octets_cons_ascii (by omega), List.cons_append]
  have hminus : UInt8.ofNat c.toNat ≠ 0x2D := by
    intro he
    have : c.toNat % 256 = 45 := by simpa using congrArg UInt8.toNat he
    omega
  have hfrac : NoDigit (octets (s.fractionChars ++ s.exponentChars) ++ rest) := by
    unfold Spelling.fractionChars Spelling.exponentChars
    cases s.fraction with
    | some ds => exact noDigit_cons (by decide) _
    | none =>
      cases s.exponent with
      | none => exact hr.noDigit
      | some e => exact noDigit_cons (by decide) _
  have hint := intDigits?_octets h.whole h.leading hfrac
  have htext : octets s.chars ++ rest = octets s.signChars
      ++ (octets s.whole ++ (octets (s.fractionChars ++ s.exponentChars) ++ rest)) := by
    simp only [Spelling.chars, octets_append, List.append_assoc]
  have hsign : ((octets s.chars ++ rest).head? == some 0x2D) = s.negative
      ∧ (if s.negative then (octets s.chars ++ rest).tail else octets s.chars ++ rest)
        = octets s.whole ++ (octets (s.fractionChars ++ s.exponentChars) ++ rest) := by
    rw [htext]
    unfold Spelling.signChars
    cases s.negative with
    | true => exact ⟨rfl, rfl⟩
    | false =>
      rw [hbody]
      exact ⟨beq_eq_false_iff_ne.2 fun he => hminus (Option.some.inj he), rfl⟩
  simp only [numeral?, hsign.1, hsign.2, hint, fractionDigits?_spelling h hr,
    exponent?_spelling h hr, Option.bind_eq_bind, Option.bind_some, Option.pure_def]
  rfl

end Token

/-! ## The text of a number -/

namespace Double

/-- Zero does not read back as another double. -/
theorem rounds_zero {d : Double} (hd : d.mantissa ≠ 0) {y : Nat} (hy : 0 < y) :
    d.rounds 0 y = false := by
  unfold rounds
  have hlow : ∀ gap ≤ 2, 0 < (4 * d.mantissa - gap) * 2 ^ (d.exponent - 1076) * y :=
    fun gap hgap => Nat.mul_pos (Nat.mul_pos (by omega) (Nat.two_pow_pos _)) hy
  have h1 := hlow 1 (by decide)
  have h2 := hlow 2 (by decide)
  simp only [Nat.zero_mul, Nat.pow_eq]
  split <;> split <;> simp <;> omega

/-- A decimal of the grid has a digit other than zero. -/
theorem digits_onGrid? {d : Double} (hd : d.mantissa ≠ 0) {n : Nat} {x : Decimal}
    (h : d.onGrid? n = some x) : x.digits ≠ 0 := by
  unfold onGrid? at h
  extract_lets k reads take at h
  simp only at h
  -- A number on the grid that reads back is not zero, and a power of ten never is.
  have hpow : ∀ m : Nat, 0 < Nat.pow 10 m := fun m => Nat.pow_pos (by decide)
  have hreads : ∀ m, reads m = true → m ≠ 0 := by
    rintro m hm rfl
    simp only [reads, Nat.zero_mul, rounds_zero hd (hpow _), rounds_zero hd Nat.one_pos,
      ite_self, Bool.false_eq_true] at hm
  have htake : ∀ m, reads m = true → (take m).digits ≠ 0 := by
    intro m hm
    simp only [take]
    split
    · exact Nat.ne_of_gt (hpow _)
    · exact hreads m hm
  have hpick : ∀ near other, (if reads near then some (take near)
      else if reads other then some (take other) else none) = some x → x.digits ≠ 0 := by
    intro near other h
    split at h
    · rename_i hnear
      rw [← Option.some.inj h]
      exact htake near hnear
    · split at h
      · rename_i hother
        rw [← Option.some.inj h]
        exact htake other hother
      · exact absurd h (by simp)
  exact hpick _ _ h

theorem scale_shortest {d : Double} (hd : d.mantissa ≠ 0) (h0 : d.shortest.digits = 0) :
    d.shortest.scale = 0 := by
  unfold shortest at h0 ⊢
  cases h : (List.range 17).findSome? fun n => d.onGrid? (n + 1) with
  | none => rfl
  | some x =>
    obtain ⟨n, -, hn⟩ := List.exists_of_findSome?_eq_some h
    rw [h] at h0
    exact absurd h0 (digits_onGrid? hd hn)

end Double

namespace Json

open Text

/-- Whether a text is the spelling of a number without a sign. -/
def Unsigned (cs : List Char) : Prop := ∃ s : Spelling, s.Valid ∧ s.negative = false ∧ s.chars = cs

/-- Digits before a point and digits behind it. -/
theorem unsigned_point {whole fraction : List Char} (hwhole : Digits whole)
    (hleading : whole.head? = some '0' → whole = ['0']) (hfraction : Digits fraction) :
    Unsigned (whole ++ '.' :: fraction) := by
  refine ⟨⟨false, whole, some fraction, none⟩, ⟨hwhole, hleading, ?_, by simp⟩, rfl, ?_⟩
  · rintro ds ⟨rfl⟩
    exact hfraction
  · simp [Spelling.chars, Spelling.signChars, Spelling.fractionChars, Spelling.exponentChars]

/-- One digit, the others behind a point if there are any, and a power of ten. -/
theorem unsigned_exponent {ds : List Char} (hds : Digits ds) (e : Int) :
    Unsigned (ds.take 1 ++ (if ds.length ≤ 1 then [] else '.' :: ds.drop 1)
      ++ (doubleLayout.exponent e).toList) := by
  obtain ⟨d, fraction, rfl⟩ := List.exists_cons_of_ne_nil hds.1
  refine ⟨⟨false, [d], if fraction = [] then none else some fraction,
    some (decide (e < 0), Nat.toDigits 10 e.natAbs)⟩, ⟨?_, ?_, ?_, ?_⟩, rfl, ?_⟩
  · exact hds.of_subset (by simp) (by simp)
  · intro h
    rw [Option.some.inj h]
  · intro ds hfraction
    split at hfraction
    · exact absurd hfraction (by simp)
    · rename_i hne
      obtain rfl : fraction = ds := Option.some.inj hfraction
      exact hds.of_subset hne (List.subset_cons_self d fraction)
  · rintro exponent ⟨rfl⟩
    exact digits_toDigits _
  · by_cases hfraction : fraction = [] <;> by_cases hneg : e < 0 <;>
      simp [Spelling.chars, Spelling.signChars, Spelling.fractionChars, Spelling.exponentChars,
        DecimalLayout.exponent, doubleLayout, hfraction, hneg]

theorem unsigned_positive {x : Decimal} (hx : x.digits = 0 → x.scale = 0) :
    Unsigned (doubleLayout.positive x).toList := by
  unfold DecimalLayout.positive
  extract_lets ds point fraction
  have hds : Digits ds := digits_toDigits x.digits
  have hzero : ds.head? = some '0' → ds = ['0'] ∧ x.scale = 0 := by
    intro h
    by_cases h0 : x.digits = 0
    · exact ⟨by simp only [ds, h0]; rfl, hx h0⟩
    · exact absurd h (head?_toDigits h0)
  split
  · split
    · -- An integral value, written out.
      have hleading : (ds ++ List.replicate x.scale.toNat '0').head? = some '0' →
          ds ++ List.replicate x.scale.toNat '0' = ['0'] := by
        intro h
        rw [List.head?_append_of_ne_nil _ hds.1] at h
        obtain ⟨h1, h2⟩ := hzero h
        rw [h1, h2]
        rfl
      have h := unsigned_point (hds.append (isDigit_replicate _)) hleading digits_zero
      simpa [doubleLayout] using h
    · rename_i hscale
      have hleading : ds.head? ≠ some '0' := fun h => hscale (Int.le_of_eq (hzero h).2.symm)
      split
      · -- A point among the digits.
        rename_i hpoint
        have htake : ds.take point.toNat ≠ [] := by
          simp only [ne_eq, List.take_eq_nil_iff, hds.1, or_false]
          omega
        have hdrop : ds.drop point.toNat ≠ [] := by
          simp only [ne_eq, List.drop_eq_nil_iff]
          omega
        have hhead : (ds.take point.toNat).head? ≠ some '0' := by
          rw [List.head?_take, if_neg fun h => htake (by rw [h]; rfl)]
          exact hleading
        rw [String.toList_ofList]
        exact unsigned_point (hds.of_subset htake (List.take_subset _ _))
          (fun h => absurd h hhead) (hds.of_subset hdrop (List.drop_subset _ _))
      · -- Only zeros in front of the digits.
        have h := unsigned_point digits_zero (fun _ => rfl)
          (hds.append_left (isDigit_replicate (-point).toNat))
        simpa using h
  · rw [String.toList_append, String.toList_ofList]
    exact unsigned_exponent hds (point - 1)

theorem exists_spelling_double (d : Double) :
    ∃ s : Spelling, s.Valid ∧ (doubleLayout.text d).toList = s.chars := by
  have hbody : Unsigned (if d.isZero then "0" ++ doubleLayout.integralEnd
      else doubleLayout.positive d.shortest).toList := by
    by_cases hz : d.isZero
    · rw [if_pos hz]
      exact unsigned_point digits_zero (fun _ => rfl) digits_zero
    · rw [if_neg hz]
      exact unsigned_positive (Double.scale_shortest (by simpa [Double.isZero] using hz))
  obtain ⟨s, hs, hneg, htext⟩ := hbody
  simp only [DecimalLayout.text]
  by_cases hd : d.negative
  · refine ⟨{ s with negative := true }, ⟨hs.whole, hs.leading, hs.fraction, hs.exponent⟩, ?_⟩
    rw [if_pos hd, String.toList_append, ← htext]
    simp [Spelling.chars, Spelling.signChars, Spelling.fractionChars, Spelling.exponentChars, hneg]
  · rw [if_neg hd]
    exact ⟨s, hs, htext.symm⟩

/-! ## The text of a whole number -/

theorem toList_toString (n : Int) : (toString n).toList = wholeChars n := by
  cases n with
  | ofNat m =>
    show (Nat.repr m).toList = _
    simp [Nat.repr, wholeChars]
  | negSucc m =>
    show ("-" ++ Nat.repr (m + 1)).toList = _
    simp [Nat.repr, wholeChars]

theorem mem_wholeChars {n : Int} {c : Char} (h : c ∈ wholeChars n) : c = '-' ∨ c.isDigit := by
  unfold wholeChars at h
  split at h
  · rcases List.mem_cons.1 h with rfl | h
    · exact Or.inl rfl
    · exact Or.inr ((digits_toDigits _).2 c h)
  · exact Or.inr ((digits_toDigits _).2 c h)

theorem wholeChars_injective {m n : Int} (h : wholeChars m = wholeChars n) : m = n := by
  have hminus : ∀ (k : Nat) (cs : List Char), Nat.toDigits 10 k ≠ '-' :: cs := fun k cs hk =>
    absurd ((digits_toDigits k).2 '-' (by rw [hk]; exact List.mem_cons_self)) (by decide)
  unfold wholeChars at h
  split at h <;> split at h
  · have := toDigits_injective (List.cons.inj h).2
    omega
  · exact absurd h.symm (hminus _ _)
  · exact absurd h (hminus _ _)
  · have := toDigits_injective h
    omega

/-- The spelling of a whole number. -/
def wholeSpelling (n : Int) : Spelling := ⟨decide (n < 0), Nat.toDigits 10 n.natAbs, none, none⟩

theorem chars_wholeSpelling (n : Int) : (wholeSpelling n).chars = wholeChars n := by
  by_cases h : n < 0 <;>
    simp [wholeSpelling, wholeChars, Spelling.chars, Spelling.signChars, Spelling.fractionChars,
      Spelling.exponentChars, h]

theorem valid_wholeSpelling (n : Int) : (wholeSpelling n).Valid where
  whole := digits_toDigits _
  leading h := by
    simp only [wholeSpelling] at h ⊢
    by_cases h0 : n.natAbs = 0
    · rw [h0]
      rfl
    · exact absurd h (head?_toDigits h0)
  fraction := by simp [wholeSpelling]
  exponent := by simp [wholeSpelling]

end Json

namespace Number

open Text

/-- The text of every number is spelled as a reader of numbers wants it. -/
theorem exists_spelling (n : Number) :
    ∃ s : Spelling, s.Valid ∧ Json.numberChars n = s.chars := by
  cases n with
  | whole n =>
    exact ⟨_, Json.valid_wholeSpelling n.val, (Json.chars_wholeSpelling n.val).symm⟩
  | double d => exact Json.exists_spelling_double d

/-- What the text of a number is read back as. -/
def reread (n : Number) : Option Number :=
  (Token.numeral? (octets (Json.numberChars n))).bind (·.1.toNumber?)

end Number

namespace Numeral

open Text

theorem le_foldl_digits (ds : List Nat) (acc : Nat) :
    acc ≤ ds.foldl (fun a d => a * 10 + d) acc := by
  induction ds generalizing acc with
  | nil => exact Nat.le_refl acc
  | cons d ds ih => exact Nat.le_trans (by omega) (ih (acc * 10 + d))

/-- Digits that fit 64 bits are all taken. -/
theorem leading_of_lt {acc : Nat} {ds : List Nat}
    (h : ds.foldl (fun a d => a * 10 + d) acc < UInt64.size) :
    leading acc ds = (ds.foldl (fun a d => a * 10 + d) acc, 0) := by
  induction ds generalizing acc with
  | nil => rfl
  | cons d ds ih =>
    rw [List.foldl_cons] at h ⊢
    rw [leading, if_pos (Nat.lt_of_le_of_lt (le_foldl_digits ds _) h), ih h]

theorem foldl_digitValues (n : Nat) :
    (digitValues (Nat.toDigits 10 n)).foldl (fun a d => a * 10 + d) 0 = n := by
  have h := Nat.ofDigitChars_ten_toDigits (n := n)
  rw [Nat.ofDigitChars_eq_foldl] at h
  rw [digitValues, List.foldl_map]
  simpa only [Nat.mul_comm] using h

theorem leading_digitValues {n : Nat} (h : n < UInt64.size) :
    leading 0 (digitValues (Nat.toDigits 10 n)) = (n, 0) := by
  rw [leading_of_lt (by rwa [foldl_digitValues]), foldl_digitValues]

end Numeral

namespace Number

open Text

/-- A whole number is read back as itself. -/
theorem reread_whole (n : WholeNumber) : (whole n).reread = some (whole n) := by
  have hlower := n.lower
  have hupper := n.upper
  have hread := Token.numeral?_octets (Json.valid_wholeSpelling n.val) Token.breaks_nil
  rw [List.append_nil, Json.chars_wholeSpelling] at hread
  rw [reread, Json.numberChars, hread, Option.bind_some]
  simp only [Numeral.toNumber?, Spelling.numeral, Json.wholeSpelling, Option.map_none,
    Numeral.leading_digitValues (show n.val.natAbs < UInt64.size by simp only [UInt64.size]; omega)]
  by_cases hneg : n.val < 0
  · have hval : -(n.val.natAbs : Int) = n.val := by omega
    simp only [hneg, decide_true, if_neg (show ¬ ((0 : Nat) ≠ 0) by simp), hval,
      if_pos (show 0 < n.val.natAbs ∧ n.val.natAbs ≤ Nat.pow 2 63 by simp only [Nat.pow_eq]; omega), WholeNumber.ofInt?_val]
    rfl
  · have hval : (n.val.natAbs : Int) = n.val := by omega
    simp only [hneg, decide_false, if_neg (show ¬ ((0 : Nat) ≠ 0) by simp), hval,
      WholeNumber.ofInt?_val]
    rfl

end Number

end GatewayAdmission
