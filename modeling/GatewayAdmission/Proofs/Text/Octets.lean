import Mathlib.Tactic.Common

/-!
# The octets of characters

`Text.octets` is the UTF-8 form of a list of characters. It is what a reader of a text gets
(`toList_toUTF8`), it can be read back (`fromUTF8?_octets`), and every octet of a character beyond
ASCII is beyond ASCII itself (`le_of_mem_utf8EncodeChar`), so no part of it is taken for a quote, a
bracket or a digit.
-/

namespace GatewayAdmission

namespace Text

/-- The characters in UTF-8. -/
def octets (cs : List Char) : List UInt8 := cs.flatMap String.utf8EncodeChar

@[simp] theorem octets_nil : octets [] = [] := rfl

theorem octets_cons (c : Char) (cs : List Char) :
    octets (c :: cs) = String.utf8EncodeChar c ++ octets cs := rfl

@[simp] theorem octets_append (cs ds : List Char) : octets (cs ++ ds) = octets cs ++ octets ds :=
  List.flatMap_append

/-! ## Characters of one octet -/

theorem utf8EncodeChar_ascii {c : Char} (h : c.toNat < 0x80) :
    String.utf8EncodeChar c = [UInt8.ofNat c.toNat] := by
  unfold String.utf8EncodeChar
  exact if_pos (Nat.le_of_lt_succ h)

theorem octets_cons_ascii {c : Char} (h : c.toNat < 0x80) (cs : List Char) :
    octets (c :: cs) = UInt8.ofNat c.toNat :: octets cs := by
  rw [octets_cons, utf8EncodeChar_ascii h, List.singleton_append]

theorem octets_ascii {cs : List Char} (h : ∀ c ∈ cs, c.toNat < 0x80) :
    octets cs = cs.map fun c => UInt8.ofNat c.toNat := by
  induction cs with
  | nil => rfl
  | cons c cs ih =>
    rw [octets_cons_ascii (h c (by simp)), List.map_cons, ih fun d hd => h d (by simp [hd])]

/-- Every octet of a character beyond ASCII is beyond ASCII. -/
theorem le_of_mem_utf8EncodeChar {c : Char} (h : 0x80 ≤ c.toNat) {b : UInt8}
    (hb : b ∈ String.utf8EncodeChar c) : 0x80 ≤ b.toNat := by
  have h' : ¬ c.val.toNat ≤ 0x7f := Nat.not_le.2 h
  unfold String.utf8EncodeChar at hb
  simp only [if_neg h'] at hb
  split at hb
  · simp only [List.mem_cons, List.not_mem_nil, or_false] at hb
    rcases hb with rfl | rfl <;> simp only [UInt8.toNat_ofNat'] <;> omega
  · split at hb <;> simp only [List.mem_cons, List.not_mem_nil, or_false] at hb
    · rcases hb with rfl | rfl | rfl <;> simp only [UInt8.toNat_ofNat'] <;> omega
    · rcases hb with rfl | rfl | rfl | rfl <;> simp only [UInt8.toNat_ofNat'] <;> omega

/-! ## Texts -/

/-- The octets of a text are those of its characters. -/
theorem toList_toUTF8 (s : String) : s.toUTF8.data.toList = octets s.toList := by
  rw [String.toUTF8_eq_toByteArray, ← String.utf8Encode_toList, List.utf8Encode,
    List.data_toByteArray]
  rfl

/-- In ASCII, there are as many octets as characters. -/
theorem utf8ByteSize_ascii {s : String} (h : ∀ c ∈ s.toList, c.toNat < 0x80) :
    s.utf8ByteSize = s.toList.length := by
  have hlength := congrArg List.length (toList_toUTF8 s)
  rw [octets_ascii h, List.length_map] at hlength
  exact hlength

/-- Octets of characters form a text. -/
theorem fromUTF8?_octets (s : String) : String.fromUTF8? ⟨(octets s.toList).toArray⟩ = some s := by
  have harr : (⟨(octets s.toList).toArray⟩ : ByteArray) = s.toByteArray := by
    rw [← toList_toUTF8, String.toUTF8_eq_toByteArray]
  rw [harr, String.fromUTF8?, dif_pos s.isValidUTF8]
  rfl

end Text

end GatewayAdmission
