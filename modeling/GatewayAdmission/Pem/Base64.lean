/-!
# Base64

Bytes as text: three bytes are four characters, and a last group of fewer bytes is filled up to
four characters with equals signs, or not filled up at all. Blanks and line breaks between
characters mean nothing.
-/

namespace GatewayAdmission

namespace Base64

/-- The six bits of a character of the alphabet. -/
def value? (b : UInt8) : Option Nat :=
  let n := b.toNat
  if 65 ≤ n ∧ n ≤ 90 then some (n - 65)
  else if 97 ≤ n ∧ n ≤ 122 then some (n - 97 + 26)
  else if 48 ≤ n ∧ n ≤ 57 then some (n - 48 + 52)
  else if n = 43 then some 62
  else if n = 47 then some 63
  else none

/-- The equals sign. -/
def padding : UInt8 := 61

/-- Whether a byte is a blank, a tabulator or a line break of some kind. -/
def isBlank (b : UInt8) : Bool := b = 32 || (9 ≤ b && b ≤ 13)

/-- The first `count` of the three bytes that four characters stand for. -/
def groupBytes (count : Nat) (a b c d : Nat) : List UInt8 :=
  let bits := ((a * 64 + b) * 64 + c) * 64 + d
  [UInt8.ofNat (bits / 65536), UInt8.ofNat (bits / 256 % 256), UInt8.ofNat (bits % 256)].take count

/-- A group of four characters, without padding. -/
def group? (a b c d : UInt8) : Option (List UInt8) :=
  (value? a).bind fun a => (value? b).bind fun b => (value? c).bind fun c => (value? d).map fun d =>
    groupBytes 3 a b c d

/-- The last group, which may end in padding. -/
def lastGroup? (a b c d : UInt8) : Option (List UInt8) :=
  if d ≠ padding then group? a b c d
  else (value? a).bind fun a => (value? b).bind fun b =>
    if c = padding then some (groupBytes 1 a b 0 0)
    else (value? c).map fun c => groupBytes 2 a b c 0

/-- The groups of a text; the last one may lack its padding as a whole. -/
def groups? : List UInt8 → Option (List UInt8)
  | [] => some []
  | [a, b] => lastGroup? a b padding padding
  | [a, b, c] => if c = padding then none else lastGroup? a b c padding
  | [a, b, c, d] => lastGroup? a b c d
  | a :: b :: c :: d :: rest => (group? a b c d).bind fun bytes => (groups? rest).map (bytes ++ ·)
  | _ => none

/-- The bytes that a text stands for. -/
def decode? (text : List UInt8) : Option (List UInt8) := groups? (text.filter (!isBlank ·))

end Base64

end GatewayAdmission
