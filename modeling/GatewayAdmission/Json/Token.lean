import GatewayAdmission.Json.Number

/-!
# Tokens of a JSON text

A text is a list of octets. `Token.list?` cuts it into tokens, skipping blanks, and fails on
anything that is no token. Strings and numbers are checked for their written form only: whether a
string is valid text, and a number a finite one, is kept beside the token as an option, because a
part of the text that nobody reads is not asked for its value.
-/

namespace GatewayAdmission

inductive Token where
  | null
  | bool (value : Bool)
  | num (value : Option Number)
  | str (value : Option String)
  | openArr
  | closeArr
  | openObj
  | closeObj
  | comma
  | colon
deriving DecidableEq

namespace Token

/-! ## Strings -/

/-- A part of a string: an octet of its text, or a 16-bit unit written in hexadecimal. -/
inductive Piece where
  | octet (b : UInt8)
  | unit (u : Nat)
deriving DecidableEq

/-- The value of a hexadecimal digit. -/
def hexValue? (b : UInt8) : Option Nat :=
  if 0x30 ≤ b ∧ b ≤ 0x39 then some (b.toNat - 0x30)
  else if 0x41 ≤ b ∧ b ≤ 0x46 then some (b.toNat - 0x37)
  else if 0x61 ≤ b ∧ b ≤ 0x66 then some (b.toNat - 0x57)
  else none

/-- The octet that a one-letter escape stands for. -/
def shortEscape? (b : UInt8) : Option UInt8 :=
  if b = 0x22 ∨ b = 0x5C ∨ b = 0x2F then some b
  else if b = 0x62 then some 0x08
  else if b = 0x66 then some 0x0C
  else if b = 0x6E then some 0x0A
  else if b = 0x72 then some 0x0D
  else if b = 0x74 then some 0x09
  else none

def hexUnit? (a b c d : UInt8) : Option Nat := do
  return (((← hexValue? a) * 16 + (← hexValue? b)) * 16 + (← hexValue? c)) * 16 + (← hexValue? d)

/-- The pieces up to the closing quote, and what follows it. -/
def pieces? (done : List Piece) : List UInt8 → Option (List Piece × List UInt8)
  | [] => none
  | 0x22 :: rest => some (done.reverse, rest)
  | 0x5C :: 0x75 :: a :: b :: c :: d :: rest =>
    match hexUnit? a b c d with
    | some u => pieces? (.unit u :: done) rest
    | none => none
  | 0x5C :: e :: rest =>
    match shortEscape? e with
    | some b => pieces? (.octet b :: done) rest
    | none => none
  | b :: rest => if b < 0x20 then none else pieces? (.octet b :: done) rest

theorem length_of_pieces? {done : List Piece} {bs : List UInt8} {r : List Piece × List UInt8}
    (h : pieces? done bs = some r) : r.2.length < bs.length := by
  fun_induction pieces? done bs with
  | case1 => simp at h
  | case2 => simp at h; simp [← h]
  | case3 _ _ _ _ _ _ _ _ ih => have := ih h; simp; omega
  | case4 => simp at h
  | case5 _ _ _ _ _ _ ih => have := ih h; simp; omega
  | case6 => simp at h
  | case7 => simp at h
  | case8 _ _ _ _ _ _ _ ih => have := ih h; simp; omega

/-- The octets of pieces. A unit stands for its character; two units that form a surrogate pair
stand for one, and a surrogate alone for none. -/
def octets? : List Piece → Option (List UInt8)
  | [] => some []
  | .octet b :: rest => (octets? rest).map (b :: ·)
  | .unit u :: .unit v :: rest =>
    if 0xD800 ≤ u ∧ u < 0xDC00 then
      if 0xDC00 ≤ v ∧ v < 0xE000 then
        let c := Char.ofNat ((u - 0xD800) * 0x400 + (v - 0xDC00) + 0x10000)
        (octets? rest).map (String.utf8EncodeChar c ++ ·)
      else none
    else if 0xDC00 ≤ u ∧ u < 0xE000 then none
    else (octets? (.unit v :: rest)).map (String.utf8EncodeChar (Char.ofNat u) ++ ·)
  | .unit u :: rest =>
    if 0xD800 ≤ u ∧ u < 0xE000 then none
    else (octets? rest).map (String.utf8EncodeChar (Char.ofNat u) ++ ·)

/-- The text of pieces, if they form valid UTF-8. -/
def text? (ps : List Piece) : Option String :=
  (octets? ps).bind fun bs => String.fromUTF8? ⟨bs.toArray⟩

/-! ## Numbers -/

def isDigit (b : UInt8) : Bool := 0x30 ≤ b && b ≤ 0x39

def digitValue (b : UInt8) : Nat := b.toNat - 0x30

/-- The digits at the front, and what follows them. -/
def digits (bs : List UInt8) : List Nat × List UInt8 :=
  ((bs.takeWhile isDigit).map digitValue, bs.dropWhile isDigit)

theorem length_digits (bs : List UInt8) :
    (digits bs).1.length + (digits bs).2.length = bs.length := by
  simp only [digits, List.length_map]
  rw [← List.length_append, List.takeWhile_append_dropWhile]

/-- The digits before the point: a zero stands alone. -/
def intDigits? : List UInt8 → Option (List Nat × List UInt8)
  | 0x30 :: rest => some ([0], rest)
  | bs => if (digits bs).1 = [] then none else some (digits bs)

/-- The digits behind a point, if one follows. -/
def fractionDigits? : List UInt8 → Option (Option (List Nat) × List UInt8)
  | 0x2E :: rest =>
    if (digits rest).1 = [] then none else some (some (digits rest).1, (digits rest).2)
  | bs => some (none, bs)

/-- The number that digits stand for. -/
def decimalValue (ds : List Nat) : Nat := ds.foldl (fun acc d => acc * 10 + d) 0

/-- Whether a minus is at the front, and what follows the sign. -/
def exponentSign : List UInt8 → Bool × List UInt8
  | 0x2D :: rest => (true, rest)
  | 0x2B :: rest => (false, rest)
  | bs => (false, bs)

/-- The exponent, if one follows. -/
def exponent? : List UInt8 → Option (Option Int × List UInt8)
  | [] => some (none, [])
  | mark :: bs =>
    if mark = 0x65 ∨ mark = 0x45 then
      let size : Int := decimalValue (digits (exponentSign bs).2).1
      if (digits (exponentSign bs).2).1 = [] then none
      else some (some (if (exponentSign bs).1 then -size else size), (digits (exponentSign bs).2).2)
    else some (none, mark :: bs)

/-- The numeral at the front, and what follows it. -/
def numeral? (bs : List UInt8) : Option (Numeral × List UInt8) := do
  let negative := bs.head? == some 0x2D
  let (whole, rest) ← intDigits? (if negative then bs.tail else bs)
  let (fraction, rest) ← fractionDigits? rest
  let (exponent, rest) ← exponent? rest
  return (⟨negative, whole, fraction, exponent⟩, rest)

theorem length_of_intDigits? {bs : List UInt8} {r : List Nat × List UInt8}
    (h : intDigits? bs = some r) : r.2.length < bs.length := by
  unfold intDigits? at h
  split at h
  · simp only [Option.some.injEq] at h
    simp [← h]
  · split at h
    · simp at h
    · rename_i hne
      simp only [Option.some.injEq] at h
      have hpos := List.length_pos_iff.2 hne
      have := length_digits bs
      rw [← h]
      omega

theorem length_of_fractionDigits? {bs : List UInt8} {r : Option (List Nat) × List UInt8}
    (h : fractionDigits? bs = some r) : r.2.length ≤ bs.length := by
  unfold fractionDigits? at h
  split at h
  · rename_i rest
    split at h
    · simp at h
    · simp only [Option.some.injEq] at h
      have := length_digits rest
      simp only [← h, List.length_cons]
      omega
  · simp only [Option.some.injEq] at h
    simp [← h]

theorem length_exponentSign (bs : List UInt8) : (exponentSign bs).2.length ≤ bs.length := by
  unfold exponentSign
  split <;> simp

theorem length_of_exponent? {bs : List UInt8} {r : Option Int × List UInt8}
    (h : exponent? bs = some r) : r.2.length ≤ bs.length := by
  unfold exponent? at h
  split at h
  · simp only [Option.some.injEq] at h
    simp [← h]
  · rename_i mark bs
    split at h
    · split at h
      · simp at h
      · simp only [Option.some.injEq] at h
        have h1 := length_digits (exponentSign bs).2
        have h2 := length_exponentSign bs
        simp only [← h, List.length_cons]
        omega
    · simp only [Option.some.injEq] at h
      simp [← h]

theorem length_of_numeral? {bs : List UInt8} {r : Numeral × List UInt8}
    (h : numeral? bs = some r) : r.2.length < bs.length := by
  simp only [numeral?, Option.bind_eq_bind, Option.bind_eq_some_iff, Option.pure_def,
    Option.some.injEq, Prod.exists] at h
  obtain ⟨_, r1, h1, _, r2, h2, _, r3, h3, h4⟩ := h
  have l1 := length_of_intDigits? h1
  have l2 := length_of_fractionDigits? h2
  have l3 := length_of_exponent? h3
  rw [← h4]
  have := List.length_tail (l := bs)
  split at l1 <;> simp only at * <;> omega

/-! ## Tokens -/

/-- Whether an octet is a blank between tokens. -/
def isBlank (b : UInt8) : Bool := b == 0x20 || b == 0x09 || b == 0x0A || b == 0x0D

/-- The token that starts with `b`, and what follows it. -/
def next? (b : UInt8) (rest : List UInt8) : Option (Token × List UInt8) :=
  if b = 0x5B then some (.openArr, rest)
  else if b = 0x5D then some (.closeArr, rest)
  else if b = 0x7B then some (.openObj, rest)
  else if b = 0x7D then some (.closeObj, rest)
  else if b = 0x2C then some (.comma, rest)
  else if b = 0x3A then some (.colon, rest)
  else if b = 0x22 then (pieces? [] rest).map fun (ps, rest) => (.str (text? ps), rest)
  else if b = 0x2D ∨ isDigit b then
    (numeral? (b :: rest)).map fun (x, rest) => (.num x.toNumber?, rest)
  else match b, rest with
    | 0x6E, 0x75 :: 0x6C :: 0x6C :: rest => some (.null, rest)
    | 0x74, 0x72 :: 0x75 :: 0x65 :: rest => some (.bool true, rest)
    | 0x66, 0x61 :: 0x6C :: 0x73 :: 0x65 :: rest => some (.bool false, rest)
    | _, _ => none

theorem length_of_next? {b : UInt8} {rest : List UInt8} {r : Token × List UInt8}
    (h : next? b rest = some r) : r.2.length ≤ rest.length := by
  unfold next? at h
  iterate 6
    split at h
    · simp only [Option.some.injEq] at h
      simp [← h]
  split at h
  · obtain ⟨p, hp, rfl⟩ := Option.map_eq_some_iff.1 h
    exact Nat.le_of_lt (length_of_pieces? hp)
  split at h
  · obtain ⟨p, hp, rfl⟩ := Option.map_eq_some_iff.1 h
    exact Nat.le_of_lt_succ (length_of_numeral? hp)
  · split at h <;> simp only [Option.some.injEq, reduceCtorEq] at h <;>
      simp only [← h, List.length_cons] <;> omega

/-- The tokens of a text, `done` being those before it in reverse. -/
def listAux? (done : List Token) (bs : List UInt8) : Option (List Token) :=
  match bs with
  | [] => some done.reverse
  | b :: rest =>
    if isBlank b then listAux? done rest
    else match _h : next? b rest with
      | none => none
      | some (t, rest') => listAux? (t :: done) rest'
termination_by bs.length
decreasing_by
  · simp
  · have := length_of_next? _h
    simp only [List.length_cons] at *
    omega

/-- The tokens of a text. -/
def list? (bs : List UInt8) : Option (List Token) := listAux? [] bs

end Token

end GatewayAdmission
