/-!
# Patterns

Regular expressions over characters. `Pattern.accepts` decides whether a whole text has the form
of a pattern: it keeps the patterns that the rest of the text may still have, replaces each by its
residuals after the next character, and asks at the end whether one of them has the empty text.
-/

namespace GatewayAdmission

inductive Pattern where
  | empty
  /-- One character in one of the ranges. -/
  | one (ranges : List (Char × Char))
  | seq (first second : Pattern)
  | either (left right : Pattern)
  /-- Any number of times. -/
  | many (inner : Pattern)
deriving DecidableEq

namespace Pattern

/-- One given character. -/
def char (c : Char) : Pattern := one [(c, c)]

/-- At most once. -/
def optional (p : Pattern) : Pattern := either empty p

/-- At least once. -/
def atLeastOnce (p : Pattern) : Pattern := seq p (many p)

/-- One after the other. -/
def sequence : List Pattern → Pattern
  | [] => empty
  | [p] => p
  | p :: ps => seq p (sequence ps)

def inRanges (ranges : List (Char × Char)) (c : Char) : Bool :=
  ranges.any fun (low, high) => low ≤ c && c ≤ high

/-- Whether the empty text has the form. -/
def acceptsEmpty : Pattern → Bool
  | empty => true
  | one _ => false
  | seq p q => p.acceptsEmpty && q.acceptsEmpty
  | either p q => p.acceptsEmpty || q.acceptsEmpty
  | many _ => true

/-- The sequence, without an empty first part. -/
def andThen (p q : Pattern) : Pattern :=
  match p with
  | empty => q
  | p => seq p q

/-- The forms that what follows `c` may have. -/
def residuals (c : Char) : Pattern → List Pattern
  | empty => []
  | one ranges => if inRanges ranges c then [empty] else []
  | seq p q => (residuals c p).map (andThen · q) ++ (if p.acceptsEmpty then residuals c q else [])
  | either p q => residuals c p ++ residuals c q
  | many p => (residuals c p).map (andThen · (many p))

/-- Whether one of the patterns accepts the text. -/
def anyAccepts (ps : List Pattern) : List Char → Bool
  | [] => ps.any acceptsEmpty
  | c :: rest => anyAccepts (ps.flatMap (residuals c)).eraseDups rest

/-- Whether the whole text has the form of the pattern. -/
def accepts (p : Pattern) (s : String) : Bool := anyAccepts [p] s.toList

end Pattern

end GatewayAdmission
