/-!
# Splitting text at a character
-/

namespace GatewayAdmission

namespace Text

/-- The parts between the occurrences of a separator: always one more than there are of it. -/
def splitAt (sep : Char) : List Char → List (List Char)
  | [] => [[]]
  | c :: rest =>
    if c = sep then [] :: splitAt sep rest
    else match splitAt sep rest with
      | [] => [[c]]
      | part :: parts => (c :: part) :: parts

/-- What stands before and after the first place where two characters follow each other. -/
def breakAtPair (a b : Char) : List Char → Option (List Char × List Char)
  | c :: d :: rest =>
    if c = a ∧ d = b then some ([], rest)
    else (breakAtPair a b (d :: rest)).map fun (before, after) => (c :: before, after)
  | _ => none

/-- The number that decimal digits stand for; `none` if there are none or something else. -/
def decimal? (cs : List Char) : Option Nat :=
  if cs ≠ [] ∧ cs.all Char.isDigit then
    some (cs.foldl (fun acc c => acc * 10 + (c.toNat - 48)) 0)
  else none

end Text

end GatewayAdmission
