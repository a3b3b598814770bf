/-!
# Sets of characters

A set is given by the increasing list of the numbers at which membership changes, beginning with
no membership.
-/

namespace GatewayAdmission

structure CharSet where
  bounds : List Nat

namespace CharSet

/-- Whether the list of changes puts `n` inside, `inside` being the state before it. -/
def holds (inside : Bool) (n : Nat) : List Nat → Bool
  | [] => inside
  | b :: rest => if n < b then inside else holds (!inside) n rest

def contains (s : CharSet) (c : Char) : Bool := holds false c.toNat s.bounds

end CharSet

end GatewayAdmission
