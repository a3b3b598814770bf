import GatewayAdmission.Proofs.Scan
import GatewayAdmission.Route.Header
import GatewayAdmission.Route.Parent

/-!
# Loops of the route rules

What the loops over header actions and over parent references report is told by an entry and those
before it: **an action is reported if it is the second on its header** (`HeaderModifier.check_eq`),
and **a reference is reported if it is the first to clash with an earlier one**
(`ParentReference.check_eq`).

The loops keep maps. What a map says of a key is a function of the entries passed: how many actions
there have been on a header (`dueAfter`), and which parts of a parent have been referred to
(`partsOf`).
-/

namespace GatewayAdmission

/-! ## Header actions -/

namespace HeaderModifier

variable {path : FieldPath}

/-- What is kept of a header after so many actions on it. -/
def dueAfter : Nat → Option Bool
  | 0 => none
  | 1 => some true
  | _ => some false

/-- Whether what is kept stands for these actions. -/
def Due (before : List Action) (due : List (String × Bool)) : Prop :=
  ∀ name, due.lookup name = dueAfter (before.countP (·.name == name))

theorem scansBy_look :
    ScansBy (look path) Due fun o => if o.isSecond (·.name) then [actionError path o.entry] else []
    where
  reports := by
    intro before due hdue index a
    rw [look, hdue, Occurrence.isSecond]
    dsimp only
    generalize before.countP (·.name == a.name) = n
    rcases n with _ | _ | n <;> rfl
  keeps := by
    intro before due hdue index a name
    rw [look, hdue, List.countP_cons]
    by_cases hname : a.name = name
    · subst hname
      rw [beq_self_eq_true, if_pos rfl]
      generalize before.countP (·.name == a.name) = n
      rcases n with _ | _ | n <;> exact List.lookup_cons_self
    · have hne : (name == a.name) = false := beq_eq_false_iff_ne.2 (Ne.symm hname)
      rw [if_neg (by simpa using hname), Nat.add_zero, ← hdue name]
      split <;> rw [List.lookup_cons, hne]

theorem check_eq (path : FieldPath) (m : HeaderModifier) :
    m.check path = (secondOccurrences (·.name) m.actions).map (actionError path) := by
  rw [check, scan_eq_map_filter scansBy_look fun _ => rfl, secondOccurrences, List.map_map]
  rfl

end HeaderModifier

/-! ## Clashes of parent references -/

namespace ParentReference

variable {path : FieldPath} {before : List ParentReference} {index : Nat} {r : ParentReference}

/-- The earlier references to the same parent. -/
def siblings (o : Occurrence ParentReference) : List ParentReference :=
  o.before.filter (·.key == o.entry.key)

/-- Whether a parent is referred to as a whole beside another reference to it. -/
def lacksQualifier (o : Occurrence ParentReference) : Bool :=
  !(siblings o).isEmpty &&
    (o.entry :: siblings o).any fun r => r.qualifier == Qualifier.none

/-- Whether an earlier reference is to the same part of the same parent. -/
def repeatsQualifier (o : Occurrence ParentReference) : Bool :=
  (siblings o).any fun r => r.qualifier == o.entry.qualifier

def clashes (o : Occurrence ParentReference) : Bool := lacksQualifier o || repeatsQualifier o

/-- The error for a reference that clashes with an earlier one. -/
def clashError (path : FieldPath) (o : Occurrence ParentReference) : FieldError :=
  if lacksQualifier o then .required path missingQualifierMessage
  else repeatedError path o.index o.entry.qualifier

/-- The parts of a parent that these references are to. -/
def partsOf (before : List ParentReference) (k : String × String × String) : List Qualifier :=
  (before.filter (·.key == k)).map qualifier

theorem partsOf_cons_self :
    partsOf (r :: before) r.key = r.qualifier :: partsOf before r.key := by
  rw [partsOf, List.filter_cons_of_pos (by simp), List.map_cons, partsOf]

theorem partsOf_cons_of_ne {k : String × String × String} (h : r.key ≠ k) :
    partsOf (r :: before) k = partsOf before k := by
  rw [partsOf, List.filter_cons_of_neg (by simpa using h), partsOf]

/-- Whether what is kept stands for these references. -/
def Seen (before : List ParentReference)
    (seen : List ((String × String × String) × List Qualifier)) : Prop :=
  ∀ k, seen.lookup k = if (partsOf before k).isEmpty then none else some (partsOf before k)

theorem contains_partsOf (q : Qualifier) : (partsOf before r.key).contains q
    = (siblings ⟨index, before, r⟩).any fun a => a.qualifier == q := by
  rw [Bool.eq_iff_iff, List.contains_iff_mem, partsOf, List.mem_map, List.any_eq_true]
  simp only [beq_iff_eq, siblings]

theorem look_eq {seen : List ((String × String × String) × List Qualifier)}
    (hseen : Seen before seen) (index : Nat) (r : ParentReference) :
    look path seen index r =
      if clashes ⟨index, before, r⟩ then .error (clashError path ⟨index, before, r⟩)
      else .ok ((r.key, r.qualifier :: partsOf before r.key) :: seen) := by
  have hsiblings : (siblings ⟨index, before, r⟩).isEmpty = (partsOf before r.key).isEmpty :=
    List.isEmpty_map.symm
  have hlacks : lacksQualifier ⟨index, before, r⟩ = (!(partsOf before r.key).isEmpty
      && (r.qualifier == .none || (partsOf before r.key).contains .none)) := by
    rw [lacksQualifier, hsiblings, List.any_cons, contains_partsOf]
  have hrepeats : repeatsQualifier ⟨index, before, r⟩
      = (partsOf before r.key).contains r.qualifier :=
    (contains_partsOf r.qualifier).symm
  rw [look, hseen, clashes, clashError, hlacks, hrepeats]
  cases partsOf before r.key with
  | nil => rfl
  | cons q parts =>
    simp only [List.isEmpty_cons, Bool.false_eq_true, if_false]
    generalize (r.qualifier == .none || (q :: parts).contains .none) = whole
    generalize (q :: parts).contains r.qualifier = again
    cases whole <;> cases again <;> rfl

theorem scansUntil_look : ScansUntil (look path) Seen clashes (clashError path) where
  ends := by
    intro before seen hseen index r hclash
    rw [look_eq hseen, if_pos hclash]
  keeps := by
    intro before seen hseen index r hclash
    refine ⟨_, (look_eq hseen index r).trans (if_neg (by simp [hclash])), fun k => ?_⟩
    by_cases hk : r.key = k
    · subst hk
      rw [List.lookup_cons_self, partsOf_cons_self]
      rfl
    · have hne : (k == r.key) = false := beq_eq_false_iff_ne.2 (Ne.symm hk)
      rw [List.lookup_cons, hne, partsOf_cons_of_ne hk]
      exact hseen k

theorem find?_clashes_of_length_le {refs : List ParentReference} (h : refs.length ≤ 1) :
    (occurrences refs).find? clashes = none := by
  match refs, h with
  | [], _ => rfl
  | [_], _ => rfl

theorem check_eq (path : FieldPath) (refs : List ParentReference) :
    check path refs = (((occurrences refs).find? clashes).map (clashError path)).toList := by
  by_cases hlength : refs.length ≤ 1
  · rw [check, if_pos hlength, find?_clashes_of_length_le hlength]
    rfl
  · rw [check, if_neg hlength, scanUntil_eq scansUntil_look fun _ => rfl]

end ParentReference

end GatewayAdmission
