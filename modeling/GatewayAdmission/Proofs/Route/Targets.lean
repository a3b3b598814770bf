import GatewayAdmission.Proofs.Route.Parts

/-!
# References by the parents they target

A reference that names no group, no kind or no namespace means `gateway.networking.k8s.io`,
`Gateway` and the namespace of its route. References target one parent if they agree after these
defaults are filled in (`ParentReference.target`).

The check for parents compares names, namespaces and kinds as they are written and does not read
groups (`SameParent`). It judges references by their targets, whatever parts of the parents they
are to, exactly if any two of them are written alike when they target one parent and only then
(`check_of_targets`).
-/

namespace GatewayAdmission

/-- What a reference is to. -/
structure Parent where
  group : String
  kind : String
  namespace_ : String
  name : String
deriving DecidableEq

namespace ParentReference

/-- The parent that a route of this namespace means. -/
def target (home : String) (r : ParentReference) : Parent where
  group := r.group.getD "gateway.networking.k8s.io"
  kind := r.kind.getD "Gateway"
  namespace_ := r.namespace_.getD home
  name := r.name

/-- Whether two references name parts, and not the same part, of whatever parents. -/
def PartsApart (a b : ParentReference) : Prop :=
  a.Qualified ∧ b.Qualified
    ∧ (a.sectionName.getD "", a.port.getD 0) ≠ (b.sectionName.getD "", b.port.getD 0)

/-- Whether a relation holds of any two references at different positions. -/
def AnyTwo (R : ParentReference → ParentReference → Prop) (refs : List ParentReference) : Prop :=
  ∀ (i j : Nat) (a b : ParentReference), i ≠ j → refs[i]? = some a → refs[j]? = some b → R a b

/-- Whether references to one target are to different parts of it. -/
def TargetsApart (home : String) (refs : List ParentReference) : Prop :=
  AnyTwo (fun a b => a.target home = b.target home → PartsApart a b) refs

/-- Whether references are alike as they are written if they have one target, and only then. -/
def SpelledByTarget (home : String) (refs : List ParentReference) : Prop :=
  AnyTwo (fun a b => SameParent a b ↔ a.target home = b.target home) refs

/-! ## References at different positions -/

theorem PartsApart.symm {a b : ParentReference} (h : PartsApart a b) : PartsApart b a :=
  ⟨h.2.1, h.1, h.2.2.symm⟩

theorem anyTwo_iff_pairwise {R : ParentReference → ParentReference → Prop}
    (hsymm : ∀ a b, R a b → R b a) {refs : List ParentReference} :
    AnyTwo R refs ↔ refs.Pairwise R := by
  rw [List.pairwise_iff_getElem]
  constructor
  · intro h i j hi hj hij
    exact h i j _ _ (Nat.ne_of_lt hij) (List.getElem?_eq_getElem hi) (List.getElem?_eq_getElem hj)
  · intro h i j a b hij hia hjb
    obtain ⟨hi, rfl⟩ := List.getElem?_eq_some_iff.1 hia
    obtain ⟨hj, rfl⟩ := List.getElem?_eq_some_iff.1 hjb
    rcases Nat.lt_or_gt_of_ne hij with hlt | hgt
    · exact h i j hi hj hlt
    · exact hsymm _ _ (h j i hj hi hgt)

theorem check_eq_nil_iff_anyTwo {path : FieldPath} {refs : List ParentReference} :
    check path refs = [] ↔ AnyTwo (fun a b => SameParent a b → PartsApart a b) refs := by
  rw [check_eq_nil_iff]
  exact (anyTwo_iff_pairwise fun _ _ => Apart.symm).symm

theorem targetsApart_iff_pairwise {home : String} {refs : List ParentReference} :
    TargetsApart home refs
      ↔ refs.Pairwise fun a b => a.target home = b.target home → PartsApart a b :=
  anyTwo_iff_pairwise fun _ _ h htarget => (h htarget.symm).symm

/-- The verdict is the one by targets where the spelling follows the targets. -/
theorem check_eq_nil_iff_targetsApart {home : String} {path : FieldPath}
    {refs : List ParentReference} (h : SpelledByTarget home refs) :
    check path refs = [] ↔ TargetsApart home refs := by
  rw [check_eq_nil_iff_anyTwo]
  constructor
  · intro hapart i j a b hij ha hb htarget
    exact hapart i j a b hij ha hb ((h i j a b hij ha hb).2 htarget)
  · intro hapart i j a b hij ha hb hsame
    exact hapart i j a b hij ha hb ((h i j a b hij ha hb).1 hsame)

/-! ## References to other parts of the same parents -/

/-- A reference to all of its parent. -/
def whole (r : ParentReference) : ParentReference := { r with sectionName := none, port := none }

/-- A relation that reads nothing of the parts. -/
def OfWholes (R : ParentReference → ParentReference → Prop) : Prop :=
  ∀ a b, R a b ↔ R a.whole b.whole

theorem OfWholes.congr {R : ParentReference → ParentReference → Prop} (hR : OfWholes R)
    {a a' b b' : ParentReference} (ha : a.whole = a'.whole) (hb : b.whole = b'.whole) :
    R a b ↔ R a' b' := by
  rw [hR a b, hR a' b', ha, hb]

theorem ofWholes_sameParent : OfWholes SameParent := fun _ _ => Iff.rfl

theorem ofWholes_target (home : String) :
    OfWholes fun a b => a.target home = b.target home := fun _ _ => Iff.rfl

/-- Infinitely many names of sections. -/
def sectionOf (n : Nat) : String := String.ofList (List.replicate (n + 1) 's')

theorem sectionOf_ne_empty (n : Nat) : sectionOf n ≠ "" := fun h => by
  simpa [sectionOf] using congrArg String.length h

theorem sectionOf_inj {m n : Nat} : sectionOf m = sectionOf n ↔ m = n := by
  constructor
  · intro h
    simpa [sectionOf] using congrArg String.length h
  · intro h
    rw [h]

def inSection (n : Nat) (r : ParentReference) : ParentReference :=
  { r with sectionName := some (sectionOf n), port := none }

theorem whole_inSection (n : Nat) (r : ParentReference) : (r.inSection n).whole = r.whole := rfl

theorem partsApart_inSection {m n : Nat} {a b : ParentReference} :
    PartsApart (a.inSection m) (b.inSection n) ↔ m ≠ n := by
  simp [PartsApart, Qualified, inSection, sectionOf_ne_empty, sectionOf_inj]

/-- The references to sections that differ but for those at two positions. -/
def sharing (i j : Nat) (refs : List ParentReference) : List ParentReference :=
  refs.mapIdx fun k r => r.inSection (if k = j then i else k)

theorem map_whole_sharing (i j : Nat) (refs : List ParentReference) :
    (sharing i j refs).map whole = refs.map whole := by
  apply List.ext_getElem?
  intro k
  simp [sharing, Function.comp_def, whole_inSection]

/-- The positions that share a section are the two. -/
theorem eq_of_shared {i j k l : Nat} (hkl : k ≠ l)
    (h : (if k = j then i else k) = if l = j then i else l) : k = i ∧ l = j ∨ k = j ∧ l = i := by
  split_ifs at h <;> omega

/-- Where only two references share a section, all depends on whether these are related. -/
theorem anyTwo_sharing_iff {R : ParentReference → ParentReference → Prop} (hR : OfWholes R)
    (hsymm : ∀ a b, R a b → R b a) {refs : List ParentReference} {i j : Nat}
    {a b : ParentReference} (hij : i ≠ j) (ha : refs[i]? = some a) (hb : refs[j]? = some b) :
    AnyTwo (fun a b => R a b → PartsApart a b) (sharing i j refs) ↔ ¬ R a b := by
  constructor
  · intro h hrelated
    have hi : (sharing i j refs)[i]? = some (a.inSection i) := by
      simp [sharing, ha, hij]
    have hj : (sharing i j refs)[j]? = some (b.inSection i) := by
      simp [sharing, hb]
    have hapart := h i j _ _ hij hi hj
      ((hR.congr (whole_inSection i a) (whole_inSection i b)).2 hrelated)
    exact partsApart_inSection.1 hapart rfl
  · intro hunrelated k l c d hkl hk hl hrelated
    simp only [sharing, List.getElem?_mapIdx, Option.map_eq_some_iff] at hk hl
    obtain ⟨c, hc, rfl⟩ := hk
    obtain ⟨d, hd, rfl⟩ := hl
    rw [hR.congr (whole_inSection _ c) (whole_inSection _ d)] at hrelated
    rw [partsApart_inSection]
    intro hshared
    rcases eq_of_shared hkl hshared with ⟨rfl, rfl⟩ | ⟨rfl, rfl⟩
    · obtain rfl := Option.some.inj (ha.symm.trans hc)
      obtain rfl := Option.some.inj (hb.symm.trans hd)
      exact hunrelated hrelated
    · obtain rfl := Option.some.inj (hb.symm.trans hc)
      obtain rfl := Option.some.inj (ha.symm.trans hd)
      exact hunrelated (hsymm _ _ hrelated)

theorem SpelledByTarget.of_map_whole {home : String} {refs others : List ParentReference}
    (h : SpelledByTarget home refs) (hmap : others.map whole = refs.map whole) :
    SpelledByTarget home others := by
  intro i j a b hij ha hb
  have hwhole (k : Nat) (r : ParentReference) (hr : others[k]? = some r) :
      ∃ s, refs[k]? = some s ∧ s.whole = r.whole := by
    have hk : (refs.map whole)[k]? = some r.whole := by
      rw [← hmap, List.getElem?_map, hr]
      rfl
    rwa [List.getElem?_map, Option.map_eq_some_iff] at hk
  obtain ⟨a', ha', haw⟩ := hwhole i a ha
  obtain ⟨b', hb', hbw⟩ := hwhole j b hb
  calc SameParent a b
    _ ↔ SameParent a' b' := ofWholes_sameParent.congr haw.symm hbw.symm
    _ ↔ a'.target home = b'.target home := h i j a' b' hij ha' hb'
    _ ↔ a.target home = b.target home := (ofWholes_target home).congr haw hbw

/-- References are judged by their targets, whatever their parts, if these decide the spelling. -/
theorem check_of_targets (home : String) (path : FieldPath) (refs : List ParentReference) :
    (∀ others : List ParentReference, others.map whole = refs.map whole →
      (check path others = [] ↔ TargetsApart home others)) ↔ SpelledByTarget home refs := by
  constructor
  · intro h i j a b hij ha hb
    have hverdict := h (sharing i j refs) (map_whole_sharing i j refs)
    rw [check_eq_nil_iff_anyTwo, TargetsApart,
      anyTwo_sharing_iff ofWholes_sameParent (fun _ _ => SameParent.symm) hij ha hb,
      anyTwo_sharing_iff (ofWholes_target home) (fun _ _ => Eq.symm) hij ha hb] at hverdict
    exact not_iff_not.1 hverdict
  · intro h others hmap
    exact check_eq_nil_iff_targetsApart (h.of_map_whole hmap)

/-- A reference by name alone. -/
def nameAlone : ParentReference := ⟨none, none, none, "gw", none, none⟩

/-- A default that one of two references writes out hides that they have one target, and
references that differ in the group alone have two, of which neither has to be a part. -/
theorem check_of_spellings :
    (check (.child .spec "parentRefs") [nameAlone, { nameAlone with kind := some "Gateway" }] = []
      ∧ ¬ TargetsApart "default" [nameAlone, { nameAlone with kind := some "Gateway" }])
    ∧ (check (.child .spec "parentRefs")
          [nameAlone, { nameAlone with namespace_ := some "default" }] = []
      ∧ ¬ TargetsApart "default" [nameAlone, { nameAlone with namespace_ := some "default" }])
    ∧ check (.child .spec "parentRefs") [nameAlone, { nameAlone with group := some "example.com" }]
        = [.required (.child .spec "parentRefs") missingQualifierMessage]
      ∧ TargetsApart "default" [nameAlone, { nameAlone with group := some "example.com" }] := by
  simp only [targetsApart_iff_pairwise]
  refine ⟨⟨by rfl, ?_⟩, ⟨by rfl, ?_⟩, by rfl, ?_⟩ <;>
    simp [nameAlone, target, PartsApart, Qualified]

end ParentReference

end GatewayAdmission
