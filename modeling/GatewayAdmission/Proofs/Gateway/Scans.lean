import GatewayAdmission.Gateway.Rules
import GatewayAdmission.Proofs.Scan

/-!
# Loops of the Gateway rules

What the loops over listeners and over addresses report is told by an entry and those before it: a
listener is reported if it repeats the name or the combination of an earlier one, and an address has
its errors among the earlier ones (`GatewayAddress.check_eq_flatMap`). What the loop over addresses
keeps of one type are the values that earlier addresses of this type have (`GatewayAddress.Holds`).
-/

namespace GatewayAdmission

/-! ## Listeners -/

namespace Listener

theorem checkNames_eq (path : FieldPath) (ls : List Listener) : checkNames path ls
    = ((occurrences ls).filter (·.repeatsKey (·.name))).map fun o =>
      .duplicate ((path.index o.index).child "name")
        (.str "must be unique within the Gateway") := by
  rw [checkNames, repeatedAt_eq, List.map_map]
  rfl

theorem checkCombinations_eq (path : FieldPath) (ls : List Listener) : checkCombinations path ls
    = ((occurrences ls).filter (·.repeatsKey combination)).map fun o =>
      .duplicate (path.index o.index)
        (.str "combination of port, protocol, and hostname must be unique for each listener") := by
  rw [checkCombinations, repeatedAt_eq, List.map_map]
  rfl

end Listener

/-! ## Addresses -/

namespace GatewayAddress

variable {path : FieldPath} {before : List GatewayAddress} {values : List String} {type : String}
  {index : Nat} {a : GatewayAddress}

/-- Whether rules apply to addresses of this type. -/
def isChecked (a : GatewayAddress) : Bool := a.type == ipAddress || a.type == hostname

/-- The errors of an address among the earlier ones: of its value, then of its repetition. -/
def checkOccurrence (path : FieldPath) (o : Occurrence GatewayAddress) : List FieldError :=
  let path := path.index o.index
  o.entry.checkValue path
    ++ if o.entry.isChecked && o.repeatsKey (fun a => (a.type, a.value)) then
        [.duplicate path (.str o.entry.value)]
      else []

/-- Whether these are the values of the addresses of a type. -/
def Holds (type : String) (before : List GatewayAddress) (values : List String) : Prop :=
  ∀ value, value ∈ values ↔ ∃ b ∈ before, b.type = type ∧ b.value = value

theorem Holds.insert (h : Holds type before values) (ha : a.type = type) :
    Holds type (a :: before) (values.insert a.value) := by
  intro value
  rw [List.mem_insert_iff, h value, List.exists_mem_cons_iff, and_iff_right ha]
  exact or_congr_left eq_comm

theorem Holds.skip (h : Holds type before values) (ha : a.type ≠ type) :
    Holds type (a :: before) values := by
  intro value
  rw [h value, List.exists_mem_cons_iff]
  exact ⟨Or.inr, fun hb => hb.resolve_left fun hself => ha hself.1⟩

theorem repeatsKey_iff {o : Occurrence GatewayAddress} :
    o.repeatsKey (fun a => (a.type, a.value)) = true
      ↔ ∃ b ∈ o.before, b.type = o.entry.type ∧ b.value = o.entry.value := by
  rw [Occurrence.repeatsKey, List.any_eq_true]
  simp only [beq_iff_eq, Prod.mk.injEq]

/-- A value of the type has been seen exactly if an earlier address repeats it. -/
theorem checkSeen_eq (h : Holds a.type before values) (hchecked : a.isChecked = true) :
    a.checkValue (path.index index) ++ a.checkSeen (path.index index) values
      = checkOccurrence path ⟨index, before, a⟩ := by
  have hcontains : values.contains a.value
      = (⟨index, before, a⟩ : Occurrence GatewayAddress).repeatsKey fun a => (a.type, a.value) := by
    rw [Bool.eq_iff_iff, List.contains_iff_mem, h a.value, repeatsKey_iff]
  rw [checkOccurrence, checkSeen, hcontains, hchecked, Bool.true_and]

/-- Whether what is kept stands for these addresses. -/
structure Seen.Of (before : List GatewayAddress) (seen : Seen) : Prop where
  ipAddresses : Holds ipAddress before seen.ipAddresses
  hostnames : Holds hostname before seen.hostnames

theorem scansBy_look : ScansBy (look path) Seen.Of (checkOccurrence path) where
  reports := by
    intro before seen hseen index a
    rw [look]
    by_cases hip : a.type = ipAddress
    · rw [if_pos hip]
      exact checkSeen_eq (hip ▸ hseen.ipAddresses) (by simp [isChecked, hip])
    · rw [if_neg hip]
      by_cases hname : a.type = hostname
      · rw [if_pos hname]
        exact checkSeen_eq (hname ▸ hseen.hostnames) (by simp [isChecked, hname])
      · rw [if_neg hname, checkOccurrence, checkValue, if_neg hip, if_neg hname]
        simp [isChecked, hip, hname]
  keeps := by
    intro before seen hseen index a
    rw [look]
    by_cases hip : a.type = ipAddress
    · have hne : a.type ≠ hostname := hip ▸ by decide
      rw [if_pos hip]
      exact ⟨hseen.ipAddresses.insert hip, hseen.hostnames.skip hne⟩
    · rw [if_neg hip]
      by_cases hname : a.type = hostname
      · rw [if_pos hname]
        exact ⟨hseen.ipAddresses.skip hip, hseen.hostnames.insert hname⟩
      · rw [if_neg hname]
        exact ⟨hseen.ipAddresses.skip hip, hseen.hostnames.skip hname⟩

theorem check_eq_flatMap (path : FieldPath) (as : List GatewayAddress) :
    check path as = (occurrences as).flatMap (checkOccurrence path) :=
  scan_eq scansBy_look ⟨by simp [Holds], by simp [Holds]⟩

end GatewayAddress

end GatewayAdmission
