import GatewayAdmission.Proofs.Dns.Labels
import GatewayAdmission.Proofs.Field.Line
import GatewayAdmission.Proofs.Gateway.Acceptance
import GatewayAdmission.Proofs.Gateway.Places
import GatewayAdmission.Proofs.Net.Literals

/-!
# Addresses

Rules apply to addresses of two types, IP addresses and hostnames. `GatewayAddress.faults` says what
is wrong with an address that stands behind others: its value may not have the form that its type
asks for, and it may repeat an earlier one. **The errors of a Gateway that are about addresses are
these, in the order of the addresses** (`Gateway.addressErrors_eq`); no rule on listeners has an
error there (`Gateway.check_eq_append`).

The hostname of a listener has a form as well, which is written down apart from that of an address
and depends on whether there is a star in it. **A hostname may stand as an address exactly if it has
one of these forms** (`Gateway.refusesAddress_iff_hostname`). Its length is of importance for
listeners alone.
-/

namespace GatewayAdmission

/-! ## What is expected of an address -/

instance : DecidablePred IpAddress.IsLiteral := fun w =>
  decidable_of_iff (Dns.isIpLiteral (String.ofList w) = true)
    (by rw [IpAddress.isIpLiteral_iff, String.toList_ofList])

namespace GatewayAddress

/-- Whether the value has the form that the type asks for. -/
def WellFormed (a : GatewayAddress) : Prop :=
  (a.type = "IPAddress" → IpAddress.IsLiteral a.value.toList)
    ∧ (a.type = "Hostname" → Dns.IsSubdomain a.value.toList ∨ Dns.IsWildcard a.value.toList)

instance : DecidablePred WellFormed := fun a => inferInstanceAs (Decidable
  ((a.type = "IPAddress" → IpAddress.IsLiteral a.value.toList)
    ∧ (a.type = "Hostname" → Dns.IsSubdomain a.value.toList ∨ Dns.IsWildcard a.value.toList)))

/-- What is said of a value that does not have it. -/
def malformed (a : GatewayAddress) : FieldFault :=
  .invalid (.str a.value) <| if a.type = "IPAddress" then "invalid ip address"
    else "must only contain valid characters (matching " ++ Dns.hostnameSource ++ ")"

/-- What is wrong with an address that stands behind others: the form of its value, then that there
is an earlier address of its type with its value. Of an address of another type nothing is said. -/
def faults (earlier : List GatewayAddress) (a : GatewayAddress) : List FieldFault :=
  if a.type = "IPAddress" ∨ a.type = "Hostname" then
    (if a.WellFormed then [] else [a.malformed])
      ++ if ∃ b ∈ earlier, b.type = a.type ∧ b.value = a.value then
          [.duplicate (.str a.value)]
        else []
  else []

/-! ## What is found -/

theorem wellFormed_iff_of_ipAddress {a : GatewayAddress} (h : a.type = "IPAddress") :
    a.WellFormed ↔ IpAddress.IsLiteral a.value.toList := by
  refine ⟨fun hform => hform.1 h, fun hliteral => ⟨fun _ => hliteral, fun hname => ?_⟩⟩
  exact absurd (h.symm.trans hname) (by decide)

theorem wellFormed_iff_of_hostname {a : GatewayAddress} (h : a.type = "Hostname") :
    a.WellFormed ↔ Dns.IsSubdomain a.value.toList ∨ Dns.IsWildcard a.value.toList := by
  refine ⟨fun hform => hform.2 h, fun hname => ⟨fun hip => ?_, fun _ => hname⟩⟩
  exact absurd (h.symm.trans hip) (by decide)

theorem wellFormed_of_unchecked {a : GatewayAddress}
    (h : ¬ (a.type = "IPAddress" ∨ a.type = "Hostname")) : a.WellFormed :=
  ⟨fun hip => absurd (Or.inl hip) h, fun hname => absurd (Or.inr hname) h⟩

theorem isChecked_iff {a : GatewayAddress} :
    a.isChecked = true ↔ a.type = "IPAddress" ∨ a.type = "Hostname" := by
  simp [isChecked, ipAddress, hostname]

theorem checkValue_eq (path : FieldPath) (a : GatewayAddress) : a.checkValue path
    = if a.WellFormed then [] else [⟨path, a.malformed⟩] := by
  by_cases hip : a.type = "IPAddress"
  · rw [checkValue, if_pos (show a.type = ipAddress from hip), malformed, if_pos hip]
    exact if_congr (IpAddress.isIpLiteral_iff.trans (wellFormed_iff_of_ipAddress hip).symm) rfl rfl
  · rw [checkValue, if_neg (show ¬ a.type = ipAddress from hip), malformed, if_neg hip]
    by_cases hname : a.type = "Hostname"
    · rw [if_pos (show a.type = hostname from hname)]
      exact if_congr (Dns.accepts_hostnameForm.trans (wellFormed_iff_of_hostname hname).symm)
        rfl rfl
    · have hform : a.WellFormed := wellFormed_of_unchecked (not_or.2 ⟨hip, hname⟩)
      rw [if_neg (show ¬ a.type = hostname from hname), if_pos hform]

theorem checkOccurrence_eq (path : FieldPath) (o : Occurrence GatewayAddress) :
    checkOccurrence path o
      = (o.entry.faults o.before).map fun fault => ⟨path.index o.index, fault⟩ := by
  rw [checkOccurrence, checkValue_eq, faults]
  by_cases htype : o.entry.type = "IPAddress" ∨ o.entry.type = "Hostname"
  · have hchecked : o.entry.isChecked = true := isChecked_iff.2 htype
    rw [if_pos htype, List.map_append, hchecked, Bool.true_and]
    congr 1
    · split <;> rfl
    · by_cases hrepeats : o.repeatsKey (fun a => (a.type, a.value)) = true
      · rw [if_pos hrepeats, if_pos (repeatsKey_iff.1 hrepeats)]
        rfl
      · rw [if_neg hrepeats, if_neg (fun h => hrepeats (repeatsKey_iff.2 h))]
        rfl
  · have hchecked : o.entry.isChecked = false := by
      rw [← Bool.not_eq_true, isChecked_iff]
      exact htype
    rw [if_neg htype, if_pos (wellFormed_of_unchecked htype), hchecked]
    rfl

theorem faults_reverse (earlier : List GatewayAddress) (a : GatewayAddress) :
    a.faults earlier.reverse = a.faults earlier := by
  simp only [faults, List.mem_reverse]

/-- **Each address has its faults, and the addresses are gone through in their order.** -/
theorem check_eq (path : FieldPath) (as : List GatewayAddress) : check path as
    = as.zipIdx.flatMap fun (a, i) =>
      (a.faults (as.take i)).map fun fault => ⟨path.index i, fault⟩ := by
  rw [check_eq_flatMap, occurrences_eq_map_zipIdx, List.flatMap_map]
  refine List.flatMap_congr fun x _ => ?_
  rw [checkOccurrence_eq, faults_reverse]

end GatewayAddress

/-! ## Places of addresses -/

namespace Gateway

def addressesPath : FieldPath := FieldPath.spec.child "addresses"

/-- The place of the address with this number. -/
def addressPlace (i : Nat) : String := "spec.addresses[" ++ toString i ++ "]"

theorem text_listenersPath : listenersPath.text = "spec.listeners" := by decide

theorem text_addressesPath : addressesPath.text = "spec.addresses" := by decide

theorem text_address (i : Nat) : (addressesPath.index i).text = addressPlace i :=
  FieldPath.text_index_eq (by decide) i

theorem addressPlace_inj {i j : Nat} (h : addressPlace i = addressPlace j) : i = j := by
  rw [← text_address, ← text_address] at h
  exact FieldPath.text_index_inj h

/-- **The errors of the rules on listeners are all about listeners**, and before those about
addresses. -/
theorem check_eq_append (g : Gateway) : ∃ front,
    g.check = front ++ GatewayAddress.check addressesPath g.spec.addresses
      ∧ ∀ e ∈ front, listenersPath.Under e.path := by
  have hrule : ∀ {rule : FieldPath → Listener → List FieldError},
      (∀ path l, FieldError.AllWithin path (Listener.codec.write l) (rule path l)) →
      FieldError.AllWithin listenersPath _ (g.eachListener rule) := fun h =>
    FieldError.allWithin_entries h g.spec.listeners
  have hfront := ((((hrule fun _ l => l.allWithin_checkHostname).append
    (hrule fun _ l => l.allWithin_checkTls)).append
    (hrule fun _ l => l.allWithin_checkHostnameProtocol)).append
    (hrule fun _ l => l.allWithin_checkCertificates)).append
    (Listener.allWithin_checkNames g.spec.listeners)
  refine ⟨_, rfl, fun e he => ?_⟩
  exact ((hfront.append (Listener.allWithin_checkCombinations g.spec.listeners)) e he).under

/-- The errors about addresses. -/
def addressErrors (g : Gateway) : List FieldError := g.check.filter (·.startsAt "spec.addresses")

theorem startsAt_of_mem_checkAddresses {as : List GatewayAddress} {e : FieldError}
    (he : e ∈ GatewayAddress.check addressesPath as) : e.startsAt "spec.addresses" = true := by
  have hunder := (GatewayAddress.allWithin_check as e he).under
  rw [FieldError.startsAt_iff, ← text_addressesPath]
  exact hunder.prefix_text (by decide)

/-- What stands under listeners has another letter behind the point. -/
theorem not_prefix_of_under_listeners {p : FieldPath} (h : listenersPath.Under p) :
    ¬ "spec.addresses".toList <+: p.text.toList := by
  rintro ⟨rest, hrest⟩
  obtain ⟨rest', hrest'⟩ := h.prefix_text (by decide)
  rw [text_listenersPath] at hrest'
  have hletter := congrArg (·[5]?) (hrest'.trans hrest.symm)
  exact absurd (show some 'l' = some 'a' from hletter) (by decide)

theorem addressErrors_eq_check (g : Gateway) :
    g.addressErrors = GatewayAddress.check addressesPath g.spec.addresses := by
  obtain ⟨front, hcheck, hfront⟩ := check_eq_append g
  have hnone : front.filter (·.startsAt "spec.addresses") = [] := by
    refine List.filter_eq_nil_iff.2 fun e he => ?_
    rw [FieldError.startsAt_iff]
    exact not_prefix_of_under_listeners (hfront e he)
  rw [addressErrors, hcheck, List.filter_append, hnone, List.nil_append, List.filter_eq_self]
  exact fun e he => startsAt_of_mem_checkAddresses he

/-- **The errors about addresses are the faults of each, at its place and in the order of the
addresses.** -/
theorem addressErrors_eq (g : Gateway) : g.addressErrors
    = g.spec.addresses.zipIdx.flatMap fun (a, i) =>
      (a.faults (g.spec.addresses.take i)).map fun fault => ⟨addressesPath.index i, fault⟩ := by
  rw [addressErrors_eq_check, GatewayAddress.check_eq]

/-! ## Values that are refused -/

/-- Whether it is said of the address with this number that its value is not valid. -/
def RefusesAddress (g : Gateway) (i : Nat) : Prop :=
  ∃ e ∈ g.check, e.path.text = addressPlace i ∧ ∃ value message, e.fault = .invalid value message

variable {g : Gateway} {i : Nat} {a : GatewayAddress}

/-- What is said at the place of an address are its faults. -/
theorem exists_error_iff (ha : g.spec.addresses[i]? = some a) (fault : FieldFault) :
    (∃ e ∈ g.check, e.path.text = addressPlace i ∧ e.fault = fault)
      ↔ fault ∈ a.faults (g.spec.addresses.take i) := by
  constructor
  · rintro ⟨e, he, hplace, rfl⟩
    have hstarts : e.startsAt "spec.addresses" = true := by
      have hunder : addressesPath.Under (addressesPath.index i) := ⟨rfl, List.prefix_append _ _⟩
      rw [FieldError.startsAt_iff, hplace, ← text_address, ← text_addressesPath]
      exact hunder.prefix_text (by decide)
    have hmem : e ∈ g.addressErrors := List.mem_filter.2 ⟨he, hstarts⟩
    rw [addressErrors_eq, List.mem_flatMap] at hmem
    obtain ⟨⟨b, j⟩, hb, hmem⟩ := hmem
    obtain ⟨fault, hfault, rfl⟩ := List.mem_map.1 hmem
    obtain rfl : j = i := addressPlace_inj ((text_address j).symm.trans hplace)
    obtain rfl : b = a := Option.some.inj ((List.mem_zipIdx_iff_getElem?.1 hb).symm.trans ha)
    exact hfault
  · intro hfault
    have hmem : (⟨addressesPath.index i, fault⟩ : FieldError) ∈ g.addressErrors := by
      rw [addressErrors_eq, List.mem_flatMap]
      exact ⟨(a, i), List.mem_zipIdx_iff_getElem?.2 ha, List.mem_map_of_mem hfault⟩
    exact ⟨_, (List.mem_filter.1 hmem).1, text_address i, rfl⟩

theorem refusesAddress_iff (ha : g.spec.addresses[i]? = some a) : g.RefusesAddress i
    ↔ (a.type = "IPAddress" ∨ a.type = "Hostname") ∧ ¬ a.WellFormed := by
  have hfault : g.RefusesAddress i
      ↔ ∃ value message, .invalid value message ∈ a.faults (g.spec.addresses.take i) := by
    simp only [← exists_error_iff ha]
    constructor
    · rintro ⟨e, he, hplace, value, message, hfault⟩
      exact ⟨value, message, e, he, hplace, hfault⟩
    · rintro ⟨value, message, e, he, hplace, hfault⟩
      exact ⟨e, he, hplace, value, message, hfault⟩
  rw [hfault, GatewayAddress.faults]
  by_cases htype : a.type = "IPAddress" ∨ a.type = "Hostname"
  · by_cases hform : a.WellFormed <;> simp [htype, hform, GatewayAddress.malformed]
  · simp [htype]

/-- **A hostname may stand as an address exactly if it has one of the forms of the hostnames of
listeners**, with or without a wildcard; if it is not too long, exactly if it is such a hostname. -/
theorem refusesAddress_iff_hostname (ha : g.spec.addresses[i]? = some a)
    (htype : a.type = "Hostname") :
    (a.value.utf8ByteSize ≤ 253 →
      (¬ g.RefusesAddress i ↔ Dns.subdomainFaults a.value = [] ∨ Dns.wildcardFaults a.value = []))
    ∧ (¬ g.RefusesAddress i ↔ Dns.Fault.notSubdomain ∉ Dns.subdomainFaults a.value
      ∨ Dns.Fault.notWildcard ∉ Dns.wildcardFaults a.value) := by
  have hform : ¬ g.RefusesAddress i
      ↔ Dns.IsSubdomain a.value.toList ∨ Dns.IsWildcard a.value.toList := by
    rw [refusesAddress_iff ha, and_iff_right (Or.inr htype), not_not]
    exact GatewayAddress.wellFormed_iff_of_hostname htype
  refine ⟨fun hsize => ?_, ?_⟩
  · have hlength : a.value.utf8ByteSize ≤ Dns.maxLength := hsize
    rw [hform, Dns.subdomainFaults_eq_nil, Dns.wildcardFaults_eq_nil,
      Dns.mem_language_subdomainForm, Dns.mem_language_wildcardForm, and_iff_right hlength,
      and_iff_right hlength]
  · rw [hform, Dns.notSubdomain_not_mem_iff, Dns.notWildcard_not_mem_iff]

/-- A hostname of one label with this number of letters. -/
def letters (n : Nat) : String := String.ofList (List.replicate n 'a')

theorem eq_of_mem_letters {n : Nat} {c : Char} (hc : c ∈ (letters n).toList) : c = 'a' := by
  rw [letters, String.toList_ofList] at hc
  exact List.eq_of_mem_replicate hc

theorem utf8ByteSize_letters (n : Nat) : (letters n).utf8ByteSize = n := by
  rw [Text.utf8ByteSize_ascii fun c hc => eq_of_mem_letters hc ▸ by decide, letters,
    String.toList_ofList, List.length_replicate]

theorem isSubdomain_letters {n : Nat} (h : n ≠ 0) : Dns.IsSubdomain (letters n).toList := by
  have hletter : ∀ c ∈ (letters n).toList, Dns.IsAlphanumeric c := fun c hc =>
    eq_of_mem_letters hc ▸ Or.inl (by decide)
  refine ⟨[(letters n).toList], List.cons_ne_nil _ _, List.forall_mem_singleton.2 ?_,
    List.intercalate_singleton.symm⟩
  refine ⟨?_, fun c hc => Or.inl (hletter c hc), fun c hc => hletter c (List.mem_of_mem_head? hc),
    fun c hc => hletter c (List.mem_of_mem_getLast? hc)⟩
  rw [letters, String.toList_ofList]
  simpa using h

/-- Addresses under a wildcard, under two of them, and with a long name. -/
def namedGateway : Gateway :=
  ⟨{}, { addresses := [⟨some "Hostname", "*.edge"⟩, ⟨some "Hostname", "*.*.edge"⟩,
    ⟨some "Hostname", letters 254⟩] }⟩

/-- What is too long for a listener is let pass as an address. -/
theorem refusesAddress_iff_hostname_long :
    Dns.wildcardFaults "*.edge" = [] ∧ ¬ namedGateway.RefusesAddress 0
      ∧ Dns.subdomainFaults "*.*.edge" = [.notSubdomain]
      ∧ Dns.wildcardFaults "*.*.edge" = [.notWildcard] ∧ namedGateway.RefusesAddress 1
      ∧ Dns.subdomainFaults (letters 254) = [.tooLong] ∧ ¬ namedGateway.RefusesAddress 2 := by
  have hwild : Dns.wildcardFaults "*.edge" = [] := by rfl
  have hsub : Dns.subdomainFaults "*.*.edge" = [.notSubdomain] := by rfl
  have htwice : Dns.wildcardFaults "*.*.edge" = [.notWildcard] := by rfl
  have hlong : Dns.subdomainFaults (letters 254) = [.tooLong] := by
    rw [Dns.subdomainFaults_eq, utf8ByteSize_letters, if_pos (isSubdomain_letters (by decide))]
    rfl
  have hone := refusesAddress_iff_hostname (g := namedGateway) (i := 0)
    (a := ⟨some "Hostname", "*.edge"⟩) rfl rfl
  have htwo := refusesAddress_iff_hostname (g := namedGateway) (i := 1)
    (a := ⟨some "Hostname", "*.*.edge"⟩) rfl rfl
  have hletters := refusesAddress_iff_hostname (g := namedGateway) (i := 2)
    (a := ⟨some "Hostname", letters 254⟩) rfl rfl
  have haccepted : ¬ namedGateway.RefusesAddress 0 := (hone.1 (by decide)).2 (Or.inr hwild)
  have hrefused : ¬ ¬ namedGateway.RefusesAddress 1 := by
    rw [htwo.1 (by decide), hsub, htwice]
    decide
  have hpassed : ¬ namedGateway.RefusesAddress 2 := by
    rw [hletters.2, hlong]
    exact Or.inl (by decide)
  exact ⟨hwild, haccepted, hsub, htwice, not_not.1 hrefused, hlong, hpassed⟩

end Gateway

end GatewayAdmission
