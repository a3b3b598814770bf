import GatewayAdmission.Proofs.Field.Reordering
import GatewayAdmission.Proofs.Gateway.Scans

/-!
# Gateways with their entries in another order

The rules of Gateways find as many errors if listeners, addresses and references to certificates
stand in another order (`Gateway.length_check`, `Gateway.length_checkHostnames`). Most of them look
at each listener by itself; names, combinations and addresses are compared with the earlier ones,
and there the number of repetitions counts, which is the same in every order.
-/

namespace GatewayAdmission

/-! ## Reordered objects -/

/-- Whether two TLS settings differ in the order of their certificates alone. -/
structure ListenerTls.Reordered (t t' : ListenerTls) : Prop where
  declaredMode : t.declaredMode = t'.declaredMode
  certificateRefs : t.certificateRefs.Perm t'.certificateRefs

/-- Whether two listeners differ in the order of their certificates alone. -/
structure Listener.Reordered (l l' : Listener) : Prop where
  name : l.name = l'.name
  hostname : l.hostname = l'.hostname
  port : l.port = l'.port
  protocol : l.protocol = l'.protocol
  tls : Option.Rel ListenerTls.Reordered l.tls l'.tls

/-- Whether two Gateways ask for the same in different orders, whatever their metadata are. -/
structure Gateway.Reordered (g g' : Gateway) : Prop where
  gatewayClassName : g.spec.gatewayClassName = g'.spec.gatewayClassName
  listeners : ReorderedBy Listener.Reordered g.spec.listeners g'.spec.listeners
  addresses : g.spec.addresses.Perm g'.spec.addresses

theorem ListenerTls.Reordered.refl (t : ListenerTls) : t.Reordered t := ⟨rfl, .refl _⟩

theorem Listener.Reordered.refl (l : Listener) : l.Reordered l :=
  ⟨rfl, rfl, rfl, rfl, optionRel_refl ListenerTls.Reordered.refl l.tls⟩

/-! ## Listeners -/

namespace Listener

theorem sameNumber_checkHostname : SameNumber Reordered checkHostname checkHostname := by
  intro l l' h path path'
  unfold checkHostname
  rw [← h.hostname]
  split
  · rfl
  · split
    · rfl
    · rw [List.length_map, List.length_map]

theorem sameNumber_checkTls : SameNumber Reordered checkTls checkTls := by
  intro l l' h path path'
  unfold checkTls
  rw [← h.protocol, ← Option.not_isSome, ← Option.not_isSome, isSome_eq_of_optionRel h.tls,
    List.length_append, List.length_append]
  congr 1 <;> split <;> rfl

theorem sameNumber_checkHostnameProtocol :
    SameNumber Reordered checkHostnameProtocol checkHostnameProtocol := by
  intro l l' h path path'
  unfold checkHostnameProtocol
  rw [← h.protocol, ← h.hostname]
  split <;> rfl

theorem sameNumber_checkCertificates :
    SameNumber Reordered checkCertificates checkCertificates := by
  intro l l' h path path'
  have htls := h.tls
  unfold checkCertificates
  rw [← h.protocol]
  generalize l.tls = tls, l'.tls = tls' at htls
  cases htls with
  | none => rfl
  | some htls =>
    -- Of the certificates only their absence counts.
    dsimp only
    rw [ListenerTls.mode, ListenerTls.mode, htls.declaredMode, htls.certificateRefs.isEmpty_eq]
    split <;> rfl

theorem length_checkNames {ls ls' : List Listener} (h : ReorderedBy Reordered ls ls')
    (path path' : FieldPath) : (checkNames path ls).length = (checkNames path' ls').length := by
  rw [checkNames_eq, checkNames_eq, List.length_map, List.length_map]
  exact length_filter_repeatsKey_eq (h.map_perm fun _ _ hl => hl.name)

theorem Reordered.combination_eq {l l' : Listener} (h : l.Reordered l') :
    l.combination = l'.combination := by
  rw [combination, combination, h.hostname, h.protocol, h.port]

theorem length_checkCombinations {ls ls' : List Listener} (h : ReorderedBy Reordered ls ls')
    (path path' : FieldPath) :
    (checkCombinations path ls).length = (checkCombinations path' ls').length := by
  rw [checkCombinations_eq, checkCombinations_eq, List.length_map, List.length_map]
  exact length_filter_repeatsKey_eq (h.map_perm fun _ _ hl => hl.combination_eq)

end Listener

/-! ## Addresses -/

namespace GatewayAddress

/-- How many errors an address of this type and value has behind so many others of them. -/
def rankFaults (rank : (String × String) × Nat) : Nat :=
  let a : GatewayAddress := ⟨some rank.1.1, rank.1.2⟩
  (a.checkValue .spec).length + if a.isChecked && rank.2 != 0 then 1 else 0

theorem length_checkValue (path path' : FieldPath) (a : GatewayAddress) :
    (a.checkValue path).length = (a.checkValue path').length := by
  unfold checkValue
  split
  · split <;> rfl
  · split
    · split <;> rfl
    · rfl

theorem length_checkOccurrence (path : FieldPath) (o : Occurrence GatewayAddress) :
    (checkOccurrence path o).length = rankFaults (o.rank fun a => (a.type, a.value)) := by
  rw [checkOccurrence, List.length_append, length_checkValue _ .spec, Occurrence.repeatsKey_eq]
  show _ = (o.entry.checkValue .spec).length
    + if o.entry.isChecked && (o.earlier fun a => (a.type, a.value)) != 0 then 1 else 0
  split <;> rfl

theorem length_check {as as' : List GatewayAddress} (h : as.Perm as') (path path' : FieldPath) :
    (check path as).length = (check path' as').length := by
  rw [check_eq_flatMap, check_eq_flatMap]
  exact length_flatMap_occurrences rankFaults (length_checkOccurrence path)
    (length_checkOccurrence path') (h.map _)

end GatewayAddress

/-! ## Gateways -/

namespace Gateway

variable {g g' : Gateway}

theorem Reordered.length_eachListener (h : g.Reordered g')
    {rule : FieldPath → Listener → List FieldError}
    (hrule : SameNumber Listener.Reordered rule rule) :
    (g.eachListener rule).length = (g'.eachListener rule).length :=
  hrule.entries Listener.Reordered.refl h.listeners _ _

theorem length_checkHostnames (h : g.Reordered g') :
    g.checkHostnames.length = g'.checkHostnames.length :=
  h.length_eachListener Listener.sameNumber_checkHostname

/-- A Gateway has as many errors with its entries in another order. -/
theorem length_check (h : g.Reordered g') : g.check.length = g'.check.length := by
  simp only [check, List.length_append]
  rw [length_checkHostnames h, h.length_eachListener Listener.sameNumber_checkTls,
    h.length_eachListener Listener.sameNumber_checkHostnameProtocol,
    h.length_eachListener Listener.sameNumber_checkCertificates,
    Listener.length_checkNames h.listeners, Listener.length_checkCombinations h.listeners,
    GatewayAddress.length_check h.addresses]

end Gateway

end GatewayAdmission
