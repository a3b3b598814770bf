import GatewayAdmission.Gateway.Class
import GatewayAdmission.Proofs.Field.Line
import GatewayAdmission.Proofs.Gateway.Acceptance

/-!
# Messages about Gateways and their classes

**Every error of a Gateway is clear** (`Gateway.allClear_check`). The messages are fixed texts but
for the protocol of a listener, and a message names a protocol only where the rule has compared it
with one of five (`Listener.oneLine_protocol`).
-/

namespace GatewayAdmission

open FieldError
open FieldPath (inWords_field inWords_index inWords_spec)
open Text (OneLine oneLine_ofList)

/-! ## Names -/

theorem Dns.oneLine_subdomainSource : OneLine Dns.subdomainSource := by
  have hlabel : OneLine Dns.labelSource := oneLine_ofList rfl
  exact ((hlabel.append (oneLine_ofList rfl)).append hlabel).append (oneLine_ofList rfl)

theorem Dns.Fault.oneLine_message (fault : Dns.Fault) : OneLine fault.message := by
  have hform : ∀ {rule example_ source : String}, OneLine rule → OneLine example_ →
      OneLine source → OneLine (Dns.Fault.withForm rule example_ source) := by
    intro rule example_ source hrule hexample hsource
    exact ((((hrule.append (oneLine_ofList rfl)).append hexample).append
      (oneLine_ofList rfl)).append hsource).append (oneLine_ofList rfl)
  cases fault with
  | tooLong =>
    exact ((oneLine_ofList rfl).append (Text.oneLine_toString _)).append (oneLine_ofList rfl)
  | notSubdomain =>
    exact hform (((oneLine_ofList rfl).append (oneLine_ofList rfl)).append (oneLine_ofList rfl))
      (oneLine_ofList rfl) Dns.oneLine_subdomainSource
  | notWildcard =>
    exact hform (((oneLine_ofList rfl).append (oneLine_ofList rfl)).append (oneLine_ofList rfl))
      (oneLine_ofList rfl) ((oneLine_ofList rfl).append Dns.oneLine_subdomainSource)

/-! ## Listeners -/

namespace Listener

theorem oneLine_of_mem_hostnameFaults {hostname message : String}
    (h : message ∈ hostnameFaults hostname) : OneLine message := by
  rcases List.mem_append.1 h with h | h
  · split at h
    · obtain rfl := List.mem_singleton.1 h
      exact oneLine_ofList rfl
    · exact absurd h (by simp)
  · obtain ⟨fault, -, rfl⟩ := List.mem_map.1 h
    exact fault.oneLine_message

/-- The protocols that messages name. -/
theorem oneLine_protocol {protocol : String} (h : tlsRequired protocol = true
    ∨ tlsRefused protocol = true ∨ hostnameRefused protocol = true) : OneLine protocol := by
  rw [tlsRequired_iff, tlsRefused_iff, hostnameRefused_iff] at h
  rcases h with (rfl | rfl) | (rfl | rfl | rfl) | rfl | rfl <;> exact oneLine_ofList rfl

section

variable {path : FieldPath} (hpath : path.InWords) (l : Listener)
include hpath

theorem allClear_checkHostname : AllClear (l.checkHostname path) := by
  unfold checkHostname
  split
  · exact allClear_nil
  · refine allClear_ite (fun _ => allClear_nil) fun _ => allClear_map fun message hmem => ?_
    exact ⟨inWords_field hpath rfl, oneLine_of_mem_hostnameFaults hmem⟩

theorem allClear_checkTls : AllClear (l.checkTls path) := by
  have htls : (path.child "tls").InWords := inWords_field hpath rfl
  refine AllClear.append (allClear_if fun h => ?_) (allClear_if fun h => ?_)
  · have hprotocol := oneLine_protocol (Or.inl (Bool.and_eq_true_iff.1 h).1)
    exact allClear_forbidden htls ((oneLine_ofList rfl).append hprotocol)
  · have hprotocol := oneLine_protocol (Or.inr (Or.inl (Bool.and_eq_true_iff.1 h).1))
    exact allClear_forbidden htls ((oneLine_ofList rfl).append hprotocol)

theorem allClear_checkHostnameProtocol : AllClear (l.checkHostnameProtocol path) := by
  refine allClear_if fun h => ?_
  have hprotocol := oneLine_protocol (Or.inr (Or.inr (Bool.and_eq_true_iff.1 h).1))
  exact allClear_forbidden (inWords_field hpath rfl)
    ((oneLine_ofList rfl).append hprotocol)

theorem allClear_checkCertificates : AllClear (l.checkCertificates path) := by
  unfold checkCertificates
  split
  · exact allClear_nil
  · exact allClear_if fun _ =>
      allClear_forbidden (inWords_field (inWords_field hpath rfl) rfl) (oneLine_ofList rfl)

theorem allClear_checkNames (ls : List Listener) : AllClear (checkNames path ls) :=
  allClear_map fun i _ => clear_duplicate (inWords_field (inWords_index hpath i) rfl) _

theorem allClear_checkCombinations (ls : List Listener) : AllClear (checkCombinations path ls) :=
  allClear_map fun i _ => clear_duplicate (inWords_index hpath i) _

end

end Listener

/-! ## Addresses -/

namespace GatewayAddress

section

variable {path : FieldPath} (hpath : path.InWords)
include hpath

theorem allClear_checkValue (a : GatewayAddress) : AllClear (a.checkValue path) := by
  have hsource : OneLine Dns.hostnameSource :=
    ((oneLine_ofList rfl).append Dns.oneLine_subdomainSource).append (oneLine_ofList rfl)
  refine allClear_ite (fun _ => ?_) fun _ => allClear_if fun _ => ?_
  · exact allClear_ite (fun _ => allClear_nil) fun _ =>
      allClear_invalid hpath _ (oneLine_ofList rfl)
  · exact allClear_ite (fun _ => allClear_nil) fun _ => allClear_invalid hpath _
      (((oneLine_ofList rfl).append hsource).append (oneLine_ofList rfl))

theorem allClear_check (as : List GatewayAddress) : AllClear (check path as) := by
  rw [check_eq_flatMap]
  refine allClear_flatMap fun o _ => ?_
  have hindex := inWords_index hpath o.index
  exact (allClear_checkValue hindex o.entry).append
    (allClear_if fun _ => allClear_singleton (clear_duplicate hindex _))

end

end GatewayAddress

/-! ## Gateways -/

namespace Gateway

theorem inWords_listenersPath : listenersPath.InWords := inWords_field inWords_spec rfl

theorem allClear_eachListener (g : Gateway) {rule : FieldPath → Listener → List FieldError}
    (h : ∀ path l, path.InWords → AllClear (rule path l)) : AllClear (g.eachListener rule) :=
  allClear_entries inWords_listenersPath h g.spec.listeners

theorem allClear_checkHostnames (g : Gateway) : AllClear g.checkHostnames :=
  g.allClear_eachListener fun _ l hpath => l.allClear_checkHostname hpath

/-- **Every error of a Gateway is clear.** -/
theorem allClear_check (g : Gateway) : AllClear g.check := by
  have htls := g.allClear_eachListener fun _ l hpath => l.allClear_checkTls hpath
  have hprotocol := g.allClear_eachListener fun _ l hpath => l.allClear_checkHostnameProtocol hpath
  have hcertificates := g.allClear_eachListener fun _ l hpath => l.allClear_checkCertificates hpath
  have hnames := Listener.allClear_checkNames inWords_listenersPath g.spec.listeners
  have hcombinations := Listener.allClear_checkCombinations inWords_listenersPath g.spec.listeners
  have hpath : (FieldPath.spec.child "addresses").InWords := inWords_field inWords_spec rfl
  have haddresses := GatewayAddress.allClear_check hpath g.spec.addresses
  exact (((((g.allClear_checkHostnames.append htls).append hprotocol).append
    hcertificates).append hnames).append hcombinations).append haddresses

end Gateway

theorem GatewayClass.allClear_checkUpdate (old new : GatewayClass) :
    AllClear (checkUpdate old new) :=
  allClear_ite (fun _ => allClear_nil) fun _ => allClear_invalid
    (inWords_field inWords_spec rfl) _ (oneLine_ofList rfl)

end GatewayAdmission
