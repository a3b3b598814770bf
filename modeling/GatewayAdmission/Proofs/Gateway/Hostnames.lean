import GatewayAdmission.Proofs.Dns.Labels
import GatewayAdmission.Proofs.Field.Line
import GatewayAdmission.Proofs.Gateway.Acceptance
import GatewayAdmission.Proofs.Net.Literals

/-!
# IP literals as hostnames

A hostname of a listener is looked at twice, as an IP literal and as a DNS name. **An IPv4 literal
has one error and an IPv6 literal two** (`Gateway.hostnameErrors_of_listener`): the text of an IPv4
literal is a DNS name as well (`IpAddress.IsV4.isSubdomain`), that of an IPv6 literal never is, as
it has a colon. Neither is ever too long or has a star in it.
-/

namespace GatewayAdmission

/-! ## Literals as names -/

namespace IpAddress

/-- An octet may stand as a label. -/
theorem IsOctet.isLabel {w : List Char} (h : IsOctet w) : Dns.IsLabel w := by
  have halphanumeric : ∀ c ∈ w, Dns.IsAlphanumeric c := by
    intro c hc
    have hdigit := Text.toNat_lt_of_isDigit (h.digits.2 c hc)
    exact Or.inr hdigit
  exact ⟨h.digits.1, fun c hc => Or.inl (halphanumeric c hc),
    fun c hc => halphanumeric c (List.mem_of_mem_head? hc),
    fun c hc => halphanumeric c (List.mem_of_mem_getLast? hc)⟩

/-- **An IPv4 literal has the form of a DNS name.** -/
theorem IsV4.isSubdomain {w : List Char} (h : IsV4 w) : Dns.IsSubdomain w := by
  obtain ⟨parts, hlength, hparts, rfl⟩ := h
  refine ⟨parts, ?_, fun p hp => (hparts p hp).isLabel, rfl⟩
  rintro rfl
  exact absurd hlength (by decide)

/-- **An IPv6 literal has not.** -/
theorem IsV6.not_isSubdomain {w : List Char} (h : IsV6 w) : ¬ Dns.IsSubdomain w := by
  intro hname
  have hcolon := hname.characters ':' h.colon_mem
  simp [Dns.IsAlphanumeric] at hcolon

end IpAddress

/-! ## The faults of a hostname -/

namespace Listener

open IpAddress

/-- What is said of an IP literal. -/
def ipMessage : String := "must be a DNS hostname, not an IP address"

variable {hostname : String}

theorem hostnameFaults_of_literal (h : IsLiteral hostname.toList) :
    hostnameFaults hostname = ipMessage ::
      if Dns.IsSubdomain hostname.toList then [] else [Dns.Fault.notSubdomain.message] := by
  have hip : Dns.isIpLiteral hostname = true := isIpLiteral_iff.2 h
  have hsize : ¬ 253 < hostname.utf8ByteSize := Nat.not_lt.2 h.utf8ByteSize_le
  rw [hostnameFaults, Dns.subdomainFaults_eq, if_neg hsize]
  by_cases hname : Dns.IsSubdomain hostname.toList <;>
    simp [hip, h.star_not_mem, hname, ipMessage]

theorem hostnameFaults_of_v4 (h : IsV4 hostname.toList) :
    hostnameFaults hostname = [ipMessage] := by
  rw [hostnameFaults_of_literal (Or.inl h), if_pos h.isSubdomain]

theorem hostnameFaults_of_v6 (h : IsV6 hostname.toList) :
    hostnameFaults hostname = [ipMessage, Dns.Fault.notSubdomain.message] := by
  rw [hostnameFaults_of_literal (Or.inr h), if_neg h.not_isSubdomain]

theorem hostnameFaults_of_not_literal (h : ¬ IsLiteral hostname.toList) : hostnameFaults hostname
    = (if '*' ∈ hostname.toList then Dns.wildcardFaults hostname
      else Dns.subdomainFaults hostname).map Dns.Fault.message := by
  have hip : Dns.isIpLiteral hostname = false := by
    rw [← Bool.not_eq_true, isIpLiteral_iff]
    exact h
  by_cases hstar : '*' ∈ hostname.toList <;> simp [hostnameFaults, hip, hstar]

/-- What is wrong with a name is never said to be that it is an address. -/
theorem message_ne_ipMessage (fault : Dns.Fault) : fault.message ≠ ipMessage := by
  cases fault <;> decide

end Listener

/-! ## The errors of a listener -/

namespace Gateway

/-- The errors about the hostname of the listener with this number. -/
def hostnameErrors (g : Gateway) (i : Nat) : List FieldError :=
  g.checkHostnames.filter (·.path.text == "spec.listeners[" ++ toString i ++ "].hostname")

/-- An error about the hostname of a listener. -/
def hostnameError (i : Nat) (hostname message : String) : FieldError :=
  .invalid ((listenersPath.index i).child "hostname") (.str hostname) message

theorem text_hostname (i : Nat) : ((listenersPath.index i).child "hostname").text
    = "spec.listeners[" ++ toString i ++ "].hostname" :=
  FieldPath.text_index_child_eq (by decide) (by decide) i

theorem path_of_mem_checkHostname {path : FieldPath} {l : Listener} {e : FieldError}
    (he : e ∈ l.checkHostname path) : e.path = path.child "hostname" := by
  unfold Listener.checkHostname at he
  split at he
  · exact absurd he (by simp)
  · split at he
    · exact absurd he (by simp)
    · obtain ⟨message, -, rfl⟩ := List.mem_map.1 he
      rfl

variable {g : Gateway} {i : Nat} {l : Listener}

/-- The errors about the hostname of a listener are those that its own rule finds. -/
theorem hostnameErrors_eq (hl : g.spec.listeners[i]? = some l) :
    g.hostnameErrors i = l.checkHostname (listenersPath.index i) := by
  rw [hostnameErrors, checkHostnames, eachListener]
  refine FieldPath.filter_flatMap_entries hl (fun e he => ?_) fun j l' hj e he => ?_
  · rw [path_of_mem_checkHostname he, text_hostname, beq_self_eq_true]
  · rw [path_of_mem_checkHostname he, ← text_hostname i, beq_eq_false_iff_ne]
    exact fun heq => hj (FieldPath.text_index_child_inj heq)

theorem hostnameErrors_of_hostname (hl : g.spec.listeners[i]? = some l) {hostname : String}
    (h : l.hostname = some hostname) (hempty : hostname ≠ "") (hstar : hostname ≠ "*") :
    g.hostnameErrors i = (Listener.hostnameFaults hostname).map (hostnameError i hostname) := by
  rw [hostnameErrors_eq hl, Listener.checkHostname, h]
  exact if_neg (not_or.2 ⟨hempty, hstar⟩)

theorem hostnameErrors_of_literal (hl : g.spec.listeners[i]? = some l) {hostname : String}
    (h : l.hostname = some hostname) (hliteral : IpAddress.IsLiteral hostname.toList) :
    g.hostnameErrors i = (Listener.hostnameFaults hostname).map (hostnameError i hostname) := by
  refine hostnameErrors_of_hostname hl h ?_ ?_
  · rintro rfl
    exact hliteral.nonempty (by simp)
  · rintro rfl
    exact hliteral.star_not_mem (by simp)

/-- **An IPv4 literal has one error, an IPv6 literal has two, and of any other hostname it is not
said that it is an address.** -/
theorem hostnameErrors_of_listener (hl : g.spec.listeners[i]? = some l) :
    (l.hostname = none ∨ l.hostname = some "" ∨ l.hostname = some "*" → g.hostnameErrors i = [])
      ∧ ∀ hostname, l.hostname = some hostname →
        (IpAddress.IsV4 hostname.toList →
          g.hostnameErrors i = [hostnameError i hostname Listener.ipMessage])
        ∧ (IpAddress.IsV6 hostname.toList →
          g.hostnameErrors i = [hostnameError i hostname Listener.ipMessage,
            hostnameError i hostname Dns.Fault.notSubdomain.message])
        ∧ (hostname ≠ "" → hostname ≠ "*" → ¬ IpAddress.IsLiteral hostname.toList →
          g.hostnameErrors i = (if '*' ∈ hostname.toList then Dns.wildcardFaults hostname
            else Dns.subdomainFaults hostname).map (fun fault =>
              hostnameError i hostname fault.message)
          ∧ ∀ e ∈ g.hostnameErrors i, e.fault.message ≠ Listener.ipMessage) := by
  refine ⟨fun hall => ?_, fun hostname h => ⟨fun hv4 => ?_, fun hv6 => ?_, ?_⟩⟩
  · rw [hostnameErrors_eq hl, Listener.checkHostname]
    rcases hall with h | h | h <;> rw [h] <;> rfl
  · rw [hostnameErrors_of_literal hl h (Or.inl hv4), Listener.hostnameFaults_of_v4 hv4]
    rfl
  · rw [hostnameErrors_of_literal hl h (Or.inr hv6), Listener.hostnameFaults_of_v6 hv6]
    rfl
  · intro hempty hstar hother
    rw [hostnameErrors_of_hostname hl h hempty hstar,
      Listener.hostnameFaults_of_not_literal hother, List.map_map]
    refine ⟨rfl, fun e he => ?_⟩
    obtain ⟨fault, -, rfl⟩ := List.mem_map.1 he
    exact Listener.message_ne_ipMessage fault

/-- Listeners at an address in two spellings, at what is no address for a zero too many, and at
any name. -/
def addressedGateway : Gateway :=
  ⟨{}, { listeners :=
    [⟨"v4", some "10.0.0.1", 80, "HTTP", none⟩, ⟨"v6", some "::ffff:10.0.0.1", 80, "HTTP", none⟩,
     ⟨"name", some "10.0.0.01", 80, "HTTP", none⟩, ⟨"any", some "*", 80, "HTTP", none⟩] }⟩

/-- An address embedded in another has a colon in front; a name may have numbers for labels. -/
theorem hostnameErrors_of_listener_addresses :
    IpAddress.IsV4 "10.0.0.1".toList ∧ IpAddress.IsV6 "::ffff:10.0.0.1".toList
      ∧ ¬ IpAddress.IsLiteral "10.0.0.01".toList
      ∧ addressedGateway.hostnameErrors 0
        = [hostnameError 0 "10.0.0.1" "must be a DNS hostname, not an IP address"]
      ∧ addressedGateway.hostnameErrors 1
        = [hostnameError 1 "::ffff:10.0.0.1" "must be a DNS hostname, not an IP address",
          hostnameError 1 "::ffff:10.0.0.1" Dns.Fault.notSubdomain.message]
      ∧ addressedGateway.hostnameErrors 2 = [] ∧ addressedGateway.hostnameErrors 3 = [] := by
  have hv4 : IpAddress.IsV4 "10.0.0.1".toList := IpAddress.isSome_octets?.1 (by decide)
  have hv6 : IpAddress.IsV6 "::ffff:10.0.0.1".toList := IpAddress.isSome_allGroups?.1 (by decide)
  have hname : ¬ IpAddress.IsLiteral "10.0.0.01".toList := fun h =>
    absurd (IpAddress.isIpLiteral_iff.2 h) (by decide)
  have hfaults : Dns.subdomainFaults "10.0.0.01" = [] := by rfl
  have herrors {i : Nat} {l : Listener} (hl : addressedGateway.spec.listeners[i]? = some l) :=
    hostnameErrors_of_listener hl
  refine ⟨hv4, hv6, hname, ((@herrors 0 _ rfl).2 _ rfl).1 hv4, ((@herrors 1 _ rfl).2 _ rfl).2.1 hv6,
    ?_, (@herrors 3 _ rfl).1 (Or.inr (Or.inr rfl))⟩
  have hother := (((@herrors 2 _ rfl).2 _ rfl).2.2 (by decide) (by decide) hname).1
  rwa [if_neg (by decide), hfaults] at hother

end Gateway

end GatewayAdmission
