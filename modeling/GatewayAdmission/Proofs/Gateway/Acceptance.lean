import GatewayAdmission.Proofs.Gateway.Scans
import GatewayAdmission.Proofs.Json.Numeral
import GatewayAdmission.Proofs.Text.Language

/-!
# Gateways without errors

`Gateway.Sound` says what a Gateway has to be like, without a word on how it is checked. **A
Gateway has no errors exactly if it is sound** (`Gateway.gateway_sound_iff`).

Each rule is turned into its condition by itself. Only the combinations of hostname, protocol and
port are different: they are compared as one text with colons between the parts, and a protocol
may have colons in it. The text still tells the combinations apart (`Listener.combination_inj`),
since no hostname that the other rules let pass has a colon, and neither has a port.
-/

namespace GatewayAdmission

/-! ## What is expected -/

/-- Whether a hostname may stand at a listener. -/
def Dns.Admits (hostname : String) : Prop :=
  hostname = "" ∨ hostname = "*" ∨ (isIpLiteral hostname = false
    ∧ hostname.utf8ByteSize ≤ maxLength
    ∧ ('*' ∈ hostname.toList → hostname.toList ∈ wildcardForm.language)
    ∧ ('*' ∉ hostname.toList → hostname.toList ∈ subdomainForm.language))

/-- What a listener has to be like by itself. -/
structure Listener.Sound (l : Listener) : Prop where
  hostname : ∀ hostname ∈ l.hostname, Dns.Admits hostname
  tls : l.protocol = "HTTPS" ∨ l.protocol = "TLS" →
    ∃ tls, l.tls = some tls ∧ (tls.declaredMode = some .passthrough ∨ tls.certificateRefs ≠ [])
  noTls : l.protocol = "HTTP" ∨ l.protocol = "TCP" ∨ l.protocol = "UDP" → l.tls = none
  noHostname : l.protocol = "TCP" ∨ l.protocol = "UDP" → l.hostname = none

/-- What an address has to be like by itself. -/
structure GatewayAddress.Sound (a : GatewayAddress) : Prop where
  ipAddress : a.declaredType.getD "IPAddress" = "IPAddress" → Dns.isIpLiteral a.value = true
  hostname : a.declaredType = some "Hostname" → a.value.toList ∈ Dns.hostnameForm.language

/-- What a Gateway has to be like. -/
structure Gateway.Sound (g : Gateway) : Prop where
  listeners : ∀ l ∈ g.spec.listeners, l.Sound
  names : (g.spec.listeners.map (·.name)).Nodup
  combinations : (g.spec.listeners.map fun l => (l.hostname.getD "", l.protocol, l.port)).Nodup
  addresses : ∀ a ∈ g.spec.addresses, a.Sound
  values : ∀ type, type = "IPAddress" ∨ type = "Hostname" →
    ((g.spec.addresses.filter (·.declaredType.getD "IPAddress" == type)).map (·.value)).Nodup

/-! ## Names -/

namespace Dns

theorem lengthFaults_eq_nil {value : String} :
    lengthFaults value = [] ↔ value.utf8ByteSize ≤ maxLength := by
  unfold lengthFaults
  split <;> simp <;> omega

theorem subdomainFaults_eq_nil {value : String} : subdomainFaults value = []
    ↔ value.utf8ByteSize ≤ maxLength ∧ value.toList ∈ subdomainForm.language := by
  rw [subdomainFaults, List.append_eq_nil_iff, lengthFaults_eq_nil, ← Pattern.accepts_iff]
  split <;> simp [*]

theorem wildcardFaults_eq_nil {value : String} : wildcardFaults value = []
    ↔ value.utf8ByteSize ≤ maxLength ∧ value.toList ∈ wildcardForm.language := by
  rw [wildcardFaults, List.append_eq_nil_iff, lengthFaults_eq_nil, ← Pattern.accepts_iff]
  split <;> simp [*]

end Dns

/-! ## One listener -/

namespace Listener

section

variable {path : FieldPath} {l : Listener}

theorem hostnameFaults_eq_nil {hostname : String} : hostnameFaults hostname = []
    ↔ Dns.isIpLiteral hostname = false ∧ hostname.utf8ByteSize ≤ Dns.maxLength
      ∧ ('*' ∈ hostname.toList → hostname.toList ∈ Dns.wildcardForm.language)
      ∧ ('*' ∉ hostname.toList → hostname.toList ∈ Dns.subdomainForm.language) := by
  unfold hostnameFaults
  by_cases hip : Dns.isIpLiteral hostname <;> by_cases hstar : '*' ∈ hostname.toList <;>
    simp [hip, hstar, Dns.wildcardFaults_eq_nil, Dns.subdomainFaults_eq_nil]

theorem checkHostname_eq_nil :
    l.checkHostname path = [] ↔ ∀ hostname ∈ l.hostname, Dns.Admits hostname := by
  unfold checkHostname
  cases l.hostname with
  | none => simp
  | some hostname =>
    by_cases h : hostname = "" ∨ hostname = "*"
    · rcases h with rfl | rfl <;> simp [Dns.Admits]
    · rw [not_or] at h
      simp [Dns.Admits, h.1, h.2, hostnameFaults_eq_nil]

theorem tlsRequired_iff {protocol : String} :
    tlsRequired protocol = true ↔ protocol = "HTTPS" ∨ protocol = "TLS" := by
  simp [tlsRequired]

theorem tlsRefused_iff {protocol : String} :
    tlsRefused protocol = true ↔ protocol = "HTTP" ∨ protocol = "TCP" ∨ protocol = "UDP" := by
  simp [tlsRefused, or_assoc]

theorem hostnameRefused_iff {protocol : String} :
    hostnameRefused protocol = true ↔ protocol = "TCP" ∨ protocol = "UDP" := by
  simp [hostnameRefused]

theorem checkTls_eq_nil : l.checkTls path = []
    ↔ (tlsRequired l.protocol = true → l.tls ≠ none)
      ∧ (tlsRefused l.protocol = true → l.tls = none) := by
  unfold checkTls
  cases l.tls <;> simp

theorem checkHostnameProtocol_eq_nil : l.checkHostnameProtocol path = []
    ↔ (hostnameRefused l.protocol = true → l.hostname = none) := by
  unfold checkHostnameProtocol
  cases l.hostname <;> simp

theorem mode_eq_terminate {tls : ListenerTls} :
    tls.mode = .terminate ↔ tls.declaredMode ≠ some .passthrough := by
  unfold ListenerTls.mode
  rcases tls.declaredMode with _ | _ | _ <;> simp

theorem checkCertificates_eq_nil : l.checkCertificates path = []
    ↔ (tlsRequired l.protocol = true → ∀ tls ∈ l.tls,
      tls.declaredMode = some .passthrough ∨ tls.certificateRefs ≠ []) := by
  unfold checkCertificates
  cases l.tls with
  | none => simp
  | some tls =>
    by_cases hmode : tls.declaredMode = some .passthrough
    · have hother : tls.mode ≠ .terminate := fun h => mode_eq_terminate.1 h hmode
      simp [hmode, hother]
    · simp [hmode, mode_eq_terminate.2 hmode]

end

/-- A listener is sound if none of its own rules finds anything. -/
theorem sound_iff {l : Listener} : l.Sound ↔ (∀ hostname ∈ l.hostname, Dns.Admits hostname)
    ∧ ((tlsRequired l.protocol = true → l.tls ≠ none)
      ∧ (tlsRefused l.protocol = true → l.tls = none))
    ∧ (hostnameRefused l.protocol = true → l.hostname = none)
    ∧ (tlsRequired l.protocol = true → ∀ tls ∈ l.tls,
      tls.declaredMode = some .passthrough ∨ tls.certificateRefs ≠ []) := by
  rw [tlsRequired_iff, tlsRefused_iff, hostnameRefused_iff]
  constructor
  · rintro ⟨hhostname, htls, hnoTls, hnoHostname⟩
    refine ⟨hhostname, ⟨fun hp => ?_, hnoTls⟩, hnoHostname, fun hp tls hmem => ?_⟩
    · obtain ⟨tls, hsome, -⟩ := htls hp
      simp [hsome]
    · obtain ⟨tls', hsome, hcert⟩ := htls hp
      obtain rfl := Option.some.inj (hsome.symm.trans hmem)
      exact hcert
  · rintro ⟨hhostname, ⟨htls, hnoTls⟩, hnoHostname, hcert⟩
    refine ⟨hhostname, fun hp => ?_, hnoTls, hnoHostname⟩
    obtain ⟨tls, hsome⟩ := Option.ne_none_iff_exists'.1 (htls hp)
    exact ⟨tls, hsome, hcert hp tls hsome⟩

/-! ## Combinations -/

/-- What stands before the first separator, and what stands behind it. -/
theorem append_cons_inj {a : Char} {xs ys rest rest' : List Char} (hx : a ∉ xs) (hy : a ∉ ys)
    (h : xs ++ a :: rest = ys ++ a :: rest') : xs = ys ∧ rest = rest' := by
  induction xs generalizing ys with
  | nil =>
    cases ys with
    | nil => exact ⟨rfl, (List.cons.inj h).2⟩
    | cons b ys => exact absurd (List.cons.inj h).1 fun he => hy (by simp [he])
  | cons b xs ih =>
    cases ys with
    | nil => exact absurd (List.cons.inj h).1 fun he => hx (by simp [he])
    | cons c ys =>
      obtain ⟨rfl, htail⟩ := List.cons.inj h
      rw [List.mem_cons, not_or] at hx hy
      obtain ⟨rfl, hrest⟩ := ih hx.2 hy.2 htail
      exact ⟨rfl, hrest⟩

theorem toList_combination (l : Listener) : l.combination.toList
    = (l.hostname.getD "").toList ++ ':' :: (l.protocol.toList ++ ':' ::
      Json.wholeChars l.port.toInt) := by
  rw [← Json.toList_toString]
  simp [combination]

theorem colon_not_mem_wholeChars (n : Int) : ':' ∉ Json.wholeChars n := fun h =>
  absurd (Json.mem_wholeChars h) (by decide)

theorem colon_not_mem_of_admits {hostname : String} (h : Dns.Admits hostname) :
    ':' ∉ hostname.toList := by
  rcases h with rfl | rfl | ⟨-, -, hwildcard, hsubdomain⟩
  · decide
  · decide
  · by_cases hstar : '*' ∈ hostname.toList
    · exact Pattern.not_mem_of_mem_language (by decide) (hwildcard hstar)
    · exact Pattern.not_mem_of_mem_language (by decide) (hsubdomain hstar)

/-- A hostname that is let pass has no colon, be it there or not. -/
theorem colon_not_mem_getD {l : Listener} (h : ∀ hostname ∈ l.hostname, Dns.Admits hostname) :
    ':' ∉ (l.hostname.getD "").toList := by
  cases hhostname : l.hostname with
  | none => simp
  | some hostname => exact colon_not_mem_of_admits (h hostname hhostname)

/-- The text of a combination tells its port, and its hostname and protocol as one text. -/
theorem combination_eq_iff {l m : Listener} : l.combination = m.combination
    ↔ l.port = m.port ∧ (l.hostname.getD "").toList ++ ':' :: l.protocol.toList
      = (m.hostname.getD "").toList ++ ':' :: m.protocol.toList := by
  rw [← String.toList_inj, toList_combination, toList_combination]
  constructor
  · intro h
    -- A protocol may have colons, so the port is cut off from the end.
    have hback := congrArg List.reverse h
    simp only [List.reverse_append, List.reverse_cons, List.append_assoc, List.singleton_append]
      at hback
    obtain ⟨hport, hfront⟩ := append_cons_inj (by simp [colon_not_mem_wholeChars])
      (by simp [colon_not_mem_wholeChars]) hback
    refine ⟨Int32.toInt_inj.1 (Json.wholeChars_injective (List.reverse_inj.1 hport)), ?_⟩
    simpa using congrArg List.reverse hfront
  · rintro ⟨hport, hfront⟩
    have hwhole := congrArg (· ++ ':' :: Json.wholeChars l.port.toInt) hfront
    simpa only [List.append_assoc, List.cons_append, hport] using hwhole

/-- Without colons in the hostnames, the text of a combination tells its parts. -/
theorem combination_inj {l m : Listener} (hl : ':' ∉ (l.hostname.getD "").toList)
    (hm : ':' ∉ (m.hostname.getD "").toList) : l.combination = m.combination
      ↔ (l.hostname.getD "", l.protocol, l.port) = (m.hostname.getD "", m.protocol, m.port) := by
  rw [combination_eq_iff, Prod.mk.injEq, Prod.mk.injEq]
  constructor
  · rintro ⟨hport, hfront⟩
    obtain ⟨hhostname, hprotocol⟩ := append_cons_inj hl hm hfront
    exact ⟨String.toList_inj.1 hhostname, String.toList_inj.1 hprotocol, hport⟩
  · rintro ⟨hhostname, hprotocol, hport⟩
    rw [hhostname, hprotocol]
    exact ⟨hport, rfl⟩

theorem nodup_combinations_iff {ls : List Listener}
    (h : ∀ l ∈ ls, ':' ∉ (l.hostname.getD "").toList) : (ls.map combination).Nodup
      ↔ (ls.map fun l => (l.hostname.getD "", l.protocol, l.port)).Nodup := by
  rw [List.Nodup, List.Nodup, List.pairwise_map, List.pairwise_map]
  exact List.Pairwise.iff_of_mem fun hl hm => not_congr (combination_inj (h _ hl) (h _ hm))

theorem checkNames_eq_nil {path : FieldPath} {ls : List Listener} :
    checkNames path ls = [] ↔ (ls.map (·.name)).Nodup := by
  rw [checkNames_eq, List.map_eq_nil_iff, filter_repeatsKey_eq_nil]

theorem checkCombinations_eq_nil {path : FieldPath} {ls : List Listener} :
    checkCombinations path ls = [] ↔ (ls.map combination).Nodup := by
  rw [checkCombinations_eq, List.map_eq_nil_iff, filter_repeatsKey_eq_nil]

end Listener

/-! ## Addresses -/

namespace GatewayAddress

theorem type_eq_hostname {a : GatewayAddress} :
    a.type = "Hostname" ↔ a.declaredType = some "Hostname" := by
  unfold type ipAddress
  cases a.declaredType <;> simp

theorem checkValue_eq_nil {path : FieldPath} {a : GatewayAddress} :
    a.checkValue path = [] ↔ a.Sound := by
  have hsound : a.Sound ↔ (a.type = "IPAddress" → Dns.isIpLiteral a.value = true)
      ∧ (a.type = "Hostname" → Dns.hostnameForm.accepts a.value = true) := by
    rw [type_eq_hostname, Pattern.accepts_iff]
    exact ⟨fun h => ⟨h.ipAddress, h.hostname⟩, fun h => ⟨h.1, h.2⟩⟩
  rw [hsound]
  unfold checkValue
  split
  · rename_i hip
    rw [ipAddress] at hip
    split <;> simp [*]
  · rename_i hip
    rw [ipAddress] at hip
    split
    · rename_i hname
      rw [hostname] at hname
      split <;> simp [*]
    · rename_i hname
      rw [hostname] at hname
      simp [hip, hname]

theorem checkOccurrence_eq_nil {path : FieldPath} {o : Occurrence GatewayAddress} :
    checkOccurrence path o = [] ↔ o.entry.Sound
      ∧ ∀ a ∈ o.before, o.entry.isChecked = true → a.type = o.entry.type →
        a.value ≠ o.entry.value := by
  rw [checkOccurrence, List.append_eq_nil_iff, checkValue_eq_nil]
  refine and_congr_right fun _ => ?_
  by_cases hchecked : o.entry.isChecked = true
  · cases hrepeats : o.repeatsKey (fun a => (a.type, a.value)) with
    | false =>
      have hnone := Occurrence.repeatsKey_eq_false.1 hrepeats
      simp only [Bool.and_false, Bool.false_eq_true, if_false, true_iff]
      exact fun a ha _ htype hvalue => hnone a ha (Prod.ext htype hvalue)
    | true =>
      obtain ⟨a, ha, hkey⟩ := List.any_eq_true.1 hrepeats
      have heq := Prod.mk.inj (beq_iff_eq.1 hkey)
      simp only [hchecked, Bool.and_self, if_true, List.cons_ne_nil, false_iff]
      exact fun h => h a ha trivial heq.1 heq.2
  · simp [hchecked]

theorem check_eq_nil {path : FieldPath} {as : List GatewayAddress} : check path as = []
    ↔ (∀ a ∈ as, a.Sound) ∧ as.Pairwise fun a b =>
      b.isChecked = true → a.type = b.type → a.value ≠ b.value := by
  rw [check_eq_flatMap, List.flatMap_eq_nil_iff, ← forall_occurrences_iff_pairwise]
  simp only [checkOccurrence_eq_nil, forall_and]
  exact and_congr_left fun _ => forall_occurrences_entry

/-- No address repeats one of its type exactly if the values of each type are different. -/
theorem pairwise_iff_nodup {as : List GatewayAddress} :
    (as.Pairwise fun a b => b.isChecked = true → a.type = b.type → a.value ≠ b.value)
      ↔ ∀ type, type = "IPAddress" ∨ type = "Hostname" →
        ((as.filter (·.type == type)).map (·.value)).Nodup := by
  simp only [List.Nodup, List.pairwise_map, List.pairwise_filter, beq_iff_eq]
  constructor
  · intro h type htype
    refine h.imp fun {a b} hab ha hb => hab ?_ (ha.trans hb.symm)
    rcases htype with rfl | rfl <;> simp [isChecked, ipAddress, hostname, hb]
  · intro h
    refine ((h "IPAddress" (Or.inl rfl)).and (h "Hostname" (Or.inr rfl))).imp ?_
    rintro a b ⟨hip, hname⟩ hchecked htype
    rw [isChecked, Bool.or_eq_true, beq_iff_eq, beq_iff_eq] at hchecked
    rcases hchecked with hb | hb
    · exact hip (htype.trans hb) hb
    · exact hname (htype.trans hb) hb

end GatewayAddress

/-! ## Gateways -/

namespace Gateway

theorem eachListener_eq_nil (g : Gateway) (rule : FieldPath → Listener → List FieldError)
    {Holds : Listener → Prop} (h : ∀ path l, rule path l = [] ↔ Holds l) :
    g.eachListener rule = [] ↔ ∀ l ∈ g.spec.listeners, Holds l :=
  FieldPath.flatMap_entries_eq_nil rule h

/-- The rules about single listeners find nothing if every listener is sound. -/
theorem listenerRules_eq_nil (g : Gateway) : (g.checkHostnames = []
    ∧ g.eachListener Listener.checkTls = []
    ∧ g.eachListener Listener.checkHostnameProtocol = []
    ∧ g.eachListener Listener.checkCertificates = []) ↔ ∀ l ∈ g.spec.listeners, l.Sound := by
  rw [checkHostnames,
    g.eachListener_eq_nil Listener.checkHostname fun _ _ => Listener.checkHostname_eq_nil,
    g.eachListener_eq_nil Listener.checkTls fun _ _ => Listener.checkTls_eq_nil,
    g.eachListener_eq_nil Listener.checkHostnameProtocol fun _ _ =>
      Listener.checkHostnameProtocol_eq_nil,
    g.eachListener_eq_nil Listener.checkCertificates fun _ _ => Listener.checkCertificates_eq_nil]
  simp only [Listener.sound_iff]
  constructor
  · rintro ⟨hhostname, htls, hnoHostname, hcert⟩ l hl
    exact ⟨hhostname l hl, htls l hl, hnoHostname l hl, hcert l hl⟩
  · intro h
    exact ⟨fun l hl => (h l hl).1, fun l hl => (h l hl).2.1, fun l hl => (h l hl).2.2.1,
      fun l hl => (h l hl).2.2.2⟩

theorem colon_not_mem_hostname {l : Listener} (h : l.Sound) :
    ':' ∉ (l.hostname.getD "").toList :=
  Listener.colon_not_mem_getD h.hostname

/-- **A Gateway has no errors exactly if it is sound.** -/
theorem gateway_sound_iff (g : Gateway) : g.check = [] ↔ g.Sound := by
  have hsplit : g.check = [] ↔ (∀ l ∈ g.spec.listeners, l.Sound)
      ∧ (g.spec.listeners.map (·.name)).Nodup
      ∧ (g.spec.listeners.map Listener.combination).Nodup
      ∧ (∀ a ∈ g.spec.addresses, a.Sound)
      ∧ ∀ type, type = "IPAddress" ∨ type = "Hostname" →
        ((g.spec.addresses.filter (·.type == type)).map (·.value)).Nodup := by
    rw [← listenerRules_eq_nil, check]
    simp only [List.append_eq_nil_iff, Listener.checkNames_eq_nil,
      Listener.checkCombinations_eq_nil, GatewayAddress.check_eq_nil,
      GatewayAddress.pairwise_iff_nodup, and_assoc]
  rw [hsplit]
  constructor
  · rintro ⟨hlisteners, hnames, hcombinations, haddresses, hvalues⟩
    refine ⟨hlisteners, hnames, ?_, haddresses, hvalues⟩
    exact (Listener.nodup_combinations_iff fun l hl =>
      colon_not_mem_hostname (hlisteners l hl)).1 hcombinations
  · rintro ⟨hlisteners, hnames, hcombinations, haddresses, hvalues⟩
    refine ⟨hlisteners, hnames, ?_, haddresses, hvalues⟩
    exact (Listener.nodup_combinations_iff fun l hl =>
      colon_not_mem_hostname (hlisteners l hl)).2 hcombinations

end Gateway

end GatewayAdmission
