import GatewayAdmission.Proofs.Gateway.Addresses
import GatewayAdmission.Proofs.Gateway.Hostnames

/-!
# Listeners that repeat a combination

Hostname, protocol and port of a listener are compared as one text with colons between them. Two
listeners have the same text if they have the same hostname, protocol and port, and else only if
they have the same port and one hostname goes on behind a colon with what the other protocol
starts with (`Listener.combination_eq_iff_shifted`).

So **a listener is reported, and reported once, if it has the combination of an earlier one or is
shifted against one in this way** (`Gateway.combinationErrors_of_listeners`). Only a hostname with
a colon can be shifted against another, and such a hostname is never let pass: what is reported
beyond the repetitions is reported of Gateways that have other errors.
-/

namespace GatewayAdmission

/-! ## Texts of combinations -/

namespace Listener

/-- Whether two listeners have the same hostname, protocol and port, no hostname being read as an
empty one. -/
def SameCombination (l m : Listener) : Prop :=
  l.hostname.getD "" = m.hostname.getD "" ∧ l.protocol = m.protocol ∧ l.port = m.port

/-- Whether the hostname of the first listener is that of the second and, behind a colon, what the
protocol of the second has in front of that of the first. -/
def Shifted (l m : Listener) : Prop :=
  ∃ part, l.hostname.getD "" = m.hostname.getD "" ++ ":" ++ part
    ∧ m.protocol = part ++ ":" ++ l.protocol

theorem Shifted.colon_mem {l m : Listener} (h : Shifted l m) :
    ':' ∈ (l.hostname.getD "").toList := by
  obtain ⟨part, hhostname, -⟩ := h
  simp [hhostname]

/-- Where two cuts of a text at a colon are not the same, the front of one goes on behind a colon up
to the front of the other. -/
theorem append_cons_eq_iff {a b c d : List Char} : a ++ ':' :: b = c ++ ':' :: d
    ↔ (a = c ∧ b = d) ∨ (∃ part, a = c ++ ':' :: part ∧ d = part ++ ':' :: b)
      ∨ ∃ part, c = a ++ ':' :: part ∧ b = part ++ ':' :: d := by
  constructor
  · intro h
    rcases List.append_eq_append_iff.1 h with ⟨rest, hc, hrest⟩ | ⟨rest, ha, hrest⟩
    · cases rest with
      | nil => exact Or.inl ⟨by simpa using hc.symm, (List.cons.inj hrest).2⟩
      | cons x part =>
        obtain ⟨rfl, hb⟩ := List.cons.inj hrest
        exact Or.inr (Or.inr ⟨part, hc, hb⟩)
    · cases rest with
      | nil => exact Or.inl ⟨by simpa using ha, (List.cons.inj hrest).2.symm⟩
      | cons x part =>
        obtain ⟨rfl, hd⟩ := List.cons.inj hrest
        exact Or.inr (Or.inl ⟨part, ha, hd⟩)
  · rintro (⟨rfl, rfl⟩ | ⟨part, rfl, rfl⟩ | ⟨part, rfl, rfl⟩) <;> simp

theorem shifted_iff {l m : Listener} : Shifted l m
    ↔ ∃ part, (l.hostname.getD "").toList = (m.hostname.getD "").toList ++ ':' :: part
      ∧ m.protocol.toList = part ++ ':' :: l.protocol.toList := by
  constructor
  · rintro ⟨part, hhostname, hprotocol⟩
    exact ⟨part.toList, by simp [hhostname], by simp [hprotocol]⟩
  · rintro ⟨part, hhostname, hprotocol⟩
    refine ⟨String.ofList part, ?_, ?_⟩ <;> rw [← String.toList_inj] <;> simp [*]

/-- **Combinations have the same text if they are the same, or if one is shifted against the
other.** -/
theorem combination_eq_iff_shifted {l m : Listener} : l.combination = m.combination
    ↔ SameCombination l m ∨ l.port = m.port ∧ (Shifted l m ∨ Shifted m l) := by
  rw [combination_eq_iff, append_cons_eq_iff, SameCombination, shifted_iff, shifted_iff,
    String.toList_inj, String.toList_inj, and_or_left]
  exact or_congr_left ⟨fun ⟨hport, hfront⟩ => ⟨hfront.1, hfront.2, hport⟩,
    fun ⟨hhostname, hprotocol, hport⟩ => ⟨hport, hhostname, hprotocol⟩⟩

end Listener

/-! ## Errors about repetitions -/

/-- Whether an error is about a repetition at a place. -/
def FieldError.isDuplicateAt (place : String) (e : FieldError) : Bool :=
  match e.fault with
  | .duplicate _ => e.path.text == place
  | _ => false

/-- Of repetitions that are reported each at a path of its own, one at most belongs to a place. -/
theorem FieldError.filter_duplicates {α : Type} {as : List α} {p : Occurrence α → Bool}
    (path : Nat → FieldPath) (hpath : ∀ i j, (path i).text = (path j).text → i = j) (value : Json)
    (i : Nat) :
    (((occurrences as).filter p).map fun o => duplicate (path o.index) value).filter
        (·.isDuplicateAt (path i).text)
      = ((occurrences as)[i]?.toList.filter p).map fun o => duplicate (path o.index) value := by
  have hplace : ∀ o : Occurrence α,
      (duplicate (path o.index) value).isDuplicateAt (path i).text = (o.index == i) := by
    intro o
    rw [Bool.eq_iff_iff, beq_iff_eq]
    exact beq_iff_eq.trans ⟨hpath o.index i, fun h => congrArg (fun j => (path j).text) h⟩
  rw [List.filter_map, Function.comp_def]
  simp only [hplace]
  rw [List.filter_comm, filter_index_occurrences]

namespace Listener

section

variable {place : String} {path : FieldPath} {l : Listener} {e : FieldError}

theorem isDuplicateAt_of_mem_checkHostname (he : e ∈ l.checkHostname path) :
    e.isDuplicateAt place = false := by
  unfold checkHostname at he
  split at he
  · exact absurd he (by simp)
  · split at he
    · exact absurd he (by simp)
    · obtain ⟨message, -, rfl⟩ := List.mem_map.1 he
      rfl

theorem isDuplicateAt_of_mem_checkTls (he : e ∈ l.checkTls path) :
    e.isDuplicateAt place = false := by
  rw [checkTls, List.mem_append, List.mem_ite_nil_right, List.mem_ite_nil_right,
    List.mem_singleton, List.mem_singleton] at he
  rcases he with ⟨-, rfl⟩ | ⟨-, rfl⟩ <;> rfl

theorem isDuplicateAt_of_mem_checkHostnameProtocol (he : e ∈ l.checkHostnameProtocol path) :
    e.isDuplicateAt place = false := by
  rw [checkHostnameProtocol, List.mem_ite_nil_right, List.mem_singleton] at he
  obtain ⟨-, rfl⟩ := he
  rfl

theorem isDuplicateAt_of_mem_checkCertificates (he : e ∈ l.checkCertificates path) :
    e.isDuplicateAt place = false := by
  unfold checkCertificates at he
  split at he
  · exact absurd he (by simp)
  · rw [List.mem_ite_nil_right, List.mem_singleton] at he
    obtain ⟨-, rfl⟩ := he
    rfl

end

end Listener

namespace Gateway

/-- The place of the listener with this number. -/
def listenerPlace (i : Nat) : String := "spec.listeners[" ++ toString i ++ "]"

/-- The errors about repetitions at the listener with this number. -/
def combinationErrors (g : Gateway) (i : Nat) : List FieldError :=
  g.check.filter (·.isDuplicateAt (listenerPlace i))

/-- What is said of a listener that repeats a combination. -/
def combinationError (i : Nat) : FieldError :=
  .duplicate (listenersPath.index i)
    (.str "combination of port, protocol, and hostname must be unique for each listener")

theorem listenerPlace_eq (i : Nat) :
    listenerPlace i = "spec.listeners[" ++ toString i ++ "]" := rfl

theorem text_listener (i : Nat) : (listenersPath.index i).text = listenerPlace i :=
  FieldPath.text_index_eq (by decide) i

theorem text_name_ne (i j : Nat) :
    ((listenersPath.index j).child "name").text ≠ listenerPlace i := by
  intro h
  rw [FieldPath.text_child, text_listener, listenerPlace_eq, listenerPlace_eq] at h
  have hlast := congrArg (fun s : String => s.toList.reverse.head?) h
  simp [FieldPath.appendStep] at hlast

/-- The rules about single listeners say nothing of repetitions. -/
theorem filter_eachListener {g : Gateway} {place : String}
    {rule : FieldPath → Listener → List FieldError}
    (h : ∀ path l, ∀ e ∈ rule path l, e.isDuplicateAt place = false) :
    (g.eachListener rule).filter (·.isDuplicateAt place) = [] := by
  refine List.filter_eq_nil_iff.2 fun e he => ?_
  obtain ⟨⟨path, l⟩, -, he⟩ := List.mem_flatMap.1 he
  rw [h path l e he]
  exact Bool.false_ne_true

theorem filter_checkAddresses (as : List GatewayAddress) {p : FieldPath}
    (hp : listenersPath.Under p) :
    (GatewayAddress.check addressesPath as).filter (·.isDuplicateAt p.text) = [] := by
  refine List.filter_eq_nil_iff.2 fun e he hduplicate => ?_
  have hplace : e.path.text = p.text := by
    unfold FieldError.isDuplicateAt at hduplicate
    split at hduplicate
    · exact beq_iff_eq.1 hduplicate
    · exact absurd hduplicate Bool.false_ne_true
  have hstarts := FieldError.startsAt_iff.1 (startsAt_of_mem_checkAddresses he)
  rw [hplace] at hstarts
  exact not_prefix_of_under_listeners hp hstarts

/-- The errors about repetitions among listeners are about their names and their combinations. -/
theorem filter_isDuplicateAt (g : Gateway) {p : FieldPath} (hp : listenersPath.Under p) :
    g.check.filter (·.isDuplicateAt p.text)
      = (Listener.checkNames listenersPath g.spec.listeners).filter (·.isDuplicateAt p.text)
        ++ (Listener.checkCombinations listenersPath g.spec.listeners).filter
          (·.isDuplicateAt p.text) := by
  have haddresses := filter_checkAddresses g.spec.addresses hp
  rw [addressesPath] at haddresses
  rw [check]
  simp only [List.filter_append]
  rw [checkHostnames, filter_eachListener fun _ _ _ => Listener.isDuplicateAt_of_mem_checkHostname,
    filter_eachListener fun _ _ _ => Listener.isDuplicateAt_of_mem_checkTls,
    filter_eachListener fun _ _ _ => Listener.isDuplicateAt_of_mem_checkHostnameProtocol,
    filter_eachListener fun _ _ _ => Listener.isDuplicateAt_of_mem_checkCertificates, haddresses]
  simp only [List.nil_append, List.append_nil]

theorem under_listener (i : Nat) : listenersPath.Under (listenersPath.index i) :=
  ⟨rfl, List.prefix_append _ _⟩

theorem filter_checkNames (ls : List Listener) (i : Nat) :
    (Listener.checkNames listenersPath ls).filter (·.isDuplicateAt (listenerPlace i)) = [] := by
  refine List.filter_eq_nil_iff.2 fun e he => ?_
  obtain ⟨j, -, rfl⟩ := List.mem_map.1 he
  simpa [FieldError.isDuplicateAt, FieldError.duplicate] using text_name_ne i j

/-- The errors about repetitions at a listener are those about its combination. -/
theorem combinationErrors_eq (g : Gateway) (i : Nat) : g.combinationErrors i
    = ((occurrences g.spec.listeners)[i]?.toList.filter
      (·.repeatsKey Listener.combination)).map fun o => combinationError o.index := by
  rw [combinationErrors, ← text_listener, filter_isDuplicateAt g (under_listener i), text_listener,
    filter_checkNames, List.nil_append, ← text_listener, Listener.checkCombinations_eq]
  exact FieldError.filter_duplicates listenersPath.index (fun _ _ => FieldPath.text_index_inj) _ i

theorem length_combinationErrors_le (g : Gateway) (i : Nat) :
    (g.combinationErrors i).length ≤ 1 := by
  rw [combinationErrors_eq, List.length_map]
  exact (List.length_filter_le _ _).trans Option.length_toList_le

/-- There is one if an earlier listener has the same text. -/
theorem combinationErrors_ne_nil_iff {g : Gateway} {i : Nat} : g.combinationErrors i ≠ []
    ↔ ∃ l, g.spec.listeners[i]? = some l ∧ ∃ j < i, ∃ m, g.spec.listeners[j]? = some m
      ∧ m.combination = l.combination := by
  rw [combinationErrors_eq, Ne, List.map_eq_nil_iff]
  exact filter_repeatsKey_getElem?_ne_nil_iff

/-- A hostname with a colon is never let pass. -/
theorem colon_not_mem_of_checkHostnames {g : Gateway} (h : g.checkHostnames = []) :
    ∀ l ∈ g.spec.listeners, ':' ∉ (l.hostname.getD "").toList := by
  rw [checkHostnames, g.eachListener_eq_nil Listener.checkHostname fun _ _ =>
    Listener.checkHostname_eq_nil] at h
  exact fun l hl => Listener.colon_not_mem_getD (h l hl)

/-- **A listener is reported, and reported once, if it has the combination of an earlier one or is
shifted against one with its port.** If no hostname has a colon, as is the case where hostnames have
no errors, it is reported for repetitions alone. -/
theorem combinationErrors_of_listeners (g : Gateway) (i : Nat) :
    (g.combinationErrors i).length ≤ 1
      ∧ (g.combinationErrors i ≠ [] ↔ ∃ l, g.spec.listeners[i]? = some l
        ∧ ∃ j < i, ∃ m, g.spec.listeners[j]? = some m ∧ (m.SameCombination l
          ∨ m.port = l.port ∧ (m.Shifted l ∨ l.Shifted m)))
      ∧ ((∀ l ∈ g.spec.listeners, ':' ∉ (l.hostname.getD "").toList) →
        (g.combinationErrors i ≠ [] ↔ ∃ l, g.spec.listeners[i]? = some l
          ∧ ∃ j < i, ∃ m, g.spec.listeners[j]? = some m ∧ m.SameCombination l))
      ∧ (g.checkHostnames = [] → ∀ l ∈ g.spec.listeners, ':' ∉ (l.hostname.getD "").toList) := by
  refine ⟨length_combinationErrors_le g i, ?_, fun hcolon => ?_, colon_not_mem_of_checkHostnames⟩
  · simp only [combinationErrors_ne_nil_iff, Listener.combination_eq_iff_shifted]
  · have hunshifted : ∀ {k : Nat} {l m : Listener}, g.spec.listeners[k]? = some l →
        ¬ l.Shifted m := fun hl h => hcolon _ (List.mem_of_getElem? hl) h.colon_mem
    rw [combinationErrors_ne_nil_iff]
    refine exists_congr fun l => and_congr_right fun hl => exists_congr fun j =>
      and_congr_right fun _ => exists_congr fun m => and_congr_right fun hm => ?_
    rw [Listener.combination_eq_iff_shifted]
    simp [hunshifted hl, hunshifted hm]

/-- Listeners at one port: what is a hostname of the first listener is in part protocol of the
second. -/
def shiftedGateway : Gateway :=
  ⟨{}, { listeners :=
    [⟨"first", some "edge:a", 80, "b", none⟩, ⟨"second", some "edge", 80, "a:b", none⟩] }⟩

/-- A listener that differs from all others may be reported. -/
theorem combinationErrors_of_shifted : shiftedGateway.combinationErrors 1 = [combinationError 1]
    ∧ ¬ ∃ l, shiftedGateway.spec.listeners[1]? = some l
      ∧ ∃ j < 1, ∃ m, shiftedGateway.spec.listeners[j]? = some m ∧ m.SameCombination l := by
  refine ⟨?_, ?_⟩
  · rw [combinationErrors_eq]
    rfl
  · rintro ⟨l, hl, j, hj, m, hm, hhostname, -⟩
    obtain rfl : j = 0 := by omega
    obtain rfl := Option.some.inj hl
    obtain rfl := Option.some.inj hm
    exact absurd hhostname (by decide)

end Gateway

end GatewayAdmission
