import GatewayAdmission.Proofs.Gateway.Combinations

/-!
# Names and addresses that are repeated

The name of a listener is told from the names of the listeners before it, and an address from the
addresses before it that are of its type. **Each repetition is reported where it is, and once**
(`Gateway.repetitions_reported`): at the name of a listener that repeats one, and at an address
behind the error about its value, if there is one. Neither a value that is not well formed nor an
address of another type keeps a repetition from being seen.
-/

namespace GatewayAdmission

namespace Gateway

/-- The place of the name of the listener with this number. -/
def namePlace (i : Nat) : String := "spec.listeners[" ++ toString i ++ "].name"

/-- The errors about repetitions at the name of the listener with this number. -/
def nameErrors (g : Gateway) (i : Nat) : List FieldError :=
  g.check.filter (·.isDuplicateAt (namePlace i))

theorem text_name (i : Nat) : ((listenersPath.index i).child "name").text = namePlace i :=
  FieldPath.text_index_child_eq (by decide) (by decide) i

theorem filter_checkCombinations_name (ls : List Listener) (i : Nat) :
    (Listener.checkCombinations listenersPath ls).filter (·.isDuplicateAt (namePlace i)) = [] := by
  refine List.filter_eq_nil_iff.2 fun e he => ?_
  obtain ⟨j, -, rfl⟩ := List.mem_map.1 he
  have hne := text_name_ne j i
  rw [text_name, ← text_listener] at hne
  simpa [FieldError.isDuplicateAt, FieldError.duplicate] using hne.symm

/-- The errors about repetitions at a name are those about names. -/
theorem nameErrors_eq (g : Gateway) (i : Nat) : g.nameErrors i
    = ((occurrences g.spec.listeners)[i]?.toList.filter (·.repeatsKey (·.name))).map fun o =>
      .duplicate ((listenersPath.index o.index).child "name")
        (.str "must be unique within the Gateway") := by
  have hunder : listenersPath.Under ((listenersPath.index i).child "name") :=
    ⟨rfl, (List.prefix_append _ _).trans (List.prefix_append _ _)⟩
  rw [nameErrors, ← text_name, filter_isDuplicateAt g hunder, text_name,
    filter_checkCombinations_name, List.append_nil, ← text_name, Listener.checkNames_eq]
  exact FieldError.filter_duplicates (fun j => (listenersPath.index j).child "name")
    (fun _ _ => FieldPath.text_index_child_inj) _ i

/-- **A name is reported, and reported once, if an earlier listener has it. An address is reported
for the form of its value, and then if an earlier one of its type has its value.** -/
theorem repetitions_reported (g : Gateway) :
    (∀ i, (g.nameErrors i).length ≤ 1
      ∧ (g.nameErrors i ≠ [] ↔ ∃ l, g.spec.listeners[i]? = some l
        ∧ ∃ j < i, ∃ m, g.spec.listeners[j]? = some m ∧ m.name = l.name))
    ∧ g.addressErrors.map (fun e => (e.path.text, e.fault))
      = g.spec.addresses.zipIdx.flatMap fun (a, i) =>
        (a.faults (g.spec.addresses.take i)).map fun fault => (addressPlace i, fault) := by
  refine ⟨fun i => ⟨?_, ?_⟩, ?_⟩
  · rw [nameErrors_eq, List.length_map]
    exact (List.length_filter_le _ _).trans Option.length_toList_le
  · rw [nameErrors_eq, Ne, List.map_eq_nil_iff]
    exact filter_repeatsKey_getElem?_ne_nil_iff
  · rw [addressErrors_eq, List.map_flatMap]
    refine List.flatMap_congr fun x _ => ?_
    rw [List.map_map]
    exact List.map_congr_left fun fault _ => by rw [Function.comp_apply, text_address]

end Gateway

end GatewayAdmission
