import GatewayAdmission.Kubernetes.Metadata
import GatewayAdmission.Proofs.Json.Embedded

/-!
# Metadata that travels

**Metadata without times is read back** (`ObjectMeta.travels`), provided that what managers own is
neither `null`, which would be read as missing, nor holds doubles, which a text may change.
-/

namespace GatewayAdmission

open Codec

namespace OwnerReference

theorem lawful : fields.Lawful := ⟨⟨fun _ => rfl, fun _ => rfl, trivial⟩, by decide⟩

theorem travels (r : OwnerReference) : codec.Travels r := by
  have htext : ∀ name s, (text name).Travels s := fun name s =>
    Field.travels_defaulted name (travels_orDefault (travels_text s))
  have hflag : ∀ name b, (Field.optional name flag).Travels b := fun name b =>
    Field.travels_optional name fun b _ => travels_flag b
  exact travels_record .lenient lawful
    ⟨htext _ _, hflag _ _, hflag _ _, htext _ _, htext _ _, htext _ _, trivial⟩

end OwnerReference

namespace ManagedFields

/-- Whether the entry has no time, and fields that a text holds as they are. -/
structure Portable (m : ManagedFields) : Prop where
  time : m.time = none
  present : ∀ r ∈ m.fieldsV1, r.json ≠ .null
  whole : ∀ r ∈ m.fieldsV1, r.json.isWhole = true

theorem lawful : fields.Lawful := ⟨⟨fun _ => rfl, fun _ => rfl, trivial⟩, by decide⟩

theorem travels {m : ManagedFields} (h : m.Portable) : codec.Travels m :=
  travels_record .lenient lawful ⟨Field.travels_optionalText _ _, Field.travels_optionalText _ _,
    Field.travels_optional _ fun r hr => travels_raw (h.present r hr) (h.whole r hr),
    Field.travels_optionalText _ _, Field.travels_optionalText _ _,
    Field.travels_optionalText _ _, Field.travels_absent _ h.time, trivial⟩

end ManagedFields

namespace ObjectMeta

/-- Whether the metadata has no times, and owned fields that a text holds as they are. -/
structure Portable (m : ObjectMeta) : Prop where
  creationTimestamp : m.creationTimestamp = none
  deletionTimestamp : m.deletionTimestamp = none
  managedFields : ∀ entries ∈ m.managedFields, ∀ e ∈ entries, e.Portable

theorem lawful : fields.Lawful := ⟨⟨fun _ => rfl, fun _ => rfl, trivial⟩, by decide⟩

theorem travels {m : ObjectMeta} (h : m.Portable) : codec.Travels m := by
  have htext : ∀ name s, (Field.optional name text).Travels s := Field.travels_optionalText
  have hinteger : ∀ name n, (Field.optional name int64).Travels n := fun name n =>
    Field.travels_optional name fun n _ => travels_int64 n
  have hpairs : ∀ name pairs, (Field.optional name text.map).Travels pairs := fun name pairs =>
    Field.travels_optional name fun m _ => travels_map fun e _ => travels_text e.2
  refine travels_record .lenient lawful ⟨hpairs _ _, Field.travels_absent _ h.creationTimestamp,
    hinteger _ _, Field.travels_absent _ h.deletionTimestamp, ?_, htext _ _, hinteger _ _,
    hpairs _ _, ?_, htext _ _, htext _ _, ?_, htext _ _, htext _ _, htext _ _, trivial⟩
  · exact Field.travels_optional _ fun ss _ => travels_list fun s _ => travels_text s
  · exact Field.travels_optional _ fun es hes => travels_list fun e he =>
      ManagedFields.travels (h.managedFields es hes e he)
  · exact Field.travels_optional _ fun rs _ => travels_list fun r _ => r.travels

end ObjectMeta

end GatewayAdmission
