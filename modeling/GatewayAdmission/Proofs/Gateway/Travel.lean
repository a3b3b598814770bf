import GatewayAdmission.Gateway.Class
import GatewayAdmission.Gateway.Model
import GatewayAdmission.Proofs.Kubernetes.Travel

/-!
# Gateways and classes that travel

**A Gateway or GatewayClass whose metadata travels is read back** after it was embedded, with
every one of its parts.
-/

namespace GatewayAdmission

open Codec

theorem TlsMode.travels (m : TlsMode) : codec.Travels m := by
  refine travels_choice ?_
  cases m <;> decide

namespace SecretReference

theorem lawful : fields.Lawful := ⟨⟨fun _ => rfl, fun _ => rfl, trivial⟩, by decide⟩

theorem travels (r : SecretReference) : codec.Travels r :=
  travels_record .plain lawful ⟨Field.travels_optionalText _ _, Field.travels_optionalText _ _,
    Field.travels_defaultedText _ _ _, Field.travels_optionalText _ _, trivial⟩

end SecretReference

namespace ListenerTls

theorem lawful : fields.Lawful := ⟨⟨fun _ => rfl, fun _ => rfl, trivial⟩, by decide⟩

theorem travels (t : ListenerTls) : codec.Travels t :=
  travels_record .plain lawful ⟨Field.travels_optional _ fun m _ => m.travels,
    Field.travels_someList _ fun r _ => r.travels, trivial⟩

end ListenerTls

namespace Listener

theorem lawful : fields.Lawful := ⟨⟨fun _ => rfl, fun _ => rfl, trivial⟩, by decide⟩

theorem travels (l : Listener) : codec.Travels l :=
  travels_record .plain lawful ⟨Field.travels_defaultedText _ _ _, Field.travels_optionalText _ _,
    Field.travels_defaulted _ (travels_int32 l.port), Field.travels_defaultedText _ _ _,
    Field.travels_optional _ fun t _ => t.travels, trivial⟩

end Listener

namespace GatewayAddress

theorem lawful : fields.Lawful := ⟨⟨fun _ => rfl, fun _ => rfl, trivial⟩, by decide⟩

theorem travels (a : GatewayAddress) : codec.Travels a :=
  travels_record .plain lawful
    ⟨Field.travels_optionalText _ _, Field.travels_defaultedText _ _ _, trivial⟩

end GatewayAddress

namespace GatewaySpec

theorem lawful : fields.Lawful := ⟨⟨fun _ => rfl, fun _ => rfl, trivial⟩, by decide⟩

theorem travels (s : GatewaySpec) : codec.Travels s :=
  travels_record .plain lawful ⟨Field.travels_defaultedText _ _ _,
    Field.travels_list _ fun l _ => l.travels, Field.travels_someList _ fun a _ => a.travels,
    trivial⟩

end GatewaySpec

namespace Gateway

theorem lawful : fields.Lawful := ⟨⟨fun _ => rfl, fun _ => rfl, trivial⟩, by decide⟩

theorem travels {g : Gateway} (h : g.metadata.Portable) : codec.Travels g :=
  travels_record .plain lawful ⟨Field.travels_defaulted _ (ObjectMeta.travels h),
    Field.travels_defaulted _ g.spec.travels, trivial⟩

end Gateway

namespace ParametersReference

theorem lawful : fields.Lawful := ⟨⟨fun _ => rfl, fun _ => rfl, trivial⟩, by decide⟩

theorem travels (r : ParametersReference) : codec.Travels r :=
  travels_record .plain lawful ⟨Field.travels_defaultedText _ _ _,
    Field.travels_defaultedText _ _ _, Field.travels_defaultedText _ _ _,
    Field.travels_optionalText _ _, trivial⟩

end ParametersReference

namespace GatewayClassSpec

theorem lawful : fields.Lawful := ⟨⟨fun _ => rfl, fun _ => rfl, trivial⟩, by decide⟩

theorem travels (s : GatewayClassSpec) : codec.Travels s :=
  travels_record .plain lawful ⟨Field.travels_defaultedText _ _ _,
    Field.travels_optional _ fun r _ => r.travels, Field.travels_optionalText _ _, trivial⟩

end GatewayClassSpec

namespace GatewayClass

theorem lawful : fields.Lawful := ⟨⟨fun _ => rfl, fun _ => rfl, trivial⟩, by decide⟩

theorem travels {c : GatewayClass} (h : c.metadata.Portable) : codec.Travels c :=
  travels_record .plain lawful ⟨Field.travels_defaulted _ (ObjectMeta.travels h),
    Field.travels_defaulted _ c.spec.travels, trivial⟩

end GatewayClass

end GatewayAdmission
