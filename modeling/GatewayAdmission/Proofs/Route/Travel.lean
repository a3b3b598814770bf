import GatewayAdmission.Proofs.Kubernetes.Travel
import GatewayAdmission.Route.Grpc
import GatewayAdmission.Route.Http
import GatewayAdmission.Route.Stream

/-!
# Routes that travel

**A route whose metadata travels is read back** after it was embedded, with every one of its parts.
A backend shares its object with the reference inside it; that works because no name occurs in
both.
-/

namespace GatewayAdmission

open Codec

/-! ## Headers -/

namespace HttpHeader

theorem lawful : fields.Lawful := ⟨⟨fun _ => rfl, fun _ => rfl, trivial⟩, by decide⟩

theorem travels (h : HttpHeader) : codec.Travels h :=
  travels_record .plain lawful ⟨Field.travels_defaultedText _ _ _,
    Field.travels_defaultedText _ _ _, trivial⟩

end HttpHeader

namespace HeaderMatch

theorem lawful : fields.Lawful := ⟨⟨fun _ => rfl, fun _ => rfl, trivial⟩, by decide⟩

theorem travels (m : HeaderMatch) : codec.Travels m :=
  travels_record .plain lawful ⟨Field.travels_optionalText _ _, Field.travels_defaultedText _ _ _,
    Field.travels_defaultedText _ _ _, trivial⟩

end HeaderMatch

namespace HeaderModifier

theorem lawful : fields.Lawful := ⟨⟨fun _ => rfl, fun _ => rfl, trivial⟩, by decide⟩

theorem travels (m : HeaderModifier) : codec.Travels m :=
  travels_record .plain lawful ⟨Field.travels_someList _ fun h _ => h.travels,
    Field.travels_someList _ fun h _ => h.travels,
    Field.travels_someList _ fun s _ => travels_text s, trivial⟩

end HeaderModifier

/-! ## Backends -/

namespace BackendObjectReference

theorem lawful : fields.Lawful := ⟨⟨fun _ => rfl, fun _ => rfl, trivial⟩, by decide⟩

theorem travels_fields (r : BackendObjectReference) : fields.Travels r :=
  ⟨Field.travels_optionalText _ _, Field.travels_optionalText _ _,
    Field.travels_defaultedText _ _ _, Field.travels_optionalText _ _,
    Field.travels_optionalInt32 _ _, trivial⟩

theorem travels (r : BackendObjectReference) : codec.Travels r :=
  travels_record .plain lawful r.travels_fields

end BackendObjectReference

namespace BackendRef

theorem lawful : fields.Lawful :=
  ⟨⟨fun _ => rfl, fun _ => rfl, BackendObjectReference.lawful.inverse, trivial⟩, by decide⟩

theorem travels_fields (b : BackendRef) : fields.Travels b :=
  ⟨b.object.travels_fields, Field.travels_optionalInt32 _ _, trivial⟩

theorem travels (b : BackendRef) : codec.Travels b :=
  travels_record .shared lawful b.travels_fields

end BackendRef

namespace LocalObjectReference

theorem lawful : fields.Lawful := ⟨⟨fun _ => rfl, fun _ => rfl, trivial⟩, by decide⟩

theorem travels (r : LocalObjectReference) : codec.Travels r :=
  travels_record .plain lawful ⟨Field.travels_defaultedText _ _ _,
    Field.travels_defaultedText _ _ _, Field.travels_defaultedText _ _ _, trivial⟩

end LocalObjectReference

namespace RequestMirror

theorem lawful : fields.Lawful := ⟨⟨fun _ => rfl, fun _ => rfl, trivial⟩, by decide⟩

theorem travels (m : RequestMirror) : codec.Travels m :=
  travels_record .plain lawful ⟨Field.travels_defaulted _ m.backendRef.travels, trivial⟩

end RequestMirror

/-! ## Stream routes -/

namespace ParentReference

theorem lawful : fields.Lawful := ⟨⟨fun _ => rfl, fun _ => rfl, trivial⟩, by decide⟩

theorem travels (r : ParentReference) : codec.Travels r :=
  travels_record .plain lawful ⟨Field.travels_optionalText _ _, Field.travels_optionalText _ _,
    Field.travels_optionalText _ _, Field.travels_defaultedText _ _ _,
    Field.travels_optionalText _ _, Field.travels_optionalInt32 _ _, trivial⟩

end ParentReference

namespace StreamRule

theorem lawful : fields.Lawful := ⟨⟨fun _ => rfl, fun _ => rfl, trivial⟩, by decide⟩

theorem travels (r : StreamRule) : codec.Travels r :=
  travels_record .plain lawful ⟨Field.travels_list _ fun b _ => b.travels, trivial⟩

end StreamRule

namespace StreamRouteSpec

theorem lawful : fields.Lawful := ⟨⟨fun _ => rfl, fun _ => rfl, trivial⟩, by decide⟩

theorem travels (s : StreamRouteSpec) : codec.Travels s :=
  travels_record .plain lawful ⟨Field.travels_list _ fun r _ => r.travels,
    Field.travels_someList _ fun s _ => travels_text s, Field.travels_list _ fun r _ => r.travels,
    trivial⟩

end StreamRouteSpec

namespace StreamRoute

theorem lawful : fields.Lawful := ⟨⟨fun _ => rfl, fun _ => rfl, trivial⟩, by decide⟩

theorem travels {r : StreamRoute} (h : r.metadata.Portable) : codec.Travels r :=
  travels_record .plain lawful ⟨Field.travels_defaulted _ (ObjectMeta.travels h),
    Field.travels_defaulted _ r.spec.travels, trivial⟩

end StreamRoute

/-! ## HTTP routes -/

namespace PathModifier

theorem lawful : fields.Lawful := ⟨⟨fun _ => rfl, fun _ => rfl, trivial⟩, by decide⟩

theorem travels (m : PathModifier) : codec.Travels m :=
  travels_record .plain lawful ⟨Field.travels_defaultedText _ _ _, Field.travels_optionalText _ _,
    Field.travels_optionalText _ _, trivial⟩

end PathModifier

namespace RequestRedirect

theorem lawful : fields.Lawful := ⟨⟨fun _ => rfl, fun _ => rfl, trivial⟩, by decide⟩

theorem travels (r : RequestRedirect) : codec.Travels r :=
  travels_record .plain lawful ⟨Field.travels_optionalText _ _, Field.travels_optionalText _ _,
    Field.travels_optional _ fun m _ => m.travels, Field.travels_optionalInt32 _ _,
    Field.travels_optionalInt32 _ _, trivial⟩

end RequestRedirect

namespace UrlRewrite

theorem lawful : fields.Lawful := ⟨⟨fun _ => rfl, fun _ => rfl, trivial⟩, by decide⟩

theorem travels (r : UrlRewrite) : codec.Travels r :=
  travels_record .plain lawful ⟨Field.travels_optionalText _ _,
    Field.travels_optional _ fun m _ => m.travels, trivial⟩

end UrlRewrite

namespace HttpFilter

theorem lawful : fields.Lawful := ⟨⟨fun _ => rfl, fun _ => rfl, trivial⟩, by decide⟩

theorem travels (f : HttpFilter) : codec.Travels f :=
  travels_record .plain lawful ⟨Field.travels_defaultedText _ _ _,
    Field.travels_optional _ fun m _ => m.travels, Field.travels_optional _ fun m _ => m.travels,
    Field.travels_optional _ fun m _ => m.travels, Field.travels_optional _ fun r _ => r.travels,
    Field.travels_optional _ fun r _ => r.travels, Field.travels_optional _ fun r _ => r.travels,
    trivial⟩

end HttpFilter

namespace HttpBackendRef

theorem lawful : fields.Lawful :=
  ⟨⟨fun _ => rfl, fun _ => rfl, BackendRef.lawful.inverse, trivial⟩, by decide⟩

theorem travels (b : HttpBackendRef) : codec.Travels b :=
  travels_record .shared lawful ⟨b.backend.travels_fields,
    Field.travels_list _ fun f _ => f.travels, trivial⟩

end HttpBackendRef

namespace PathMatch

theorem lawful : fields.Lawful := ⟨⟨fun _ => rfl, fun _ => rfl, trivial⟩, by decide⟩

theorem travels (m : PathMatch) : codec.Travels m :=
  travels_record .plain lawful ⟨Field.travels_optionalText _ _, Field.travels_optionalText _ _,
    trivial⟩

end PathMatch

namespace QueryParamMatch

theorem lawful : fields.Lawful := ⟨⟨fun _ => rfl, fun _ => rfl, trivial⟩, by decide⟩

theorem travels (m : QueryParamMatch) : codec.Travels m :=
  travels_record .plain lawful ⟨Field.travels_optionalText _ _, Field.travels_defaultedText _ _ _,
    Field.travels_defaultedText _ _ _, trivial⟩

end QueryParamMatch

namespace HttpMatch

theorem lawful : fields.Lawful := ⟨⟨fun _ => rfl, fun _ => rfl, trivial⟩, by decide⟩

theorem travels (m : HttpMatch) : codec.Travels m :=
  travels_record .plain lawful ⟨Field.travels_optional _ fun p _ => p.travels,
    Field.travels_list _ fun h _ => h.travels, Field.travels_list _ fun q _ => q.travels,
    Field.travels_optionalText _ _, trivial⟩

end HttpMatch

namespace HttpRule

theorem lawful : fields.Lawful := ⟨⟨fun _ => rfl, fun _ => rfl, trivial⟩, by decide⟩

theorem travels (r : HttpRule) : codec.Travels r :=
  travels_record .plain lawful ⟨Field.travels_list _ fun m _ => m.travels,
    Field.travels_list _ fun f _ => f.travels, Field.travels_list _ fun b _ => b.travels, trivial⟩

end HttpRule

namespace HttpRouteSpec

theorem lawful : fields.Lawful := ⟨⟨fun _ => rfl, fun _ => rfl, trivial⟩, by decide⟩

theorem travels (s : HttpRouteSpec) : codec.Travels s :=
  travels_record .plain lawful ⟨Field.travels_list _ fun r _ => r.travels,
    Field.travels_list _ fun s _ => travels_text s, Field.travels_list _ fun r _ => r.travels,
    trivial⟩

end HttpRouteSpec

namespace HttpRoute

theorem lawful : fields.Lawful := ⟨⟨fun _ => rfl, fun _ => rfl, trivial⟩, by decide⟩

theorem travels {r : HttpRoute} (h : r.metadata.Portable) : codec.Travels r :=
  travels_record .plain lawful ⟨Field.travels_defaulted _ (ObjectMeta.travels h),
    Field.travels_defaulted _ r.spec.travels, trivial⟩

end HttpRoute

/-! ## gRPC routes -/

namespace GrpcFilter

theorem lawful : fields.Lawful := ⟨⟨fun _ => rfl, fun _ => rfl, trivial⟩, by decide⟩

theorem travels (f : GrpcFilter) : codec.Travels f :=
  travels_record .plain lawful ⟨Field.travels_defaultedText _ _ _,
    Field.travels_optional _ fun m _ => m.travels, Field.travels_optional _ fun m _ => m.travels,
    Field.travels_optional _ fun m _ => m.travels, Field.travels_optional _ fun r _ => r.travels,
    trivial⟩

end GrpcFilter

namespace GrpcBackendRef

theorem lawful : fields.Lawful :=
  ⟨⟨fun _ => rfl, fun _ => rfl, BackendRef.lawful.inverse, trivial⟩, by decide⟩

theorem travels (b : GrpcBackendRef) : codec.Travels b :=
  travels_record .shared lawful ⟨b.backend.travels_fields,
    Field.travels_list _ fun f _ => f.travels, trivial⟩

end GrpcBackendRef

namespace MethodMatch

theorem lawful : fields.Lawful := ⟨⟨fun _ => rfl, fun _ => rfl, trivial⟩, by decide⟩

theorem travels (m : MethodMatch) : codec.Travels m :=
  travels_record .plain lawful ⟨Field.travels_optionalText _ _, Field.travels_optionalText _ _,
    Field.travels_optionalText _ _, trivial⟩

end MethodMatch

namespace GrpcMatch

theorem lawful : fields.Lawful := ⟨⟨fun _ => rfl, fun _ => rfl, trivial⟩, by decide⟩

theorem travels (m : GrpcMatch) : codec.Travels m :=
  travels_record .plain lawful ⟨Field.travels_optional _ fun m _ => m.travels,
    Field.travels_list _ fun h _ => h.travels, trivial⟩

end GrpcMatch

namespace GrpcRule

theorem lawful : fields.Lawful := ⟨⟨fun _ => rfl, fun _ => rfl, trivial⟩, by decide⟩

theorem travels (r : GrpcRule) : codec.Travels r :=
  travels_record .plain lawful ⟨Field.travels_list _ fun m _ => m.travels,
    Field.travels_list _ fun f _ => f.travels, Field.travels_list _ fun b _ => b.travels, trivial⟩

end GrpcRule

namespace GrpcRouteSpec

theorem lawful : fields.Lawful := ⟨⟨fun _ => rfl, fun _ => rfl, trivial⟩, by decide⟩

theorem travels (s : GrpcRouteSpec) : codec.Travels s :=
  travels_record .plain lawful ⟨Field.travels_list _ fun r _ => r.travels,
    Field.travels_list _ fun s _ => travels_text s, Field.travels_list _ fun r _ => r.travels,
    trivial⟩

end GrpcRouteSpec

namespace GrpcRoute

theorem lawful : fields.Lawful := ⟨⟨fun _ => rfl, fun _ => rfl, trivial⟩, by decide⟩

theorem travels {r : GrpcRoute} (h : r.metadata.Portable) : codec.Travels r :=
  travels_record .plain lawful ⟨Field.travels_defaulted _ (ObjectMeta.travels h),
    Field.travels_defaulted _ r.spec.travels, trivial⟩

end GrpcRoute

end GatewayAdmission
