import GatewayAdmission.Admission.Resource
import GatewayAdmission.Proofs.Gateway.Travel
import GatewayAdmission.Proofs.Json.Printed
import GatewayAdmission.Proofs.Route.Travel
import GatewayAdmission.Proofs.Text.Octets

/-!
# Objects that are decoded again

**Decoding an object undoes writing it** (`ResourceKind.decode_write`), for each of the seven kinds
and whether the object is embedded at once or comes as a text. The metadata has to travel; all
other parts of an object do.

What is written names no kind, so no kind is refused.
-/

namespace GatewayAdmission

/-- A value without doubles is read back from its text, unless it nests too deeply. -/
theorem Json.parse?_render {j : Json} (hwhole : j.isWhole = true) (hdepth : j.depth ≤ 127) :
    Json.parse? j.render.toUTF8.data.toList = some j := by
  rw [Json.parse?, Text.toList_toUTF8, Document.parse?_render, Option.bind_some,
    Document.ofPrinted_of_isWhole j hwhole]
  refine Document.toJson?_ofJson j ?_
  rintro k ⟨rfl⟩
  exact hdepth

namespace ResourceKind

/-- The metadata of an object. -/
def metadata : (kind : ResourceKind) → kind.Model → ObjectMeta
  | gateway, m => Gateway.metadata m
  | gatewayClass, m => GatewayClass.metadata m
  | httpRoute, m => HttpRoute.metadata m
  | grpcRoute, m => GrpcRoute.metadata m
  | tcpRoute, m | udpRoute, m | tlsRoute, m => StreamRoute.metadata m

theorem travels (kind : ResourceKind) {m : kind.Model} (h : (kind.metadata m).Portable) :
    kind.codec.Travels m := by
  cases kind with
  | gateway => exact Gateway.travels h
  | gatewayClass => exact GatewayClass.travels h
  | httpRoute => exact HttpRoute.travels h
  | grpcRoute => exact GrpcRoute.travels h
  | tcpRoute | udpRoute | tlsRoute => exact StreamRoute.travels h

/-- An object that was written names no kind. -/
theorem named?_ofJson_write (kind : ResourceKind) (m : kind.Model) :
    named? (.ofJson (kind.codec.write m)) = none := by
  have hget : (kind.codec.sorting.write m).get? "kind" = none := by
    cases kind <;> exact Codec.get?_write_record .plain (by decide) m
  rw [named?, show (Raw.ofJson (kind.codec.write m)).json.get? "kind" = none from hget,
    Option.bind_none]

theorem decode_ofJson_write (kind : ResourceKind) {m : kind.Model}
    (h : (kind.metadata m).Portable) : kind.decode (.ofJson (kind.codec.write m)) = .ok m := by
  have hread : kind.codec.read none (.ofJson (Raw.ofJson (kind.codec.write m)).json) = some m :=
    (kind.travels h).restores none fun k hk => absurd hk (by simp)
  rw [decode, named?_ofJson_write]
  show decode.read kind _ = _
  rw [decode.read, hread]

/-- **Decoding an object undoes writing it**, also through a text that does not nest too deeply. -/
theorem decode_write (kind : ResourceKind) (m : kind.Model) (h : (kind.metadata m).Portable) :
    kind.decode (.ofJson (kind.codec.write m)) = .ok m
      ∧ ((kind.codec.write m).depth ≤ 127 →
        (Json.parse? (kind.codec.write m).render.toUTF8.data.toList).map (kind.decode <| .ofJson ·)
          = some (.ok m)) := by
  refine ⟨kind.decode_ofJson_write h, fun hdepth => ?_⟩
  rw [Json.parse?_render (kind.travels h).whole hdepth, Option.map_some,
    kind.decode_ofJson_write h]

/-- A route with labels, owned fields, a rewriting rule and a backend. -/
def shopRoute : HttpRoute where
  metadata :=
    { name := some "shop"
      generation := some 3
      labels := some (.ofEntries [("tier", "front"), ("app", "shop")])
      managedFields := some [⟨some "v1", none, some (.ofJson (.obj [("f:spec", .obj [])])),
        some "kubectl", some "Update", none, none⟩] }
  spec :=
    { parentRefs := [⟨none, none, none, "edge", some "https", some 443⟩]
      rules := [
        { matches_ := [⟨some ⟨some "PathPrefix", some "/cart"⟩, [⟨none, "Host", "shop"⟩], [], none⟩]
          filters := [⟨Filter.urlRewrite, none, none, none, none,
            some ⟨none, some ⟨"ReplacePrefixMatch", none, some "/"⟩⟩, none⟩]
          backendRefs := [⟨⟨{ name := "cart", port := some 80 }, some 1⟩, []⟩] }] }

theorem decode_write_shopRoute :
    (metadata .httpRoute shopRoute).Portable ∧ ((codec .httpRoute).write shopRoute).depth ≤ 127
      ∧ decode .httpRoute (.ofJson ((codec .httpRoute).write shopRoute)) = .ok shopRoute
      ∧ (Json.parse? ((codec .httpRoute).write shopRoute).render.toUTF8.data.toList).map
        (decode .httpRoute <| .ofJson ·) = some (.ok shopRoute) := by
  have hportable : (metadata .httpRoute shopRoute).Portable := by
    refine ⟨rfl, rfl, ?_⟩
    rintro _ ⟨rfl⟩ e he
    obtain rfl := List.mem_singleton.1 he
    refine ⟨rfl, ?_, ?_⟩
    · rintro _ ⟨rfl⟩
      exact Json.noConfusion
    · rintro _ ⟨rfl⟩
      rfl
  have hdepth : ((codec .httpRoute).write shopRoute).depth ≤ 127 := by decide
  obtain ⟨hdecode, htext⟩ := decode_write .httpRoute shopRoute hportable
  exact ⟨hportable, hdepth, hdecode, htext hdepth⟩

end ResourceKind

end GatewayAdmission
