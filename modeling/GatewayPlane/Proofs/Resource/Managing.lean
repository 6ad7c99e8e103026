import GatewayPlane.Proofs.Consistency.Integrity
import GatewayPlane.Proofs.Wire.RoundTrip

/-!
# Connection managers of built listeners

The connection manager that a listener is built with can be read back from the bytes of
its filter, and is what it was before: it discovers its routes under the name that it was
given.
-/
namespace GatewayPlane
open Wire

theorem Wire.textOrDefault_of_ne {n : Nat} {s : String} (h : s ≠ "") :
    textOrDefault n s = [(n, .text s)] :=
  if_neg h

namespace ConnectionManager

/-- What is written of where routes are discovered. -/
def discoveryFields (routes : String) : List Field :=
  (1, .message [(3, .message []), (6, .number 2)]) :: textOrDefault 2 routes

theorem fields_discovering (statPrefix routes : String) :
    (discovering statPrefix routes).fields =
      textOrDefault 2 statPrefix ++ [(3, .message (discoveryFields routes)),
        (5, .message [(1, .text ExtensionName.router), (4, .message [(1, .text TypeUrl.router)])]),
        (23, .message [(1, .text "websocket"), (3, .message [])])] := by
  have hrouter : Extension.fields 4 ⟨ExtensionName.router, some ⟨TypeUrl.router, []⟩⟩ =
      [(1, .text ExtensionName.router), (4, .message [(1, .text TypeUrl.router)])] := by
    rw [Extension.fields, textOrDefault_of_ne (by decide), Wire.optional, TypedConfig.fields,
      textOrDefault_of_ne (by decide)]
    rfl
  have hwebsocket : Upgrade.fields 3 (.websocket false) =
      [(1, .text "websocket"), (3, .message [])] := by
    rw [Upgrade.fields, Upgrade.websocket, textOrDefault_of_ne (by decide)]
    rfl
  change textOrDefault 2 statPrefix ++ message 3 (discoveryFields routes)
    ++ messages 5 (Extension.fields 4) [⟨ExtensionName.router, some ⟨TypeUrl.router, []⟩⟩]
    ++ messages 23 (Upgrade.fields 3) [.websocket false] = _
  simp only [messages, List.flatMap_cons, List.flatMap_nil, hrouter, hwebsocket, message,
    List.append_assoc, List.append_nil, List.cons_append, List.nil_append]

theorem discoveredOfFields_discoveryFields (routes : String) :
    RouteSource.discoveredOfFields (discoveryFields routes) =
      .discovered routes (some .aggregated) := by
  unfold discoveryFields
  by_cases h : routes = ""
  · subst h
    rfl
  · rw [textOrDefault_of_ne h]
    rfl

theorem ofFields_discovering (statPrefix routes : String) :
    ofFields (discovering statPrefix routes).fields = discovering statPrefix routes := by
  have hroutes := discoveredOfFields_discoveryFields routes
  rw [fields_discovering]
  generalize discoveryFields routes = fs at hroutes
  have hread : message? RouteSource.discoveredOfFields 3 [(3, .message fs)] =
      some (.discovered routes (some .aggregated)) := by
    change some (RouteSource.discoveredOfFields (fs ++ [])) = _
    rw [List.append_nil, hroutes]
  by_cases h : statPrefix = ""
  · subst h
    rw [discovering, ← hread]
    rfl
  · rw [textOrDefault_of_ne h, discovering, ← hread]
    rfl

/-! ## Shapes -/

variable {below : Shape MessageType → List Field → Prop}

theorem fits_textOrDefault {shape : Shape MessageType} {n : Nat} (hn : 0 < n)
    (hlimit : n < fieldNumberLimit) (htype : shape.lookup n = some .text) (s : String) :
    shape.Fits MessageType.shape below (textOrDefault n s) := by
  unfold textOrDefault
  split
  · exact .nil
  · exact .cons hn hlimit htype trivial .nil

theorem conforms_nil (limit : Nat) (shape : Shape MessageType) :
    shape.Conforms MessageType.shape limit [] := by
  cases limit <;> exact .nil

theorem conforms_discoveryFields (limit : Nat) (routes : String) :
    (MessageType.shape .discoveredRoutes).Conforms MessageType.shape (limit + 2)
      (discoveryFields routes) := by
  have hversion : 2 < UInt64.size := by decide
  have hsource : (MessageType.shape .configSource).Conforms MessageType.shape (limit + 1)
      [(3, .message []), (6, .number 2)] := by
    refine .cons (by decide) (by decide) rfl (conforms_nil limit _) ?_
    exact .cons (by decide) (by decide) rfl hversion .nil
  refine .cons (by decide) (by decide) rfl hsource ?_
  exact fits_textOrDefault (by decide) (by decide) rfl routes

theorem conforms_discovering (limit : Nat) (statPrefix routes : String) :
    (MessageType.shape .connectionManager).Conforms MessageType.shape (limit + 3)
      (discovering statPrefix routes).fields := by
  rw [fields_discovering]
  have hany : (MessageType.shape .any).Conforms MessageType.shape (limit + 1)
      [(1, .text TypeUrl.router)] := .cons (by decide) (by decide) rfl trivial .nil
  have hfilter : (MessageType.shape .httpFilter).Conforms MessageType.shape (limit + 2)
      [(1, .text ExtensionName.router), (4, .message [(1, .text TypeUrl.router)])] := by
    refine .cons (by decide) (by decide) rfl trivial ?_
    exact .cons (by decide) (by decide) rfl hany .nil
  have hupgrade : (MessageType.shape .managerUpgrade).Conforms MessageType.shape (limit + 2)
      [(1, .text "websocket"), (3, .message [])] := by
    refine .cons (by decide) (by decide) rfl trivial ?_
    exact .cons (by decide) (by decide) rfl (conforms_nil _ _) .nil
  refine .append (fits_textOrDefault (by decide) (by decide) rfl statPrefix) ?_
  refine .cons (by decide) (by decide) rfl (conforms_discoveryFields limit routes) ?_
  refine .cons (by decide) (by decide) rfl hfilter ?_
  exact .cons (by decide) (by decide) rfl hupgrade .nil

/-- A connection manager that discovers its routes is read back from its bytes, as long as
these can be counted in a varint. -/
theorem decode?_encode_discovering {statPrefix routes : String}
    (h : (encode (discovering statPrefix routes).fields).length < UInt64.size) :
    decode? (encode (discovering statPrefix routes).fields) =
      some (discovering statPrefix routes) := by
  have hread := Shape.read_encode (conforms_discovering 97 statPrefix routes) h
  change ((MessageType.shape .connectionManager).read MessageType.shape 100 _).map ofFields = _
  rw [hread, Option.map_some, ofFields_discovering]

end ConnectionManager

namespace Listener

theorem managerConfigs_routed (name routes : String) (port : UInt16) :
    (routed name routes port).managerConfigs =
      [.pack TypeUrl.connectionManager (ConnectionManager.discovering name routes).fields] := by
  simp [managerConfigs, routed, ConnectionManager.filter, TypedConfig.pack]

/-- A listener that takes its routes from one configuration has one connection manager. -/
theorem manages_routed {name routes : String} {port : UInt16}
    (h : ∀ c ∈ (routed name routes port).managerConfigs, c.value.length < UInt64.size) :
    (routed name routes port).Readable ∧ ∀ m, (routed name routes port).Manages m ↔
      m = .discovering name routes := by
  rw [managerConfigs_routed, List.forall_mem_singleton] at h
  have hdecode := ConnectionManager.decode?_encode_discovering h
  have hconfig (c : TypedConfig) : (routed name routes port).HasManagerConfig c ↔
      c = .pack TypeUrl.connectionManager (ConnectionManager.discovering name routes).fields := by
    rw [← mem_managerConfigs, managerConfigs_routed, List.mem_singleton]
  constructor
  · intro c hc
    rw [(hconfig c).1 hc]
    exact ⟨_, hdecode⟩
  · intro m
    constructor
    · rintro ⟨c, hc, hm⟩
      rw [(hconfig c).1 hc] at hm
      exact Option.some.inj (hm.symm.trans hdecode)
    · rintro rfl
      exact ⟨_, (hconfig _).2 rfl, hdecode⟩

end Listener

end GatewayPlane
