import GatewayPlane.Proofs.Time.Spelling
import GatewayPlane.Strategy.Config

/-!
# Settings are read back

The settings of every slot are restored from what is written of them: what was left out is
read as what it was, and a switch or a limit with a value of its own is always written.
-/
namespace GatewayPlane
open Json

theorem CanarySettings.restores : Restores ofJson? toJson where
  read_write c := by simp [ofJson?, toJson, restores_uint32.read_write]
  null := rfl
  wellFormed c := wellFormed_members memberNames (by decide)
    (.cons (.string _) (.cons (.string _) (.cons (restores_uint32.wellFormed _) .nil)))

theorem BlueGreenSettings.restores : Restores ofJson? toJson where
  read_write b := by simp [ofJson?, toJson]
  null := rfl
  wellFormed b := wellFormed_members memberNames (by decide)
    (.cons (.string _) (.cons (.string _) (.cons (.bool _) .nil)))

theorem DeploymentSettings.restores : Restores ofJson? toJson where
  read_write d := by
    simp [ofJson?, toJson, CanarySettings.restores.maybe, BlueGreenSettings.restores.maybe]
  null := rfl
  wellFormed d := wellFormed_members memberNames (by decide)
    (.cons (.string _) (.maybe CanarySettings.restores (.last BlueGreenSettings.restores)))

theorem RouteMatchSettings.restores : Restores ofJson? toJson where
  read_write r := by simp [ofJson?, toJson, restores_string.maybe]
  null := rfl
  wellFormed r := wellFormed_members memberNames (by decide)
    (.cons (.string _) (.cons (.bool _) (.last restores_string)))

theorem LoadBalancingSettings.restores : Restores ofJson? toJson where
  read_write l := by simp [ofJson?, toJson, restores_string.maybe, restores_uint32.maybe]
  null := rfl
  wellFormed l := by
    refine wellFormed_members memberNames (by decide) ?_
    simp only [List.append_assoc]
    exact .cons (.string _) (.maybe restores_string (.maybe restores_string
      (.maybe restores_string (.maybe restores_uint32 (.last restores_string)))))

namespace RetrySettings

/-- Of the status codes a list of its own is written, and none of the empty one. -/
def writtenCodes (codes : List UInt32) : Option (List UInt32) :=
  if codes.isEmpty then none else some codes

theorem writtenCodes_eq (codes : List UInt32) :
    (if codes.isEmpty then []
      else [("retriable_status_codes", .array (codes.map fun n => ofNat n.toNat))]) =
    memberOf (fun l : List UInt32 => .array (l.map fun n => ofNat n.toNat))
      "retriable_status_codes" (writtenCodes codes) := by
  cases codes with
  | nil => rfl
  | cons code rest => rfl

theorem read_writtenCodes (codes : List UInt32) :
    ((writtenCodes codes).map fun l => Json.array (l.map fun n => ofNat n.toNat)).elim
      (some []) (list? uint32?) = some codes := by
  cases codes with
  | nil => rfl
  | cons code rest => exact restores_uint32.list (code :: rest)

theorem restores : Restores ofJson? toJson where
  read_write r := by
    rw [ofJson?, toJson, writtenCodes_eq]
    simp [restores_string.maybe, restores_uint32.maybe, restores_float.maybe, Span.restores.maybe,
      -Option.elim_map, read_writtenCodes]
  null := rfl
  wellFormed r := by
    refine wellFormed_members memberNames (by decide) ?_
    simp only [List.append_assoc, writtenCodes_eq]
    exact .cons (.string _) (.maybe restores_uint32 (.maybe restores_string
      (.maybe Span.restores (.memberOf (fun codes _ => restores_uint32.wellFormed_list codes)
        (.last restores_float)))))

end RetrySettings

theorem RateLimitSettings.restores : Restores ofJson? toJson where
  read_write r := by simp [ofJson?, toJson, restores_uint32.maybe, restores_string.maybe]
  null := rfl
  wellFormed r := by
    refine wellFormed_members memberNames (by decide) ?_
    simp only [List.append_assoc]
    exact .cons (.string _) (.maybe restores_uint32 (.last restores_string))

theorem TracingSettings.restores : Restores ofJson? toJson where
  read_write t := by simp [ofJson?, toJson]
  null := rfl
  wellFormed t := wellFormed_members memberNames (by decide)
    (.cons (.bool _) (.cons (.float _) .nil))

namespace ObservabilitySettings

theorem restores_switch : Restores switch? ofSwitch where
  read_write on := by simp [switch?, ofSwitch]
  null := rfl
  wellFormed on := wellFormed_members ["enabled"] (by decide) (.cons (.bool on) .nil)

theorem restores : Restores ofJson? toJson where
  read_write o := by
    simp [ofJson?, toJson, TracingSettings.restores.read_write, restores_switch.read_write]
  null := rfl
  wellFormed o := wellFormed_members memberNames (by decide)
    (.cons (TracingSettings.restores.wellFormed _) (.cons (restores_switch.wellFormed _)
      (.cons (restores_switch.wellFormed _) .nil)))

end ObservabilitySettings

namespace StrategySettings

theorem onlyMembers?_of_listed {members : List (String × Json)} (h : Listed memberNames members) :
    onlyMembers? memberNames (.object members) = some members := by
  have hnamed : members.all (fun m => memberNames.contains m.1) = true := by
    refine List.all_eq_true.2 fun m hm => List.contains_iff_mem.2 ?_
    exact h.1.subset (List.mem_map_of_mem hm)
  rw [onlyMembers?, members?_object]
  exact if_pos hnamed

theorem listed (s : StrategySettings) : Listed memberNames
    (memberOf DeploymentSettings.toJson "deployment" s.deployment
      ++ memberOf RouteMatchSettings.toJson "route_matching" s.routeMatching
      ++ memberOf LoadBalancingSettings.toJson "load_balancing" s.loadBalancing
      ++ memberOf RetrySettings.toJson "retry" s.retry
      ++ memberOf RateLimitSettings.toJson "rate_limiting" s.rateLimiting
      ++ memberOf ObservabilitySettings.toJson "observability" s.observability) := by
  simp only [List.append_assoc]
  exact .maybe DeploymentSettings.restores (.maybe RouteMatchSettings.restores
    (.maybe LoadBalancingSettings.restores (.maybe RetrySettings.restores
      (.maybe RateLimitSettings.restores (.last ObservabilitySettings.restores)))))

theorem restores : Restores ofJson? toJson where
  read_write s := by
    rw [ofJson?, toJson, onlyMembers?_of_listed s.listed]
    simp [DeploymentSettings.restores.maybe, RouteMatchSettings.restores.maybe,
      LoadBalancingSettings.restores.maybe, RetrySettings.restores.maybe,
      RateLimitSettings.restores.maybe, ObservabilitySettings.restores.maybe]
  null := rfl
  wellFormed s := wellFormed_members memberNames (by decide) s.listed

end StrategySettings

end GatewayPlane
