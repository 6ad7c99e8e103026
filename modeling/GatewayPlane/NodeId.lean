/-!
# Gateway nodes

A gateway node is known by the text that it calls itself.
-/
namespace GatewayPlane

abbrev NodeId := String

namespace NodeId

/-- The identifier as diagnostics show it. -/
def label (id : NodeId) : String := s!"NodeId({id})"

end NodeId

end GatewayPlane
