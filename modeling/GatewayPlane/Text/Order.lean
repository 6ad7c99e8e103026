/-!
# Texts in order
-/
namespace GatewayPlane.Text

/-- Each text once, in ascending order. -/
def sortedDistinct (l : List String) : List String :=
  (l.mergeSort fun a b => decide (a ≤ b)).eraseDups

theorem mem_sortedDistinct {s : String} {l : List String} : s ∈ sortedDistinct l ↔ s ∈ l := by
  rw [sortedDistinct, List.mem_eraseDups, List.mem_mergeSort]

end GatewayPlane.Text
