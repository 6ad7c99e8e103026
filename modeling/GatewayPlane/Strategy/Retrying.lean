import GatewayPlane.Decimal.Shortest
import GatewayPlane.Fault
import GatewayPlane.Resource.Kind
import GatewayPlane.Resource.Route
import GatewayPlane.Text.Blank

/-!
# Retrying

Which failed requests are tried again, how often and after what pause.
-/
namespace GatewayPlane

/-- Retries as settings ask for them. -/
structure CustomRetry where
  numRetries : UInt32
  retryOn : String
  perTryTimeout : Option Span
  statusCodes : List UInt32
  paused : Bool
  deriving DecidableEq, Repr

namespace CustomRetry

/-- The condition that makes the listed status codes count. -/
def statusCodeCondition : String := "retriable-status-codes"

def splitOn (mark : Char) : List Char → List (List Char)
  | [] => [[]]
  | c :: rest =>
    match splitOn mark rest with
    | [] => [[c]]
    | part :: parts => if c = mark then [] :: part :: parts else (c :: part) :: parts

/-- Whether a condition is among those of a list with commas. -/
def lists (conditions condition : String) : Bool :=
  (splitOn ',' conditions.toList).any fun part =>
    Text.strip Text.isBlank part = condition.toList

/-- The text of a share in messages: of two equally near decimals the farther from zero. -/
def shareText (percent : Float) : String := String.ofList (Decimal.plain .awayFromZero percent)

/-- Status codes of their own make the condition that looks at them be added. A budget
asks for pauses between the attempts. -/
def make (numRetries : UInt32) (retryOn : String) (perTryTimeout : Option Span)
    (statusCodes : List UInt32) (budgetPercent : Option Float) : Except Fault CustomRetry := do
  if Text.isBlankText retryOn then throw (.validation "retry.retry_on" "must not be empty")
  if let some code := statusCodes.find? fun c => !(100 ≤ c && c < 600) then
    throw (.validation "retry.retriable_status_codes" s!"{code.toNat} is not an HTTP status code")
  if let some budget := budgetPercent then
    if !(budget > 0.0 && budget ≤ 100.0) then
      throw (.validation "retry.budget_percent"
        s!"must be within (0, 100], got {shareText budget}")
  return {
    numRetries := numRetries
    retryOn :=
      if statusCodes.isEmpty || lists retryOn statusCodeCondition then retryOn
      else s!"{retryOn},{statusCodeCondition}"
    perTryTimeout := perTryTimeout
    statusCodes := statusCodes
    paused := budgetPercent.isSome }

end CustomRetry

inductive Retrying where
  | none
  | conservative
  | aggressive
  | custom (retry : CustomRetry)
  deriving DecidableEq, Repr

namespace Retrying

def name : Retrying → String
  | none => "none"
  | conservative => "conservative"
  | aggressive => "aggressive"
  | custom _ => "custom"

def pauses : BackOff := ⟨some ⟨0, 25000000⟩, some ⟨0, 250000000⟩⟩

def policy? : Retrying → Option RetryPolicy
  | none => .none
  | conservative => some {
      retryOn := "5xx,reset"
      numRetries := some 1
      perTryTimeout := some ⟨5, 0⟩ }
  | aggressive => some {
      retryOn := "5xx,reset,connect-failure,refused-stream"
      numRetries := some 3
      perTryTimeout := some ⟨2, 0⟩
      hostPredicates := [⟨ExtensionName.previousHosts, some ⟨TypeUrl.previousHosts, []⟩⟩] }
  | custom r => some {
      retryOn := r.retryOn
      numRetries := some r.numRetries
      perTryTimeout := r.perTryTimeout.map WireDuration.ofSpan
      statusCodes := r.statusCodes
      backOff := if r.paused then some pauses else .none }

/-- Sets the policy of a route that forwards its requests. -/
def apply (r : Retrying) (route : Route) : Route :=
  match r.policy?, route.action with
  | some policy, some (.forward a) =>
    { route with action := some (.forward { a with retry := some policy }) }
  | _, _ => route

end Retrying

end GatewayPlane
