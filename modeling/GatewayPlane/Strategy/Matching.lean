import GatewayPlane.Path.Pattern
import GatewayPlane.Resource.Route

/-!
# Matching requests

How the path and method of an operation, and the version of its API, become the criteria
by which a route takes requests.
-/
namespace GatewayPlane

/-- A header with one value. -/
def HeaderMatch.equals (name value : String) : HeaderMatch := ⟨name, some value⟩

/-- The header that holds the method of a request. -/
def HeaderMatch.method (method : String) : HeaderMatch := .equals ":method" method.toUpper

/-- A path as it stands, unless it has parameters. -/
def PathMatch.ofTemplate (path : String) : PathMatch :=
  if Path.hasParameters path then .regex (Path.pattern path) else .exact path

inductive Matching where
  | startsWith (caseSensitive : Bool)
  | exact
  | regex
  | headerVersioned (header version : String) (caseSensitive : Bool)
  deriving DecidableEq, Repr

namespace Matching

def name : Matching → String
  | startsWith _ => "prefix"
  | exact => "exact"
  | regex => "regex"
  | headerVersioned .. => "header-versioned"

def startCriteria (caseSensitive : Bool) (path : String) (headers : List HeaderMatch) :
    RouteMatch where
  path := some (.startsWith path)
  caseSensitive := if caseSensitive then none else some false
  headers := headers

def criteria (m : Matching) (path method : String) : RouteMatch :=
  match m with
  | startsWith caseSensitive => startCriteria caseSensitive path [.method method]
  | exact => { path := some (.ofTemplate path), headers := [.method method] }
  | regex => { path := some (.regex (Path.pattern path)), headers := [.method method] }
  | headerVersioned header version caseSensitive =>
    startCriteria caseSensitive path [.method method, .equals header version]

end Matching

/-- The criteria with the spelling left out that they do not look at. Two matches of one
strategy take the same requests when these are the same. -/
def RouteMatch.folded (m : RouteMatch) : RouteMatch :=
  match m.caseSensitive, m.path with
  | some false, some (.startsWith path) => { m with path := some (.startsWith path.toLower) }
  | some false, some (.exact path) => { m with path := some (.exact path.toLower) }
  | _, _ => m

/-- A route named for its operation, which sends its requests to one cluster. -/
def Route.ofOperation (path method cluster : String) : Route :=
  .to s!"{method.toUpper} {path}" (Matching.exact.criteria path method) (.cluster cluster)

end GatewayPlane
