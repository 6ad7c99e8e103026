import GatewayPlane.Json.Reader
import GatewayPlane.Time.Instant
import GatewayPlane.Time.SpanText

/-!
# Times in documents

A span or an instant stands in a document as its text.
-/
namespace GatewayPlane
open Json

namespace Span

def ofJson? : Reader Span
  | .string s => parse? s
  | _ => none

def toJson (d : Span) : Json := .string d.render

end Span

namespace Instant

def ofJson? : Reader Instant
  | .string s => parse? s
  | _ => none

def toJson (t : Instant) : Json := .string t.render

end Instant

end GatewayPlane
