import GatewayPlane.Api.Basic
import GatewayPlane.Fault
import GatewayPlane.Text.Blank
import GatewayPlane.Text.Quoted

/-!
# Well-formed APIs

An API can be routed when its operations have distinct identifiers, methods, absolute
paths, and a declaration for every parameter of their paths.
-/
namespace GatewayPlane

namespace Operation

def declares (o : Operation) (parameter : String) : Bool :=
  o.parameters.any fun p => p.name == parameter && p.place = .path

/-- The first thing that is wrong with an operation among those before it. -/
def check (seen : List String) (o : Operation) : Except Fault Unit := do
  if o.id.isEmpty then throw (.validation "endpoints[].id" "must not be empty")
  let fault (reason : String) := Fault.validation s!"endpoints[{o.id}]" reason
  if seen.contains o.id then throw (fault "duplicate endpoint id")
  if Text.isBlankText o.method then throw (fault "method must not be empty")
  if o.pathPattern.toList.head? ≠ some '/' then
    throw (fault s!"path pattern {Text.quoted o.pathPattern} must start with '/'")
  match (Path.parameters o.pathPattern).find? fun p => !o.declares p with
  | some p => throw (fault s!"path parameter \x7b{p}\x7d is not declared")
  | none => return ()

end Operation

namespace Api

def checkOperations (seen : List String) : List Operation → Except Fault Unit
  | [] => return ()
  | o :: rest => do
    o.check seen
    checkOperations (o.id :: seen) rest

def check (a : Api) : Except Fault Unit := checkOperations [] a.operations

end Api

end GatewayPlane
