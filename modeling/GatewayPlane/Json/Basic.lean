/-!
# JSON values

A number is an integer or a double, as its text had it: `80` and `80.0` are different
values. The members of an object have pairwise different names.
-/
namespace GatewayPlane

inductive Json where
  | null
  | bool (value : Bool)
  | integer (value : Int)
  | float (value : Float)
  | string (value : String)
  | array (items : List Json)
  | object (members : List (String × Json))
  deriving Inhabited

namespace Json

/-- Sets one member; a name that is there keeps its place. -/
def setMember (members : List (String × Json)) (name : String) (value : Json) :
    List (String × Json) :=
  if members.any (·.1 == name) then
    members.map fun m => if m.1 == name then (name, value) else m
  else members ++ [(name, value)]

def member? (members : List (String × Json)) (name : String) : Option Json :=
  (members.find? (·.1 == name)).map (·.2)

def get? (name : String) : Json → Option Json
  | object members => member? members name
  | _ => none

end Json

end GatewayPlane
