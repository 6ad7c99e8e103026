import GatewayPlane.Json.Basic
import GatewayPlane.NameMap
import GatewayPlane.Path.Base
import GatewayPlane.Path.Template
import GatewayPlane.Time.Span

/-!
# API documents

What an API offers, whatever language it was described in: its operations with their
paths, parameters and bodies, and the schemes, models and servers that they mention.
-/
namespace GatewayPlane

/-- The style in which a whole API is described. -/
inductive ApiStyle where
  | rest | grpc | graphql | websocket | sse
  deriving DecidableEq, Repr, Inhabited

/-- How one operation exchanges messages with its caller. -/
inductive Interaction where
  | http | grpcUnary | grpcServerStream | grpcClientStream | grpcBidirectional
  | graphqlQuery | graphqlMutation | graphqlSubscription | websocket | sse
  deriving DecidableEq, Repr, Inhabited

namespace Interaction

/-- Whether an exchange may stay open for as long as its ends please. -/
def isStreaming : Interaction → Bool
  | grpcServerStream | grpcClientStream | grpcBidirectional | graphqlSubscription | websocket
  | sse => true
  | _ => false

def isWebsocket (i : Interaction) : Bool := i = websocket

end Interaction

inductive Protocol where
  | http | grpc | websocket | sse
  deriving DecidableEq, Repr, Inhabited

inductive ParameterPlace where
  | path | query | header | cookie
  deriving DecidableEq, Repr, Inhabited

structure Parameter where
  name : String
  place : ParameterPlace := .path
  required : Bool := false
  schema : Option Json := none
  deriving Inhabited

/-- A parameter that a path has to carry. -/
def Parameter.inPath (name : String) : Parameter := ⟨name, .path, true, none⟩

structure RequestBody where
  contentType : String := ""
  schemaRef : Option String := none
  required : Bool := false
  deriving DecidableEq, Repr, Inhabited

structure Response where
  status : String
  contentType : String := ""
  schemaRef : Option String := none
  deriving DecidableEq, Repr, Inhabited

/-- So many requests in each period. -/
structure Quota where
  requests : UInt32
  period : Span
  deriving DecidableEq, Repr, Inhabited

structure Operation where
  id : String
  interaction : Interaction := .http
  protocol : Protocol := .http
  pathPattern : String
  parameters : List Parameter := []
  method : String
  request : Option RequestBody := none
  responses : List Response := []
  security : List String := []
  timeout : Option Span := none
  quota : Option Quota := none
  deriving Inhabited

/-- An operation that declares the parameters of its path. -/
def Operation.ofPattern (id method pathPattern : String) : Operation where
  id := id
  method := method.toUpper
  pathPattern := pathPattern
  parameters := (Path.parameters pathPattern).map Parameter.inPath

structure DataModel where
  name : String
  schema : Json
  deriving Inhabited

inductive SecurityMechanism where
  | apiKey | http | oauth2 | openIdConnect | mutualTls
  deriving DecidableEq, Repr, Inhabited

structure SecurityScheme where
  name : String
  mechanism : SecurityMechanism
  settings : NameMap String := ∅
  deriving Inhabited

structure Server where
  url : String
  description : Option String := none
  deriving DecidableEq, Repr, Inhabited

structure ApiInfo where
  style : ApiStyle := .rest
  name : String
  version : String
  basePath : Option String := none
  description : Option String := none
  deriving DecidableEq, Repr, Inhabited

/-- The base path in its normal form; without one, the root. -/
def ApiInfo.normalBasePath (info : ApiInfo) : String := Path.normalize (info.basePath.getD "")

structure Api where
  info : ApiInfo
  operations : List Operation := []
  models : List DataModel := []
  security : List SecurityScheme := []
  servers : List Server := []
  extensions : NameMap Json := ∅
  deriving Inhabited

end GatewayPlane
