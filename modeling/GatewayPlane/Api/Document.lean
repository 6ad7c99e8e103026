import GatewayPlane.Api.Basic
import GatewayPlane.Json.Reader
import GatewayPlane.Time.Document

/-!
# API documents as JSON

For each part of an API document, the JSON it is read from and written as. An absent
optional part is not written.
-/
namespace GatewayPlane
open Json

namespace ApiStyle

def all : List ApiStyle := [rest, grpc, graphql, websocket, sse]

def name : ApiStyle → String
  | rest => "rest"
  | grpc => "grpc"
  | graphql => "graphql"
  | websocket => "websocket"
  | sse => "sse"

def ofJson? : Reader ApiStyle := choice? all name

def toJson (s : ApiStyle) : Json := .string s.name

end ApiStyle

namespace Interaction

def all : List Interaction :=
  [http, grpcUnary, grpcServerStream, grpcClientStream, grpcBidirectional, graphqlQuery,
    graphqlMutation, graphqlSubscription, websocket, sse]

def name : Interaction → String
  | http => "http"
  | grpcUnary => "grpc_unary"
  | grpcServerStream => "grpc_server_stream"
  | grpcClientStream => "grpc_client_stream"
  | grpcBidirectional => "grpc_bidirectional"
  | graphqlQuery => "graphql_query"
  | graphqlMutation => "graphql_mutation"
  | graphqlSubscription => "graphql_subscription"
  | websocket => "websocket"
  | sse => "sse"

def ofJson? : Reader Interaction := choice? all name

def toJson (i : Interaction) : Json := .string i.name

end Interaction

namespace Protocol

def all : List Protocol := [http, grpc, websocket, sse]

def name : Protocol → String
  | http => "http"
  | grpc => "grpc"
  | websocket => "websocket"
  | sse => "sse"

def ofJson? : Reader Protocol := choice? all name

def toJson (p : Protocol) : Json := .string p.name

end Protocol

namespace ParameterPlace

def all : List ParameterPlace := [path, query, header, cookie]

def name : ParameterPlace → String
  | path => "path"
  | query => "query"
  | header => "header"
  | cookie => "cookie"

def ofJson? : Reader ParameterPlace := choice? all name

def toJson (p : ParameterPlace) : Json := .string p.name

end ParameterPlace

namespace SecurityMechanism

def all : List SecurityMechanism := [apiKey, http, oauth2, openIdConnect, mutualTls]

def name : SecurityMechanism → String
  | apiKey => "api_key"
  | http => "http"
  | oauth2 => "oauth2"
  | openIdConnect => "open_id_connect"
  | mutualTls => "mutual_tls"

def ofJson? : Reader SecurityMechanism := choice? all name

def toJson (m : SecurityMechanism) : Json := .string m.name

end SecurityMechanism

namespace Parameter

def memberNames : List String := ["name", "in", "required", "schema"]

def ofJson? (value : Json) : Option Parameter := do
  let m ← members? memberNames value
  return {
    name := ← field string? m "name"
    place := ← fieldOr ParameterPlace.ofJson? .path m "in"
    required := ← fieldOr bool? false m "required"
    schema := ← fieldMaybe anything m "schema" }

def toJson (p : Parameter) : Json :=
  .object ([("name", .string p.name), ("in", p.place.toJson), ("required", .bool p.required)]
    ++ memberOf id "schema" p.schema)

end Parameter

namespace RequestBody

def memberNames : List String := ["content_type", "schema_ref", "required"]

def ofJson? (value : Json) : Option RequestBody := do
  let m ← members? memberNames value
  return {
    contentType := ← fieldOr string? "" m "content_type"
    schemaRef := ← fieldMaybe string? m "schema_ref"
    required := ← fieldOr bool? false m "required" }

def toJson (b : RequestBody) : Json :=
  .object ([("content_type", .string b.contentType)] ++ memberOf .string "schema_ref" b.schemaRef
    ++ [("required", .bool b.required)])

end RequestBody

namespace Response

def memberNames : List String := ["status", "content_type", "schema_ref"]

def ofJson? (value : Json) : Option Response := do
  let m ← members? memberNames value
  return {
    status := ← field string? m "status"
    contentType := ← fieldOr string? "" m "content_type"
    schemaRef := ← fieldMaybe string? m "schema_ref" }

def toJson (r : Response) : Json :=
  .object ([("status", .string r.status), ("content_type", .string r.contentType)]
    ++ memberOf .string "schema_ref" r.schemaRef)

end Response

namespace Quota

def memberNames : List String := ["requests", "per"]

def ofJson? (value : Json) : Option Quota := do
  let m ← members? memberNames value
  return {
    requests := ← field uint32? m "requests"
    period := ← field Span.ofJson? m "per" }

def toJson (q : Quota) : Json :=
  .object [("requests", ofNat q.requests.toNat), ("per", q.period.toJson)]

end Quota

namespace Operation

def memberNames : List String :=
  ["id", "type", "protocol", "path_pattern", "path_parameters", "method", "request", "responses",
    "security", "timeout", "rate_limit"]

def ofJson? (value : Json) : Option Operation := do
  let m ← members? memberNames value
  return {
    id := ← field string? m "id"
    interaction := ← fieldOr Interaction.ofJson? .http m "type"
    protocol := ← fieldOr Protocol.ofJson? .http m "protocol"
    pathPattern := ← field string? m "path_pattern"
    parameters := ← fieldOr (list? Parameter.ofJson?) [] m "path_parameters"
    method := ← field string? m "method"
    request := ← fieldMaybe RequestBody.ofJson? m "request"
    responses := ← fieldOr (list? Response.ofJson?) [] m "responses"
    security := ← fieldOr (list? string?) [] m "security"
    timeout := ← fieldMaybe Span.ofJson? m "timeout"
    quota := ← fieldMaybe Quota.ofJson? m "rate_limit" }

def toJson (o : Operation) : Json :=
  .object ([("id", .string o.id), ("type", o.interaction.toJson), ("protocol", o.protocol.toJson),
      ("path_pattern", .string o.pathPattern),
      ("path_parameters", .array (o.parameters.map Parameter.toJson)),
      ("method", .string o.method)]
    ++ memberOf RequestBody.toJson "request" o.request
    ++ [("responses", .array (o.responses.map Response.toJson)),
      ("security", ofStrings o.security)]
    ++ memberOf Span.toJson "timeout" o.timeout
    ++ memberOf Quota.toJson "rate_limit" o.quota)

end Operation

namespace DataModel

def memberNames : List String := ["name", "schema"]

def ofJson? (value : Json) : Option DataModel := do
  let m ← members? memberNames value
  return {
    name := ← field string? m "name"
    schema := ← field anything m "schema" }

def toJson (d : DataModel) : Json := .object [("name", .string d.name), ("schema", d.schema)]

end DataModel

namespace SecurityScheme

def memberNames : List String := ["name", "type", "settings"]

def ofJson? (value : Json) : Option SecurityScheme := do
  let m ← members? memberNames value
  return {
    name := ← field string? m "name"
    mechanism := ← field SecurityMechanism.ofJson? m "type"
    settings := ← fieldOr (nameMap? string?) ∅ m "settings" }

def toJson (s : SecurityScheme) : Json :=
  .object [("name", .string s.name), ("type", s.mechanism.toJson),
    ("settings", .object (s.settings.map Json.string).entries)]

end SecurityScheme

namespace Server

def memberNames : List String := ["url", "description"]

def ofJson? (value : Json) : Option Server := do
  let m ← members? memberNames value
  return {
    url := ← field string? m "url"
    description := ← fieldMaybe string? m "description" }

def toJson (s : Server) : Json :=
  .object ([("url", .string s.url)] ++ memberOf .string "description" s.description)

end Server

namespace ApiInfo

def memberNames : List String := ["type", "name", "version", "base_path", "description"]

def ofJson? (value : Json) : Option ApiInfo := do
  let m ← members? memberNames value
  return {
    style := ← fieldOr ApiStyle.ofJson? .rest m "type"
    name := ← field string? m "name"
    version := ← field string? m "version"
    basePath := ← fieldMaybe string? m "base_path"
    description := ← fieldMaybe string? m "description" }

def toJson (i : ApiInfo) : Json :=
  .object ([("type", i.style.toJson), ("name", .string i.name), ("version", .string i.version)]
    ++ memberOf .string "base_path" i.basePath ++ memberOf .string "description" i.description)

end ApiInfo

namespace Api

def memberNames : List String :=
  ["metadata", "endpoints", "data_models", "security", "servers", "extensions"]

def ofJson? (value : Json) : Option Api := do
  let m ← members? memberNames value
  return {
    info := ← field ApiInfo.ofJson? m "metadata"
    operations := ← fieldOr (list? Operation.ofJson?) [] m "endpoints"
    models := ← fieldOr (list? DataModel.ofJson?) [] m "data_models"
    security := ← fieldOr (list? SecurityScheme.ofJson?) [] m "security"
    servers := ← fieldOr (list? Server.ofJson?) [] m "servers"
    extensions := ← fieldOr (nameMap? anything) ∅ m "extensions" }

def toJson (a : Api) : Json :=
  .object [("metadata", a.info.toJson), ("endpoints", .array (a.operations.map Operation.toJson)),
    ("data_models", .array (a.models.map DataModel.toJson)),
    ("security", .array (a.security.map SecurityScheme.toJson)),
    ("servers", .array (a.servers.map Server.toJson)),
    ("extensions", .object a.extensions.entries)]

end Api

end GatewayPlane
