import GatewayPlane.Wire.Schema

/-!
# The messages of gateways

What a discovery request and a connection manager are made of: the types of all messages
within them, and the fields of each. Most of these say how a gateway is to treat requests
in ways that no resource here asks for; a reader has to know them all the same, since a
message is only well-formed when everything in it is.
-/
namespace GatewayPlane
open Wire

inductive MessageType where
  /-- Nothing but texts, numbered from one. -/
  | texts (count : Nat)
  /-- Nothing but numbers, numbered from one. -/
  | numbers (count : Nat)
  /-- A name, and a configuration under a number. -/
  | extension (configNumber : Nat)
  /-- A floating-point number in a message of its own. -/
  | boxedDouble
  | any
  | struct
  | value
  | listValue
  | discoveryRequest
  | node
  | nodeExtension
  | buildVersion
  | contextParameters
  | resourceLocator
  | status
  | address
  | socketAddress
  | pipe
  | cluster
  | metadata
  | metadataKey
  | metadataKind
  | dataSource
  | headerValue
  | headerValueOption
  | runtimePercent
  | backOff
  | configSource
  | pathConfigSource
  | apiConfigSource
  | apiRateLimit
  | grpcService
  | envoyGrpc
  | googleGrpc
  | grpcRetry
  | channelCredentials
  | sslCredentials
  | callCredentials
  | serviceAccount
  | channelArguments
  | channelArgument
  | extensionSource
  | regex
  | regexEngine
  | regexRewrite
  | stringMatch
  | headerMatch
  | queryMatch
  | metadataMatch
  | stateMatch
  | addressMatch
  | valueMatch
  | valueMatches
  | doubleMatch
  | doubleRange
  | matcher
  | matcherList
  | fieldMatcher
  | predicate
  | predicates
  | singlePredicate
  | plainStringMatch
  | plainRegex
  | matcherTree
  | matchMap
  | matched
  | accessLog
  | accessLogFilter
  | accessLogFilters
  | accessLogChoices
  | comparisonFilter
  | comparison
  | runtimeNumber
  | runtimeFilter
  | headerFilter
  | codeFilter
  | metadataFilter
  | customTag
  | metadataTag
  | connectionManager
  | discoveredRoutes
  | scopedRoutes
  | scopeKey
  | scopeFragment
  | scopeHeader
  | scopeList
  | scope
  | scopeKeyValue
  | scopeDiscovery
  | httpFilter
  | managerTracing
  | commonOptions
  | http1Options
  | headerKeyFormat
  | http2Options
  | settingsParameter
  | http2Keepalive
  | http3Options
  | quicOptions
  | quicKeepalive
  | accessLogOptions
  | internalAddresses
  | addressRange
  | clientCertificate
  | schemeTransformation
  | managerUpgrade
  | requestIdExtension
  | localReplies
  | replyMapper
  | replyFormat
  | pathNormalization
  | pathOperations
  | pathOperation
  | proxyStatus
  | routeConfiguration
  | hostDiscovery
  | clusterPlugin
  | virtualHost
  | virtualCluster
  | route
  | routeMatch
  | tlsMatch
  | routeAction
  | weightedClusters
  | clusterWeight
  | hashPolicy
  | hashHeader
  | hashCookie
  | retryPolicy
  | resetBackOff
  | resetHeader
  | hedging
  | requestMirror
  | routeUpgrade
  | connectSettings
  | proxyProtocol
  | passedTypes
  | addedType
  | internalRedirects
  | streamDurations
  | rateLimit
  | rateLimitAction
  | rateLimitHeader
  | rateLimitHeaderMatch
  | rateLimitQueryMatch
  | rateLimitDynamicMetadata
  | rateLimitMetadata
  | rateLimitHits
  | rateLimitOverride
  | dynamicKey
  | maskedAddress
  | crossOrigin
  | redirect
  | directResponse
  | filterAction
  | decorator
  | routeTracing
  deriving DecidableEq, Repr

namespace MessageType

/-- A number or flag in a message of its own, so that its absence shows. -/
def boxed : MessageType := numbers 1

/-- Seconds and nanoseconds. -/
def duration : MessageType := numbers 2

/-- A message without fields. -/
def empty : MessageType := texts 0

/-- A type of field for each number from one. -/
def sameFields (type : FieldType MessageType) (count : Nat) : Shape MessageType :=
  (List.range count).map fun n => (n + 1, type)

/-- The fields of each type of message. -/
def shape : Schema MessageType
  | texts count => sameFields .text count
  | numbers count => sameFields .number count
  | extension configNumber => [(1, .text), (configNumber, .message any)]
  | boxedDouble => [(1, .fixed64)]
  | any => [(1, .text), (2, .bytes)]
  | struct => [(1, .entries (.message value))]
  | value => [(1, .number), (2, .fixed64), (3, .text), (4, .number), (5, .message struct),
      (6, .message listValue)]
  | listValue => [(1, .message value)]
  | discoveryRequest => [(1, .text), (2, .message node), (3, .text), (4, .text), (5, .text),
      (6, .message status), (7, .message resourceLocator)]
  | node => [(1, .text), (2, .text), (3, .message struct), (4, .message (texts 3)), (6, .text),
      (7, .text), (8, .message buildVersion), (9, .message nodeExtension), (10, .text),
      (11, .message address), (12, .entries (.message contextParameters))]
  | nodeExtension => [(1, .text), (2, .text), (3, .text), (4, .message buildVersion), (5, .number),
      (6, .text)]
  | buildVersion => [(1, .message (numbers 3)), (2, .message struct)]
  | contextParameters => [(1, .entries .text)]
  | resourceLocator => [(1, .text), (2, .entries .text)]
  | status => [(1, .number), (2, .text), (3, .message any)]
  | address => [(1, .message socketAddress), (2, .message pipe), (3, .message (texts 2))]
  | socketAddress => [(1, .number), (2, .text), (3, .number), (4, .text), (5, .text), (6, .number),
      (7, .text)]
  | pipe => [(1, .text), (2, .number)]
  | cluster => [(1, .text)]
  | metadata => [(1, .entries (.message struct)), (2, .entries (.message any))]
  | metadataKey => [(1, .text), (2, .message (texts 1))]
  | metadataKind => [(1, .message empty), (2, .message empty), (3, .message empty),
      (4, .message empty)]
  | dataSource => [(1, .text), (2, .bytes), (3, .text), (4, .text), (5, .message (texts 1))]
  | headerValue => [(1, .text), (2, .text), (3, .bytes)]
  | headerValueOption =>
    [(1, .message headerValue), (2, .message boxed), (3, .number), (4, .number)]
  | runtimePercent => [(1, .message (numbers 2)), (2, .text)]
  | backOff => [(1, .message duration), (2, .message duration)]
  | configSource => [(1, .text), (2, .message apiConfigSource), (3, .message empty),
      (4, .message duration), (5, .message (numbers 1)), (6, .number), (7, .message (texts 1)),
      (8, .message pathConfigSource)]
  | pathConfigSource => [(1, .text), (2, .message (texts 1))]
  | apiConfigSource => [(1, .number), (2, .text), (3, .message duration), (4, .message grpcService),
      (5, .message duration), (6, .message apiRateLimit), (7, .number), (8, .number),
      (9, .message (extension 2))]
  | apiRateLimit => [(1, .message boxed), (2, .message boxedDouble)]
  | grpcService => [(1, .message envoyGrpc), (2, .message googleGrpc), (3, .message duration),
      (5, .message headerValue), (6, .message grpcRetry)]
  | envoyGrpc =>
    [(1, .text), (2, .text), (3, .message grpcRetry), (4, .message boxed), (5, .number)]
  | googleGrpc => [(1, .text), (2, .message channelCredentials), (3, .message callCredentials),
      (4, .text), (5, .text), (6, .message struct), (7, .message boxed),
      (8, .message channelArguments)]
  | grpcRetry => [(1, .message backOff), (2, .message boxed), (3, .text),
      (4, .message (extension 2)), (5, .message (extension 2)), (6, .number)]
  | channelCredentials => [(1, .message sslCredentials), (2, .message empty), (3, .message empty)]
  | sslCredentials => [(1, .message dataSource), (2, .message dataSource), (3, .message dataSource)]
  | callCredentials => [(1, .text), (2, .message empty), (3, .text), (4, .message serviceAccount),
      (5, .message (texts 2)), (6, .message (extension 3)), (7, .message (texts 9))]
  | serviceAccount => [(1, .text), (2, .number)]
  | channelArguments => [(1, .entries (.message channelArgument))]
  | channelArgument => [(1, .text), (2, .number)]
  | extensionSource => [(1, .message configSource), (2, .message any), (3, .number), (4, .text)]
  | regex => [(1, .message regexEngine), (2, .text)]
  | regexEngine => [(1, .message boxed)]
  | regexRewrite => [(1, .message regex), (2, .text)]
  | stringMatch => [(1, .text), (2, .text), (3, .text), (5, .message regex), (6, .number),
      (7, .text), (8, .message (extension 2))]
  | headerMatch => [(1, .text), (4, .text), (6, .message (numbers 2)), (7, .number), (8, .number),
      (9, .text), (10, .text), (11, .message regex), (12, .text), (13, .message stringMatch),
      (14, .number)]
  | queryMatch => [(1, .text), (5, .message stringMatch), (6, .number)]
  | metadataMatch => [(1, .text), (2, .message (texts 1)), (3, .message valueMatch), (4, .number)]
  | stateMatch => [(1, .text), (2, .message stringMatch), (3, .message addressMatch)]
  | addressMatch => [(1, .message addressRange)]
  | valueMatch => [(1, .message empty), (2, .message doubleMatch), (3, .message stringMatch),
      (4, .number), (5, .number), (6, .message valueMatches), (7, .message valueMatches)]
  | valueMatches => [(1, .message valueMatch)]
  | doubleMatch => [(1, .message doubleRange), (2, .fixed64)]
  | doubleRange => [(1, .fixed64), (2, .fixed64)]
  | matcher => [(1, .message matcherList), (2, .message matcherTree), (3, .message matched)]
  | matcherList => [(1, .message fieldMatcher)]
  | fieldMatcher => [(1, .message predicate), (2, .message matched)]
  | predicate => [(1, .message singlePredicate), (2, .message predicates), (3, .message predicates),
      (4, .message predicate)]
  | predicates => [(1, .message predicate)]
  | singlePredicate => [(1, .message (extension 2)), (2, .message plainStringMatch),
      (3, .message (extension 2))]
  | plainStringMatch => [(1, .text), (2, .text), (3, .text), (5, .message plainRegex), (6, .number),
      (7, .text), (8, .message (extension 2))]
  | plainRegex => [(1, .message empty), (2, .text)]
  | matcherTree => [(1, .message (extension 2)), (2, .message matchMap), (3, .message matchMap),
      (4, .message (extension 2))]
  | matchMap => [(1, .entries (.message matched))]
  | matched => [(1, .message matcher), (2, .message (extension 2))]
  | accessLog => [(1, .text), (2, .message accessLogFilter), (4, .message any)]
  | accessLogFilter => [(1, .message comparisonFilter), (2, .message comparisonFilter),
      (3, .message empty), (4, .message empty), (5, .message runtimeFilter),
      (6, .message accessLogFilters), (7, .message accessLogChoices), (8, .message headerFilter),
      (9, .message (texts 1)), (10, .message codeFilter), (11, .message (extension 3)),
      (12, .message metadataFilter), (13, .message codeFilter)]
  | accessLogFilters => [(1, .message accessLogFilter)]
  | accessLogChoices => [(2, .message accessLogFilter)]
  | comparisonFilter => [(1, .message comparison)]
  | comparison => [(1, .number), (2, .message runtimeNumber)]
  | runtimeNumber => [(2, .number), (3, .text)]
  | runtimeFilter => [(1, .text), (2, .message (numbers 2)), (3, .number)]
  | headerFilter => [(1, .message headerMatch)]
  | codeFilter => [(1, .numbers), (2, .number)]
  | metadataFilter => [(1, .message metadataMatch), (2, .message boxed)]
  | customTag => [(1, .text), (2, .message (texts 1)), (3, .message (texts 2)),
      (4, .message (texts 2)), (5, .message metadataTag)]
  | metadataTag => [(1, .message metadataKind), (2, .message metadataKey), (3, .text)]
  | connectionManager => [(1, .number), (2, .text), (3, .message discoveredRoutes),
      (4, .message routeConfiguration), (5, .message httpFilter), (6, .message boxed),
      (7, .message managerTracing), (8, .message http1Options), (9, .message http2Options),
      (10, .text), (12, .message duration), (13, .message accessLog), (14, .message boxed),
      (15, .message boxed), (16, .number), (17, .message clientCertificate), (18, .number),
      (19, .number), (20, .number), (21, .number), (22, .text), (23, .message managerUpgrade),
      (24, .message duration), (25, .message internalAddresses), (26, .message duration),
      (28, .message duration), (29, .message boxed), (30, .message boxed),
      (31, .message scopedRoutes), (32, .number), (33, .number), (34, .number),
      (35, .message commonOptions), (36, .message requestIdExtension), (37, .number),
      (38, .message localReplies), (39, .number), (40, .message boxed), (41, .message duration),
      (42, .number), (43, .message pathNormalization), (44, .message http3Options), (45, .number),
      (46, .message (extension 2)), (47, .number), (48, .message schemeTransformation),
      (49, .message proxyStatus), (50, .message (extension 2)), (51, .number),
      (52, .message (extension 2)), (53, .message boxed), (54, .message duration), (55, .number),
      (56, .message accessLogOptions), (57, .number), (58, .number)]
  | discoveredRoutes => [(1, .message configSource), (2, .text)]
  | scopedRoutes => [(1, .text), (2, .message scopeKey), (3, .message configSource),
      (4, .message scopeList), (5, .message scopeDiscovery)]
  | scopeKey => [(1, .message scopeFragment)]
  | scopeFragment => [(1, .message scopeHeader)]
  | scopeHeader => [(1, .text), (2, .text), (3, .number), (4, .message (texts 2))]
  | scopeList => [(1, .message scope)]
  | scope => [(1, .text), (2, .text), (3, .message scopeKeyValue), (4, .number),
      (5, .message routeConfiguration)]
  | scopeKeyValue => [(1, .message (texts 1))]
  | scopeDiscovery => [(1, .message configSource), (2, .text)]
  | httpFilter => [(1, .text), (4, .message any), (5, .message extensionSource), (6, .number),
      (7, .number)]
  | managerTracing => [(3, .message boxedDouble), (4, .message boxedDouble),
      (5, .message boxedDouble), (6, .number), (7, .message boxed), (8, .message customTag),
      (9, .message (extension 3)), (10, .message boxed)]
  | commonOptions => [(1, .message duration), (2, .message boxed), (3, .message duration),
      (4, .message duration), (5, .number), (6, .message boxed), (7, .message boxed)]
  | http1Options => [(1, .message boxed), (2, .number), (3, .text), (4, .message headerKeyFormat),
      (5, .number), (6, .number), (7, .message boxed), (8, .number), (9, .message boxed),
      (10, .number), (11, .message stringMatch)]
  | headerKeyFormat => [(1, .message empty), (8, .message (extension 2))]
  | http2Options => [(1, .message boxed), (2, .message boxed), (3, .message boxed),
      (4, .message boxed), (5, .number), (6, .number), (7, .message boxed), (8, .message boxed),
      (9, .message boxed), (10, .message boxed), (11, .message boxed), (12, .number),
      (13, .message settingsParameter), (14, .message boxed), (15, .message http2Keepalive),
      (16, .message boxed), (17, .message boxed)]
  | settingsParameter => [(1, .message boxed), (2, .message boxed)]
  | http2Keepalive => [(1, .message duration), (2, .message duration), (3, .message boxedDouble),
      (4, .message duration)]
  | http3Options => [(1, .message quicOptions), (2, .message boxed), (5, .number), (6, .number),
      (7, .number)]
  | quicOptions => [(1, .message boxed), (2, .message boxed), (3, .message boxed),
      (4, .message boxed), (5, .message quicKeepalive), (6, .text), (7, .text),
      (8, .message duration), (9, .message boxed)]
  | quicKeepalive => [(1, .message duration), (2, .message duration)]
  | accessLogOptions => [(1, .message duration), (2, .number), (3, .number)]
  | internalAddresses => [(1, .number), (2, .message addressRange)]
  | addressRange => [(1, .text), (2, .message boxed)]
  | clientCertificate => [(1, .message boxed), (3, .number), (4, .number), (5, .number),
      (6, .number)]
  | schemeTransformation => [(1, .text), (2, .number)]
  | managerUpgrade => [(1, .text), (2, .message httpFilter), (3, .message boxed)]
  | requestIdExtension => [(1, .message any)]
  | localReplies => [(1, .message replyMapper), (2, .message replyFormat)]
  | replyMapper => [(1, .message accessLogFilter), (2, .message boxed), (3, .message dataSource),
      (4, .message replyFormat), (5, .message headerValueOption)]
  | replyFormat => [(1, .text), (2, .message struct), (3, .number), (4, .text),
      (5, .message dataSource), (6, .message (extension 2)), (7, .message (numbers 1))]
  | pathNormalization => [(1, .message pathOperations), (2, .message pathOperations)]
  | pathOperations => [(1, .message pathOperation)]
  | pathOperation => [(2, .message empty), (3, .message empty)]
  | proxyStatus =>
    [(1, .number), (2, .number), (3, .number), (4, .number), (5, .number), (6, .text)]
  | routeConfiguration => [(1, .text), (2, .message virtualHost), (3, .text),
      (4, .message headerValueOption), (5, .text), (6, .message headerValueOption),
      (7, .message boxed), (8, .text), (9, .message hostDiscovery), (10, .number),
      (11, .message boxed), (12, .message clusterPlugin), (13, .message requestMirror),
      (14, .number), (15, .number), (16, .entries (.message any)), (17, .message metadata)]
  | hostDiscovery => [(1, .message configSource)]
  | clusterPlugin => [(1, .message (extension 2)), (2, .number)]
  | virtualHost => [(1, .text), (2, .text), (3, .message route), (4, .number),
      (5, .message virtualCluster), (6, .message rateLimit), (7, .message headerValueOption),
      (8, .message crossOrigin), (10, .message headerValueOption), (11, .text), (13, .text),
      (14, .number), (15, .entries (.message any)), (16, .message retryPolicy),
      (17, .message hedging), (18, .message boxed), (19, .number), (20, .message any),
      (21, .message matcher), (22, .message requestMirror), (23, .number), (24, .message metadata)]
  | virtualCluster => [(2, .text), (4, .message headerMatch)]
  | route => [(1, .message routeMatch), (2, .message routeAction), (3, .message redirect),
      (4, .message metadata), (5, .message decorator), (7, .message directResponse),
      (9, .message headerValueOption), (10, .message headerValueOption), (11, .text), (12, .text),
      (13, .entries (.message any)), (14, .text), (15, .message routeTracing), (16, .message boxed),
      (17, .message filterAction), (18, .message empty), (19, .text)]
  | routeMatch => [(1, .text), (2, .text), (4, .message boxed), (6, .message headerMatch),
      (7, .message queryMatch), (8, .message empty), (9, .message runtimePercent),
      (10, .message regex), (11, .message tlsMatch), (12, .message empty),
      (13, .message metadataMatch), (14, .text), (15, .message (extension 2)),
      (16, .message stateMatch)]
  | tlsMatch => [(1, .message boxed), (2, .message boxed)]
  | routeAction => [(1, .text), (2, .text), (3, .message weightedClusters), (4, .message metadata),
      (5, .text), (6, .text), (7, .message boxed), (8, .message duration),
      (9, .message retryPolicy), (11, .number), (13, .message rateLimit), (14, .message boxed),
      (15, .message hashPolicy), (17, .message crossOrigin), (20, .number), (23, .message duration),
      (24, .message duration), (25, .message routeUpgrade), (26, .number), (27, .message hedging),
      (28, .message duration), (29, .text), (30, .message requestMirror), (31, .message boxed),
      (32, .message regexRewrite), (33, .message any), (34, .message internalRedirects),
      (35, .message regexRewrite), (36, .message streamDurations), (37, .text), (38, .number),
      (39, .message clusterPlugin), (40, .message (extension 2)), (41, .message (extension 2))]
  | weightedClusters => [(1, .message clusterWeight), (2, .text), (3, .message boxed), (4, .text)]
  | clusterWeight => [(1, .text), (2, .message boxed), (3, .message metadata),
      (4, .message headerValueOption), (5, .message headerValueOption), (6, .text), (9, .text),
      (10, .entries (.message any)), (11, .text), (12, .text)]
  | hashPolicy => [(1, .message hashHeader), (2, .message hashCookie), (3, .message (numbers 1)),
      (4, .number), (5, .message (texts 1)), (6, .message (texts 1))]
  | hashHeader => [(1, .text), (2, .message regexRewrite)]
  | hashCookie => [(1, .text), (2, .message duration), (3, .text), (4, .message (texts 2))]
  | retryPolicy => [(1, .text), (2, .message boxed), (3, .message duration),
      (4, .message (extension 3)), (5, .message (extension 3)), (6, .number), (7, .numbers),
      (8, .message backOff), (9, .message headerMatch), (10, .message headerMatch),
      (11, .message resetBackOff), (12, .message (extension 2)), (13, .message duration)]
  | resetBackOff => [(1, .message resetHeader), (2, .message duration)]
  | resetHeader => [(1, .text), (2, .number)]
  | hedging => [(1, .message boxed), (2, .message (numbers 2)), (3, .number)]
  | requestMirror => [(1, .text), (3, .message runtimePercent), (4, .message boxed), (5, .text),
      (6, .number)]
  | routeUpgrade => [(1, .text), (2, .message boxed), (3, .message connectSettings)]
  | connectSettings => [(1, .message proxyProtocol), (2, .number)]
  | proxyProtocol => [(1, .number), (2, .message passedTypes), (3, .message addedType)]
  | passedTypes => [(1, .number), (2, .numbers)]
  | addedType => [(1, .number), (2, .bytes)]
  | internalRedirects => [(1, .message boxed), (2, .numbers), (3, .message (extension 2)),
      (4, .number), (5, .text)]
  | streamDurations => [(1, .message duration), (2, .message duration), (3, .message duration)]
  | rateLimit => [(1, .message boxed), (2, .text), (3, .message rateLimitAction),
      (4, .message rateLimitOverride), (5, .message rateLimitHits), (6, .number)]
  | rateLimitAction => [(1, .message empty), (2, .message empty), (3, .message rateLimitHeader),
      (4, .message empty), (5, .message (texts 2)), (6, .message rateLimitHeaderMatch),
      (7, .message rateLimitDynamicMetadata), (8, .message rateLimitMetadata),
      (9, .message (extension 2)), (10, .message maskedAddress),
      (11, .message rateLimitQueryMatch), (12, .message rateLimitHeader)]
  | rateLimitHeader => [(1, .text), (2, .text), (3, .number)]
  | rateLimitHeaderMatch => [(1, .text), (2, .message boxed), (3, .message headerMatch), (4, .text)]
  | rateLimitQueryMatch => [(1, .text), (2, .message boxed), (3, .message queryMatch), (4, .text)]
  | rateLimitDynamicMetadata => [(1, .text), (2, .message metadataKey), (3, .text)]
  | rateLimitMetadata => [(1, .text), (2, .message metadataKey), (3, .text), (4, .number),
      (5, .number)]
  | rateLimitHits => [(1, .message boxed), (2, .text)]
  | rateLimitOverride => [(1, .message dynamicKey)]
  | dynamicKey => [(1, .message metadataKey)]
  | maskedAddress => [(1, .message boxed), (2, .message boxed)]
  | crossOrigin => [(2, .text), (3, .text), (4, .text), (5, .text), (6, .message boxed),
      (9, .message runtimePercent), (10, .message runtimePercent), (11, .message stringMatch),
      (12, .message boxed), (13, .message boxed)]
  | redirect => [(1, .text), (2, .text), (3, .number), (4, .number), (5, .text), (6, .number),
      (7, .text), (8, .number), (9, .message regexRewrite)]
  | directResponse => [(1, .number), (2, .message dataSource)]
  | filterAction => [(1, .message any)]
  | decorator => [(1, .text), (2, .message boxed)]
  | routeTracing => [(1, .message (numbers 2)), (2, .message (numbers 2)),
      (3, .message (numbers 2)), (4, .message customTag)]

end MessageType

end GatewayPlane
