import GatewayPlane.Text.Blank
import GatewayPlane.Text.Quoted
import GatewayPlane.Json.Parser
import GatewayPlane.Json.Printer
import GatewayPlane.Time.SpanText
import GatewayPlane.Time.Instant
import GatewayPlane.Json.Reader
import GatewayPlane.Version
import GatewayPlane.Fault
import GatewayPlane.NodeId
import GatewayPlane.Resource.Kind
import GatewayPlane.Path.Base
import GatewayPlane.Path.Pattern
import GatewayPlane.Api.Validation
import GatewayPlane.Deployment.Basic
import GatewayPlane.Wire.Message
import GatewayPlane.Resource.Cluster
import GatewayPlane.Resource.Listener
import GatewayPlane.Provision.Provisioner
import GatewayPlane.ControlPlane
import GatewayPlane.Resource.Document
import GatewayPlane.Snapshot.Document
import GatewayPlane.Server.Inspection
import GatewayPlane.Server.Basic
import GatewayPlane.Stream.Document
import GatewayPlane.Wire.Hex
import GatewayPlane.NameMap.Lemmas
import GatewayPlane.Proofs.Checks
import GatewayPlane.Proofs.Consistency.Integrity
import GatewayPlane.Proofs.Cache.Holding
import GatewayPlane.Proofs.Registry.Composing
import GatewayPlane.Proofs.Registry.Publishing
import GatewayPlane.Proofs.Registry.Commands
import GatewayPlane.Proofs.Registry.Representation
import GatewayPlane.Proofs.Registry.Versions
import GatewayPlane.Proofs.ControlPlane.Listing
import GatewayPlane.Proofs.Provision.Backends
import GatewayPlane.Proofs.Wire.RoundTrip
import GatewayPlane.Proofs.Resource.Managing
import GatewayPlane.Proofs.Provision.Accepting
import GatewayPlane.Proofs.ControlPlane.Isolation
import GatewayPlane.Proofs.ControlPlane.Atomicity
import GatewayPlane.Proofs.Stream.Pushing
import GatewayPlane.Proofs.Stream.Turns
import GatewayPlane.Proofs.Stream.Abreast
import GatewayPlane.Proofs.Stream.Rejection
import GatewayPlane.Proofs.Cache.Watching
import GatewayPlane.Proofs.Stream.Serving
import GatewayPlane.Proofs.Stream.Attribution
import GatewayPlane.Proofs.Stream.Running
import GatewayPlane.Proofs.ControlPlane.Feeding
import GatewayPlane.Proofs.Cache.Beginning
import GatewayPlane.Proofs.Cache.Telling
import GatewayPlane.Proofs.Registry.Redeploying
import GatewayPlane.Proofs.Registry.Replacing
import GatewayPlane.Proofs.Registry.Permuting
import GatewayPlane.Proofs.ControlPlane.Removing
import GatewayPlane.Proofs.Path.Instances
import GatewayPlane.Proofs.Concurrency.Alone
import GatewayPlane.Proofs.Concurrency.Settling
import GatewayPlane.Proofs.Consistency.Reordering
import GatewayPlane.Proofs.Cache.Converging
import GatewayPlane.Proofs.Wire.Telling
import GatewayPlane.Proofs.Path.Samples
import GatewayPlane.Proofs.Provision.Duplicates
import GatewayPlane.Proofs.Deployment.Restoring
import GatewayPlane.Proofs.Registry.Verdicts
import GatewayPlane.Proofs.Consistency.References
import GatewayPlane.Proofs.Provision.Balanced
import GatewayPlane.Proofs.Provision.Settings
import GatewayPlane.Proofs.Provision.Mirroring
import GatewayPlane.Proofs.Registry.Initializing
import GatewayPlane.Proofs.Path.Normalizing
import GatewayPlane.Proofs.Snapshot.Selecting
import GatewayPlane.Proofs.Wire.Writers
import GatewayPlane.Proofs.Resource.Telling
import GatewayPlane.Proofs.Snapshot.Comparing
