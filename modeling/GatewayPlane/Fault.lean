/-!
# Faults

What can go wrong between a document and the gateway that is to serve it. A fault is the
client's when a different request would have succeeded.
-/
namespace GatewayPlane

inductive Fault where
  | validation (field reason : String)
  | provision (phase reason : String)
  | consistency (node reason : String)
  | cache (message : String) (cause : Option String)
  | stream (message : String)
  | configuration (message : String)
  | nodeNotFound (node : String)
  | deploymentNotFound (node deployment : String)
  | encoding (typeUrl message : String)
  | shutdown
  | internal (message : String) (cause : Option String)
  deriving DecidableEq, Repr

/-- The status codes that a stream or a call can end with. -/
inductive StatusCode where
  | invalidArgument | notFound | failedPrecondition | unimplemented | internal | unavailable
  deriving DecidableEq, Repr

def StatusCode.name : StatusCode → String
  | invalidArgument => "InvalidArgument"
  | notFound => "NotFound"
  | failedPrecondition => "FailedPrecondition"
  | unimplemented => "Unimplemented"
  | internal => "Internal"
  | unavailable => "Unavailable"

structure Status where
  code : StatusCode
  message : String
  deriving DecidableEq, Repr

namespace Fault

def message : Fault → String
  | validation field reason => s!"validation failed for {field}: {reason}"
  | provision phase reason => s!"translation failed in {phase}: {reason}"
  | consistency node reason => s!"inconsistent snapshot for node {node}: {reason}"
  | cache message _ => s!"cache error: {message}"
  | stream message => s!"stream error: {message}"
  | configuration message => s!"configuration error: {message}"
  | nodeNotFound node => s!"node not found: {node}"
  | deploymentNotFound node deployment => s!"deployment {deployment} not found on node {node}"
  | encoding typeUrl message => s!"encoding error for {typeUrl}: {message}"
  | shutdown => "server is shutting down"
  | internal message _ => s!"internal error: {message}"

/-- The kind of the fault, as reports name it. -/
def kindName : Fault → String
  | validation .. => "Validation"
  | provision .. => "Translation"
  | consistency .. => "Consistency"
  | cache .. => "Cache"
  | stream .. => "Stream"
  | configuration .. => "Configuration"
  | nodeNotFound .. => "NodeNotFound"
  | deploymentNotFound .. => "DeploymentNotFound"
  | encoding .. => "Encoding"
  | shutdown => "Shutdown"
  | internal .. => "Internal"

/-- The text of the fault that led to this one. -/
def cause? : Fault → Option String
  | cache _ cause | internal _ cause => cause
  | _ => none

def isClientFault : Fault → Bool
  | validation .. | configuration .. | nodeNotFound .. | deploymentNotFound .. | consistency .. =>
    true
  | _ => false

def code : Fault → StatusCode
  | validation .. | configuration .. => .invalidArgument
  | nodeNotFound .. | deploymentNotFound .. => .notFound
  | consistency .. => .failedPrecondition
  | stream .. | shutdown => .unavailable
  | provision .. | cache .. | encoding .. | internal .. => .internal

def status (f : Fault) : Status := ⟨f.code, f.message⟩

end Fault

end GatewayPlane
