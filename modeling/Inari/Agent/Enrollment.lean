import Inari.Contracts.Values

/-!
# The enrollment of an Agent

The records of `inari/gateway/models.py` that an Agent keeps about its Controller.
-/

namespace Inari.Agent

inductive ControllerAction
  | systemRead | devicesRead | eventsRead | jobsCancel | commandsExecute | managedWorkDispatch
deriving DecidableEq

def ControllerAction.value : ControllerAction → String
  | .systemRead => "system:read"
  | .devicesRead => "devices:read"
  | .eventsRead => "events:read"
  | .jobsCancel => "jobs:cancel"
  | .commandsExecute => "commands:execute"
  | .managedWorkDispatch => "managed_work:dispatch"

structure AgentManagedScope where
  organizationId : String
  siteId : String
  agentId : String
deriving DecidableEq

/-- `Ed25519VerificationJwk`, whose other fields are fixed -/
structure Ed25519VerificationJwk where
  x : String
  kid : String
deriving DecidableEq

structure ManagedDispatchEnrollment where
  scope : AgentManagedScope
  issuer : String
  epoch : Nat
  verificationJwk : Ed25519VerificationJwk
deriving DecidableEq

inductive UpstreamCertificateMode
  | none | controller | stepCa
deriving DecidableEq

/-- `CertificateBootstrapAuth`, whose type is always `ott` -/
structure CertificateBootstrapAuth where
  token : Option String
  expiresAt : Option Int
deriving DecidableEq

/-- `CertificateTrustSpec` is the optional fingerprint that it holds. -/
structure CertificateEnrollmentSpec where
  baseUrl : String
  trust : Option (Option String)
  bootstrapAuth : Option CertificateBootstrapAuth
  subject : Option String
  authorizedSans : List String
  requiresMutualTlsAfterIssuance : Bool
deriving DecidableEq

/-- `ZenohDataPlaneConfig`: the kind, session mode, serialization and authentication have one
value each. -/
structure ZenohDataPlaneConfig where
  connectEndpoints : List String
  «namespace» : String
  closeLinkOnExpiration : Bool
deriving DecidableEq

structure GatewayEnrollmentRecord where
  enrolledAt : Int
  dataPlane : ZenohDataPlaneConfig
  protocolVersion : String
  controllerActions : List ControllerAction
  controllerName : Option String
  controllerInstanceId : Option String
  certificateExpiresAt : Option Int
  certificateMode : UpstreamCertificateMode
  certificateEnrollment : Option CertificateEnrollmentSpec
  managedDispatch : Option ManagedDispatchEnrollment
deriving DecidableEq

end Inari.Agent
