import Inari.Contracts.Reference
import Inari.Controller.RouterPolicy
import Inari.Controller.Transactions

/-!
# A sample Controller

The fleet, submissions, observations and invitations with which the results are tried. Signatures
and encryption stand for themselves, the other libraries are the reference implementations.
-/

namespace Inari.Controller

open Lib

def sampleWire : WireTools := Reference.wire (fun _ => none)

def sampleCrypto : CryptoTools where
  verifyingKey _ := List.replicate 32 0
  verifyingKey_length _ := by simp
  sign _ _ := List.replicate 64 0
  sign_length _ _ := by simp
  verify _ _ _ := true
  verify_sign _ _ := rfl
  hpkePublicKey _ := List.replicate 32 0
  hpkePublicKey_length _ := by simp
  hpkeSeal _ _ _ plaintext _ := ([0], 0 :: plaintext)
  hpkeSeal_nonempty _ _ _ _ _ := by simp
  hpkeOpen _ _ _ _ ciphertext := some ciphertext.tail
  hpkeOpen_seal _ _ _ _ _ := rfl

def sampleTools : Tools := ⟨sampleWire, sampleCrypto, ⟨fun _ => none, fun _ _ => none⟩⟩

def sampleAgent : AgentId := ⟨"agt_front_desk", by decide +kernel⟩

def sampleDevice : DeviceId := ⟨"dev_printer", by decide +kernel⟩

def sampleScope : ManagedWorkScope :=
  ⟨"production", "7", ⟨"org_example", by decide +kernel⟩, ⟨"site_example", by decide +kernel⟩,
    sampleAgent⟩

def sampleConfig : Config where
  enabled := true
  organizationId := sampleScope.organizationId
  controllerActions := ["commands:execute", "jobs:cancel", "managed_work:dispatch"]
  namespacePrefix := "inari/agents"
  dispatchSigner := some ⟨"controller", "key-1", 1, 120 * 1000000, []⟩

def sampleFleet : Fleet where
  organizationId := sampleScope.organizationId
  agents := [⟨sampleAgent, sampleScope.organizationId, sampleScope.siteId, "2026-10-03", "key-a",
    some ⟨"dispatch-a", Base64.urlSafe.encode (List.replicate 32 0)⟩⟩]
  devices := [⟨sampleAgent, sampleDevice, sampleScope.siteId, true, true⟩]
  keys := [⟨"key-a", sampleAgent, .transportIdentity, "", 0, none⟩,
    ⟨"key-s", sampleAgent, .agentState, "", 0, none⟩]
  policyCurrent := true

def sampleBinding : ReportBindingClaim :=
  ⟨"binding-1", "revision-1", "sale.action_report_saleorder", "contract", "template", none, none,
    none⟩

def samplePreflightId : ManagedPreflightId := ⟨"mpf_1", by decide +kernel⟩

def sampleIntent : PrintIntentId := ⟨"pi_v1_1", by decide +kernel⟩

def nextIntent : PrintIntentId := ⟨"pi_v1_2", by decide +kernel⟩

def sampleWork : ManagedWorkId := ⟨"mw_1", by decide +kernel⟩

def nextWork : ManagedWorkId := ⟨"mw_2", by decide +kernel⟩

def drawerJob : JobId := ⟨"job_drawer", by decide +kernel⟩

def sampleSubmission : ManagedWorkSubmission where
  contractMajor := 1
  preflightId := samplePreflightId
  payloadFingerprint := "c96c406bed310b7e7a47d92e16ee5090879343bea669dd61a72086d833d0c587"
  work := {
    contractMajor := 1
    scope := sampleScope
    printIntentId := sampleIntent
    deviceId := sampleDevice
    origin := ⟨sampleBinding, .manual, .records "sale.order" [42], 0, 1⟩
    document := ⟨.reportPdf, "JVBERi0xLjQ="⟩
    normalizedDeviceOptions := [] }

def sampleEvents : List Event :=
  [.preflight sampleConfig sampleFleet
      ⟨1, sampleScope, sampleDevice, .reportPdf, sampleBinding⟩ samplePreflightId 0,
    .submitWork sampleConfig sampleFleet sampleWork "print-42" sampleSubmission [] 1000000,
    .enqueueJob sampleConfig sampleFleet sampleAgent drawerJob
      ⟨.executeDeviceCommand ⟨⟨"dev_printer"⟩, .openCashDrawer, []⟩⟩ 2000000]

def afterEvents (events : List Event) : Db := events.foldl (step sampleTools) {}

def sampleObservation (version : Nat) (state : PrintJobState) (startedAt terminalAt : Option Instant)
    (errorCode messageKey : Option String) (evidence : Option PrintJobOutputEvidence) :
    AgentStateObservation where
  contractMajor := 1
  envelopeId := "ase_1"
  agentId := sampleAgent
  agentBootId := "boot-1"
  reconciliationSessionId := "recon_1"
  dispatchEpoch := 1
  envelopeSequence := version
  durableStateSequence := version
  observedAt := 4
  issuedAt := 4
  payloadFingerprint := "sha256:" ++ sampleSubmission.payloadFingerprint
  job := {
    printJobId := "pj_1"
    printIntentId := sampleIntent
    deviceId := sampleDevice
    origin := ⟨sampleScope.organizationId, sampleScope.siteId, "production", "7", "binding-1",
      .manual, "sale.action_report_saleorder", "sale.order", ["42"], none, 0⟩
    managedWorkId := sampleWork
    state := state
    stateVersion := version
    acceptedAt := 0
    startedAt := startedAt
    terminalAt := terminalAt
    expiresAt := 300000000
    errorCode := errorCode
    messageKey := messageKey
    confirmationEvidence := evidence
    contractVersion := "v1" }

def observedAccepted : AgentStateObservation := sampleObservation 1 .accepted none none none none none

def backOffice : AgentId := ⟨"agt_back_office", by decide +kernel⟩

def twinFleet : Fleet := { sampleFleet with
  agents := sampleFleet.agents ++
    [⟨backOffice, sampleScope.organizationId, sampleScope.siteId, "2026-10-03", "key-b",
      some ⟨"dispatch-b", Base64.urlSafe.encode (List.replicate 32 0)⟩⟩]
  devices := sampleFleet.devices ++ [⟨backOffice, sampleDevice, sampleScope.siteId, true, true⟩]
  keys := sampleFleet.keys ++ [⟨"key-b", backOffice, .transportIdentity, "", 0, none⟩,
    ⟨"key-t", backOffice, .agentState, "", 0, none⟩] }

def backObservation : AgentStateObservation := { observedAccepted with
  agentId := backOffice
  envelopeId := "ase_2"
  job := { observedAccepted.job with
    managedWorkId := nextWork
    printIntentId := nextIntent } }

def twinTools : Tools where
  wire := sampleWire
  crypto := sampleCrypto
  envelopes :=
    ⟨fun compact => some (if compact = "front" then "key-s" else "key-t"),
      fun compact _ => some (if compact = "front" then observedAccepted else backObservation)⟩

def backPreflightId : ManagedPreflightId := ⟨"mpf_2", by decide +kernel⟩

def backSubmission : ManagedWorkSubmission := { sampleSubmission with
  preflightId := backPreflightId
  work := { sampleSubmission.work with
    scope := { sampleScope with agentId := backOffice }
    printIntentId := nextIntent } }

def acceptedEvent (compact : String) : RuntimeEvent :=
  ⟨1, "print_job", "pj_1", "print_job.accepted", 0, [("state_envelope", .str compact)]⟩

def twinRun : List Transaction :=
  [.request (.preflight sampleConfig twinFleet
      ⟨1, sampleScope, sampleDevice, .reportPdf, sampleBinding⟩ samplePreflightId 0),
    .request (.preflight sampleConfig twinFleet
      ⟨1, { sampleScope with agentId := backOffice }, sampleDevice, .reportPdf, sampleBinding⟩
      backPreflightId 0),
    .request (.submitWork sampleConfig twinFleet sampleWork "print-42"
      sampleSubmission [] 1000000),
    .request (.submitWork sampleConfig twinFleet nextWork "print-43"
      backSubmission [] 1000000),
    .reconcileStateObservation twinFleet sampleAgent
      (.runtimeEvent "ase_1" 4 (acceptedEvent "front")
        (some (dispatchCommandId sampleWire sampleWork)) (some "pj_1")) 2000000,
    .reconcileStateObservation twinFleet backOffice
      (.runtimeEvent "ase_2" 4 (acceptedEvent "back")
        (some (dispatchCommandId sampleWire nextWork)) (some "pj_1")) 2000000]

def onboardingTools : RegistryTools := { sampleWire with
  thumbprint := fun jwk => jwk.text
  readInventory := fun _ => some []
  readSnapshot := fun fields => ⟨0, [], fields⟩ }

def invitationCode : InvitationCode := ⟨"AAAAAAAAAAAA", "AAAAAAAAAAAAAAAAAAAAAAAAAAAAAAAA"⟩

def wrongCode : InvitationCode := ⟨"AAAAAAAAAAAA", "BBBBBBBBBBBBBBBBBBBBBBBBBBBBBBBB"⟩

def sampleEnrollment : AgentEnrollmentRecord where
  agentId := sampleAgent
  organizationId := sampleScope.organizationId
  siteId := sampleScope.siteId
  keyId := "key-a"
  jwkThumbprint := "transport-a"
  publicJwk := ⟨some "key-a", "transport-a"⟩
  dispatchKey := ⟨"dispatch-a", Base64.urlSafe.encode (List.replicate 32 0)⟩
  stateSigningJwk := ⟨some "key-s", "state-a"⟩
  «namespace» := "inari/agents/agt_front_desk"
  protocolVersion := "2026-10-03"
  controllerActions := ["commands:execute"]
  csrFingerprint := "csr"

def attemptLimit : InvitationAttemptLimit := ⟨900 * 1000000, 5⟩

def newInvitation : RegistryEvent :=
  .createInvitation invitationCode sampleScope.organizationId sampleScope.siteId none 0 86400000000
    ⟨"user:operator", none⟩

end Inari.Controller
