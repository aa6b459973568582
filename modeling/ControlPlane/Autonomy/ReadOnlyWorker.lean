import ControlPlane.Autonomy.ProviderGateway

/-!
# `OpenAIReadOnlyWorker`

The worker's side of the AF-06 bridge: it numbers its provider reports itself, and the
acknowledgements and results of its dispatches as its host tells it to.
-/

namespace ControlPlane.Autonomy

open Data

/-- What is used of a `ProviderCallResult`. -/
structure ProviderCallResult where
  responseId : String

/-- What is used of a `ProviderEvidence`. -/
structure ProviderEvidence where
  evidenceId : String
  sha256 : String
  payload : ByteArray

/-- `ProviderBackend`: what it answers to the calls of one method. -/
structure ProviderBackend where
  providerKind : String
  model : String
  configured : Except Err Bool
  probe : Except Err ProviderCallResult
  execute : ExternalEnvelope → Except Err ProviderEvidence

structure ReadOnlyWorker where
  profile : TrustedWorkerProfile
  /-- `private_key.sign` -/
  sign : ByteArray → ByteArray
  sessionId : Identifier
  providerSequence : Nat
  lastConnectionState : String
  lastProviderResponseId : Option String

/-- What a frame is sent for. -/
inductive FrameKind where
  | provider
  | ack
  | result
  deriving DecidableEq

namespace FrameKind

/-- What the id of a message begins with. -/
def stem : FrameKind → String
  | provider => "af06-provider-"
  | ack => "af06-ack-"
  | result => "af06-result-"

/-- How many characters of a session or a dispatch its id keeps. -/
def kept : FrameKind → Nat
  | provider | ack => 24
  | result => 20

end FrameKind

/-- `message_id` -/
def frameMessageId (kind : FrameKind) (subject : String) (sequence : Int) : String :=
  kind.stem ++ String.ofList (subject.toList.take kind.kept) ++ "-" ++ String.ofList (Json.intText sequence)

namespace ReadOnlyWorker

/-- `__init__` -/
def create (profile : TrustedWorkerProfile) (sign : ByteArray → ByteArray) (sessionId : Identifier) : ReadOnlyWorker where
  profile
  sign
  sessionId
  providerSequence := 0
  lastConnectionState := "NOT_CONNECTED"
  lastProviderResponseId := none

variable (crypto : Crypto) (w : ReadOnlyWorker)

/-- The frame with its signature under a domain. -/
def signed (domain : String) (frame : Frame) : Except Err Frame := do
  let message ← signedBytes crypto domain frame
  return frame ++ [("signature", .str (crypto.encodeBase64 (w.sign message)))]

/-- `_sign_af05` -/
def signAf05 (d : Domain) (frame : Frame) : Except Err Frame := w.signed crypto d.text frame

/-- The state a report is of, and the response that proves it. -/
def connection (client : ProviderBackend) (probe : Bool) : Except Err (String × Option String) := do
  if ← client.configured then
    if probe then
      match client.probe with
      | .ok result => return (connectedUnattested, some result.responseId)
      | .error e => if e.isBlocked then return ("UNAVAILABLE", none) else throw e
    else return ("UNAVAILABLE", none)
  else return ("NOT_CONNECTED", none)

/-- A provider report, before it is signed. -/
def statusFields (client : ProviderBackend) (observed : ℚ) : Frame := [
  ("protocol_version", .str af06Protocol), ("worker_id", w.profile.workerId), ("key_id", w.profile.keyId),
  ("session_id", .str w.sessionId.1), ("message_id", .str (frameMessageId .provider w.sessionId.1 w.providerSequence)),
  ("sequence", .int w.providerSequence), ("observed_at", .float (.fin observed)), ("provider_kind", .str client.providerKind),
  ("model", .str client.model), ("connection_state", .str w.lastConnectionState), ("attestation_scope", .str attestationScope),
  ("provider_response_id", (w.lastProviderResponseId.map .str).getD .null)]

/-- `provider_status_frame`: the sequence has moved on even where it raises. -/
def providerStatusFrame (client : ProviderBackend) (observedAt : Json) (probe : Bool) : ReadOnlyWorker × Except Err Frame :=
  let counted := { w with providerSequence := w.providerSequence + 1 }
  match connection client probe with
  | .error e => (counted, .error e)
  | .ok (state, response) =>
    let reporting := { counted with lastConnectionState := state, lastProviderResponseId := response }
    (reporting, do
      let observed ← messageTime observedAt (.blocked "invalid provider timestamp")
      reporting.signed crypto providerStatusDomain (reporting.statusFields client observed))

/-- `_validate_dispatch_authority` -/
def validateDispatchAuthority (dispatch : ExternalEnvelope) : Except Err Unit := do
  require (dispatch.protocolVersion = af05Protocol) (.blocked "unsupported dispatch protocol")
  require (w.profile.workerId.str? = some dispatch.workerId ∧ dispatch.sessionId = w.sessionId.1)
    (.blocked "provider dispatch identity mismatch")
  require (dispatch.capability ∈ w.profile.capabilities ∧ dispatch.targetProject ∈ w.profile.allowedTargets)
    (.blocked "provider dispatch capability or target mismatch")

/-- What an acknowledgement and a result have in common. -/
def dispatchFields (kind : FrameKind) (dispatch : ExternalEnvelope) (sequence : Int) (observed : ℚ) : Frame := [
  ("protocol_version", .str af05Protocol), ("worker_id", w.profile.workerId), ("key_id", w.profile.keyId),
  ("session_id", .str w.sessionId.1), ("message_id", .str (frameMessageId kind dispatch.dispatchId sequence)),
  ("sequence", .int sequence), ("observed_at", .float (.fin observed)), ("dispatch_id", .str dispatch.dispatchId),
  ("task_id", .str dispatch.taskId), ("lease_id", .str dispatch.leaseId)]

def ackFrame (dispatch : ExternalEnvelope) (sequence : Int) (observedAt : Json) : Except Err Frame := do
  w.validateDispatchAuthority dispatch
  let observed ← messageTime observedAt (.blocked "invalid provider timestamp")
  w.signAf05 crypto .ack (w.dispatchFields .ack dispatch sequence observed)

def executeResultFrame (client : ProviderBackend) (evidenceSink : String → ByteArray → Except Err Unit)
    (dispatch : ExternalEnvelope) (sequence : Int) (observedAt : Json) : Except Err Frame := do
  w.validateDispatchAuthority dispatch
  require (w.lastConnectionState = connectedUnattested) (.blocked "provider not connected")
  let evidence ← client.execute dispatch
  evidenceSink evidence.evidenceId evidence.payload
  let observed ← messageTime observedAt (.blocked "invalid provider timestamp")
  w.signAf05 crypto .result (w.dispatchFields .result dispatch sequence observed ++
    [("status", .str "SUCCEEDED"), ("evidence_id", .str evidence.evidenceId), ("evidence_sha256", .str evidence.sha256)])

end ReadOnlyWorker

end ControlPlane.Autonomy
