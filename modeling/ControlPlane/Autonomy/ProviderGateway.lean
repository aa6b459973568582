import ControlPlane.Autonomy.ExternalGateway

/-!
# `ProviderBoundGateway`

The AF-06 gateway over an AF-05 one, whose memory it shares: it takes signed reports
of the provider's state and narrows the eligible sessions to those with a fresh one.
-/

namespace ControlPlane.Autonomy

open Data Interleaving Procedure External

def af06Protocol : String := "AF06/1"

def providerStatusDomain : String := "AI-CONTROL-PLANE/AF06/PROVIDER_STATUS"

def openaiKind : String := "OPENAI_RESPONSES"
def codexKind : String := "CODEX_CLI_CHATGPT"

/-- `allowed_models` of a kind -/
def allowedModels (kind : String) : List String :=
  if kind = openaiKind then ["gpt-5.6-sol", "gpt-5.6-terra", "gpt-5.6-luna"] else ["CHATGPT_SESSION"]

def connectedUnattested : String := "PROVIDER_CONNECTED_UNATTESTED"

def connectionStates : List String := [connectedUnattested, "NOT_CONNECTED", "UNAVAILABLE"]

/-- `PROVIDER_ATTESTATION_SCOPE` -/
def attestationScope : String := "UNATTESTED"

def providerKeys : List String :=
  ["protocol_version", "worker_id", "key_id", "session_id", "message_id", "sequence", "observed_at", "provider_kind",
   "model", "connection_state", "attestation_scope", "provider_response_id", "signature"]

/-- `value in texts`, of a set: a list or a dictionary has no hash. -/
def oneOf (value : Json) (texts : List String) (e : Err) : Except Err String :=
  match value with
  | .str s => if s ∈ texts then .ok s else .error e
  | .list _ | .dict _ => .error (.other "TypeError")
  | _ => .error e

/-- `response_id`, where there is one. -/
def responseId (value : Json) : Except Err (Option String) :=
  match value with
  | .null => .ok none
  | value => do return some (← identifier value "provider_response_id").1

namespace ExternalGateway

variable (crypto : Crypto) (g : ExternalGateway)

/-- `accept_provider_status`, before its transaction: the row to store, and the time. -/
def providerStatus (value : Json) (now : PyFloat) : External (ProviderRow × ℚ) := do
  let frame ← lift (frameOf value providerKeys (.blocked "malformed provider status"))
  let n ← External.now now
  let worker ← lift (identifier (frame.get "worker_id") "worker_id")
  let key ← lift (identifier (frame.get "key_id") "key_id")
  let sessionId ← lift (identifier (frame.get "session_id") "session_id")
  let messageId ← lift (identifier (frame.get "message_id") "message_id")
  let observed ← lift (messageTime (frame.get "observed_at") (.blocked "invalid provider timestamp"))
  let sequence ← lift (found (frame.get "sequence").int? (.blocked "invalid provider sequence"))
  lift (require (0 < sequence) (.blocked "invalid provider sequence"))
  let unsupported := Err.blocked "unsupported provider protocol"
  lift (require (frame.states "protocol_version" af06Protocol) unsupported)
  let kind ← lift (oneOf (frame.get "provider_kind") [openaiKind, codexKind] unsupported)
  let model ← lift (oneOf (frame.get "model") (allowedModels kind) (.blocked "unsupported provider model"))
  let connection ← lift (oneOf (frame.get "connection_state") connectionStates (.blocked "forged provider state"))
  lift (require (frame.states "attestation_scope" attestationScope) (.blocked "provider attestation overclaim"))
  let response ← lift (responseId (frame.get "provider_response_id"))
  lift (require (connection = connectedUnattested → response ≠ none)
    (.blocked "connected provider requires proof request id"))
  let p ← g.trusted (.str worker.1)
  lift (require (key = p.keyId) (.blocked "provider key binding mismatch"))
  let row ← sql (.selectSession worker.1)
  lift (require (∃ s ∈ row, s.state = .authenticated ∧ s.sessionId = sessionId.1 ∧ s.keyId = key.1)
    (.blocked "provider session unavailable"))
  lift (require (¬ observed > n + 1 ∧ ¬ n - observed > p.heartbeatSla) (.blocked "stale provider status"))
  lift (verifySignature crypto p.publicKey providerStatusDomain frame (.blocked "missing provider signature")
    (.blocked "invalid provider signature"))
  return (⟨worker.1, sessionId.1, key.1, kind, model, connection, attestationScope, sequence, observed, messageId.1,
    response⟩, n)

def acceptProviderStatus (value : Json) (now : PyFloat) : External Unit := do
  let (row, n) ← g.providerStatus crypto value now
  sql (.acceptProviderStatus row n)

/-- The provider's last report names this session, connected and fresh. -/
def ProviderFresh (session : String) (sla n : ℚ) (row : ProviderRow) : Prop :=
  row.sessionId = session ∧ row.connectionState = connectedUnattested ∧ row.attestationScope = attestationScope ∧
    ¬ n - row.observedAt > sla ∧ ¬ row.observedAt > n + 1

instance (session : String) (sla n : ℚ) : DecidablePred (ProviderFresh session sla n) :=
  fun _ => inferInstanceAs (Decidable (_ ∧ _ ∧ _ ∧ _ ∧ _))

def providerEligibleOf (n : ℚ) : List (String × String) → External (List (String × String))
  | [] => return []
  | (worker, session) :: rest => do
    let row ← sql (.selectProviderStatus worker)
    let p ← g.trusted (.str worker)
    let others ← providerEligibleOf n rest
    return if ∃ r ∈ row, ProviderFresh session p.heartbeatSla n r then (worker, session) :: others else others

/-- `ProviderBoundGateway.eligible_sessions` -/
def providerEligibleSessions (capability target : String) (now : PyFloat) : External (List (String × String)) := do
  let n ← External.now now
  let eligible ← g.eligibleSessions capability target (.fin n)
  return sortPairs (← g.providerEligibleOf n eligible)

end ExternalGateway

end ControlPlane.Autonomy
