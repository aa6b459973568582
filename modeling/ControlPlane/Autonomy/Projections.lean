import ControlPlane.Autonomy.ProviderGateway

/-!
# What the gateways show

`session_projection` of the AF-05 gateway and of the AF-06 gateway over it: the rows that
an operator sees, each put together from the same tables as the choice of a session.
-/

namespace ControlPlane.Autonomy

open Data Interleaving Procedure External

/-- `session["state"]` -/
def SessionState.text : SessionState → String
  | authenticated => "AUTHENTICATED" | reauthRequired => "REAUTH_REQUIRED" | revoked => "REVOKED"

/-- The `status` of a row. -/
inductive ShownStatus where
  | revoked | unauthenticated | reauthRequired | stale | available
  deriving DecidableEq

structure SessionProjection where
  workerId : String
  providerKind : String
  status : ShownStatus
  sessionStatus : String
  freshness : Option ℚ
  capacity : Option Int
  verificationScope : String
  keyFingerprint : String
  transportState : String := "LOCAL_DURABLE_SPOOL"
  revocationState : String
  lastSignedSequence : Option Int
  lastMessageId : Option String

structure ProviderProjection where
  /-- the row of the base, with the provider's kind instead of the worker's -/
  item : SessionProjection
  adapterKind : String
  adapterStatus : ShownStatus
  providerConnectionStatus : String
  providerLastKnownStatus : Option String
  providerAttestationScope : String
  providerModel : Option String
  lastProviderResponseId : Option String
  providerExecutionEligible : Bool

def unknownStatus : String := "UNKNOWN"

section

variable (p : VerifiedProfile) (durable : Option ProfileRow) (session : Option SessionRow) (n : ℚ)

/-- `revoked` -/
def VerifiedProfile.isRevoked : Bool := p.revoked || durable.any (·.revoked)

def VerifiedProfile.shown : ShownStatus :=
  if p.isRevoked durable then .revoked
  else match session with
    | none => .unauthenticated
    | some s =>
      if s.state = .reauthRequired then .reauthRequired
      else if n - s.lastHeartbeat > p.heartbeatSla then .stale
      else .available

def VerifiedProfile.projection : SessionProjection where
  workerId := p.workerId.1
  providerKind := p.workerKind.1
  status := p.shown durable session n
  sessionStatus := (session.map (·.state.text)).getD "UNAUTHENTICATED"
  freshness := session.map fun s => max 0 (n - s.lastHeartbeat)
  capacity := session.map (·.capacity)
  verificationScope :=
    if (∃ s ∈ session, s.state = .authenticated) ∧ ¬ p.isRevoked durable then authenticationScope else unknownStatus
  keyFingerprint := p.fingerprint
  revocationState := if p.isRevoked durable then "REVOKED" else "ENABLED"
  lastSignedSequence := session.map (·.lastSequence)
  lastMessageId := session.bind (·.lastMessageId)

end

/-- What the report says of the connection now. -/
def ProviderRow.connection (row : ProviderRow) (sla n : ℚ) : String :=
  if row.observedAt ≤ n + 1 ∧ n - row.observedAt ≤ sla then row.connectionState else "STALE"

namespace ExternalGateway

variable (g : ExternalGateway) (n : ℚ)

def projectSessions : List VerifiedProfile → External (List SessionProjection)
  | [] => return []
  | p :: rest => do
    let durable ← sql (.selectProfile p.workerId.1)
    let session ← sql (.selectSession p.workerId.1)
    return p.projection durable session n :: (← projectSessions rest)

/-- `session_projection` -/
def sessionProjection (now : PyFloat) : External (List SessionProjection) := do
  let n ← External.now now
  projectSessions n g.registry.all

/-- The first value of `current`, in the `try` block; it compares the session's id with its state. -/
def firstConnection (item : SessionProjection) (row : ProviderRow) : External String := do
  let p ← g.trusted (.str item.workerId)
  if item.status = .available ∧ row.sessionId = item.sessionStatus then return row.connection p.heartbeatSla n
  return unknownStatus

/-- The `try` block, `BlockedError` caught. -/
def tryConnection (item : SessionProjection) : Option ProviderRow → External Unit
  | none => return ()
  | some row => do
    match ← attempt (g.firstConnection n item row) with
    | .ok _ => return ()
    | .error e => lift (require e.isBlocked e)

/-- The value of `current` that is shown. -/
def currentConnection (item : SessionProjection) (session : Option SessionRow) : Option ProviderRow → External String
  | none => return unknownStatus
  | some row => do
    if ∃ s ∈ session, s.state = .authenticated ∧ row.sessionId = s.sessionId then
      let p ← g.trusted (.str item.workerId)
      return row.connection p.heartbeatSla n
    return unknownStatus

/-- One round of the loop of `ProviderBoundGateway.session_projection`. -/
def projectProvider (item : SessionProjection) : External ProviderProjection := do
  let row ← sql (.selectProviderStatus item.workerId)
  g.tryConnection n item row
  let session ← sql (.selectSession item.workerId)
  let current ← g.currentConnection n item session row
  return {
    item := { item with providerKind := (row.map (·.providerKind)).getD unknownStatus }
    adapterKind := item.providerKind
    adapterStatus := item.status
    providerConnectionStatus := current
    providerLastKnownStatus := row.map (·.connectionState)
    providerAttestationScope := if row.isSome then attestationScope else unknownStatus
    providerModel := row.map (·.model)
    lastProviderResponseId := row.bind (·.providerResponseId)
    providerExecutionEligible := item.status = .available ∧ current = connectedUnattested }

def projectProviders : List SessionProjection → External (List ProviderProjection)
  | [] => return []
  | item :: rest => do
    let row ← g.projectProvider n item
    return row :: (← projectProviders rest)

/-- `ProviderBoundGateway.session_projection` -/
def providerSessionProjection (now : PyFloat) : External (List ProviderProjection) := do
  let n ← External.now now
  let items ← g.sessionProjection (.fin n)
  g.projectProviders n items

end ExternalGateway

end ControlPlane.Autonomy
