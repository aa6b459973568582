import ControlPlane.Autonomy.Statement
import ControlPlane.Autonomy.Trust

/-!
# The tables of the external gateways

The AF-05 and AF-06 tables beside the store's, and what each of their statements does.
A crash can fall between any two statements and never inside one; no other connection
moves during a call, so no statement finds the database locked.
-/

namespace ControlPlane.Autonomy

open Data Interleaving

structure ProfileRow where
  workerId : String
  workerKind : String
  keyId : String
  fingerprint : String
  profileDigest : String
  profileVersion : Int
  capabilities : List String
  targets : List String
  maxCapacity : Int
  heartbeatSla : ℚ
  enabled : Bool
  revoked : Bool
  deriving DecidableEq

structure ChallengeRow where
  challengeId : String
  workerId : String
  keyId : String
  nonceDigest : String
  protocol : String
  profileDigest : String
  issuedAt : ℚ
  expiresAt : ℚ
  consumed : Bool := false
  revoked : Bool := false
  deriving DecidableEq

inductive SessionState where
  | authenticated | reauthRequired | revoked
  deriving DecidableEq

structure SessionRow where
  workerId : String
  workerKind : String
  sessionId : String
  keyId : String
  fingerprint : String
  profileDigest : String
  scope : String
  authenticatedAt : ℚ
  lastSequence : Int
  lastHeartbeat : ℚ
  capacity : Int
  state : SessionState
  lastMessageId : Option String
  deriving DecidableEq

/-- The signed frames of a worker. -/
inductive Domain where
  | session | heartbeat | ack | result
  deriving DecidableEq

def Domain.name : Domain → String
  | session => "SESSION" | heartbeat => "HEARTBEAT" | ack => "ACK" | result => "RESULT"

structure MessageRow where
  messageId : String
  workerId : String
  sessionId : String
  sequence : Int
  domain : Domain
  acceptedAt : ℚ
  deriving DecidableEq

structure DispatchRow where
  dispatchId : String
  taskId : String
  workerId : String
  sessionId : String
  leaseId : String
  leaseExpiresAt : PyFloat
  capability : String
  targetProject : String
  protocol : String
  acknowledged : Bool := false
  resultReceived : Bool := false
  ackAt : Option ℚ := none
  deriving DecidableEq

structure ProviderRow where
  workerId : String
  sessionId : String
  keyId : String
  providerKind : String
  model : String
  connectionState : String
  attestationScope : String
  sequence : Int
  observedAt : ℚ
  lastMessageId : String
  providerResponseId : Option String
  deriving DecidableEq

structure ProviderMessageRow where
  messageId : String
  workerId : String
  sessionId : String
  sequence : Int
  acceptedAt : ℚ
  deriving DecidableEq

structure ExternalDb where
  store : Db
  profiles : Table ProfileRow ProfileRow.workerId
  challenges : Table ChallengeRow ChallengeRow.challengeId
  sessions : Table SessionRow SessionRow.workerId
  messages : Table MessageRow MessageRow.messageId
  dispatches : Table DispatchRow DispatchRow.dispatchId
  providerStatus : Table ProviderRow ProviderRow.workerId
  providerMessages : Table ProviderMessageRow ProviderMessageRow.messageId
  /-- the evidence files of the spool, not a table -/
  spool : String → Option ByteArray

def ExternalDb.empty : ExternalDb :=
  ⟨Db.empty, .empty, .empty, .empty, .empty, .empty, .empty, .empty, fun _ => none⟩

inductive GatewayStmt : Type → Type where
  -- queries
  | selectProfile (worker : String) : GatewayStmt (Option ProfileRow)
  | selectChallenge (id : String) : GatewayStmt (Option ChallengeRow)
  | selectSession (worker : String) : GatewayStmt (Option SessionRow)
  | selectMessage (id : String) : GatewayStmt Bool
  | selectDispatch (id : String) : GatewayStmt (Option DispatchRow)
  | selectProviderStatus (worker : String) : GatewayStmt (Option ProviderRow)
  -- updates outside a transaction
  | insertProfile (row : ProfileRow) : GatewayStmt Unit
  | revokeProfile (worker : String) : GatewayStmt Nat
  | requireReauthentication : GatewayStmt Unit
  | revokeSession (worker : String) : GatewayStmt Unit
  | insertChallenge (row : ChallengeRow) : GatewayStmt Unit
  | insertMessage (row : MessageRow) : GatewayStmt Unit
  | advanceSession (worker : String) (sequence : Int) (message : String) (beat : Option (ℚ × Int)) : GatewayStmt Unit
  | insertDispatch (row : DispatchRow) : GatewayStmt Unit
  | markAcknowledged (id : String) (at_ : ℚ) : GatewayStmt Unit
  | markResultReceived (id : String) : GatewayStmt Unit
  -- transactions
  | authenticate (challenge : String) (n : ℚ) (row : SessionRow) (worker : WorkerRow) : GatewayStmt Unit
  | acceptProviderStatus (row : ProviderRow) (n : ℚ) : GatewayStmt Unit
  -- the environment
  | runtimeRoot : GatewayStmt Unit
  | nonce : GatewayStmt ByteArray
  | writeOutbound (id : String) : GatewayStmt Unit
  | resolveEvidence (id : Identifier) : GatewayStmt ByteArray

structure ExternalInput extends Input where
  /-- `RuntimeRootPolicy` and the spool's directories -/
  runtimeRoot : Answer Unit := .ok ()
  /-- `secrets.token_bytes(32)` -/
  nonce : ByteArray := ByteArray.empty
  /-- `transport.write_outbound` -/
  outbound : Answer Unit := .ok ()

instance : Inhabited ExternalInput := ⟨{}⟩

/-- The integers that SQLite stores. -/
def storable (i : Int) : Prop := -2 ^ 63 ≤ i ∧ i < 2 ^ 63

instance : DecidablePred storable := fun _ => inferInstanceAs (Decidable (_ ∧ _))

namespace ExternalDb

def insertProfile (row : ProfileRow) (db : ExternalDb) : Except Err ExternalDb := do
  require (storable row.profileVersion) (.other "OverflowError")
  let profiles ← found (db.profiles.insert? row) .integrity
  return { db with profiles }

def revokeProfile (worker : String) (db : ExternalDb) : ExternalDb :=
  let profiles := db.profiles.update (fun p => p.workerId = worker) (fun p => { p with revoked := true }) fun _ => rfl
  { db with profiles }

def updateSessions (db : ExternalDb) (p : SessionRow → Prop) [DecidablePred p] (f : SessionRow → SessionRow)
    (keeps : ∀ s, (f s).workerId = s.workerId) : ExternalDb :=
  { db with sessions := db.sessions.update p f keeps }

def requireReauthentication (db : ExternalDb) : ExternalDb :=
  db.updateSessions (fun s => s.state = .authenticated) (fun s => { s with state := .reauthRequired }) fun _ => rfl

def revokeSession (worker : String) (db : ExternalDb) : ExternalDb :=
  db.updateSessions (fun s => s.workerId = worker) (fun s => { s with state := .revoked }) fun _ => rfl

def advanceSession (worker : String) (sequence : Int) (message : String) (beat : Option (ℚ × Int)) (db : ExternalDb) :
    ExternalDb :=
  db.updateSessions (fun s => s.workerId = worker) (fun s => { s with
    lastSequence := sequence, lastMessageId := some message
    lastHeartbeat := (beat.map (·.1)).getD s.lastHeartbeat, capacity := (beat.map (·.2)).getD s.capacity }) fun _ => rfl

def updateDispatch (db : ExternalDb) (id : String) (f : DispatchRow → DispatchRow)
    (keeps : ∀ d, (f d).dispatchId = d.dispatchId) : ExternalDb :=
  { db with dispatches := db.dispatches.update (fun d => d.dispatchId = id) f keeps }

def markAcknowledged (id : String) (at_ : ℚ) (db : ExternalDb) : ExternalDb :=
  db.updateDispatch id (fun d => { d with acknowledged := true, ackAt := some at_ }) fun _ => rfl

def markResultReceived (id : String) (db : ExternalDb) : ExternalDb :=
  db.updateDispatch id (fun d => { d with resultReceived := true }) fun _ => rfl

def insertChallenge (row : ChallengeRow) (db : ExternalDb) : Except Err ExternalDb := do
  let challenges ← found (db.challenges.insert? row) .integrity
  return { db with challenges }

def insertMessage (row : MessageRow) (db : ExternalDb) : Except Err ExternalDb := do
  require (storable row.sequence) (.other "OverflowError")
  let messages ← found (db.messages.insert? row) .integrity
  return { db with messages }

def insertDispatch (row : DispatchRow) (db : ExternalDb) : Except Err ExternalDb := do
  let dispatches ← found (db.dispatches.insert? row) .integrity
  return { db with dispatches }

/-- The challenge can still be consumed at `n`. -/
def open_ (challenge : String) (n : ℚ) (c : ChallengeRow) : Prop :=
  c.challengeId = challenge ∧ c.consumed = false ∧ c.revoked = false ∧ n < c.expiresAt

instance (challenge : String) (n : ℚ) : DecidablePred (open_ challenge n) :=
  fun _ => inferInstanceAs (Decidable (_ ∧ _ ∧ _ ∧ _))

/-- The challenges, with this one consumed. -/
def consumed (challenge : String) (n : ℚ) (db : ExternalDb) : Table ChallengeRow ChallengeRow.challengeId :=
  db.challenges.update (open_ challenge n) (fun c => { c with consumed := true }) fun _ => rfl

/-- The transaction of `authenticate_session`; the profile's SLA and the capacity pass
the checks of `register_worker`. -/
def authenticate (challenge : String) (n : ℚ) (row : SessionRow) (worker : WorkerRow) (db : ExternalDb) :
    Except Err ExternalDb := do
  require (db.challenges.rowcount (open_ challenge n) = 1) (.blocked "challenge replay")
  let challenges := db.consumed challenge n
  let sessions := db.sessions.replace row fun s => s.sessionId = row.sessionId
  let (store, _) ← upsertWorker worker db.store
  return { db with challenges, sessions, store }

/-- The transaction of `accept_provider_status`. -/
def acceptProviderStatus (row : ProviderRow) (n : ℚ) (db : ExternalDb) : Except Err ExternalDb := do
  let replay := Err.blocked "provider status replay"
  require (∀ old ∈ db.providerStatus.find? row.workerId, old.sessionId = row.sessionId → old.sequence < row.sequence) replay
  require (db.providerMessages.find? row.lastMessageId = none) replay
  require (storable row.sequence) (.other "OverflowError")
  let providerMessages ← found (db.providerMessages.insert?
    ⟨row.lastMessageId, row.workerId, row.sessionId, row.sequence, n⟩) replay
  let providerStatus := db.providerStatus.replace row fun _ => False
  return { db with providerMessages, providerStatus }

end ExternalDb

variable {α : Type}

/-- An update that is refused leaves the database as it was. -/
def update (db : ExternalDb) : Except Err ExternalDb → ExternalDb × Answer Unit
  | .ok db => (db, .ok ())
  | .error e => (db, .error e)

def maxEvidenceBytes : Nat := 2097152

/-- `resolve_evidence`; a file that is missing, a link or outside the directory is none. -/
def readEvidence (spool : String → Option ByteArray) (id : Identifier) : Except Err ByteArray := do
  let bytes ← found (spool id.1) (.blocked "evidence unavailable")
  require (bytes.size ≤ maxEvidenceBytes) (.blocked "oversized evidence")
  return bytes

def GatewayStmt.perform : GatewayStmt α → ExternalInput → ExternalDb → ExternalDb × Answer α
  | .selectProfile worker, _, db => (db, .ok (db.profiles.find? worker))
  | .selectChallenge id, _, db => (db, .ok (db.challenges.find? id))
  | .selectSession worker, _, db => (db, .ok (db.sessions.find? worker))
  | .selectMessage id, _, db => (db, .ok (db.messages.find? id).isSome)
  | .selectDispatch id, _, db => (db, .ok (db.dispatches.find? id))
  | .selectProviderStatus worker, _, db => (db, .ok (db.providerStatus.find? worker))
  | .insertProfile row, _, db => update db (db.insertProfile row)
  | .revokeProfile worker, _, db => (db.revokeProfile worker, .ok (db.profiles.rowcount fun p => p.workerId = worker))
  | .requireReauthentication, _, db => (db.requireReauthentication, .ok ())
  | .revokeSession worker, _, db => (db.revokeSession worker, .ok ())
  | .insertChallenge row, _, db => update db (db.insertChallenge row)
  | .insertMessage row, _, db => update db (db.insertMessage row)
  | .advanceSession worker sequence message beat, _, db => (db.advanceSession worker sequence message beat, .ok ())
  | .insertDispatch row, _, db => update db (db.insertDispatch row)
  | .markAcknowledged id at_, _, db => (db.markAcknowledged id at_, .ok ())
  | .markResultReceived id, _, db => (db.markResultReceived id, .ok ())
  | .authenticate challenge n row worker, _, db => update db (db.authenticate challenge n row worker)
  | .acceptProviderStatus row n, _, db => update db (db.acceptProviderStatus row n)
  | .runtimeRoot, x, db => (db, x.runtimeRoot)
  | .nonce, x, db => (db, .ok x.nonce)
  | .writeOutbound _, x, db => (db, x.outbound)
  | .resolveEvidence id, _, db => (db, readEvidence db.spool id)

/-- A statement of the store, or one of the gateways' own. -/
abbrev ExternalStmt (α : Type) : Type := Stmt α ⊕ GatewayStmt α

def ExternalStmt.perform : ExternalStmt α → ExternalInput → ExternalDb → ExternalDb × Answer α
  | .inl s, x, db =>
    let (store, answer) := Autonomy.perform s x.toInput db.store
    ({ db with store }, answer)
  | .inr s, x, db => s.perform x db

/-- The statements of one gateway, no other connection moving. -/
def externals : Machine Err ExternalStmt ExternalInput ExternalDb := ⟨ExternalStmt.perform⟩

end ControlPlane.Autonomy
