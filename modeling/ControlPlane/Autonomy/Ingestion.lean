import ControlPlane.Autonomy.Envelopes
import ControlPlane.Autonomy.Store
import ControlPlane.Data.ByteLines
import ControlPlane.Data.PosixPath
import ControlPlane.Directive.Contracts
import Mathlib.Data.List.Sort

/-!
# `DirectiveTaskIngestor`

The queue file is read whole at every round. The store remembers the hash of every line that
became a task, in their order, and compares it with what is read the next time.
-/

namespace ControlPlane.Autonomy

open Data Interleaving Procedure
open Directive (DirectivePayload DirectiveEnvelope ValidationStatus)

def maxQueueBytes : Nat := 2097152
def maxRecordBytes : Nat := 131072
def maxRecords : Nat := 4096

/-- `ACTION_CAPABILITIES` -/
def actionCapabilities : List (String × String) :=
  [("STATUS_REQUEST", "OBSERVE_STATUS"), ("AUDIT_REQUEST", "AUDIT_READ"), ("READ_ONLY_ANALYSIS", "ANALYZE_READ_ONLY"),
   ("GENERATE_REPORT", "GENERATE_REPORT"), ("RUN_CONTROL_PLANE_TESTS", "RUN_READ_ONLY_TESTS"),
   ("RUN_READ_ONLY_OBSERVATION", "OBSERVE_READ_ONLY"), ("PREPARE_NEXT_STAGE", "PREPARE_READ_ONLY"), ("NO_OP", "NO_OP")]

def prohibitedActions : List String :=
  ["RESTART_PROJECT", "STOP_PROJECT", "KILL_PROCESS", "MODIFY_STRATEGY", "CHANGE_PARAMETERS", "WRITE_TO_ORACLE", "WRITE_TO_MICRO",
   "DELETE_DATA", "RESET_GIT", "CHECKOUT_PROJECT_BRANCH", "ENABLE_REAL_MONEY", "SEND_ORDER", "EXECUTE_TRADE",
   "MODIFY_CREDENTIALS", "MUTATE", "TARGET_MUTATION", "DESTRUCTIVE", "EXECUTE_RECOVERY"]

/-- What the verifier returns, its status by its value. -/
structure Verdict where
  status : String
  humanWait : Bool
  metadata : Record

structure IngestResult where
  taskId : String
  directiveId : String
  created : Bool
  state : TaskState

/-- What reading the queue takes. -/
structure QueueReader where
  host : Directive.Host
  platform : Platform
  /-- `str(queue_path.resolve(strict=True))` -/
  source : String

structure DirectiveTaskIngestor extends QueueReader where
  /-- no answer is one of the wrong shape -/
  verifier : Option (DirectivePayload → DirectiveEnvelope → String → Except Err (Option Verdict))
  supportedTargets : List String

/-! ### What the queue asks of the store -/

inductive QueueStmt : Type → Type where
  | selectSource : QueueStmt String
  | selectRecords : QueueStmt (List QueueRecordRow)
  | countRecords : QueueStmt Nat

/-- `ORDER BY sequence` -/
def inSequence : List QueueRecordRow → List QueueRecordRow := List.insertionSort fun a b => a.sequence ≤ b.sequence

def QueueStmt.read {α : Type} : QueueStmt α → Db → α
  | .selectSource, db => db.ingest.sourcePath
  | .selectRecords, db => inSequence db.queueRecords.rows
  | .countRecords, db => db.queueRecords.rows.length

abbrev IngestStmt (α : Type) := Stmt α ⊕ QueueStmt α

def IngestStmt.perform {α : Type} : IngestStmt α → Input → Db → Db × Answer α
  | .inl s, x, db => exec s x db
  | .inr s, x, db => if x.busy then (db, .error .operational) else (db, .ok (s.read db))

/-- The statements of one ingestor, no other connection moving. -/
def ingestions : Machine Err IngestStmt Input Db := ⟨IngestStmt.perform⟩

abbrev Ingestion (α : Type) := Procedure Err IngestStmt α

namespace Ingestion

variable {α : Type}

def query (s : QueueStmt α) : Ingestion α := ask (.inr s)

/-- A method of the store. -/
def store (p : Store α) : Ingestion α := Program.interp (fun s => ask (.inl s)) p

end Ingestion

open Ingestion

/-! ### `read_records` -/

namespace QueueReader

variable (i : QueueReader)

/-- `_sha` -/
def sha (line : List UInt8) : String := i.platform.sha256 ⟨line.toArray⟩

/-- `json.loads(content.decode("utf-8"))` of the line without its end, where neither raises. -/
def loadsLine (line : List UInt8) : Option Json :=
  (String.fromUTF8? ⟨(rstripBreaks line).toArray⟩).bind (Json.loads i.host.floats)

/-- One round of the loop over the lines: the record with the hash of its line, none of a blank
one, or why the source is blocked. -/
def recordOf (line : List UInt8) : Except (String × String) (List (Record × String)) :=
  if isBlankLine line then return []
  else if maxRecordBytes < line.length then throw ("RECORD_OVERSIZED", "queue record oversized")
  else
    match i.loadsLine line with
    | none => throw ("MALFORMED_QUEUE", "malformed queue")
    | some (.dict record) => return [(record, i.sha line)]
    | some _ => throw ("INVALID_RECORD_SHAPE", "invalid queue record")

def records : List (List UInt8) → Except (String × String) (List (Record × String))
  | [] => return []
  | line :: lines => do
    let record ← i.recordOf line
    return record ++ (← records lines)

/-- `_block_source`, and the exception behind it. -/
def refuse {α : Type} (reason message : String) : Ingestion α := do
  ask (.inl (.blockSource reason))
  throw (.integrityBlocked message)

/-- The row is of this record. -/
def SameRecord (row : QueueRecordRow) (record : Record × String) : Prop :=
  row.lineSha256 = record.2 ∧ (record.1.field "directive_id").str? = some row.directiveId

instance (row : QueueRecordRow) (record : Record × String) : Decidable (SameRecord row record) :=
  inferInstanceAs (Decidable (_ ∧ _))

/-- `read_records` of a queue that is a plain file, or of one that is not. -/
def readRecords (queue : Option (List UInt8)) : Ingestion (List (Record × String)) :=
  match queue with
  | none => refuse "QUEUE_UNAVAILABLE" "queue unavailable"
  | some raw =>
    if maxQueueBytes < raw.length then refuse "QUEUE_OVERSIZED" "queue oversized"
    else if maxRecords < (keptLines raw).length then refuse "TOO_MANY_RECORDS" "too many queue records"
    else
      match i.records (keptLines raw) with
      | .error (reason, message) => refuse reason message
      | .ok records => do
        let source ← query .selectSource
        if source ≠ "" ∧ source ≠ i.source then refuse "QUEUE_SOURCE_REBOUND" "queue source changed"
        else do
          let persisted ← query .selectRecords
          if records.length < persisted.length then refuse "QUEUE_TRUNCATED" "queue truncated"
          else if ∀ pair ∈ persisted.zip records, SameRecord pair.1 pair.2 then return records
          else refuse "QUEUE_REWRITE_OR_REORDER" "queue history changed"

end QueueReader

/-! ### `_validate` and `_verify` -/

namespace DirectiveTaskIngestor

variable (i : DirectiveTaskIngestor)

/-- `_HEX40` and `_HEX64` -/
def isLowerHex (length : Nat) (s : String) : Bool :=
  s.toList.length = length && s.toList.all fun c => c.isDigit || ('a' ≤ c && c ≤ 'f')

/-- `str(record.get(key, "")).lower()` -/
def hashOf (record : Record) (key : String) : String := lower (Directive.textOf i.host record key)

/-- `clean(metadata.get(key, ""))` -/
def cleanOf (metadata : Record) (key : String) : String :=
  let v := (Dict.get? metadata key).getD (.str "")
  clean (if v.truthy then i.host.shown v else "")

/-- `_source_path` -/
def sourcePath (value : Json) : Except Err String := do
  let unavailable := Err.blocked "directive source path unavailable"
  let text ← found value.str? unavailable
  require (text.toList.all fun c => c ≠ '\\' ∧ ¬ c.toNat < 32) unavailable
  let invalid := Err.blocked "invalid directive source path"
  require (text.toList.head? ≠ some '/') invalid
  match pathParts text with
  | ["directives", "inbox", name] => do
    require (isIdentifier name ∧ ".json".toList.isSuffixOf name.toList) invalid
    return asPosix ["directives", "inbox", name]
  | _ => throw invalid

/-- What the schema's parser raises. -/
def ofFault : Directive.Fault → Err
  | .osError => .other "OSError"
  | .typeError => .other "TypeError"
  | .keyError => .other "KeyError"
  | .valueError => .other "ValueError"
  | .attributeError => .other "AttributeError"

def parsePayload (raw : Record) : Except Err DirectivePayload :=
  match DirectivePayload.fromDict i.host (.dict raw) with
  | .ok payload => .ok payload
  | .error fault => .error (ofFault fault)

/-- What `_validate` returns. -/
structure Validated where
  payload : DirectivePayload
  envelope : DirectiveEnvelope
  key : String
  capability : String
  sourcePath : String

/-- `_validate` -/
def validate (record : Record) : Except Err Validated := do
  let directiveId ← identifier (record.field "directive_id") "directive_id"
  require ((record.field "queue_state").str? = some "READY_FOR_FUTURE_EXECUTOR" ∧ (record.field "readback_verified").bool? = some true ∧
    (record.field "executed").bool? = some false) (.blocked "queue record not execution-ready")
  let commit := i.hashOf record "directive_source_sha"
  let blob := i.hashOf record "directive_blob_sha"
  let payloadSha := i.hashOf record "directive_payload_sha256"
  require (isLowerHex 40 commit ∧ isLowerHex 40 blob ∧ isLowerHex 64 payloadSha) (.blocked "invalid provenance hashes")
  let key := i.platform.sha256 s!"{directiveId.1}:{commit}:{payloadSha}".toUTF8
  require ((record.field "idempotency_key").str? = some key) (.blocked "idempotency mismatch")
  let path ← sourcePath (record.field "directive_source_path")
  let target ← identifier (record.field "target_project") "target_project"
  require (target.1 ∈ i.supportedTargets) (.blocked "unsupported target")
  let action ← identifier (record.field "action_type") "action_type"
  let prohibited := Err.blocked "unknown or prohibited action"
  require (action.1 ∉ prohibitedActions) prohibited
  let capability ← found (actionCapabilities.lookup action.1) prohibited
  let raw ← found (record.field "directive_payload").dict? (.blocked "directive payload unavailable")
  let payload ← i.parsePayload raw
  require (payload.directiveId = directiveId.1 ∧ payload.targetProject = target.1 ∧ payload.actionType = action.1)
    (.blocked "payload record contradiction")
  require ((record.field "requires_human_approval").bool? = some payload.requiresHumanApproval)
    (.blocked "human approval contradiction")
  return {
    payload, key, capability, sourcePath := path
    envelope := {
      directiveId := directiveId.1, payloadCommitSha := commit, payloadBlobSha := blob, payloadSha256 := payloadSha
      trustedRemote := "AI-CONTROL-PLANE", trustedBranch := "main" } }

/-- The verifier's answer; its own exceptions are told from any other. -/
def verdict (v : Validated) : Except Err Verdict := do
  let verifier ← found i.verifier (.blocked "provenance verifier unavailable")
  match verifier v.payload v.envelope v.sourcePath with
  | .ok answer => found answer (.blocked "malformed provenance response")
  | .error e => .error (if e.isBlocked then e else .blocked "provenance verifier unavailable")

/-- `_verify` -/
def verify (v : Validated) (record : Record) : Except Err String := do
  let answer ← i.verdict v
  let signer := i.cleanOf answer.metadata "signer_identity"
  require (answer.status = ValidationStatus.authentic.value ∧ (answer.metadata.field "signature_valid").truthy ∧
    (answer.metadata.field "signer_allowed").truthy ∧ (answer.metadata.field "remote_ancestry_verified").truthy ∧
    (answer.metadata.field "payload_commit_sha").str? = some v.envelope.payloadCommitSha ∧
    (answer.metadata.field "payload_blob_sha").str? = some v.envelope.payloadBlobSha ∧
    (answer.metadata.field "payload_sha256").str? = some v.envelope.payloadSha256 ∧
    signer = i.cleanOf record "signer_identity" ∧ answer.humanWait = v.payload.requiresHumanApproval)
    (.blocked "provenance revalidation failed")
  return signer

/-! ### `ingest` -/

def deterministicTaskId (directiveId key : String) : String :=
  "af04-" ++ i.platform.sha256 s!"AF04_TASK_V1\n{directiveId}\n{key}\n".toUTF8

/-- What `ingest` binds a record to. -/
def entry (sequence : Nat) (lineSha signer : String) (v : Validated) (n : ℚ) : QueueEntry where
  sequence
  lineSha256 := lineSha
  provenance := {
    taskId := i.deterministicTaskId v.payload.directiveId v.key, directiveId := v.payload.directiveId, idempotencyKey := v.key
    sourceCommitSha := v.envelope.payloadCommitSha, blobSha := v.envelope.payloadBlobSha
    payloadSha256 := v.envelope.payloadSha256, sourcePath := v.sourcePath, signerIdentity := signer
    targetProject := v.payload.targetProject, actionType := v.payload.actionType, capability := v.capability, ingestedAt := n }
  requiresHumanApproval := v.payload.requiresHumanApproval
  source := i.source

/-- What is bound by one round of the loop of `ingest`. -/
def bindRecord (sequence : Nat) (record : Record) (lineSha : String) : Ingestion QueueEntry := do
  let v ← lift (i.validate record)
  let signer ← lift (i.verify v record)
  let n ← store (Store.now (← ask (.inl .clock)))
  return i.entry sequence lineSha signer v n

/-- One round of the loop of `ingest`, of a record that is new. -/
def ingestRecord (sequence : Nat) (record : Record) (lineSha : String) : Ingestion (List IngestResult) := do
  let e ← i.bindRecord sequence record lineSha
  let created ← ask (.inl (.ingestEntry e))
  if created then do
    let task ← store (Store.task e.provenance.taskId)
    return [⟨e.provenance.taskId, e.provenance.directiveId, true, task.state⟩]
  else return []

/-- The loop, from the record with this number on. -/
def ingestFrom (persistedCount sequence : Nat) : List (Record × String) → Ingestion (List IngestResult)
  | [] => return []
  | (record, lineSha) :: rest =>
    if sequence ≤ persistedCount then ingestFrom persistedCount (sequence + 1) rest
    else do
      let result ← i.ingestRecord sequence record lineSha
      return result ++ (← ingestFrom persistedCount (sequence + 1) rest)

/-- `ingest` -/
def ingest (queue : Option (List UInt8)) : Ingestion (List IngestResult) := do
  let records ← i.readRecords queue
  let persistedCount ← query .countRecords
  i.ingestFrom persistedCount 1 records

end DirectiveTaskIngestor

end ControlPlane.Autonomy
