import ControlPlane.Data.OpenFile
import ControlPlane.Directive.Contracts

/-!
# The durable execution queue

`durable_queue.py`: one line a queued directive, appended, read back and kept in memory. A queue
that could not read its file is never constructed, so a queue in memory is not corrupted. Each
write is answered by the environment: it happened, or it raised and left some of the line.
-/

namespace ControlPlane.Directive

open ControlPlane.Data

/-- A host whose `int` reads texts. -/
structure QueueHost extends Host where
  /-- `int(text)` -/
  whole : String → Option Int

def sampleQueueHost : QueueHost := { sampleHost with whole _ := none }

/-! ### Items -/

structure QueuedDirectiveItem where
  directiveId : Json
  directiveSourceSha : Json
  directiveBlobSha : Json
  directivePayloadSha256 : Json
  acceptedAt : Json
  queueState : Json
  targetProject : Json
  actionType : Json
  requiresHumanApproval : Bool
  executed : Bool
  executionAttempts : Int
  readbackVerified : Bool
  idempotencyKey : Json
  signerIdentity : Json
  directivePayload : Json
  directiveSourcePath : Json

def QueuedDirectiveItem.toDict (item : QueuedDirectiveItem) : Record :=
  [("directive_id", item.directiveId), ("directive_source_sha", item.directiveSourceSha),
    ("directive_blob_sha", item.directiveBlobSha), ("directive_payload_sha256", item.directivePayloadSha256),
    ("accepted_at", item.acceptedAt), ("queue_state", item.queueState), ("target_project", item.targetProject),
    ("action_type", item.actionType), ("requires_human_approval", .bool item.requiresHumanApproval),
    ("executed", .bool item.executed), ("execution_attempts", .int item.executionAttempts),
    ("readback_verified", .bool item.readbackVerified), ("idempotency_key", item.idempotencyKey),
    ("signer_identity", item.signerIdentity), ("directive_payload", item.directivePayload),
    ("directive_source_path", item.directiveSourcePath)]

/-- `queued_items` in order, under the ids of `queued_ids`. -/
abbrev Items := Dict Json.Key QueuedDirectiveItem

/-- What the queue raises. -/
inductive QueueError where
  | missingId (line : Nat)
  | malformed (line : Nat)
  | reloadFailed
  | invalidSourcePath
  | persistenceFailure
  | readBackFailed
  | recordMismatch (directiveId : String)
  deriving DecidableEq

/-- `str(e)`; some errors quote another. -/
def QueueError.text (cause : String) : QueueError → String
  | missingId line => s!"QUEUE_CORRUPTION: Line {line} missing directive_id"
  | malformed line => s!"QUEUE_CORRUPTION: Malformed JSON at line {line}: {cause}"
  | reloadFailed => s!"QUEUE_CORRUPTION: Queue reload failed: {cause}"
  | invalidSourcePath => "INVALID_DIRECTIVE_SOURCE_PATH"
  | persistenceFailure => s!"QUEUE_PERSISTENCE_FAILURE: Failed writing execution queue: {cause}"
  | readBackFailed => s!"QUEUE_CORRUPTION: Read-back verification failed: {cause}"
  | recordMismatch directiveId => s!"QUEUE_RECORD_MISMATCH: Persisted queue record does not match item {directiveId}"

section

variable (host : QueueHost)

/-! ### Loading -/

/-- `int(v)`, where it does not raise. -/
def asInt : Json → Option Int
  | .bool b => some (if b then 1 else 0)
  | .int i => some i
  | .float (.fin q) => some (q.num.tdiv q.den)
  | .str s => host.whole s
  | _ => none

/-- `data.get(key, default)` -/
def fieldOr (data : Record) (key : String) (default : Json) : Json := (Dict.get? data key).getD default

/-- The item of a line; `int` may raise. -/
def itemOf (data : Record) (dId : Json) : Option QueuedDirectiveItem :=
  (asInt host (fieldOr data "execution_attempts" (.int 0))).map fun attempts =>
    { directiveId := dId
      directiveSourceSha := fieldOr data "directive_source_sha" (.str "")
      directiveBlobSha := fieldOr data "directive_blob_sha" (.str "")
      directivePayloadSha256 := fieldOr data "directive_payload_sha256" (.str "")
      acceptedAt := fieldOr data "accepted_at" (.str "")
      queueState := fieldOr data "queue_state" (.str "READY_FOR_FUTURE_EXECUTOR")
      targetProject := fieldOr data "target_project" (.str "")
      actionType := fieldOr data "action_type" (.str "")
      requiresHumanApproval := (fieldOr data "requires_human_approval" (.bool false)).truthy
      executed := (fieldOr data "executed" (.bool false)).truthy
      executionAttempts := attempts
      readbackVerified := (fieldOr data "readback_verified" (.bool true)).truthy
      idempotencyKey := fieldOr data "idempotency_key" (.str "")
      signerIdentity := fieldOr data "signer_identity" (.str "")
      directivePayload := fieldOr data "directive_payload" .null
      directiveSourcePath := fieldOr data "directive_source_path" (.str "") }

/-- A line that is not blank. -/
def loadItem (n : Nat) (items : Items) (text : List Char) : Except QueueError Items :=
  match Json.loads host.floats (String.ofList text) with
  | none => .error (.malformed n)
  | some (.dict data) =>
    let dId := Record.field data "directive_id"
    if dId.truthy then
      match dId.key? with
      | none => .error .reloadFailed
      | some key =>
        if (items.get? key).isSome then .ok items
        else
          match itemOf host data dId with
          | none => .error .reloadFailed
          | some item => .ok (items.set key item)
    else .error (.missingId n)
  | some _ => .error .reloadFailed

/-- The loop of `_load_queue`. -/
def loadItems : Nat → Items → List (List Char) → Except QueueError Items
  | _, items, [] => .ok items
  | n, items, line :: rest =>
    if (strip line).isEmpty then loadItems (n + 1) items rest
    else
      match loadItem host n items (strip line) with
      | .error e => .error e
      | .ok items => loadItems (n + 1) items rest

/-- `_load_queue`: the items of a queue that is constructed on this file, or what the constructor raises. -/
def loadExecutionQueue : Option String → Except QueueError Items
  | none => .ok []
  | some content => loadItems host 1 [] (openLines content)

/-! ### The source path -/

/-- `[A-Za-z0-9]` -/
def isNameStart (c : Char) : Bool := ('A' ≤ c && c ≤ 'Z') || ('a' ≤ c && c ≤ 'z') || ('0' ≤ c && c ≤ '9')

/-- `[A-Za-z0-9._-]` -/
def isNameChar (c : Char) : Bool := isNameStart c || c = '.' || c = '_' || c = '-'

/-- `_SOURCE_NAME.fullmatch(name)` -/
def isSourceName (name : List Char) : Bool :=
  match name.rdrop 5 with
  | c :: middle => name = c :: middle ++ ".json".toList && isNameStart c && middle.length ≤ 122 && middle.all isNameChar
  | [] => false

/-- `validate_directive_source_path` does not raise; it returns its argument then. -/
def isSourcePath (value : String) : Bool :=
  !value.toList.contains '\\' && !value.toList.any (fun c => c.toNat < 32) &&
    match value.toList.splitOn '/' with
    | [top, inbox, name] => top = "directives".toList && inbox = "inbox".toList && isSourceName name
    | _ => false

/-! ### Enqueueing -/

/-- The entries of `auth_metadata` that the queue asks for. -/
structure AuthMetadata where
  payloadSha256 : Option String
  payloadBlobSha : Option String
  signerIdentity : Option String

/-- What came of opening the file, writing the line, flushing and `os.fsync`. -/
inductive WriteOutcome where
  | written
  /-- It raised; the file was not opened, or was opened and got these characters. -/
  | raised (kept : Option (List Char))

structure EnqueueAnswers where
  /-- `datetime.now(timezone.utc).isoformat()` -/
  now : String
  write : WriteOutcome
  /-- The file can be opened and read for the read-back. -/
  readable : Bool

/-- A queue in memory, and its file. -/
structure DurableExecutionQueue where
  items : Items
  file : Option String

structure EnqueueOutcome where
  queue : DurableExecutionQueue
  result : Except QueueError QueuedDirectiveItem

/-- The item as it is written. -/
def newItem (now : String) (payload : DirectivePayload) (envelope : DirectiveEnvelope) (auth : AuthMetadata)
    (sourcePath : String) : QueuedDirectiveItem :=
  let payloadSha256 := auth.payloadSha256.getD envelope.payloadSha256
  { directiveId := .str payload.directiveId
    directiveSourceSha := .str envelope.payloadCommitSha
    directiveBlobSha := .str (auth.payloadBlobSha.getD envelope.payloadBlobSha)
    directivePayloadSha256 := .str payloadSha256
    acceptedAt := .str now
    queueState := .str "READY_FOR_FUTURE_EXECUTOR"
    targetProject := .str payload.targetProject
    actionType := .str payload.actionType
    requiresHumanApproval := payload.requiresHumanApproval
    executed := false
    executionAttempts := 0
    readbackVerified := false
    idempotencyKey := .str (host.sha256 (payload.directiveId ++ ":" ++ envelope.payloadCommitSha ++ ":" ++ payloadSha256))
    signerIdentity := .str (auth.signerIdentity.getD envelope.signerIdentity)
    directivePayload := .dict payload.toDict
    directiveSourcePath := .str sourcePath }

/-- `record_json_str` -/
def itemText (item : QueuedDirectiveItem) : List Char := Json.lineOf host.floats item.toDict ++ ['\n']

/-- What an append leaves of the file. -/
def appended (file : Option String) (text : List Char) : Option String := some (file.getD "" ++ String.ofList text)

/-- The file after the write. -/
def writtenFile (file : Option String) (text : List Char) : WriteOutcome → Option String
  | .written => appended file text
  | .raised none => file
  | .raised (some kept) => appended file kept

/-- The item in memory once it was read back. -/
def QueuedDirectiveItem.verified (item : QueuedDirectiveItem) : QueuedDirectiveItem := { item with readbackVerified := true }

/-- The last line that is not blank names the item; none where reading it raises. -/
def readBack (item : QueuedDirectiveItem) (content : String) : Option Bool :=
  match (strippedLines content).getLast? with
  | none => some false
  | some last =>
    match Json.loads host.floats (String.ofList last) with
    | some (.dict lastRecord) =>
      some ((Record.field lastRecord "directive_id").str? = item.directiveId.str? &&
        (Record.field lastRecord "idempotency_key").str? = item.idempotencyKey.str? &&
        (Record.field lastRecord "directive_payload_sha256").str? = item.directivePayloadSha256.str? &&
        (fieldOr lastRecord "directive_source_path" (.str "")).str? = item.directiveSourcePath.str?)
    | _ => none

/-- `accepted_at or datetime.now(timezone.utc).isoformat()` -/
def acceptedTime (acceptedAt : Option String) (now : String) : String :=
  match acceptedAt with
  | some t => if t = "" then now else t
  | none => now

/-- The end of `enqueue_payload`: write the line, read it back, and keep the item. -/
def persist (answers : EnqueueAnswers) (q : DurableExecutionQueue) (directiveId : String) (item : QueuedDirectiveItem) :
    EnqueueOutcome :=
  let file := writtenFile q.file (itemText host item) answers.write
  match answers.write with
  | .raised _ => ⟨⟨q.items, file⟩, .error .persistenceFailure⟩
  | .written =>
    match if answers.readable then readBack host item (file.getD "") else none with
    | none => ⟨⟨q.items, file⟩, .error .readBackFailed⟩
    | some false => ⟨⟨q.items, file⟩, .error (.recordMismatch directiveId)⟩
    | some true => ⟨⟨q.items.set (.str directiveId) item.verified, file⟩, .ok item.verified⟩

/-- `DurableExecutionQueue.enqueue_payload` -/
def enqueuePayload (answers : EnqueueAnswers) (q : DurableExecutionQueue) (payload : DirectivePayload)
    (envelope : DirectiveEnvelope) (auth : AuthMetadata) (acceptedAt : Option String) (directiveSourcePath : String) :
    EnqueueOutcome :=
  match q.items.get? (.str payload.directiveId) with
  | some item => ⟨q, .ok item⟩
  | none =>
    if directiveSourcePath ≠ "" ∧ isSourcePath directiveSourcePath = false then ⟨q, .error .invalidSourcePath⟩
    else
      persist host answers q payload.directiveId
        (newItem host (acceptedTime acceptedAt answers.now) payload envelope auth directiveSourcePath)

end

end ControlPlane.Directive
