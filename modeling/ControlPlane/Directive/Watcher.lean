import ControlPlane.Data.Directory
import ControlPlane.Data.Json.Indent
import ControlPlane.Directive.DurableReload

/-!
# The watcher of the inbox

`watcher.py` and `replay_ledger.py`: `poll_inbox` takes one file of the inbox after another. What it
does with a file is a list of effects, done in order; the counters of its status are left out.
-/

namespace ControlPlane.Directive

open ControlPlane.Data

/-- Where `ack_dir / f"\x7bdirective_id\x7d.json"` leads. -/
inductive AckPlace where
  | acks (name : String)
  | inbox (name : String)
  | elsewhere
  /-- The file cannot be opened. -/
  | refused
  deriving DecidableEq

/-- A host with the directories of the channel. -/
structure WatcherHost extends QueueHost where
  place : String → AckPlace

structure ConsumedRecord where
  directiveId : Json
  sourceCommitSha : Json
  firstSeenAt : Json
  decision : Json
  decisionReason : Json
  processedAt : Json
  idempotencyKey : String := ""
  payloadSha256 : String := ""

def ConsumedRecord.toDict (record : ConsumedRecord) : Record :=
  [("directive_id", record.directiveId), ("source_commit_sha", record.sourceCommitSha),
    ("first_seen_at", record.firstSeenAt), ("decision", record.decision), ("decision_reason", record.decisionReason),
    ("processed_at", record.processedAt), ("idempotency_key", .str record.idempotencyKey),
    ("payload_sha256", .str record.payloadSha256)]

/-- `consumed_records`, under the ids of `consumed_ids`. -/
abbrev Consumed := Dict Json.Key ConsumedRecord

section

variable (host : Host)

/-- The record of a line. -/
def recordOf (data : Record) : ConsumedRecord where
  directiveId := Record.field data "directive_id"
  sourceCommitSha := fieldOr data "source_commit_sha" (.str "")
  firstSeenAt := fieldOr data "first_seen_at" (.str "")
  decision := fieldOr data "decision" (.str "")
  decisionReason := fieldOr data "decision_reason" (.str "")
  processedAt := fieldOr data "processed_at" (.str "")

/-- A line that is not blank; one that is no record is passed over. -/
def loadConsumed (records : Consumed) (line : List Char) : Consumed :=
  match Json.loads host.floats (String.ofList line) with
  | some (.dict data) =>
    if (Record.field data "directive_id").truthy then
      match (Record.field data "directive_id").key? with
      | some key => records.set key (recordOf data)
      | none => records
    else records
  | _ => records

/-- `_load_ledger` -/
def loadLedger : Option String → Consumed
  | none => []
  | some content => (strippedLines content).foldl (loadConsumed host) []

/-- The line of a record, without its newline. -/
def consumedLine (record : ConsumedRecord) : List Char := Json.lineOf host.floats record.toDict

end

/-! ### Acknowledgements -/

inductive Decision where
  | accepted
  | rejected
  | waitingHuman
  deriving DecidableEq

def Decision.value : Decision → String
  | accepted => "ACCEPTED"
  | rejected => "REJECTED"
  | waitingHuman => "WAITING_HUMAN"

structure DirectiveAck where
  directiveId : Json
  receivedAt : String
  sourceCommitSha : Json
  validationStatus : ValidationStatus
  decision : Decision
  decisionReason : String
  humanRequired : Bool
  queued : Bool
  executed : Bool
  controlPlaneCommitSha : String
  readbackVerified : Bool
  observerVersion : String := "2.0"

def DirectiveAck.toDict (ack : DirectiveAck) : Record :=
  [("directive_id", ack.directiveId), ("received_at", .str ack.receivedAt), ("source_commit_sha", ack.sourceCommitSha),
    ("validation_status", .str ack.validationStatus.value), ("decision", .str ack.decision.value),
    ("decision_reason", .str ack.decisionReason), ("human_required", .bool ack.humanRequired),
    ("queued", .bool ack.queued), ("executed", .bool ack.executed),
    ("control_plane_commit_sha", .str ack.controlPlaneCommitSha), ("readback_verified", .bool ack.readbackVerified),
    ("observer_version", .str ack.observerVersion)]

/-- What the environment answers while one file is processed. -/
structure FileAnswers where
  authentication : Authentication
  /-- The file is a physical, direct child of the inbox. -/
  physical : Bool
  enqueue : EnqueueAnswers
  recordedAt : String
  /-- The ledger file could be appended to. -/
  ledgerWritten : Bool
  receivedAt : String
  /-- `get_git_commit_sha(..)` -/
  controlPlaneSha : String
  /-- The text of the exception that is quoted, if one is. -/
  cause : String

/-- `write_ack`: the acknowledgement. -/
def newAck (answers : FileAnswers) (directiveId sourceCommitSha : Json) (status : ValidationStatus) (decision : Decision)
    (reason : String) (humanRequired queued : Bool) (readbackVerified : Bool := true) : DirectiveAck where
  directiveId := directiveId
  receivedAt := answers.receivedAt
  sourceCommitSha := sourceCommitSha
  validationStatus := status
  decision := decision
  decisionReason := reason
  humanRequired := humanRequired
  queued := queued
  executed := false
  controlPlaneCommitSha := answers.controlPlaneSha
  readbackVerified := readbackVerified

/-! ### One file -/

inductive Folder where
  | accepted
  | rejected
  | waitingHuman
  deriving DecidableEq

/-- The directories and the memory of a watcher. A file of the inbox may not be readable. -/
structure Channel where
  inbox : Directory (Option String)
  folders : Dict (Folder × String) (Option String)
  acks : Directory DirectiveAck
  consumed : Consumed
  ledger : Option String
  queue : DurableExecutionQueue

/-- A step that shows outside the watcher or in its memory. -/
inductive Effect where
  | enqueued (queue : DurableExecutionQueue)
  | recorded (directiveId : String) (record : ConsumedRecord) (written : Bool)
  | acknowledged (ack : DirectiveAck)
  | moved (name : String) (folder : Folder)

/-- What is done with a file. -/
structure Handling where
  queue : DurableExecutionQueue
  consumed : Option (String × ConsumedRecord)
  ack : DirectiveAck
  folder : Folder

/-- What a file holds. -/
inductive Reading where
  | malformed
  | invalid (raw : Json) (message : String)
  | unparsed (fault : Fault)
  | directive (payload : DirectivePayload) (envelope : DirectiveEnvelope)

/-- `file_path.stem`, of a name that ends in `.json` -/
def stem (name : String) : String := if name = ".json" then name else String.ofList (name.toList.rdrop 5)

def asDict : Json → Record
  | .dict entries => entries
  | _ => []

/-- The id that a document that is not valid is acknowledged under. -/
def rawId (name : String) : Json → Json
  | .dict entries => (Dict.get? entries "directive_id").getD (.str (stem name))
  | _ => .str (stem name)

def rawSha : Json → Json
  | .dict entries =>
    (Dict.get? entries "source_commit_sha").getD ((Dict.get? entries "payload_commit_sha").getD (.str "UNKNOWN_SHA"))
  | _ => .str "UNKNOWN_SHA"

section

variable (host : WatcherHost) (now : String) (answers : FileAnswers) (c : Channel) (name : String)

/-- Validating and parsing a document. -/
def readDocument (raw : Json) : Reading :=
  match validate raw with
  | .error message => .invalid raw message
  | .ok _ =>
    match built host.toHost (asDict raw) with
    | .error fault => .unparsed fault
    | .ok parsed => .directive parsed.1 parsed.2

/-- Reading a file; the text is none where it cannot be decoded. -/
def readInbox (content : Option String) : Reading :=
  match content.bind (Json.loads host.floats) with
  | none => .malformed
  | some raw => readDocument host raw

/-- `enqueue_payload`, behind `_durable_source_path` -/
def enqueueFile (payload : DirectivePayload) (envelope : DirectiveEnvelope) : EnqueueOutcome :=
  if answers.physical = false ∨ isSourcePath ("directives/inbox/" ++ name) = false then
    ⟨c.queue, .error .invalidSourcePath⟩
  else
    enqueuePayload host.toQueueHost answers.enqueue c.queue payload envelope answers.authentication.metadata (some now)
      ("directives/inbox/" ++ name)

/-- `record_consumption`: the record. -/
def consumption (payload : DirectivePayload) (envelope : DirectiveEnvelope) (decision : Decision) (reason : String) :
    String × ConsumedRecord :=
  (payload.directiveId,
    { directiveId := .str payload.directiveId
      sourceCommitSha := .str envelope.payloadCommitSha
      firstSeenAt := .str now
      decision := .str decision.value
      decisionReason := .str reason
      processedAt := .str answers.recordedAt })

/-- Malformed JSON. -/
def handleMalformed : Handling where
  queue := c.queue
  consumed := none
  ack := newAck answers (.str (stem name)) (.str "UNKNOWN_SHA") .schemaInvalid .rejected
    s!"SCHEMA_INVALID: Malformed JSON syntax: {answers.cause}" false false
  folder := .rejected

/-- Step 1: a document that the validator refuses. -/
def handleInvalid (raw : Json) (message : String) : Handling where
  queue := c.queue
  consumed := none
  ack := newAck answers (rawId name raw) (rawSha raw) .schemaInvalid .rejected message false false
  folder := .rejected

/-- Step 2: the id was consumed before. -/
def handleReplay (payload : DirectivePayload) (envelope : DirectiveEnvelope) (existing : ConsumedRecord) : Handling where
  queue := c.queue
  consumed := none
  ack :=
    if existing.sourceCommitSha.str? ≠ some envelope.payloadCommitSha then
      newAck answers (.str payload.directiveId) (.str envelope.payloadCommitSha) .stateConflict .rejected
        s!"STATE_CONFLICT: directive_id {payload.directiveId} resubmitted with different payload commit {String.ofList (envelope.payloadCommitSha.toList.take 7)}"
        false false
    else
      newAck answers (.str payload.directiveId) (.str envelope.payloadCommitSha) .replayDetected .rejected
        s!"REPLAY_DETECTED: Directive {payload.directiveId} has already been processed" false false
  folder := .rejected

/-- Step 3: the authenticator refuses. -/
def handleUnauthentic (payload : DirectivePayload) (envelope : DirectiveEnvelope) : Handling where
  queue := c.queue
  consumed := some (consumption now answers payload envelope .rejected answers.authentication.reason)
  ack := newAck answers (.str payload.directiveId) (.str envelope.payloadCommitSha) answers.authentication.status .rejected
    answers.authentication.reason false false
  folder := .rejected

/-- Step 4: a human has to approve. Whatever the queue raises is passed over. -/
def handleWaiting (payload : DirectivePayload) (envelope : DirectiveEnvelope) : Handling where
  queue := (enqueueFile host now answers c name payload envelope).queue
  consumed := some (consumption now answers payload envelope .waitingHuman answers.authentication.reason)
  ack := newAck answers (.str payload.directiveId) (.str envelope.payloadCommitSha) answers.authentication.status
    .waitingHuman answers.authentication.reason true true
  folder := .waitingHuman

/-- Step 5, where the queue raises. -/
def handleUnqueued (payload : DirectivePayload) (envelope : DirectiveEnvelope) (e : QueueError) : Handling where
  queue := (enqueueFile host now answers c name payload envelope).queue
  consumed := none
  ack := newAck answers (.str payload.directiveId) (.str envelope.payloadCommitSha) .queuePersistenceFailure .rejected
    (e.text answers.cause) false false false
  folder := .rejected

/-- Step 6: the directive is queued. -/
def handleQueued (payload : DirectivePayload) (envelope : DirectiveEnvelope) (item : QueuedDirectiveItem) : Handling where
  queue := (enqueueFile host now answers c name payload envelope).queue
  consumed := some (consumption now answers payload envelope .accepted answers.authentication.reason)
  ack := newAck answers (.str payload.directiveId) (.str envelope.payloadCommitSha) answers.authentication.status .accepted
    answers.authentication.reason false true item.readbackVerified
  folder := .accepted

/-- Steps 2 to 6, for a directive that could be parsed. -/
def handleDirective (payload : DirectivePayload) (envelope : DirectiveEnvelope) : Handling :=
  match c.consumed.get? (.str payload.directiveId) with
  | some existing => handleReplay answers c payload envelope existing
  | none =>
    if answers.authentication.status ≠ .authentic then handleUnauthentic now answers c payload envelope
    else if answers.authentication.requiresHumanWait then handleWaiting host now answers c name payload envelope
    else
      match (enqueueFile host now answers c name payload envelope).result with
      | .error e => handleUnqueued host now answers c name payload envelope e
      | .ok item => handleQueued host now answers c name payload envelope item

/-- One turn of the loop; an exception of the parsers is not caught. -/
def handle : Reading → Except Fault Handling
  | .malformed => .ok (handleMalformed answers c name)
  | .invalid raw message => .ok (handleInvalid answers c name raw message)
  | .unparsed fault => .error fault
  | .directive payload envelope => .ok (handleDirective host now answers c name payload envelope)

/-- The effects of a turn, in their order. -/
def Handling.effects (h : Handling) : List Effect :=
  .enqueued h.queue :: (h.consumed.toList.map fun made => .recorded made.1 made.2 answers.ledgerWritten) ++
    [.acknowledged h.ack, .moved name h.folder]

/-- `json.dump(ack.to_dict(), f, indent=2)` -/
def ackText (ack : DirectiveAck) : String := Json.dumpsIndented host.floats.repr 2 (.dict ack.toDict)

def ackPlace (ack : DirectiveAck) : AckPlace := host.place (host.shown ack.directiveId)

def Channel.perform : Effect → Channel
  | .enqueued queue => { c with queue := queue }
  | .recorded directiveId record written =>
    { c with
      consumed := c.consumed.set (.str directiveId) record
      ledger := if written then appended c.ledger (consumedLine host.toHost record ++ ['\n']) else c.ledger }
  | .acknowledged ack =>
    match ackPlace host ack with
    | .acks name => { c with acks := c.acks.write name ack }
    | .inbox name => { c with inbox := c.inbox.write name (some (ackText host ack)) }
    | .elsewhere => c
    | .refused => c
  | .moved name folder =>
    { c with
      inbox := c.inbox.remove name
      folders := c.folders.set (folder, name) (c.inbox.get? name).join }

def Channel.performAll (effects : List Effect) : Channel := effects.foldl (Channel.perform host) c

end

/-! ### A poll -/

/-- What the environment answers during one poll: `now_iso`, and for each file. -/
structure PollAnswers where
  now : String
  file : String → FileAnswers

/-- What came of a poll; an exception leaves the rest of the inbox as it is. -/
structure Polled where
  channel : Channel
  /-- The files that were processed, with the acknowledgements that are returned. -/
  handled : List (String × DirectiveAck)
  fault : Option Fault

section

variable (host : WatcherHost) (answers : PollAnswers)

/-- The loop over the names. -/
def pollFiles : Channel → List String → Polled
  | c, [] => ⟨c, [], none⟩
  | c, name :: rest =>
    match handle host answers.now (answers.file name) c name (readInbox host (c.inbox.get? name).join) with
    | .error fault => ⟨c, [], some fault⟩
    | .ok h =>
      let polled := pollFiles (c.performAll host (h.effects (answers.file name) name)) rest
      { polled with handled := (name, h.ack) :: polled.handled }

/-- `DirectiveWatcher.poll_inbox` -/
def pollInbox (c : Channel) : Polled := pollFiles host answers c c.inbox.names

/-- A file that comes to the inbox. -/
def Channel.submit (c : Channel) (name : String) (content : Option String) : Channel :=
  { c with inbox := c.inbox.write name content }

/-- A watcher that is started on these directories. -/
def Channel.restart (c : Channel) : Except QueueError Channel :=
  match loadExecutionQueue host.toQueueHost c.queue.file with
  | .error e => .error e
  | .ok items => .ok { c with consumed := loadLedger host.toHost c.ledger, queue := ⟨items, c.queue.file⟩ }

end

/-! ### What a turn does -/

/-- The id that a file is acknowledged under. -/
def Reading.ackId (name : String) : Reading → Option Json
  | malformed => some (.str (stem name))
  | invalid raw _ => some (rawId name raw)
  | unparsed _ => none
  | directive payload _ => some (.str payload.directiveId)

/-- The inbox once an acknowledgement was written. -/
def ackedInbox (host : WatcherHost) (inbox : Directory (Option String)) (ack : DirectiveAck) : Directory (Option String) :=
  match ackPlace host ack with
  | .inbox name => inbox.write name (some (ackText host ack))
  | _ => inbox

/-- The acknowledgements once one was written. -/
def ackedAcks (host : WatcherHost) (acks : Directory DirectiveAck) (ack : DirectiveAck) : Directory DirectiveAck :=
  match ackPlace host ack with
  | .acks name => acks.write name ack
  | _ => acks

section

variable {host : WatcherHost} {now : String} {answers : FileAnswers} {c : Channel} {name : String} {reading : Reading}
  {payload : DirectivePayload} {envelope : DirectiveEnvelope} {h : Handling} {ack : DirectiveAck}

theorem perform_ack : c.perform host (.acknowledged ack) =
    { c with inbox := ackedInbox host c.inbox ack, acks := ackedAcks host c.acks ack } := by
  cases place : ackPlace host ack <;> simp only [Channel.perform, ackedInbox, ackedAcks, place]

/-- A turn, all of it: the queue, the record if there is one, the acknowledgement and the move. -/
theorem performAll_effects : c.performAll host (h.effects answers name) =
    ((((h.consumed.toList.map fun made => Effect.recorded made.1 made.2 answers.ledgerWritten).foldl
      (Channel.perform host) (c.perform host (.enqueued h.queue))).perform host (.acknowledged h.ack)).perform host
        (.moved name h.folder)) := by
  unfold Channel.performAll Handling.effects
  rw [List.cons_append, List.foldl_cons, List.foldl_append]
  rfl

/-- The channel once the directive was recorded, if it is. -/
theorem recorded_frame {d : Channel} {made : Option (String × ConsumedRecord)}
    (same : d = (made.toList.map fun made => Effect.recorded made.1 made.2 answers.ledgerWritten).foldl
      (Channel.perform host) c) :
    d.inbox = c.inbox ∧ d.acks = c.acks ∧ d.queue = c.queue ∧ d.folders = c.folders := by
  subst same
  cases made <;> exact ⟨rfl, rfl, rfl, rfl⟩

theorem performAll_inbox : (c.performAll host (h.effects answers name)).inbox = (ackedInbox host c.inbox h.ack).remove name := by
  obtain ⟨inbox, -⟩ := @recorded_frame host answers (c.perform host (.enqueued h.queue)) _ h.consumed rfl
  rw [performAll_effects, perform_ack]
  change (ackedInbox host _ h.ack).remove name = _
  rw [inbox]
  rfl

theorem performAll_queue : (c.performAll host (h.effects answers name)).queue = h.queue := by
  obtain ⟨-, -, queue, -⟩ := @recorded_frame host answers (c.perform host (.enqueued h.queue)) _ h.consumed rfl
  rw [performAll_effects, perform_ack]
  exact queue

end

/-! ### A directive to run -/

def authentic : Authentication :=
  ⟨.authentic, "AUTHENTIC: Directive source authenticated and validated successfully", false, ⟨some "h1", some "b1", some "K"⟩⟩

end ControlPlane.Directive
