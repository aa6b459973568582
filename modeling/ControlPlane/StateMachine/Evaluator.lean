import ControlPlane.Data.Json.Dynamic
import Mathlib.Data.List.Infix
import Mathlib.Data.List.Sort
import Mathlib.Data.List.Dedup

/-!
# The state evaluator

`evaluator.py`: the evidence files of a project are gone through in the order of their map, and
one canonical state is chosen by their tiers. The declared states are kept in a set, whose order
is the interpreter's.
-/

namespace ControlPlane.StateMachine

open ControlPlane.Data

inductive CanonicalState where
  | running | developing | idleValid | stale | humanRequired | completed | unknown
  deriving DecidableEq

inductive VerificationStatus where
  | verified | localOnly | conflict | branchNotFound | authFailure | networkFailure | timeout | gitFailure
  deriving DecidableEq

structure VerifiedField where
  localObservedValue : Json
  remoteVerifiedValue : Json
  verificationStatus : VerificationStatus

/-- One file of evidence; `parsedData` is null where it was not read. -/
structure EvidenceItem where
  fileExists : Bool
  ageSeconds : Option ℚ
  parsedData : Json

/-- What git said of a project. -/
structure GitInfo where
  branch : Option String
  remoteHead : Option String
  localHead : Option String
  remoteBranchExists : Bool
  remoteQueryStderrCategory : String

/-- What was observed of a project. A dictionary has each path once. -/
structure Observed where
  project : String
  gitInfo : GitInfo
  processExpected : Bool
  processRunning : Bool
  unexpectedProcess : Bool
  matchedProcessName : Json
  evidenceMap : Dict String EvidenceItem
  distinct : evidenceMap.Distinct

/-- What the interpreter computes: instants in seconds, and the texts of values. -/
structure Interpreter where
  fromisoformat : String → Option ℚ
  str : Json → String
  /-- `f"{age:.1f}"` -/
  tenths : ℚ → String
  floatText : PyFloat → String

structure Evaluator where
  staleThreshold : PyFloat
  currentTime : ℚ

/-- An order in which the elements of a set are gone through. -/
structure SetOrder (α : Type) where
  arrange : List α → List α
  perm : ∀ elements, (arrange elements).Perm elements

/-- `part in text` -/
def mentions (text part : String) : Bool := decide (part.toList <:+: text.toList)

/-- A text, or `None`. -/
def textOrNone (s : Option String) : Json := (s.map Json.str).getD .null

/-- `a or b` -/
def either (a b : Json) : Json := if a.truthy then a else b

/-- The levels a declared status comes with, in the order of their texts. -/
inductive Level where
  | runtimeHeartbeat
  | committedRuntimeEvidence
  | staticDeclaredStatus
  deriving DecidableEq

def Level.rank : Level → Nat
  | runtimeHeartbeat => 2
  | committedRuntimeEvidence => 4
  | staticDeclaredStatus => 5

/-- `parse_iso_timestamp` -/
def parseIsoTimestamp (py : Interpreter) : Json → Option ℚ
  | .str ts => if ts = "" then none else
      py.fromisoformat (String.ofList (ts.toList.flatMap fun c => if c = 'Z' then "+00:00".toList else [c]))
  | _ => none

/-! ### Reading the evidence -/

/-- What has been read so far. -/
structure Reading where
  stage : Json := .null
  branch : Json
  localHead : Json
  lastHeartbeat : Json := .null
  lastSuccessfulCycle : Json := .null
  lastError : Json := .null
  testStatus : Record := []
  criticalGates : Dict Json.Key Json := []
  humanReq : Bool := false
  nextAction : Json := .null
  evidenceFreshness : Dict String (Option ℚ) := []
  evidenceSources : List String := []
  declaredStatuses : Dict String (Json × Level) := []

/-- A pair that `dict.update` takes from an element of a list. -/
def pairOf? : Json → Option (Json.Key × Json)
  | .str s =>
    match s.toList with
    | [a, b] => some (.str (String.ofList [a]), .str (String.ofList [b]))
    | _ => none
  | .list [k, v] => k.key?.map fun key => (key, v)
  | .dict [(k, _), (k', _)] => some (.str k, .str k')
  | _ => none

/-- The pairs that `dict.update` takes from a value; others it refuses. -/
def updates? : Json → Option (List (Json.Key × Json))
  | .dict es => some (es.map fun e => (.str e.1, e.2))
  | .list xs => xs.mapM pairOf?
  | _ => none

/-- The time that a file of evidence carries. -/
def stampOf (data : Record) : Option Json :=
  match data.get? "timestamp", data.get? "last_update", data.field "heartbeat" with
  | some (.str ts), _, _ => some (.str ts)
  | _, some (.str ts), _ => some (.str ts)
  | _, _, .dict heartbeat =>
    let ts := either (Record.field heartbeat "last_update") (Record.field heartbeat "timestamp")
    if ts.truthy then some ts else none
  | _, _, _ => none

/-- The status in a heartbeat, which is read where the file has no time of its own. -/
def heartbeatStatus (data : Record) : Option Json :=
  match data.get? "timestamp", data.get? "last_update", data.field "heartbeat" with
  | some (.str _), _, _ => none
  | _, some (.str _), _ => none
  | _, _, .dict heartbeat =>
    match Record.field heartbeat "status" with
    | .str s => if s = "" then none else some (.str s)
    | _ => none
  | _, _, _ => none

/-- The kinds of files, by what their path mentions first. -/
inductive Kind where
  | agentStatus | projectState | currentStage | watcherState | other
  deriving DecidableEq

def kindOf (path : String) : Kind :=
  if mentions path "AGENT_STATUS.json" then .agentStatus
  else if mentions path "PROJECT_STATE.json" then .projectState
  else if mentions path "CURRENT_STAGE.json" then .currentStage
  else if mentions path "WATCHER_STATE.json" then .watcherState
  else .other

/-- A path that asks for a human by its name. -/
def asksHuman (path : String) : Bool :=
  mentions path "HUMAN_APPROVAL_REQUIRED" || mentions path "HUMAN_DECISION_REQUIRED"

namespace Reading

variable (r : Reading) (path : String) (data : Record)

def declare (status : Json) (level : Level) : Reading :=
  { r with declaredStatuses := r.declaredStatuses.set path (status, level) }

/-- `if status: declared_statuses[rel_path] = …` -/
def declareIf (status : Json) (level : Level) : Reading := if status.truthy then r.declare path status level else r

/-- The time of a file, and the status that its heartbeat declares. -/
def stamped : Reading :=
  let timed := match stampOf data with
    | some ts => { r with lastHeartbeat := ts }
    | none => r
  match heartbeatStatus data with
  | some status => timed.declare path status .runtimeHeartbeat
  | none => timed

/-- `AGENT_STATUS.json` -/
def agentStatus : Option Reading :=
  let declared := r.declareIf path (data.field "status") .committedRuntimeEvidence
  let branched := { declared with branch := if (data.field "branch").truthy then either r.branch (data.field "branch") else r.branch }
  if (data.field "gates").truthy then
    (updates? (data.field "gates")).map fun pairs =>
      { branched with criticalGates := pairs.foldl (fun d e => d.set e.1 e.2) r.criticalGates }
  else some branched

/-- `PROJECT_STATE.json` -/
def projectState : Reading :=
  let declared := { r with stage := data.field "stage" }.declareIf path (data.field "status") .committedRuntimeEvidence
  { declared with
    branch := if (data.field "branch").truthy then either r.branch (data.field "branch") else r.branch
    localHead := if (data.field "last_commit").truthy then either r.localHead (data.field "last_commit") else r.localHead
    testStatus := match data.field "tests_passed" with
      | .null => r.testStatus
      | passed => (r.testStatus.set "passed" passed).set "failed" ((data.get? "tests_failed").getD (.int 0))
    criticalGates := match data.field "critical_gate_failure" with
      | .null => r.criticalGates
      | failure => r.criticalGates.set (.str "critical_gate_failure") failure
    humanReq := r.humanReq || (data.field "human_approval_required").truthy
    nextAction := if (data.field "next_action").truthy then data.field "next_action" else r.nextAction }

/-- `CURRENT_STAGE.json` -/
def currentStage : Reading :=
  { r with stage := either r.stage (data.field "stage") }.declareIf path (data.field "status") .staticDeclaredStatus

/-- `WATCHER_STATE.json` -/
def watcherState : Reading :=
  match data.field "heartbeat" with
  | .dict hb => { r with
      lastError := if (Record.field hb "last_error").truthy then Record.field hb "last_error" else r.lastError
      lastSuccessfulCycle := if (Record.field hb "last_successful_fetch").truthy then
        Record.field hb "last_successful_fetch" else r.lastSuccessfulCycle }
  | _ => r

/-- A file of another name declares its status where its heartbeat has not. -/
def otherFile : Reading :=
  match data.get? "status", r.declaredStatuses.get? path with
  | some (.str s), none => r.declare path (.str s) .committedRuntimeEvidence
  | _, _ => r

/-- What the name of a file makes of its content. -/
def tiered : Option Reading :=
  match kindOf path with
  | .agentStatus => r.agentStatus path data
  | .projectState => some (r.projectState path data)
  | .currentStage => some (r.currentStage path data)
  | .watcherState => some (r.watcherState data)
  | .other => some (r.otherFile path data)

/-- A file that exists is a source. -/
def seen (item : EvidenceItem) : Reading :=
  { r with
    evidenceSources := r.evidenceSources ++ [path]
    evidenceFreshness := r.evidenceFreshness.set path item.ageSeconds
    humanReq := r.humanReq || asksHuman path }

end Reading

/-- `item.parsed_data or {}`, where it is a dictionary. -/
def EvidenceItem.data? (item : EvidenceItem) : Option Record :=
  match either item.parsedData (.dict []) with
  | .dict data => some data
  | _ => none

/-- One round of the loop over the evidence; it raises where the gates cannot be taken over. -/
def readItem (r : Reading) (e : String × EvidenceItem) : Option Reading :=
  if !e.2.fileExists then some { r with evidenceFreshness := r.evidenceFreshness.set e.1 none }
  else
    match e.2.data? with
    | some data => ((r.seen e.1 e.2).stamped e.1 data).tiered e.1 data
    | none => some (r.seen e.1 e.2)

def readEvidence (o : Observed) : Option Reading :=
  o.evidenceMap.foldlM readItem { branch := textOrNone o.gitInfo.branch, localHead := textOrNone o.gitInfo.localHead }

/-! ### Contradictions and the choice -/

structure Declaration where
  source : String
  status : Json.Key
  level : Level
  deriving DecidableEq

/-- `UNKNOWN` is no declaration. -/
def declares : Json → Bool
  | .str s => s ≠ "UNKNOWN"
  | .null => false
  | _ => true

def declaration? (e : String × Json × Level) : Option Declaration :=
  if declares e.2.1 then e.2.1.key?.map fun status => ⟨e.1, status, e.2.2⟩ else none

/-- `unique_declarations`; a list or a dictionary cannot be put into a set. -/
def uniqueDeclarations (declared : Dict String (Json × Level)) : Option (List Declaration) :=
  if declared.all fun e => !declares e.2.1 || e.2.1.key?.isSome then some (declared.filterMap declaration?) else none

/-- `heartbeat_age_seconds` of the last time that was read. -/
def heartbeatAge (py : Interpreter) (ev : Evaluator) (lastHeartbeat : Json) : Option ℚ :=
  (parseIsoTimestamp py lastHeartbeat).map fun stamp => max 0 (ev.currentTime - stamp)

/-- Whether a heartbeat of this age is over the threshold. -/
def overThreshold (ev : Evaluator) : Option ℚ → Bool
  | some age => decide (ev.staleThreshold < .fin age)
  | none => false

/-- `state_conflict` and `conflicting_sources` -/
def contradictions (o : Observed) (unique : List Declaration) : Bool × List String :=
  let values := (unique.map (·.status)).dedup
  let many := decide (1 < values.length)
  let stopped := o.processExpected && !o.processRunning &&
    (decide (Json.Key.str "RUNNING" ∈ values) || decide (Json.Key.str "ACTIVE" ∈ values))
  let sources := if many then unique.map (·.source) else []
  let sources := if stopped && decide ("process_table" ∉ sources) then sources ++ ["process_table"] else sources
  (many || stopped || o.unexpectedProcess,
    if o.unexpectedProcess && decide ("unexpected_process" ∉ sources) then sources ++ ["unexpected_process"] else sources)

/-- A file that speaks for the whole project. -/
def projectLevel (d : Declaration) : Bool :=
  mentions d.source "PROJECT_STATE" || mentions d.source "AGENT_STATUS" || mentions d.source "CURRENT_STAGE" ||
    mentions d.source "old_state"

/-- `target_list` -/
def targets (unique : List Declaration) : List Declaration :=
  if (unique.filter projectLevel).isEmpty then unique else unique.filter projectLevel

/-- The first of the targets when they are sorted by their level. -/
def winner (unique : List Declaration) : Option Declaration :=
  ((targets unique).insertionSort fun a b => a.level.rank ≤ b.level.rank).head?

structure Verdict where
  status : CanonicalState
  statusSource : String
  reason : String
  confidence : ℚ

/-- What a winning status says. -/
inductive Outlook where
  | review
  | development
  | idle
  deriving DecidableEq

def outlook (status : Option Json.Key) : Outlook :=
  if status ∈ [some (.str "READY_FOR_REVIEW"), some (.str "READY_FOR_AUDIT"), some (.str "PASS")] then .review
  else if status ∈ [some (.str "PLANNED"), some (.str "DEVELOPING")] then .development
  else .idle

/-- `winning_src or "4_COMMITTED_RUNTIME_EVIDENCE"` -/
def sourceName (winning : Option String) : String :=
  if winning.getD "" = "" then "4_COMMITTED_RUNTIME_EVIDENCE" else winning.getD ""

/-- `next_action or default` in a text. -/
def actionText (py : Interpreter) (nextAction : Json) (default : String) : String := py.str (either nextAction (.str default))

/-- What a reason ends with where a process runs that is not expected. -/
def inconsistency (py : Interpreter) (o : Observed) : String :=
  if o.unexpectedProcess then
    " [INCONSISTENCY: Unexpected active process running (" ++ py.str o.matchedProcessName ++ ") when process_expected=False]"
  else ""

/-- The verdict where only the evidence decides. -/
def byEvidence (py : Interpreter) (o : Observed) (nextAction : Json) (winning : Option Declaration) : Verdict :=
  let source := sourceName (winning.map (·.source))
  match outlook (winning.map (·.status)) with
  | .review =>
    if o.project = "ORACLE-AI" then
      ⟨.completed, source, "Prospective live-market soak completed and final economic validation passed" ++ inconsistency py o, 95 / 100⟩
    else
      ⟨.idleValid, source,
        "Stage valid and idle awaiting audit. Next action: " ++ actionText py nextAction "Audit" ++ inconsistency py o, 9 / 10⟩
  | .development => ⟨.developing, source, "Project currently under active development" ++ inconsistency py o, 85 / 100⟩
  | .idle => ⟨.idleValid, source, "Project is in a valid idle state with verified static evidence" ++ inconsistency py o, 85 / 100⟩

/-- The precedence of the observations, the first that applies. -/
def verdict (py : Interpreter) (ev : Evaluator) (o : Observed) (r : Reading) (unique : List Declaration) : Verdict :=
  let age := heartbeatAge py ev r.lastHeartbeat
  if o.processExpected && o.processRunning then
    ⟨.running, "1_LOCAL_PROCESS_OBSERVATION", "Active expected process running (" ++ py.str o.matchedProcessName ++ ")", 1⟩
  else if o.processExpected then
    ⟨.stale, "1_LOCAL_PROCESS_OBSERVATION", "Process expected to be running but OS process table shows inactive", 85 / 100⟩
  else if r.humanReq then
    ⟨.humanRequired, "HUMAN_APPROVAL_GATE",
      "Human decision/approval required. Next action: " ++ actionText py r.nextAction "Human Review", 95 / 100⟩
  else if r.evidenceSources.isEmpty then ⟨.unknown, "NONE", "No evidence files found or repository unavailable", 0⟩
  else if overThreshold ev age then
    ⟨.stale, "2_RUNTIME_HEARTBEAT", "Heartbeat age (" ++ py.tenths (age.getD 0) ++ "s) exceeds project threshold (" ++
      py.floatText ev.staleThreshold ++ "s)", 75 / 100⟩
  else byEvidence py o r.nextAction (winner unique)

/-! ### The remote verification -/

/-- The status of the head and of the branch, before the heads are compared. -/
def queryStatus (git : GitInfo) (localHead : Json) : VerificationStatus :=
  match git.remoteQueryStderrCategory with
  | "VERIFIED" => .verified
  | "BRANCH_NOT_FOUND" => .branchNotFound
  | "AUTH_FAILURE" => .authFailure
  | "NETWORK_FAILURE" => .networkFailure
  | "TIMEOUT" => .timeout
  | _ => if localHead.truthy && !(textOrNone git.remoteHead).truthy then .localOnly else .gitFailure

/-- `local_head and remote_head and local_head != remote_head` -/
def headsDiffer (git : GitInfo) (localHead : Json) : Bool :=
  localHead.truthy && (textOrNone git.remoteHead).truthy && decide (localHead.str? ≠ git.remoteHead)

/-- A value that counts as verified remotely under a verified status only. -/
def verifiedField (value : Json) (status : VerificationStatus) : VerifiedField :=
  ⟨value, if status = .verified then value else .null, status⟩

def CanonicalState.value : CanonicalState → String
  | running => "RUNNING"
  | developing => "DEVELOPING"
  | idleValid => "IDLE_VALID"
  | stale => "STALE"
  | humanRequired => "HUMAN_REQUIRED"
  | completed => "COMPLETED"
  | unknown => "UNKNOWN"

/-- What is computed of a project; the fields that are copied from the observation are left out. -/
structure NormalizedProjectState where
  stage : Json
  branch : Json
  localHead : Json
  lastHeartbeat : Json
  heartbeatAgeSeconds : Option ℚ
  lastSuccessfulCycle : Json
  lastError : Json
  testStatus : Record
  criticalGates : Dict Json.Key Json
  humanRequired : Bool
  nextAction : Json
  evidenceFreshness : Dict String (Option ℚ)
  evidenceSources : List String
  verdict : Verdict
  stateConflict : Bool
  conflictingSources : List String
  verifiedStage : VerifiedField
  verifiedBranch : VerifiedField
  verifiedHead : VerifiedField
  verifiedStatus : VerifiedField

/-- The state, from what was read and the declarations in their order. -/
def normalized (py : Interpreter) (ev : Evaluator) (o : Observed) (r : Reading) (unique : List Declaration) :
    NormalizedProjectState :=
  let conflict := contradictions o unique
  let decided := verdict py ev o r unique
  let branchStatus := queryStatus o.gitInfo r.localHead
  let headStatus := if headsDiffer o.gitInfo r.localHead then .conflict else branchStatus
  let settled := if headStatus = .verified then .verified else .localOnly
  { stage := r.stage
    branch := r.branch
    localHead := r.localHead
    lastHeartbeat := r.lastHeartbeat
    heartbeatAgeSeconds := heartbeatAge py ev r.lastHeartbeat
    lastSuccessfulCycle := r.lastSuccessfulCycle
    lastError := r.lastError
    testStatus := r.testStatus
    criticalGates := r.criticalGates
    humanRequired := r.humanReq
    nextAction := r.nextAction
    evidenceFreshness := r.evidenceFreshness
    evidenceSources := r.evidenceSources
    verdict := decided
    stateConflict := conflict.1
    conflictingSources := conflict.2
    verifiedStage := verifiedField r.stage settled
    verifiedBranch := ⟨r.branch, if o.gitInfo.remoteBranchExists then r.branch else .null, branchStatus⟩
    verifiedHead := ⟨r.localHead, textOrNone o.gitInfo.remoteHead, headStatus⟩
    verifiedStatus := verifiedField (.str decided.status.value) (if conflict.1 then .conflict else settled) }

/-- `evaluate`, when the set of declarations is gone through in this order. -/
def evaluate (py : Interpreter) (ev : Evaluator) (order : SetOrder Declaration) (o : Observed) : Option NormalizedProjectState := do
  let r ← readEvidence o
  let unique ← uniqueDeclarations r.declaredStatuses
  some (normalized py ev o r (order.arrange unique))

end ControlPlane.StateMachine
