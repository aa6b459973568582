import ControlPlane.Directive.DurableQueue

/-!
# Reconciling the evidence of execution

`reconciler.py`: the records of the queue, of the ledger of consumed directives and of the
acknowledgements, grouped by directive, checked against each other and counted.
-/

namespace ControlPlane.Directive

open ControlPlane.Data

def executionStates : List String := ["EXECUTED", "COMPLETED"]

def terminalFailureStates : List String := ["REJECTED", "FAILED"]

def knownReadOnlyActions : List String :=
  ["STATUS_REQUEST", "AUDIT_REQUEST", "READ_ONLY_ANALYSIS", "GENERATE_REPORT", "RUN_CONTROL_PLANE_TESTS",
    "RUN_READ_ONLY_OBSERVATION", "PREPARE_NEXT_STAGE", "NO_OP"]

def knownMutatingActions : List String := ["MUTATE", "TARGET_MUTATION", "DESTRUCTIVE", "EXECUTE_RECOVERY"]

/-- `v in states or w in states or ..`; a list or a dictionary cannot be looked up in a set. -/
def among (states : List String) : List Json → Except Fault Bool
  | [] => .ok false
  | v :: rest =>
    match v.key? with
    | none => .error .typeError
    | some (.str s) => if s ∈ states then .ok true else among states rest
    | some _ => among states rest

/-- `v is b` -/
def isConstant (b : Bool) : Json → Bool
  | .bool c => b == c
  | _ => false

def isExplicitlyExecuted (item : Record) : Except Fault Bool :=
  if isConstant true (Record.field item "executed") then .ok true
  else
    among executionStates
      [Record.field item "execution_status", Record.field item "status", Record.field item "state", Record.field item "decision"]

section

variable (host : QueueHost)

def isTerminallyFailedOrRejected (item : Record) : Except Fault Bool := do
  let failed ← among terminalFailureStates
    [Record.field item "decision", Record.field item "status", Record.field item "execution_status", Record.field item "state"]
  if failed then return true
  if isConstant false (Record.field item "executed") then
    let again ← among terminalFailureStates
      [Record.field item "decision", Record.field item "status", Record.field item "execution_status"]
    let error := host.shown (fieldOr item "error" (.str ""))
    return again || occursIn "REJECTED" error || occursIn "FAILED" error
  return false

/-- `item.get("action_type") or payload.get("action_type")` -/
def actionTypeOf (item : Record) : Except Fault Json :=
  let own := Record.field item "action_type"
  if own.truthy then .ok own
  else
    match fieldOr item "directive_payload" (.dict []) with
    | .dict payload => .ok (Record.field payload "action_type")
    | _ => .error .attributeError

def determineMutationType (item : Record) : Except Fault (Option Bool) :=
  match Dict.get? item "mutating" with
  | some (.bool b) => .ok (some b)
  | _ => do
    let actionType ← actionTypeOf item
    let readOnly ← among knownReadOnlyActions [actionType]
    if readOnly then return some false
    let mutating ← among knownMutatingActions [actionType]
    if mutating then return some true
    return none

/-! ### The sources -/

/-- What stands on disk; a content that cannot be decoded is none. -/
structure EvidenceSources where
  queueFile : Option (Option String)
  consumedFile : Option (Option String)
  /-- The files of the acknowledgement directory; none where it is missing. -/
  ackFiles : List (Option String)

def missingSources (s : EvidenceSources) : List String :=
  (if s.queueFile.isNone then ["directives/runtime/execution_queue.jsonl"] else []) ++
    (if s.consumedFile.isNone then ["directives/runtime/consumed_directives.jsonl"] else []) ++
    (if s.ackFiles.isEmpty then ["directives/ack/*.json"] else [])

/-- `json.loads(line)` for the lines that are not blank; a file that cannot be decoded ends in an exception. -/
def lineValues : Option (Option String) → List (Option Json)
  | some (some content) =>
    ((openLines content).filter fun line => !(strip line).isEmpty).map fun line => Json.loads host.floats (String.ofList line)
  | _ => [none]

def ackValue (content : Option String) : Option Json := content.bind (Json.loads host.floats)

/-- The records of one directive. -/
structure Evidence where
  queue : List Record := []
  consumed : List Record := []
  ack : List Record := []

inductive EvidenceSource where
  | queue
  | consumed
  | ack
  deriving DecidableEq

def Evidence.add (e : Evidence) (item : Record) : EvidenceSource → Evidence
  | .queue => { e with queue := e.queue ++ [item] }
  | .consumed => { e with consumed := e.consumed ++ [item] }
  | .ack => { e with ack := e.ack ++ [item] }

/-- `all_items` -/
def Evidence.all (e : Evidence) : List Record := e.queue ++ e.consumed ++ e.ack

/-- `records_by_directive`, each directive with its id as it came first. -/
abbrev RecordsByDirective := Dict Json.Key (Json × Evidence)

/-- The loop for one source, and none where it raises. -/
def readSource (source : EvidenceSource) : RecordsByDirective → List (Option Json) → Option RecordsByDirective
  | records, [] => some records
  | records, some (.dict item) :: rest =>
    let did := Record.field item "directive_id"
    if did.truthy then
      match did.key? with
      | none => none
      | some key =>
        let known := (records.get? key).getD (did, {})
        readSource source (records.set key (known.1, known.2.add item source)) rest
    else readSource source records rest
  | _, _ :: _ => none

/-- The three sources, one after the other. -/
def readEvidence (s : EvidenceSources) : Option RecordsByDirective :=
  match readSource .queue [] (lineValues host s.queueFile) with
  | none => none
  | some records =>
    match readSource .consumed records (lineValues host s.consumedFile) with
    | none => none
    | some records => readSource .ack records (s.ackFiles.map (ackValue host))

/-! ### The analysis -/

/-- `any(p(item) for item in items)` -/
def anyOf (p : Record → Except Fault Bool) : List Record → Except Fault Bool
  | [] => .ok false
  | item :: rest =>
    match p item with
    | .error fault => .error fault
    | .ok true => .ok true
    | .ok false => anyOf p rest

/-- `mutation_types` -/
def mutationTypes : List Record → Except Fault (List (Option Bool))
  | [] => .ok []
  | item :: rest =>
    match isExplicitlyExecuted item with
    | .error fault => .error fault
    | .ok false => mutationTypes rest
    | .ok true => do
      let type ← determineMutationType item
      let types ← mutationTypes rest
      return type :: types

/-- What the analysis finds of one directive. -/
inductive Judgement where
  | idle
  | contradiction
  | unclassified
  | executed (mutating : Bool)

def judge (items : List Record) : Except Fault Judgement := do
  let hasExecuted ← anyOf isExplicitlyExecuted items
  let hasTerminalFailure ← anyOf (isTerminallyFailedOrRejected host) items
  if hasExecuted && hasTerminalFailure then return .contradiction
  if !hasExecuted then return .idle
  let types ← mutationTypes items
  if types.any (·.isNone) then return .unclassified
  return .executed (types.any fun type => type = some true)

/-- How the loop ends. -/
inductive Analysis where
  | inconsistent
  | unknown
  | counted (executedIds : List Json) (mutatingCount : Nat)

def analyse (executedIds : List Json) (mutatingCount : Nat) : List (Json × Evidence) → Except Fault Analysis
  | [] => .ok (.counted executedIds mutatingCount)
  | (did, sources) :: rest =>
    match judge host sources.all with
    | .error fault => .error fault
    | .ok .contradiction => .ok .inconsistent
    | .ok .unclassified => .ok .unknown
    | .ok .idle => analyse executedIds mutatingCount rest
    | .ok (.executed mutating) =>
      analyse (executedIds ++ [did]) (if mutating then mutatingCount + 1 else mutatingCount) rest

/-- `sorted(ids)`; texts and numbers cannot be compared. -/
def sortedIds (ids : List Json) : Except Fault (List Json) :=
  if ids.all (·.str?.isSome) then
    .ok (ids.mergeSort fun a b => !decide (b.str?.getD "" < a.str?.getD ""))
  else if ids.all (·.number?.isSome) then
    .ok (ids.mergeSort fun a b => !decide (b.number?.getD .nan < a.number?.getD .nan))
  else .error .typeError

structure Reconciliation where
  available : Bool
  complete : Bool
  consistent : Bool
  sourceCount : Nat
  requiredSourceCount : Nat := 3
  missingSources : List String := []
  executedDirectiveCount : Option Nat := none
  executedDirectiveIds : List Json := []
  mutatingDirectivesExecuted : Option Nat := none
  error : Option String

def reconcileExecutionEvidence (s : EvidenceSources) : Except Fault Reconciliation :=
  let missing := missingSources s
  if !missing.isEmpty then
    .ok { available := false, complete := false, consistent := false, sourceCount := 3 - missing.length,
          missingSources := missing, error := some "EXECUTION_EVIDENCE_INCOMPLETE" }
  else
    match readEvidence host s with
    | none =>
      .ok { available := false, complete := false, consistent := false, sourceCount := 3 - missing.length,
            error := some "EXECUTION_EVIDENCE_CORRUPT" }
    | some records =>
      match analyse host [] 0 (records.map (·.2)) with
      | .error fault => .error fault
      | .ok .inconsistent =>
        .ok { available := true, complete := true, consistent := false, sourceCount := 3,
              error := some "EXECUTION_EVIDENCE_INCONSISTENT" }
      | .ok .unknown =>
        .ok { available := true, complete := true, consistent := false, sourceCount := 3,
              error := some "EXECUTION_CLASSIFICATION_UNKNOWN" }
      | .ok (.counted executedIds mutatingCount) =>
        match sortedIds executedIds with
        | .error fault => .error fault
        | .ok ids =>
          .ok { available := true, complete := true, consistent := true, sourceCount := 3,
                executedDirectiveCount := some executedIds.length, executedDirectiveIds := ids,
                mutatingDirectivesExecuted := some mutatingCount, error := none }

end

end ControlPlane.Directive
