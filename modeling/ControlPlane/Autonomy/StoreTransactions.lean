import ControlPlane.Autonomy.Clean
import ControlPlane.Autonomy.Schema
import ControlPlane.Data.Check

/-!
# The store's transactions

What each `BEGIN IMMEDIATE .. COMMIT` block of the store, and each single `UPDATE`
outside one, does to the database. An `.error` is a block that did not commit; an
`.ok (db, .error e)` is one that committed and then raised.
-/

namespace ControlPlane.Autonomy

open Data

/-- What a block commits, and what the caller sees. -/
abbrev Committed (α : Type) := Db × Answer α

def Db.log (db : Db) (task event : String) (n : ℚ) (details : String := "") : Db :=
  { db with audit := db.audit ++ [⟨task, event, n, clean details⟩] }

/-- A `SELECT` or `UPDATE` condition: the named task, in one of these states. -/
def TaskRow.named (id : String) (states : TaskState → Bool) (r : TaskRow) : Prop :=
  r.taskId = id ∧ states r.state

instance (id : String) (states : TaskState → Bool) : DecidablePred (TaskRow.named id states) :=
  fun _ => inferInstanceAs (Decidable (_ ∧ _))

/-- `SELECT count(*) .. WHERE assigned_worker_id=? AND state IN('LEASED','RUNNING') AND lease_expires_at>?` -/
def Db.activeLeases (db : Db) (worker : String) (n : ℚ) : Nat :=
  db.tasks.rows.countP fun r => r.assignedWorkerId = some worker ∧ r.state.working ∧ r.Live n

structure Lease where
  taskId : String
  workerId : String
  leaseId : String
  expiresAt : PyFloat
  deriving DecidableEq

/-! ### Creation -/

structure NewTask where
  taskId : String
  directiveId : Option String
  targetProject : String
  capability : String
  priority : Int := 0
  requiresHumanApproval : Int := 0
  governanceAllowed : Int := 0
  retryBudget : Nat := 0

def NewTask.state (t : NewTask) : TaskState :=
  if t.requiresHumanApproval = 0 then .queued else .waitingHuman

/-- `clean(directive_id) or None` -/
def cleanDirective (directive : Option String) : Option String :=
  let cleaned := clean (directive.getD "")
  if cleaned = "" then none else some cleaned

def NewTask.row (t : NewTask) (n : ℚ) : TaskRow where
  taskId := clean t.taskId
  directiveId := cleanDirective t.directiveId
  targetProject := clean t.targetProject
  capability := clean t.capability
  state := t.state
  priority := t.priority
  createdAt := n
  updatedAt := n
  requiresHumanApproval := t.requiresHumanApproval
  governanceAllowed := t.governanceAllowed
  retryBudget := t.retryBudget

/-- `INSERT INTO tasks` under the primary key and `UNIQUE(directive_id)`. -/
def Db.insertTask (db : Db) (r : TaskRow) : Except Err Db := do
  require (r.directiveId = none ∨ ∀ s ∈ db.tasks.rows, s.directiveId ≠ r.directiveId) .integrity
  let tasks ← found (db.tasks.insert? r) .integrity
  return { db with tasks }

def insertTask (t : NewTask) (n : ℚ) (db : Db) : Except Err (Committed Unit) :=
  match db.insertTask (t.row n) with
  | .ok db => .ok (db.log t.taskId "CREATED" n t.state.name, .ok ())
  | .error _ => .error (.blocked "duplicate task")

/-! ### Workers -/

/-- One `INSERT .. ON CONFLICT(worker_id) DO UPDATE`, no block; `nan` fails NOT NULL. -/
def upsertWorker (w : WorkerRow) (db : Db) : Except Err (Committed Unit) := do
  require (w.heartbeatSla ≠ .nan) .integrity
  let workers := db.workers.upsert w
    (fun old => { old with
      kind := w.kind, capabilities := w.capabilities, targets := w.targets
      lastHeartbeat := w.lastHeartbeat, heartbeatSla := w.heartbeatSla, capacity := w.capacity })
    fun _ => rfl
  return ({ db with workers }, .ok ())

/-- `UPDATE workers SET last_heartbeat=?`; the row count decides in the caller. -/
def touchWorker (worker : String) (observed : ℚ) (db : Db) : Except Err (Committed Nat) := do
  let workers := db.workers.update (fun w => w.workerId = worker)
    (fun w => { w with lastHeartbeat := observed }) fun _ => rfl
  return ({ db with workers }, .ok (db.workers.rowcount fun w => w.workerId = worker))

def publishCapacity (worker : String) (capacity : Int) (observed : ℚ) (db : Db) : Except Err (Committed Unit) := do
  require (db.workers.rowcount (fun w => w.workerId = clean worker) = 1) (.blocked "unknown worker")
  let workers := db.workers.update (fun w => w.workerId = clean worker)
    (fun w => { w with lastHeartbeat := observed, capacity }) fun _ => rfl
  return ({ db with workers }, .ok ())

/-! ### Leases -/

def TaskRow.claimed (worker lease : String) (expires : PyFloat) (heartbeat n : ℚ) (r : TaskRow) : TaskRow :=
  { r with
    state := .leased, assignedWorkerId := some worker, leaseId := some lease
    leaseExpiresAt := expires.stored, lastWorkerHeartbeat := some heartbeat, updatedAt := n }

/-- `claim`; `lease` is the answer of `uuid.uuid4().hex`. The `UNIQUE(lease_id)`
constraint raises past every handler. -/
def claimTask (task worker : String) (seconds : PyFloat) (n : ℚ) (lease : String) (db : Db) :
    Except Err (Committed Lease) := do
  let t ← found (db.tasks.find? task) (.blocked "not leaseable")
  let w ← found (db.workers.find? worker) (.blocked "not leaseable")
  require (t.state.leaseable ∧ t.requiresHumanApproval = 0 ∧ t.governanceAllowed ≠ 0) (.blocked "not leaseable")
  require (¬ w.Stale n) (.blocked "stale worker")
  require (t.capability ∈ w.capabilities ∧ t.targetProject ∈ w.targets) (.blocked "incompatible worker")
  require ((db.activeLeases worker n : Int) < w.capacity) (.blocked "capacity exhausted")
  let expires := .fin n + seconds
  require (db.tasks.rowcount (TaskRow.named task TaskState.leaseable) = 1) (.blocked "claim lost")
  require (∀ r ∈ db.tasks.rows, r.taskId ≠ task → r.leaseId ≠ some lease) .integrity
  let tasks := db.tasks.update (TaskRow.named task TaskState.leaseable)
    (TaskRow.claimed worker lease expires w.lastHeartbeat n) fun _ => rfl
  return (Db.log { db with tasks } task "LEASED" n worker, .ok ⟨task, worker, lease, expires⟩)

/-- The `WHERE` of `renew` and of both starts: the lease, still held and still live. -/
def TaskRow.heldBy (task worker lease : String) (states : TaskState → Bool) (n : ℚ) (r : TaskRow) : Prop :=
  r.taskId = task ∧ r.assignedWorkerId = some worker ∧ r.leaseId = some lease ∧ states r.state ∧ r.Live n

instance (task worker lease : String) (states : TaskState → Bool) (n : ℚ) :
    DecidablePred (TaskRow.heldBy task worker lease states n) :=
  fun _ => inferInstanceAs (Decidable (_ ∧ _ ∧ _ ∧ _ ∧ _))

def TaskRow.renewed (expires : PyFloat) (n : ℚ) (r : TaskRow) : TaskRow :=
  { r with leaseExpiresAt := expires.stored, updatedAt := n }

def renewLease (task worker lease : String) (expires : PyFloat) (n : ℚ) (db : Db) : Except Err (Committed PyFloat) := do
  require (db.tasks.rowcount (TaskRow.heldBy task worker lease TaskState.working n) = 1) (.blocked "invalid lease owner")
  let tasks := db.tasks.update (TaskRow.heldBy task worker lease TaskState.working n)
    (TaskRow.renewed expires n) fun _ => rfl
  return (Db.log { db with tasks } task "LEASE_RENEWED" n worker, .ok expires)

def TaskRow.started (n : ℚ) (r : TaskRow) : TaskRow := { r with state := .running, updatedAt := n }

/-- `start` and `start_with_ack`: the same guards and update, with their own
message and audit events. -/
def startTask (message : String) (events : List (String × String)) (task worker lease : String) (n : ℚ)
    (db : Db) : Except Err (Committed Unit) := do
  let w ← found (db.workers.find? worker) (.blocked message)
  require (¬ w.Stale n) (.blocked message)
  require (db.tasks.rowcount (TaskRow.heldBy task worker lease (· = .leased) n) = 1) (.blocked message)
  let tasks := db.tasks.update (TaskRow.heldBy task worker lease (· = .leased) n)
    (TaskRow.started n) fun _ => rfl
  return (events.foldl (fun db e => db.log task e.1 n e.2) { db with tasks }, .ok ())

/-- `"DEAD_LETTER" if a>t["retry_budget"] else "RETRYING"`, for the row that was read. -/
def afterFailure (t : TaskRow) : TaskState :=
  if t.attemptCount + 1 > t.retryBudget then .deadLetter else .retrying

theorem afterFailure_open (read : TaskRow) : afterFailure read ≠ .completed := by
  unfold afterFailure
  split <;> decide

theorem afterFailure_idle (t : TaskRow) : (afterFailure t).working = false := by
  unfold afterFailure
  split <;> rfl

/-- `SET state=?,attempt_count=?,assigned_worker_id=NULL,lease_id=NULL,lease_expires_at=NULL,updated_at=?`:
the attempt is charged against the row that was read, whatever the row is now. -/
def TaskRow.charged (read : TaskRow) (n : ℚ) (r : TaskRow) : TaskRow :=
  { r.released with state := afterFailure read, attemptCount := read.attemptCount + 1, updatedAt := n }

def reclaimTask (task : String) (n : ℚ) (db : Db) : Except Err (Committed Unit) := do
  let t ← found (db.tasks.find? task) (.blocked "not reclaimable")
  require t.state.working (.blocked "not reclaimable")
  -- comparing NULL with the clock raises past the handler
  let expires ← found t.leaseExpiresAt (.other "TypeError")
  require (¬ PyFloat.fin n < expires) (.blocked "not reclaimable")
  let lapsed (r : TaskRow) : Prop := r.named task TaskState.working ∧ r.Lapsed n
  require (db.tasks.rowcount lapsed = 1) (.blocked "reclaim lost")
  let tasks := db.tasks.update lapsed (TaskRow.charged t n) fun _ => rfl
  return (Db.log { db with tasks } task "LEASE_EXPIRED" n (afterFailure t).name, .ok ())

/-! ### Updates outside a transaction

Each names the task by id alone; what was checked was checked by an earlier statement. -/

def Db.updateTask (db : Db) (task : String) (f : TaskRow → TaskRow) (keeps : ∀ r, (f r).taskId = r.taskId) : Db :=
  { db with tasks := db.tasks.update (fun r => r.taskId = task) f keeps }

def TaskRow.chargedStale (read : TaskRow) (n : ℚ) (r : TaskRow) : TaskRow :=
  { read.charged n r with errorCode := some "STALE_WORKER" }

def TaskRow.chargedFailure (read : TaskRow) (reason code : String) (n : ℚ) (r : TaskRow) : TaskRow :=
  { read.charged n r with terminalReason := some (clean reason), errorCode := some (clean code) }

def TaskRow.completed (n : ℚ) (r : TaskRow) : TaskRow :=
  { r.released with state := .completed, evidenceStatus := .valid, updatedAt := n }

def TaskRow.waiting (n : ℚ) (r : TaskRow) : TaskRow := { r with state := .waitingCapacity, updatedAt := n }

def chargeStale (task : String) (read : TaskRow) (n : ℚ) (db : Db) : Db :=
  db.updateTask task (read.chargedStale n) fun _ => rfl

def chargeFailure (task : String) (read : TaskRow) (reason code : String) (n : ℚ) (db : Db) : Db :=
  db.updateTask task (read.chargedFailure reason code n) fun _ => rfl

def completeTask (task : String) (n : ℚ) (db : Db) : Db :=
  db.updateTask task (TaskRow.completed n) fun _ => rfl

def waitForCapacity (task : String) (n : ℚ) (db : Db) : Db :=
  db.updateTask task (TaskRow.waiting n) fun _ => rfl

/-! ### Results -/

/-- `re.fullmatch(r"[0-9a-fA-F]{64}",sha256)` -/
def isHex64 (s : String) : Bool :=
  s.toList.length = 64 && s.toList.all fun c => c.isDigit || ('a' ≤ c && c ≤ 'f') || ('A' ≤ c && c ≤ 'F')

def lower (s : String) : String := String.ofList (s.toList.map Char.toLower)

/-- `INSERT INTO evidence` under the primary key and `UNIQUE(task_id,sha256)`. -/
def Db.insertEvidence (db : Db) (e : EvidenceRow) : Except Err Db := do
  require (∀ s ∈ db.evidence.rows, ¬ (s.taskId = e.taskId ∧ s.sha256 = e.sha256)) (.blocked "duplicate evidence")
  let evidence ← found (db.evidence.insert? e) (.blocked "duplicate evidence")
  return { db with evidence }

def TaskRow.evidenceMissing (r : TaskRow) : TaskRow :=
  { r with state := .evidencePending, evidenceStatus := .missingOrInvalid }

def TaskRow.received (n : ℚ) (r : TaskRow) : TaskRow :=
  { r with state := .reviewPending, evidenceStatus := .received, updatedAt := n }

theorem TaskRow.received_taskId (n : ℚ) : ∀ r : TaskRow, (r.received n).taskId = r.taskId := fun _ => rfl

def receiveResult (task worker lease evidence sha : String) (n : ℚ) (db : Db) : Except Err (Committed Unit) := do
  let t ← found (db.tasks.find? task) (.blocked "invalid result owner")
  let w ← found (db.workers.find? worker) (.blocked "invalid result owner")
  require ((t.state.working ∨ t.state = .evidencePending) ∧ t.assignedWorkerId = some worker ∧
    t.leaseId = some lease) (.blocked "invalid result owner")
  let expires ← found t.leaseExpiresAt (.other "TypeError")
  require (¬ expires ≤ PyFloat.fin n ∧ ¬ w.Stale n) (.blocked "invalid result owner")
  if evidence = "" ∨ sha = "" ∨ ¬ isHex64 sha then
    return (db.updateTask task TaskRow.evidenceMissing fun _ => rfl, .error (.blocked "evidence required"))
  let db ← db.insertEvidence ⟨task, clean evidence, lower sha, n⟩
  return ((db.updateTask task (TaskRow.received n) (TaskRow.received_taskId n)).log task "RESULT_RECEIVED" n evidence, .ok ())

def markWaiting (task : String) (n : ℚ) (db : Db) : Except Err (Committed Unit) := do
  let waits (r : TaskRow) : Prop :=
    r.named (clean task) TaskState.leaseable ∧ r.requiresHumanApproval = 0 ∧ r.governanceAllowed = 1
  require (db.tasks.rowcount waits = 1) (.blocked "task cannot wait for capacity")
  let tasks := db.tasks.update waits (TaskRow.waiting n) fun _ => rfl
  return (Db.log { db with tasks } task "WAITING_CAPACITY" n "no verified external session", .ok ())

/-! ### Queries -/

/-- `schedulable_tasks`: `ORDER BY priority DESC,created_at ASC,task_id ASC LIMIT ?` -/
def TaskRow.before (r s : TaskRow) : Prop :=
  r.priority > s.priority ∨ r.priority = s.priority ∧ (r.createdAt < s.createdAt ∨
    r.createdAt = s.createdAt ∧ r.taskId < s.taskId)

instance : DecidableRel TaskRow.before := fun _ _ => inferInstanceAs (Decidable (_ ∨ _))

def insertBy (before : TaskRow → TaskRow → Prop) [DecidableRel before] (r : TaskRow) : List TaskRow → List TaskRow
  | [] => [r]
  | s :: rest => if before s r then s :: insertBy before r rest else r :: s :: rest

def Db.schedulable (db : Db) (limit : Nat) : List TaskRow :=
  let rows := db.tasks.rows.filter fun r =>
    r.state.leaseable && r.requiresHumanApproval = 0 && r.governanceAllowed = 1
  (rows.foldr (insertBy TaskRow.before) []).take limit

def sortIds (ids : List String) : List String := ids.foldr insertSorted []

theorem mem_sortIds {ids : List String} {id : String} : id ∈ sortIds ids ↔ id ∈ ids := by
  induction ids with
  | nil => simp [sortIds]
  | cons first rest ih => rw [sortIds, List.foldr_cons, mem_insertSorted, ← sortIds, ih, List.mem_cons]

theorem sortIds_nodup (ids : List String) : (sortIds ids).Nodup := by
  have sorted : (sortIds ids).Pairwise (· < ·) := by
    induction ids with
    | nil => exact .nil
    | cons first rest ih => exact insertSorted_sorted ih
  exact sorted.imp fun below => ne_of_lt below

/-- The rows `reconcile_stale_workers` selects: RUNNING, with an owner that is stale. -/
def Db.staleTasks (db : Db) (n : ℚ) : List String :=
  sortIds ((db.tasks.rows.filter fun r => r.state = .running ∧
    ∃ w ∈ db.workers.rows, r.assignedWorkerId = some w.workerId ∧ w.Stale n).map TaskRow.taskId)

theorem mem_staleTasks {db : Db} {n : ℚ} {task : String} (stale : task ∈ db.staleTasks n) :
    ∃ r ∈ db.tasks.rows, r.taskId = task ∧ r.state = .running := by
  obtain ⟨r, member, rfl⟩ := List.mem_map.mp (mem_sortIds.mp stale)
  obtain ⟨there, running⟩ := List.mem_filter.mp member
  exact ⟨r, there, rfl, (of_decide_eq_true running).1⟩

def Db.expiredLeases (db : Db) (n : ℚ) : List String :=
  sortIds ((db.tasks.rows.filter fun r => r.state.working ∧ r.Lapsed n).map TaskRow.taskId)

end ControlPlane.Autonomy
