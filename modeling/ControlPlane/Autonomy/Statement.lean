import ControlPlane.Autonomy.ExecutionTransactions
import ControlPlane.Interleaving.Protocol

/-!
# Statements

What one connection sends to the database at once: a query, an update outside any
transaction, or a whole transaction. The last few are not SQL; they ask the
environment. An update carries what its caller passed and read, also where the SQL
text does not mention it.
-/

namespace ControlPlane.Autonomy

open Data Interleaving

inductive Stmt : Type → Type where
  -- queries
  | selectTask (id : String) : Stmt (Option TaskRow)
  | selectTaskByDirective (directive : String) : Stmt (Option TaskRow)
  | selectWorker (id : String) : Stmt (Option WorkerRow)
  | selectWorkerIds : Stmt (List String)
  | countActive (worker : String) (n : ℚ) : Stmt Nat
  | selectSchedulable (limit : Nat) : Stmt (List TaskRow)
  | selectStale (n : ℚ) : Stmt (List String)
  | selectExpired (n : ℚ) : Stmt (List String)
  | selectGrant (id : String) : Stmt (Option GrantRow)
  | selectTransaction (id : String) : Stmt (Option TransactionRow)
  | selectWorkspace (id : String) : Stmt (Option WorkspaceRow)
  -- updates outside a transaction
  | audit (task event : String) (n : ℚ) (details : String) : Stmt Unit
  | registerWorker (w : WorkerRow) : Stmt Unit
  | heartbeat (worker : String) (observed : ℚ) : Stmt Nat
  | chargeStale (task : String) (read : TaskRow) (n : ℚ) : Stmt Unit
  | chargeFailure (task lease : String) (read : TaskRow) (reason code : String) (n : ℚ) : Stmt Unit
  | completeTask (task : String) (n : ℚ) : Stmt Unit
  | waitForCapacity (task : String) (n : ℚ) : Stmt Unit
  | insertWorkspace (row : WorkspaceRow) : Stmt Unit
  | rebindWorkspace (workspace : String) : Stmt Unit
  | verifyWorkspace (workspace : String) (n : ℚ) : Stmt Unit
  | blockWorkspace (workspace reason : String) (n : ℚ) : Stmt Unit
  | blockSource (reason : String) : Stmt Unit
  -- transactions of the store
  | createTask (t : NewTask) (n : ℚ) : Stmt Unit
  | publishCapacity (worker : String) (capacity : Int) (observed : ℚ) : Stmt Unit
  | claim (task worker : String) (seconds : PyFloat) (n : ℚ) : Stmt Lease
  | renew (task worker lease : String) (expires : PyFloat) (n : ℚ) : Stmt PyFloat
  | start (ack : Option String) (task worker lease : String) (n : ℚ) : Stmt Unit
  | reclaim (task : String) (n : ℚ) : Stmt Unit
  | submitResult (task worker lease evidence sha : String) (n : ℚ) : Stmt Unit
  | markWaiting (task : String) (n : ℚ) : Stmt Unit
  -- transactions of execution and ingestion
  | issueGrant (q : GrantRequest) (identify : String → String → String) (n : ℚ) : Stmt String
  | beginApply (plan : Plan) (n : ℚ) : Stmt Unit
  | finishApply (plan : Plan) (envelope sha : String) (now : ℚ) : Stmt Unit
  | terminalizeFailure (grantId : String) (state : GrantState) (code : String) (n : ℚ) : Stmt Unit
  | settleRecovery (grant : GrantRow) (outcome : Recovered) (n : ℚ) : Stmt Unit
  | ingestEntry (e : QueueEntry) : Stmt Bool
  -- the environment
  | clock : Stmt PyFloat
  | session (workerId sessionId : String) (n : ℚ) : Stmt Bool
  | resolveWorkspace (workspace target : String) : Stmt Descriptor
  | physicalId (workspace : Descriptor) : Stmt String
  | actual (workspace : Descriptor) (path : String) : Stmt String
  | change (workspace : Descriptor) (path : String) : Stmt Unit

variable {α : Type}

/-- A block that raises leaves the database as it was, also where the connection
is left inside the transaction. -/
def transaction (db : Db) : Except Err (Committed α) → Db × Answer α
  | .ok committed => committed
  | .error e => (db, .error e)

/-- `start` and `start_with_ack` differ in their message and events. -/
def startEvents (ack : Option String) (worker : String) : List (String × String) :=
  match ack with
  | none => [("RUNNING", worker)]
  | some details => [("ACKED", details), ("RUNNING", worker)]

def perform : Stmt α → Input → Db → Db × Answer α
  | .selectTask id, _, db => (db, .ok (db.tasks.find? id))
  | .selectTaskByDirective directive, _, db => (db, .ok (db.tasks.rows.find? fun r => r.directiveId = some directive))
  | .selectWorker id, _, db => (db, .ok (db.workers.find? id))
  | .selectWorkerIds, _, db => (db, .ok (sortIds (db.workers.rows.map WorkerRow.workerId)))
  | .countActive worker n, _, db => (db, .ok (db.activeLeases worker n))
  | .selectSchedulable limit, _, db => (db, .ok (db.schedulable limit))
  | .selectStale n, _, db => (db, .ok (db.staleTasks n))
  | .selectExpired n, _, db => (db, .ok (db.expiredLeases n))
  | .selectGrant id, _, db => (db, .ok (db.grants.find? id))
  | .selectTransaction id, _, db => (db, .ok (db.transactions.find? id))
  | .selectWorkspace id, _, db => (db, .ok (db.workspaces.find? id))
  | .audit task event n details, _, db => (db.log task event n details, .ok ())
  | .registerWorker w, _, db => transaction db (upsertWorker w db)
  | .heartbeat worker observed, _, db => transaction db (touchWorker worker observed db)
  | .chargeStale task read n, _, db => (Autonomy.chargeStale task read n db, .ok ())
  | .chargeFailure task _ read reason code n, _, db => (Autonomy.chargeFailure task read reason code n db, .ok ())
  | .completeTask task n, _, db => (Autonomy.completeTask task n db, .ok ())
  | .waitForCapacity task n, _, db => (Autonomy.waitForCapacity task n db, .ok ())
  | .insertWorkspace row, _, db => transaction db (Autonomy.insertWorkspace row db)
  | .rebindWorkspace workspace, _, db => (db.rebindWorkspace workspace, .ok ())
  | .verifyWorkspace workspace n, _, db => (db.verifyWorkspace workspace n, .ok ())
  | .blockWorkspace workspace reason n, _, db => (db.blockWorkspace workspace reason n, .ok ())
  | .blockSource reason, _, db => (db.blockSource reason, .ok ())
  | .createTask t n, _, db => transaction db (insertTask t n db)
  | .publishCapacity worker capacity observed, _, db => transaction db (Autonomy.publishCapacity worker capacity observed db)
  | .claim task worker seconds n, x, db => transaction db (claimTask task worker seconds n x.uuid db)
  | .renew task worker lease expires n, _, db => transaction db (renewLease task worker lease expires n db)
  | .start ack task worker lease n, _, db =>
    let message := if ack.isSome then "cannot acknowledge" else "cannot run"
    transaction db (startTask message (startEvents ack worker) task worker lease n db)
  | .reclaim task n, _, db => transaction db (reclaimTask task n db)
  | .submitResult task worker lease evidence sha n, _, db =>
    transaction db (receiveResult task worker lease evidence sha n db)
  | .markWaiting task n, _, db => transaction db (Autonomy.markWaiting task n db)
  | .issueGrant q identify n, x, db => transaction db (insertGrant q identify n x db)
  | .beginApply plan n, x, db => transaction db (Autonomy.beginApply plan n x db)
  | .finishApply plan envelope sha now, x, db => transaction db (Autonomy.finishApply plan envelope sha now x db)
  | .terminalizeFailure grantId state code n, _, db =>
    transaction db (Autonomy.terminalizeFailure grantId state code n db)
  | .settleRecovery grant outcome n, _, db => transaction db (Autonomy.settleRecovery grant outcome n db)
  | .ingestEntry e, _, db => transaction db (Autonomy.ingestEntry e db)
  | .clock, x, db => (db, .ok x.clock)
  | .session .., x, db => (db, x.session)
  | .resolveWorkspace .., x, db => (db, x.workspace)
  | .physicalId _, x, db => (db, x.physicalId)
  | .actual _ path, x, db => (db, x.actual path)
  | .change .., x, db => (db, x.change)

/-- What the caller sees when the store is locked: some methods translate it. -/
def lockedError : Stmt α → Err
  | .publishCapacity .. | .claim .. | .start (some _) .. | .markWaiting .. | .issueGrant .. | .ingestEntry _ =>
    .blocked "store busy"
  | _ => .operational

def exec (s : Stmt α) (x : Input) (db : Db) : Db × Answer α :=
  if x.busy then (db, .error (lockedError s)) else perform s x db

/-- One connection's statements, at the granularity of a statement or a transaction. -/
def connections : Machine Err Stmt Input Db := ⟨exec⟩

end ControlPlane.Autonomy
