import ControlPlane.Autonomy.Clients

/-!
# Who sends what

Six statements are only as good as what their caller looked at before. Each is sent
by one operation, so each is justified by reading that operation.
-/

namespace ControlPlane.Autonomy

open Data Interleaving Procedure

/-- The kinds of write that rely on an earlier statement of their operation, and a
write that no operation sends. -/
inductive Writer where
  | none | stale | failure | completion | routing | application | recovery | nobody
  deriving DecidableEq

def Stmt.writer {β : Type} : Stmt β → Writer
  | .chargeStale .. => .stale
  | .chargeFailure .. => .failure
  | .completeTask .. => .completion
  | .waitForCapacity .. => .routing
  | .finishApply .. => .application
  | .settleRecovery .. => .recovery
  | .terminalizeFailure _ .failed .. | .terminalizeFailure _ .integrityBlocked .. => .none
  | .terminalizeFailure .. => .nobody
  | _ => .none

def Op.writer {α : Type} : Op α → Writer
  | .reconcileStaleWorkers _ => .stale
  | .failAttempt .. => .failure
  | .completeAfterReview .. => .completion
  | .routeOrWait .. => .routing
  | .apply .. => .application
  | .recover .. => .recovery
  | _ => .none

/-- No statement of the procedure relies on an earlier one, up to writes of kind `w`. -/
def Sends {α : Type} (w : Writer) (p : Store α) : Prop := Procedure.All (fun s => s.writer = .none ∨ s.writer = w) p

section

variable {α β : Type} {w : Writer} {host : Host}

theorem sends_pure {a : α} : Sends w (pure a : Store α) := all_pure a

theorem sends_throw {e : Err} : Sends w (throw e : Store α) := all_throw e

theorem sends_ask {s : Stmt α} (known : s.writer = .none ∨ s.writer = w) : Sends w (ask s) := all_ask known

theorem sends_bind {p : Store α} {k : α → Store β} (first : Sends w p) (rest : ∀ a, Sends w (k a)) : Sends w (p >>= k) :=
  All.bind first rest

theorem sends_attempt {p : Store α} (body : Sends w p) : Sends w (attempt p) := Program.All.bind body fun _ => trivial

theorem sends_now {n : PyFloat} : Sends w (Store.now n) := by
  unfold Store.now
  split
  · exact sends_pure
  · exact sends_throw

theorem sends_check {c : Prop} [Decidable c] {e : Err} : Sends w (Store.check c e) := by
  unfold Store.check
  split
  · exact sends_pure
  · exact sends_throw

theorem sends_row {o : Option α} {e : Err} : Sends w (Store.row o e) := by
  cases o
  · exact sends_throw
  · exact sends_pure

theorem sends_task {id : String} : Sends w (Store.task id) :=
  sends_bind (sends_ask (.inl rfl)) fun _ => sends_row

theorem sends_workerStatus {worker : String} {now : PyFloat} : Sends w (Store.workerStatus worker now) :=
  sends_bind sends_now fun _ => sends_bind (sends_ask (.inl rfl)) fun _ => sends_bind sends_row fun _ =>
    sends_bind (sends_ask (.inl rfl)) fun _ => sends_pure

theorem sends_reconcileRows {n : ℚ} {ids : List String} : Sends .stale (Store.reconcileRows n ids) := by
  induction ids with
  | nil => exact sends_pure
  | cons id rest ih =>
    exact sends_bind sends_task fun _ => sends_bind (sends_ask (.inr rfl)) fun _ => sends_bind (sends_ask (.inl rfl))
      fun _ => sends_bind ih fun _ => sends_pure

theorem sends_firstAvailable {t : TaskRow} {n : ℚ} {ids : List String} : Sends w (Store.firstAvailable t n ids) := by
  induction ids with
  | nil => exact sends_pure
  | cons id rest ih =>
    refine sends_bind sends_workerStatus fun s => ?_
    split
    · exact sends_pure
    · exact ih

theorem sends_openController {workspaces : List Descriptor} : Sends w (Execution.openController workspaces) := by
  induction workspaces with
  | nil => exact sends_pure
  | cons d rest ih =>
    refine sends_bind (sends_ask (.inl rfl)) fun known => ?_
    repeat' first
      | exact ih
      | exact sends_pure
      | exact sends_ask (.inl rfl)
      | refine sends_bind ?_ fun _ => ?_
      | split

theorem sends_workspaceAuthority {grant : GrantRow} {n : ℚ} : Sends w (Execution.workspaceAuthority grant n) := by
  unfold Execution.workspaceAuthority
  repeat' first
    | exact sends_pure
    | exact sends_throw
    | exact sends_row
    | exact sends_check
    | exact sends_attempt (sends_ask (.inl rfl))
    | exact sends_ask (.inl rfl)
    | refine sends_bind ?_ fun _ => ?_
    | split

theorem sends_freshAuthority {grantId : String} : Sends w (Execution.freshAuthority grantId) := by
  unfold Execution.freshAuthority Execution.freshAuthority.liftExcept
  repeat' first
    | exact sends_pure
    | exact sends_throw
    | exact sends_now
    | exact sends_row
    | exact sends_check
    | exact sends_workspaceAuthority
    | exact sends_ask (.inl rfl)
    | refine sends_bind ?_ fun _ => ?_
    | split

theorem sends_expectFile {workspace : Descriptor} {path digest : String} {e : Err} :
    Sends w (Execution.expectFile workspace path digest e) :=
  sends_bind (sends_ask (.inl rfl)) fun _ => sends_check

theorem sends_backUp {workspace : Descriptor} {files : List FileRow} {taken : Nat} :
    Sends w (Execution.backUp workspace files taken) := by
  induction files generalizing taken with
  | nil => exact sends_pure
  | cons file rest ih =>
    refine sends_bind (sends_attempt sends_expectFile) fun checked => ?_
    cases checked
    · exact sends_pure
    · exact ih

theorem sends_changeFiles {grantId : String} {files : List FileRow} : Sends w (Execution.changeFiles grantId files) := by
  induction files with
  | nil => exact sends_pure
  | cons file rest ih =>
    exact sends_bind sends_freshAuthority fun _ => sends_bind sends_expectFile fun _ => sends_bind (sends_ask (.inl rfl))
      fun _ => sends_bind sends_expectFile fun _ => sends_bind (sends_ask (.inl rfl)) fun _ => ih

theorem sends_expectFiles {workspace : Descriptor} {digest : FileRow → String} {e : Err} {files : List FileRow} :
    Sends w (Execution.expectFiles workspace digest e files) := by
  induction files with
  | nil => exact sends_pure
  | cons file rest ih => exact sends_bind sends_expectFile fun _ => ih

theorem sends_restoreFiles {workspace : Descriptor} {files : List FileRow} :
    Sends w (Execution.restoreFiles workspace files) := by
  induction files with
  | nil => exact sends_pure
  | cons file rest ih => exact sends_bind ih fun _ => sends_ask (.inl rfl)

theorem sends_actualFiles {workspace : Descriptor} {files : List FileRow} :
    Sends w (Execution.actualFiles workspace files) := by
  induction files with
  | nil => exact sends_pure
  | cons file rest ih => exact sends_bind (sends_ask (.inl rfl)) fun _ => sends_bind ih fun _ => sends_pure

theorem sends_finish {plan : Plan} : Sends .application (Execution.finish host plan) :=
  sends_bind sends_freshAuthority fun _ => sends_bind sends_expectFiles fun _ => sends_bind (sends_ask (.inr rfl))
    fun _ => sends_bind (sends_ask (.inl rfl)) fun _ => sends_row

theorem sends_abandon {plan : Plan} {e : Err} {n : ℚ} : Sends w (Execution.abandon plan e n) := by
  unfold Execution.abandon
  repeat' first
    | exact sends_pure
    | exact sends_throw
    | exact sends_ask (.inl rfl)
    | refine sends_bind ?_ fun _ => ?_
    | split

theorem sends_rollBack {plan : Plan} {workspace : Descriptor} {taken : Nat} {e : Err} {n : ℚ} :
    Sends w (Execution.rollBack plan workspace taken e n) := by
  refine sends_bind (sends_attempt ?_) fun restored => ?_
  · exact sends_bind (sends_ask (.inl rfl)) fun _ => sends_bind (sends_ask (.inl rfl)) fun _ => sends_bind sends_check
      fun _ => sends_bind sends_restoreFiles fun _ => sends_expectFiles
  · cases restored with
    | ok u => exact sends_bind (sends_ask (.inl rfl)) fun _ => sends_throw
    | error e' =>
      exact sends_bind (sends_ask (.inl rfl)) fun _ => sends_bind (sends_ask (.inl rfl)) fun _ => sends_throw

theorem sends_apply {plan : Plan} {now : PyFloat} : Sends .application (Execution.apply host plan now) := by
  unfold Execution.apply
  repeat' first
    | exact sends_pure
    | exact sends_now
    | exact sends_ask (.inl rfl)
    | exact sends_freshAuthority
    | exact sends_abandon
    | exact sends_rollBack
    | exact sends_backUp
    | exact sends_changeFiles
    | exact sends_finish
    | refine sends_attempt ?_
    | refine sends_bind ?_ fun _ => ?_
    | dsimp only
    | split

theorem sends_recover {grantId : String} {now : PyFloat} : Sends .recovery (Execution.recover host grantId now) := by
  unfold Execution.recover Execution.grant Execution.transaction
  repeat' first
    | exact sends_pure
    | exact sends_throw
    | exact sends_now
    | exact sends_check
    | exact sends_row
    | exact sends_workspaceAuthority
    | exact sends_actualFiles
    | exact sends_ask (.inl rfl)
    | exact sends_attempt (sends_ask (.inr rfl))
    | refine sends_bind ?_ fun _ => ?_
    | dsimp only
    | split

theorem sends_grant {grantId : String} : Sends w (Execution.grant grantId) :=
  sends_bind sends_check fun _ => sends_bind (sends_ask (.inl rfl)) fun _ => sends_row

theorem sends_issueGrant {q : GrantRequest} {now : PyFloat} : Sends w (Execution.issueGrant host q now) :=
  sends_bind sends_now fun _ => sends_bind sends_check fun _ => sends_bind sends_check fun _ =>
    sends_bind (sends_ask (.inl rfl)) fun _ => sends_grant

theorem sends_routeOrWait {task : String} {now : PyFloat} : Sends .routing (Store.routeOrWait task now) := by
  refine sends_bind sends_now fun n => sends_bind sends_task fun t => sends_bind sends_check fun _ =>
    sends_bind (sends_ask (.inl rfl)) fun ids => sends_bind sends_firstAvailable fun worker => ?_
  cases worker with
  | some id => exact sends_pure
  | none => exact sends_bind (sends_ask (.inr rfl)) fun _ => sends_bind (sends_ask (.inl rfl)) fun _ => sends_pure

theorem sends_createTask {t : NewTask} {budget : Int} {now : PyFloat} : Sends w (Store.createTask t budget now) := by
  refine sends_bind sends_now fun n => sends_bind sends_check fun _ => ?_
  split
  all_goals
    refine sends_bind ?_ fun known => ?_
    · first
      | exact sends_pure
      | exact sends_ask (.inl rfl)
    · cases known
      · exact sends_bind (sends_ask (.inl rfl)) fun _ => sends_task
      · exact sends_bind sends_check fun _ => sends_pure

/-- Each late write is sent by its own operation only. -/
theorem op_sends (op : Op α) : Sends op.writer (op.run host) := by
  cases op with
  | createTask => exact sends_createTask
  | workerStatus => exact sends_workerStatus
  | task => exact sends_task
  | routeOrWait => exact sends_routeOrWait
  | openController => exact sends_openController
  | apply => exact sends_apply
  | recover => exact sends_recover
  | reconcileStaleWorkers => exact sends_bind sends_now fun _ => sends_bind (sends_ask (.inl rfl)) fun _ => sends_reconcileRows
  | failAttempt | completeAfterReview =>
    exact sends_bind sends_now fun _ => sends_bind sends_task fun _ => sends_bind sends_check fun _ =>
      sends_bind (sends_ask (.inr rfl)) fun _ => sends_ask (.inl rfl)
  | issueGrant => exact sends_issueGrant
  | grant => exact sends_grant
  | audit | ingestEntry | blockSource => exact sends_ask (.inl rfl)
  | _ =>
    simp only [Op.run, Store.registerWorker, Store.heartbeat, Store.heartbeatWithCapacity, Store.claim, Store.renew, Store.start,
      Store.startWithAck, Store.reclaimExpired, Store.submitResult, Store.markWaitingCapacity, Store.schedulableTasks,
      Store.expiredLeaseTasks]
    repeat' first
      | exact sends_pure
      | exact sends_now
      | exact sends_check
      | exact sends_ask (.inl rfl)
      | refine sends_bind ?_ fun _ => ?_
      | dsimp only
      | split

end

end ControlPlane.Autonomy
