import ControlPlane.Autonomy.Clients

/-!
# What a statement can do

`Effect` lists, once, every way a statement changes the database and what must have
been checked for it. Everything proved about runs is read off this list.
-/

namespace ControlPlane.Autonomy

open Data Interleaving

/-- `UPDATE tasks SET .. WHERE ..`, with its audit events. -/
def Db.updateTasks (db : Db) (p : TaskRow → Prop) [DecidablePred p] (f : TaskRow → TaskRow)
    (keeps : ∀ r, (f r).taskId = r.taskId) : Db :=
  { db with tasks := db.tasks.update p f keeps }

inductive Effect : {β : Type} → Stmt β → Input → Db → Db → Prop
  | audit {task event n details x db} : Effect (.audit task event n details) x db (db.log task event n details)
  | registerWorker {w x db workers}
      (upserted : workers = db.workers.upsert w (fun old => { old with
        kind := w.kind, capabilities := w.capabilities, targets := w.targets
        lastHeartbeat := w.lastHeartbeat, heartbeatSla := w.heartbeatSla, capacity := w.capacity }) fun _ => rfl) :
      Effect (.registerWorker w) x db { db with workers }
  | heartbeat {worker observed x db workers}
      (updated : workers = db.workers.update (fun w => w.workerId = worker)
        (fun w => { w with lastHeartbeat := observed }) fun _ => rfl) :
      Effect (.heartbeat worker observed) x db { db with workers }
  | publishCapacity {worker capacity observed x db workers}
      (updated : workers = db.workers.update (fun w => w.workerId = clean worker)
        (fun w => { w with lastHeartbeat := observed, capacity }) fun _ => rfl) :
      Effect (.publishCapacity worker capacity observed) x db { db with workers }
  | chargeStale {task read n x db} : Effect (.chargeStale task read n) x db (chargeStale task read n db)
  | chargeFailure {task lease read reason code n x db} :
      Effect (.chargeFailure task lease read reason code n) x db (chargeFailure task read reason code n db)
  | completeTask {task n x db} : Effect (.completeTask task n) x db (completeTask task n db)
  | waitForCapacity {task n x db} : Effect (.waitForCapacity task n) x db (waitForCapacity task n db)
  | insertWorkspace {row x db workspaces} : Effect (.insertWorkspace row) x db { db with workspaces }
  | rebindWorkspace {workspace x db} : Effect (.rebindWorkspace workspace) x db (db.rebindWorkspace workspace)
  | verifyWorkspace {workspace n x db} : Effect (.verifyWorkspace workspace n) x db (db.verifyWorkspace workspace n)
  | blockWorkspace {workspace reason n x db} :
      Effect (.blockWorkspace workspace reason n) x db (db.blockWorkspace workspace reason n)
  | blockSource {reason x db} : Effect (.blockSource reason) x db (db.blockSource reason)
  | createTask {t n x db db'} (inserted : db.insertTask (t.row n) = .ok db') :
      Effect (.createTask t n) x db (db'.log t.taskId "CREATED" n t.state.name)
  | claim {task worker seconds n x db t w} (found : db.tasks.find? task = some t)
      (owner : db.workers.find? worker = some w)
      (open_ : t.state.leaseable ∧ t.requiresHumanApproval = 0 ∧ t.governanceAllowed ≠ 0) (fresh : ¬ w.Stale n)
      (able : t.capability ∈ w.capabilities ∧ t.targetProject ∈ w.targets)
      (room : (db.activeLeases worker n : Int) < w.capacity)
      (unique : ∀ r ∈ db.tasks.rows, r.taskId ≠ task → r.leaseId ≠ some x.uuid) :
      Effect (.claim task worker seconds n) x db
        ((db.updateTasks (TaskRow.named task TaskState.leaseable)
          (TaskRow.claimed worker x.uuid (.fin n + seconds) w.lastHeartbeat n) fun _ => rfl).log task "LEASED" n worker)
  | renew {task worker lease expires n x db} :
      Effect (.renew task worker lease expires n) x db
        ((db.updateTasks (TaskRow.heldBy task worker lease TaskState.working n)
          (TaskRow.renewed expires n) fun _ => rfl).log task "LEASE_RENEWED" n worker)
  | start {ack task worker lease n x db w} (owner : db.workers.find? worker = some w) (fresh : ¬ w.Stale n) :
      Effect (.start ack task worker lease n) x db
        ((startEvents ack worker).foldl (fun db e => db.log task e.1 n e.2)
          (db.updateTasks (TaskRow.heldBy task worker lease (· = .leased) n) (TaskRow.started n) fun _ => rfl))
  | reclaim {task n x db t} (found : db.tasks.find? task = some t) (working : t.state.working) :
      Effect (.reclaim task n) x db
        ((db.updateTasks (fun r => r.named task TaskState.working ∧ r.Lapsed n) (t.charged n) fun _ => rfl).log
          task "LEASE_EXPIRED" n (afterFailure t).name)
  | submitMissing {task worker lease evidence sha n x db t w} (found : db.tasks.find? task = some t)
      (owner : db.workers.find? worker = some w)
      (held : (t.state.working ∨ t.state = .evidencePending) ∧ t.assignedWorkerId = some worker ∧ t.leaseId = some lease)
      (ahead : ¬ t.Lapsed n) (fresh : ¬ w.Stale n) (missing : evidence = "" ∨ sha = "" ∨ ¬ isHex64 sha) :
      Effect (.submitResult task worker lease evidence sha n) x db
        (db.updateTask task TaskRow.evidenceMissing fun _ => rfl)
  | submitResult {task worker lease evidence sha n x db t w db'} (found : db.tasks.find? task = some t)
      (owner : db.workers.find? worker = some w)
      (held : (t.state.working ∨ t.state = .evidencePending) ∧ t.assignedWorkerId = some worker ∧ t.leaseId = some lease)
      (ahead : ¬ t.Lapsed n) (fresh : ¬ w.Stale n) (hex : isHex64 sha)
      (inserted : db.insertEvidence ⟨task, clean evidence, lower sha, n⟩ = .ok db') :
      Effect (.submitResult task worker lease evidence sha n) x db
        ((db'.updateTask task (TaskRow.received n) fun _ => rfl).log task "RESULT_RECEIVED" n evidence)
  | markWaiting {task n x db} :
      Effect (.markWaiting task n) x db
        ((db.updateTasks (fun r => r.named (clean task) TaskState.leaseable ∧ r.requiresHumanApproval = 0 ∧
          r.governanceAllowed = 1) (TaskRow.waiting n) fun _ => rfl).log task "WAITING_CAPACITY" n
            "no verified external session")
  | issueGrant {q identify n x db g grants event details} (inserted : db.grants.insert? g = some grants)
      (task : g.taskId = q.taskId) (issued : g.state = .issued) (unused : g.consumedAt = none) :
      Effect (.issueGrant q identify n) x db (Db.log { db with grants } q.taskId event n details)
  | expireGrant {plan n x db grant} (found : db.grants.find? plan.grantId = some grant) :
      Effect (.beginApply plan n) x db (db.expireGrant grant n)
  | beginApply {plan n x db grant workspace transactions grants event details}
      (found : db.grants.find? plan.grantId = some grant) (issued : grant.state = .issued)
      (authority : db.authority grant n x = .ok ())
      (inserted : db.transactions.insert? {
        grantId := plan.grantId, planHash := plan.planHash, operationsManifest := plan.operations
        state := .applying, startedAt := n } = some transactions)
      (consumed : grants = db.grants.update (fun g => g.grantId = plan.grantId ∧ g.state = .issued)
        (fun g => { g with state := .applying, consumedAt := some n, planHash := some plan.planHash }) fun _ => rfl) :
      Effect (.beginApply plan n) x db
        (Db.log { db.verifyWorkspace workspace n with transactions, grants } grant.taskId event n details)
  | finishApply {plan envelope sha now x db grant workspace event details}
      (found : db.grants.find? plan.grantId = some grant) (authority : db.authority grant now x = .ok ())
      (pending : db.transactions.rowcount (fun r => r.grantId = plan.grantId ∧ r.state = .applying) = 1) :
      Effect (.finishApply plan envelope sha now) x db
        (((((db.verifyWorkspace workspace now).settleTransaction plan.grantId
          (fun r => { r with
            state := .applied, finishedAt := some now, evidenceSha256 := some sha, evidenceEnvelope := some envelope })
          fun _ => rfl).settleGrant plan.grantId .applied).reviewTask grant.taskId now).log
            grant.taskId event now details)
  | terminalizeFailure {grantId state code n x db} :
      Effect (.terminalizeFailure grantId state code n) x db
        ((db.settleTransaction grantId
          (fun r => { r with state, finishedAt := some n, errorCode := some (clean code) }) fun _ => rfl).settleGrant
            grantId state)
  | settleRecovery {grant outcome n x db db' event details}
      (settled : db' = (db.settleTransaction grant.grantId
        (fun r => { r with
          state := outcome.state, finishedAt := some n, evidenceSha256 := outcome.sha?
          evidenceEnvelope := outcome.envelope? }) fun _ => rfl).settleGrant grant.grantId outcome.state) :
      Effect (.settleRecovery grant outcome n) x db
        ((if outcome.state = .applied then db'.reviewTask grant.taskId n else db').log grant.taskId event n details)
  | ingestConflict {e x db reason} : Effect (.ingestEntry e) x db (db.blockSource reason)
  | ingestKnown {e x db queueRecords ingest} : Effect (.ingestEntry e) x db { db with queueRecords, ingest }
  | ingestNew {e x db db' provenance queueRecords ingest event details} (inserted : db.insertTask e.row = .ok db') :
      Effect (.ingestEntry e) x db
        { Db.log { db' with provenance } e.provenance.taskId event e.provenance.ingestedAt details with
          queueRecords, ingest }

/-! ### Every statement has one of these effects, or none -/

section

variable {db : Db} {x : Input} {n : ℚ} {task worker lease : String}

theorem transaction_cases {α : Type} (db : Db) (body : Except Err (Committed α)) :
    (transaction db body).1 = db ∨ ∃ c, body = .ok c ∧ (transaction db body).1 = c.1 := by
  cases body with
  | ok c => exact .inr ⟨c, rfl, rfl⟩
  | error e => exact .inl rfl

theorem registerWorker_effect {w : WorkerRow} {c} (h : upsertWorker w db = .ok c) :
    Effect (.registerWorker w) x db c.1 := by
  simp only [upsertWorker, require_bind_ok, pure_ok] at h
  obtain ⟨_, rfl⟩ := h
  exact .registerWorker rfl

theorem heartbeat_effect {observed : ℚ} {c} (h : touchWorker worker observed db = .ok c) :
    Effect (.heartbeat worker observed) x db c.1 := by
  simp only [touchWorker, pure_ok] at h
  subst h
  exact .heartbeat rfl

theorem publishCapacity_effect {capacity : Int} {observed : ℚ} {c}
    (h : publishCapacity worker capacity observed db = .ok c) :
    Effect (.publishCapacity worker capacity observed) x db c.1 := by
  simp only [publishCapacity, require_bind_ok, pure_ok] at h
  obtain ⟨_, rfl⟩ := h
  exact .publishCapacity rfl

theorem createTask_effect {t : NewTask} {c} (h : insertTask t n db = .ok c) :
    Effect (.createTask t n) x db c.1 := by
  unfold insertTask at h
  split at h
  · cases h
    exact .createTask ‹_›
  · cases h

theorem claim_effect {seconds : PyFloat} {c} (h : claimTask task worker seconds n x.uuid db = .ok c) :
    Effect (.claim task worker seconds n) x db c.1 := by
  simp only [claimTask, require_bind_ok, found_bind_ok, pure_ok] at h
  obtain ⟨t, found, w, owner, open_, fresh, able, room, _, unique, rfl⟩ := h
  exact .claim found owner open_ fresh able room unique

theorem renew_effect {expires : PyFloat} {c} (h : renewLease task worker lease expires n db = .ok c) :
    Effect (.renew task worker lease expires n) x db c.1 := by
  simp only [renewLease, require_bind_ok, pure_ok] at h
  obtain ⟨_, rfl⟩ := h
  exact .renew

theorem start_effect {ack : Option String} {message : String} {c}
    (h : startTask message (startEvents ack worker) task worker lease n db = .ok c) :
    Effect (.start ack task worker lease n) x db c.1 := by
  simp only [startTask, require_bind_ok, found_bind_ok, pure_ok] at h
  obtain ⟨w, owner, fresh, _, rfl⟩ := h
  exact .start owner fresh

theorem reclaim_effect {c} (h : reclaimTask task n db = .ok c) : Effect (.reclaim task n) x db c.1 := by
  simp only [reclaimTask, require_bind_ok, found_bind_ok, pure_ok] at h
  obtain ⟨t, found, working, _, _, _, _, rfl⟩ := h
  exact .reclaim found working

theorem submitResult_effect {evidence sha : String} {c}
    (h : receiveResult task worker lease evidence sha n db = .ok c) :
    Effect (.submitResult task worker lease evidence sha n) x db c.1 := by
  simp only [receiveResult, require_bind_ok, found_bind_ok] at h
  obtain ⟨t, found, w, owner, held, expires, expiry, ⟨ahead, fresh⟩, h⟩ := h
  have notLapsed : ¬ t.Lapsed n := by
    rintro ⟨e, same, past⟩
    cases expiry.symm.trans same
    exact ahead past
  split at h
  · rename_i missing
    cases pure_ok.mp h
    exact .submitMissing found owner held notLapsed fresh missing
  · rename_i complete
    obtain ⟨db', inserted, h⟩ := bind_ok.mp h
    cases pure_ok.mp h
    exact .submitResult found owner held notLapsed fresh (by tauto) inserted

theorem markWaiting_effect {c} (h : markWaiting task n db = .ok c) : Effect (.markWaiting task n) x db c.1 := by
  simp only [markWaiting, require_bind_ok, pure_ok] at h
  obtain ⟨_, rfl⟩ := h
  exact .markWaiting

theorem insertWorkspace_effect {row : WorkspaceRow} {c} (h : insertWorkspace row db = .ok c) :
    Effect (.insertWorkspace row) x db c.1 := by
  simp only [insertWorkspace, found_bind_ok, pure_ok] at h
  obtain ⟨_, _, rfl⟩ := h
  exact .insertWorkspace

theorem issueGrant_effect {q : GrantRequest} {identify : String → String → String} {c}
    (h : insertGrant q identify n x db = .ok c) : Effect (.issueGrant q identify n) x db c.1 := by
  simp only [insertGrant, require_bind_ok, found_bind_ok] at h
  obtain ⟨t, _, w, _, _, expires, _, _, h⟩ := h
  obtain ⟨session, _, h⟩ := bind_ok.mp h
  obtain ⟨_, h⟩ := require_bind_ok.mp h
  obtain ⟨workspace, _, h⟩ := bind_ok.mp h
  simp only [require_bind_ok, found_bind_ok, pure_ok] at h
  obtain ⟨_, grants, inserted, rfl⟩ := h
  exact .issueGrant inserted rfl rfl rfl

theorem workspaceAuthority_ok {db' : Db} (h : db.workspaceAuthority n x = .ok db') :
    ∃ workspace, db' = db.verifyWorkspace workspace n := by
  simp only [Db.workspaceAuthority] at h
  obtain ⟨workspace, _, h⟩ := bind_ok.mp h
  simp only [require_bind_ok, found_bind_ok] at h
  obtain ⟨row, _, _, h⟩ := h
  obtain ⟨physical, _, h⟩ := bind_ok.mp h
  simp only [require_bind_ok, pure_ok] at h
  exact ⟨_, h.2.symm⟩

theorem beginApply_effect {plan : Plan} {c} (h : beginApply plan n x db = .ok c) :
    Effect (.beginApply plan n) x db c.1 := by
  simp only [beginApply, require_bind_ok, found_bind_ok] at h
  obtain ⟨grant, found, issued, h⟩ := h
  obtain ⟨lapsed, _, h⟩ := bind_ok.mp h
  split at h
  · cases pure_ok.mp h
    exact .expireGrant found
  · obtain ⟨_, authority, h⟩ := bind_ok.mp h
    obtain ⟨db', verified, h⟩ := bind_ok.mp h
    obtain ⟨workspace, rfl⟩ := workspaceAuthority_ok verified
    simp only [require_bind_ok] at h
    obtain ⟨_, _, h⟩ := h
    obtain ⟨_, _, h⟩ := bind_ok.mp h
    simp only [require_bind_ok, found_bind_ok, pure_ok] at h
    obtain ⟨transactions, inserted, _, rfl⟩ := h
    exact .beginApply found issued authority inserted rfl

theorem finishApply_effect {plan : Plan} {envelope sha : String} {c}
    (h : finishApply plan envelope sha n x db = .ok c) : Effect (.finishApply plan envelope sha n) x db c.1 := by
  simp only [finishApply, found_bind_ok] at h
  obtain ⟨grant, found, h⟩ := h
  obtain ⟨_, authority, h⟩ := bind_ok.mp h
  obtain ⟨db', verified, h⟩ := bind_ok.mp h
  obtain ⟨workspace, rfl⟩ := workspaceAuthority_ok verified
  simp only [require_bind_ok, pure_ok] at h
  obtain ⟨⟨pending, _⟩, rfl⟩ := h
  exact .finishApply found authority pending

theorem terminalizeFailure_effect {grantId code : String} {state : GrantState} {c}
    (h : terminalizeFailure grantId state code n db = .ok c) :
    Effect (.terminalizeFailure grantId state code n) x db c.1 := by
  simp only [terminalizeFailure, pure_ok] at h
  subst h
  exact .terminalizeFailure

/-- The task is reviewed if the outcome is APPLIED, and left alone otherwise. -/
theorem reviewRecovered_ok {outcome : Recovered} {db' : Db} (h : db.reviewRecovered task outcome n = .ok db') :
    db' = if outcome.state = .applied then db.reviewTask task n else db := by
  unfold Db.reviewRecovered at h
  split at h
  · obtain ⟨_, same⟩ := require_bind_ok.mp h
    rw [if_pos ‹_›, pure_ok.mp same]
  · rw [if_neg ‹_›, pure_ok.mp h]

theorem settleRecovery_effect {grant : GrantRow} {outcome : Recovered} {c}
    (h : settleRecovery grant outcome n db = .ok c) : Effect (.settleRecovery grant outcome n) x db c.1 := by
  simp only [settleRecovery] at h
  obtain ⟨db', reviewed, h⟩ := bind_ok.mp h
  cases pure_ok.mp h
  rw [reviewRecovered_ok reviewed]
  exact .settleRecovery rfl

theorem recordLine_ok {known : Option QueueRecordRow} {e : QueueEntry} {db' : Db}
    (h : db.recordLine known e = .ok db') : ∃ queueRecords, db' = { db with queueRecords } := by
  unfold Db.recordLine at h
  split at h
  · cases pure_ok.mp h
    exact ⟨_, rfl⟩
  · obtain ⟨queueRecords, _, same⟩ := found_bind_ok.mp h
    exact ⟨queueRecords, (pure_ok.mp same).symm⟩

theorem createIngested_ok {e : QueueEntry} {db' : Db} (h : db.createIngested e = .ok db') :
    ∃ inserted provenance, db.insertTask e.row = .ok inserted ∧
      db' = Db.log { inserted with provenance } e.provenance.taskId "DIRECTIVE_INGESTED" e.provenance.ingestedAt
        s!"directive={e.provenance.directiveId};action={e.provenance.actionType}" := by
  simp only [Db.createIngested] at h
  obtain ⟨inserted, task, h⟩ := bind_ok.mp h
  obtain ⟨provenance, _, same⟩ := found_bind_ok.mp h
  exact ⟨inserted, provenance, task, (pure_ok.mp same).symm⟩

theorem ingestEntry_effect {e : QueueEntry} {c} (h : ingestEntry e db = .ok c) :
    Effect (.ingestEntry e) x db c.1 := by
  simp only [ingestEntry] at h
  split at h
  · cases pure_ok.mp h
    exact .ingestConflict
  split at h
  · cases pure_ok.mp h
    exact .ingestConflict
  split at h
  · obtain ⟨_, same, h⟩ := bind_ok.mp h
    cases pure_ok.mp same
    obtain ⟨db', recorded, h⟩ := bind_ok.mp h
    cases pure_ok.mp h
    obtain ⟨queueRecords, rfl⟩ := recordLine_ok recorded
    exact .ingestKnown
  · obtain ⟨created, new, h⟩ := bind_ok.mp h
    obtain ⟨inserted, provenance, task, rfl⟩ := createIngested_ok new
    obtain ⟨db', recorded, h⟩ := bind_ok.mp h
    cases pure_ok.mp h
    obtain ⟨queueRecords, rfl⟩ := recordLine_ok recorded
    exact @Effect.ingestNew e x db inserted provenance _ _ _ _ task

end

theorem perform_effect {β : Type} (s : Stmt β) (x : Input) (db : Db) :
    (perform s x db).1 = db ∨ Effect s x db (perform s x db).1 := by
  have block {α : Type} {s : Stmt α} {body : Except Err (Committed α)}
      (effect : ∀ c, body = .ok c → Effect s x db c.1) :
      (transaction db body).1 = db ∨ Effect s x db (transaction db body).1 := by
    rcases transaction_cases db body with same | ⟨c, committed, same⟩
    · exact .inl same
    · exact .inr (same ▸ effect c committed)
  cases s with
  | audit => exact .inr .audit
  | registerWorker => exact block fun _ => registerWorker_effect
  | heartbeat => exact block fun _ => heartbeat_effect
  | chargeStale => exact .inr .chargeStale
  | chargeFailure => exact .inr .chargeFailure
  | completeTask => exact .inr .completeTask
  | waitForCapacity => exact .inr .waitForCapacity
  | insertWorkspace => exact block fun _ => insertWorkspace_effect
  | rebindWorkspace => exact .inr .rebindWorkspace
  | verifyWorkspace => exact .inr .verifyWorkspace
  | blockWorkspace => exact .inr .blockWorkspace
  | blockSource => exact .inr .blockSource
  | createTask => exact block fun _ => createTask_effect
  | publishCapacity => exact block fun _ => publishCapacity_effect
  | claim => exact block fun _ => claim_effect
  | renew => exact block fun _ => renew_effect
  | start => exact block fun _ => start_effect
  | reclaim => exact block fun _ => reclaim_effect
  | submitResult => exact block fun _ => submitResult_effect
  | markWaiting => exact block fun _ => markWaiting_effect
  | issueGrant => exact block fun _ => issueGrant_effect
  | beginApply => exact block fun _ => beginApply_effect
  | finishApply => exact block fun _ => finishApply_effect
  | terminalizeFailure => exact block fun _ => terminalizeFailure_effect
  | settleRecovery => exact block fun _ => settleRecovery_effect
  | ingestEntry => exact block fun _ => ingestEntry_effect
  | _ => exact .inl rfl

/-- A locked store changes nothing. -/
theorem exec_effect {β : Type} (s : Stmt β) (x : Input) (db : Db) :
    (exec s x db).1 = db ∨ x.busy = false ∧ Effect s x db (exec s x db).1 := by
  unfold exec
  cases x.busy with
  | true => exact .inl rfl
  | false => exact (perform_effect s x db).imp_right fun effect => ⟨rfl, effect⟩

end ControlPlane.Autonomy
