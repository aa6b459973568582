import ControlPlane.Autonomy.Move

/-!
# Nothing is forgotten

No statement deletes a row or rewrites the columns a row was inserted with: every
table only grows at its end. What a row refers to when it is inserted is therefore
there for good, though SQLite itself checks one of these references only.
-/

namespace ControlPlane.Data.Table

variable {ρ κ τ : Type} {key : ρ → κ} {t u v : Table ρ key} {fixed : ρ → τ} {r : ρ} {p : ρ → Prop} [DecidablePred p]
  {f : ρ → ρ} {keeps : ∀ r, key (f r) = key r} {Step Step' : ρ → ρ → Prop} {New New' : ρ → Prop}

/-- Rows are only added, at the end; what `fixed` shows of a row never changes. -/
def Grows (fixed : ρ → τ) (t u : Table ρ key) : Prop := t.rows.map fixed <+: u.rows.map fixed

theorem Grows.trans (first : t.Grows fixed u) (second : u.Grows fixed v) : t.Grows fixed v := List.IsPrefix.trans first second

/-- A row that was there is there, as far as it is fixed. -/
theorem Grows.kept (grows : t.Grows fixed u) (member : r ∈ t.rows) : ∃ s ∈ u.rows, fixed s = fixed r :=
  List.mem_map.mp (List.IsPrefix.subset grows (List.mem_map_of_mem member))

theorem Evolves.mono (evolves : t.Evolves Step New u) (steps : ∀ r ∈ t.rows, ∀ s, Step r s → Step' r s)
    (new : ∀ r, New r → New' r) : t.Evolves Step' New' u := by
  obtain ⟨f, added, rows, moved, fresh⟩ := evolves
  exact ⟨f, added, rows, fun r member => (moved r member).imp_right (steps r member _), fun r late => new r (fresh r late)⟩

/-- An `INSERT .. ON CONFLICT(key) DO UPDATE` takes one step or adds one row. -/
theorem evolves_upsert [DecidableEq κ] (steps : ∀ s ∈ t.rows, Step s (f s)) (new : New r) :
    t.Evolves Step New (t.upsert r f keeps) := by
  unfold upsert
  split
  · exact evolves_insert rfl new
  · exact evolves_update rfl fun s member _ => steps s member

theorem Evolves.grows (evolves : t.Evolves (fun r s => fixed s = fixed r) New u) : t.Grows fixed u := by
  obtain ⟨f, added, rows, moved, _⟩ := evolves
  have same : (t.rows.map f).map fixed = t.rows.map fixed := by
    rw [List.map_map]
    refine List.map_congr_left fun r member => ?_
    rcases moved r member with same | step
    · exact congrArg fixed same
    · exact step
  rw [Grows, rows, List.map_append, same]
  exact List.prefix_append _ _

end ControlPlane.Data.Table

namespace ControlPlane.Autonomy

open Data Interleaving

/-! ### The columns a row keeps -/

def WorkerRow.fixed (w : WorkerRow) : String × ℚ := (w.workerId, w.registeredAt)

def TaskRow.fixed (r : TaskRow) : TaskRow :=
  { r.released with
    state := .new, updatedAt := 0, attemptCount := 0, lastWorkerHeartbeat := none, evidenceStatus := .none
    terminalReason := none, errorCode := none }

def GrantRow.fixed (g : GrantRow) : GrantRow := { g with consumedAt := none, state := .issued, planHash := none }

def TransactionRow.fixed (t : TransactionRow) : TransactionRow :=
  ⟨t.grantId, t.planHash, t.operationsManifest, .applying, t.startedAt, none, none, none, none⟩

def WorkspaceRow.fixed (w : WorkspaceRow) : WorkspaceRow :=
  { w with state := .available, lastVerifiedAt := none, lastError := none }

/-! ### What one statement writes -/

/-- The task a grant is issued for. -/
def GrantRow.For (g : GrantRow) (r : TaskRow) : Prop :=
  r.taskId = g.taskId ∧ r.targetProject = g.targetProject ∧ r.capability = g.capability

/-- The task a record was ingested as. -/
def ProvenanceRow.Of (p : ProvenanceRow) (r : TaskRow) : Prop :=
  r.taskId = p.taskId ∧ r.directiveId = some p.directiveId ∧ r.targetProject = p.targetProject ∧ r.capability = p.capability

/-- Rows keep their fixed columns, and new rows refer to rows that are there. -/
structure Writes (Referred : ProvenanceRow → Prop) (db db' : Db) : Prop where
  workers : db.workers.Evolves (fun w w' => w'.fixed = w.fixed) (fun _ => True) db'.workers
  evidence : db.evidence.Evolves (fun e e' => e' = e) (fun e => ∃ r ∈ db.tasks.rows, r.taskId = e.taskId) db'.evidence
  audit : db.audit <+: db'.audit
  grants : db.grants.Evolves (fun g g' => g'.fixed = g.fixed)
    (fun g => (∃ r ∈ db.tasks.rows, g.For r) ∧ ∃ w ∈ db.workers.rows, w.workerId = g.workerId) db'.grants
  transactions : db.transactions.Evolves (fun t t' => t'.fixed = t.fixed)
    (fun t => ∃ g ∈ db.grants.rows, g.grantId = t.grantId) db'.transactions
  workspaces : db.workspaces.Evolves (fun w w' => w'.fixed = w.fixed) (fun _ => True) db'.workspaces
  provenance : db.provenance.Evolves (fun p p' => p' = p) Referred db'.provenance
  queueRecords : db.queueRecords.Evolves (fun q q' => q' = q) (fun _ => True) db'.queueRecords

section

variable {β : Type} {s : Stmt β} {x : Input} {db db' : Db} {n : ℚ} {Referred : ProvenanceRow → Prop}

theorem writes_nothing (db : Db) : Writes Referred db db :=
  ⟨Table.evolves_refl, Table.evolves_refl, List.prefix_refl _, Table.evolves_refl, Table.evolves_refl, Table.evolves_refl,
    Table.evolves_refl, Table.evolves_refl⟩

theorem log_appends {task event details : String} : db.audit <+: (db.log task event n details).audit := List.prefix_append _ _

theorem foldl_log_appends (events : List (String × String)) (task : String) (n : ℚ) (db : Db) :
    db.audit <+: (events.foldl (fun db e => db.log task e.1 n e.2) db).audit := by
  induction events generalizing db with
  | nil => exact List.prefix_refl _
  | cons e events ih => exact log_appends.trans (ih _)

theorem insertGrant_ok {q : GrantRequest} {identify : String → String → String} {c : Committed String}
    (issued : insertGrant q identify n x db = .ok c) :
    ∃ g grants event details, c.1 = Db.log { db with grants } q.taskId event n details ∧
      grants.rows = db.grants.rows ++ [g] ∧ (∃ r ∈ db.tasks.rows, g.For r) ∧ ∃ w ∈ db.workers.rows, w.workerId = g.workerId := by
  simp only [insertGrant, require_bind_ok, found_bind_ok] at issued
  obtain ⟨t, task, w, worker, _, expires, _, _, issued⟩ := issued
  obtain ⟨session, _, issued⟩ := bind_ok.mp issued
  obtain ⟨_, issued⟩ := require_bind_ok.mp issued
  obtain ⟨workspace, _, issued⟩ := bind_ok.mp issued
  simp only [require_bind_ok, found_bind_ok, pure_ok] at issued
  obtain ⟨_, grants, inserted, rfl⟩ := issued
  obtain ⟨task, named⟩ := Table.find?_some.mp task
  obtain ⟨worker, called⟩ := Table.find?_some.mp worker
  exact ⟨_, grants, _, _, rfl, (Table.insert?_some inserted).2, ⟨t, task, named, rfl, rfl⟩, w, worker, called⟩

theorem recordLine_appends {known : Option QueueRecordRow} {e : QueueEntry} (recorded : db.recordLine known e = .ok db') :
    ∃ queueRecords, db' = { db with queueRecords } ∧
      db.queueRecords.Evolves (fun q q' => q' = q) (fun _ => True) queueRecords := by
  unfold Db.recordLine at recorded
  split at recorded
  · cases pure_ok.mp recorded
    exact ⟨_, rfl, Table.evolves_refl⟩
  · obtain ⟨queueRecords, inserted, same⟩ := found_bind_ok.mp recorded
    exact ⟨queueRecords, (pure_ok.mp same).symm, Table.evolves_insert (Table.insert?_some inserted).2 trivial⟩

/-- The two rows of a new record refer to each other. -/
theorem createIngested_writes {e : QueueEntry} (created : db.createIngested e = .ok db') :
    Writes (fun p => ∃ r ∈ db'.tasks.rows, p.Of r) db db' ∧ db'.queueRecords = db.queueRecords := by
  simp only [Db.createIngested] at created
  obtain ⟨inserted, task, created⟩ := bind_ok.mp created
  obtain ⟨provenance, there, same⟩ := found_bind_ok.mp created
  obtain ⟨tasks, rfl, _, rows⟩ := insertTask_ok task
  cases pure_ok.mp same
  have referred : ∃ r ∈ tasks.rows, e.provenance.Of r :=
    ⟨e.row, rows ▸ List.mem_append_right _ List.mem_cons_self, rfl, rfl, rfl, rfl⟩
  constructor
  · exact { @writes_nothing (fun _ => True) db with
      audit := log_appends
      provenance := Table.evolves_insert (Table.insert?_some there).2 referred }
  · rfl

theorem ingestEntry_writes {e : QueueEntry} {c : Committed Bool} (ingested : ingestEntry e db = .ok c) :
    Writes (fun p => ∃ r ∈ c.1.tasks.rows, p.Of r) db c.1 := by
  simp only [ingestEntry] at ingested
  split at ingested
  · cases pure_ok.mp ingested
    exact { writes_nothing db with }
  split at ingested
  · cases pure_ok.mp ingested
    exact { writes_nothing db with }
  split at ingested
  · obtain ⟨_, same, ingested⟩ := bind_ok.mp ingested
    cases pure_ok.mp same
    obtain ⟨db', recorded, ingested⟩ := bind_ok.mp ingested
    cases pure_ok.mp ingested
    obtain ⟨queueRecords, rfl, lines⟩ := recordLine_appends recorded
    exact { writes_nothing db with queueRecords := lines }
  · obtain ⟨created, new, ingested⟩ := bind_ok.mp ingested
    obtain ⟨writes, kept⟩ := createIngested_writes new
    obtain ⟨db', recorded, ingested⟩ := bind_ok.mp ingested
    cases pure_ok.mp ingested
    obtain ⟨queueRecords, rfl, lines⟩ := recordLine_appends recorded
    rw [kept] at lines
    exact { writes with queueRecords := lines }

/-- The statements whose new rows `Effect` does not describe. -/
def inserts {β : Type} : Stmt β → Bool
  | .insertWorkspace _ | .issueGrant .. | .ingestEntry _ => true
  | _ => false

theorem effect_writes (effect : Effect s x db db') (described : inserts s = false) : Writes Referred db db' := by
  cases effect with
  | audit => exact { writes_nothing db with audit := log_appends }
  | registerWorker upserted =>
    subst upserted
    exact { writes_nothing db with workers := Table.evolves_upsert (fun _ _ => rfl) trivial }
  | heartbeat updated | publishCapacity updated =>
    subst updated
    exact { writes_nothing db with workers := Table.evolves_update rfl fun _ _ _ => rfl }
  | rebindWorkspace | verifyWorkspace | blockWorkspace =>
    exact { writes_nothing db with workspaces := Table.evolves_update rfl fun _ _ _ => rfl }
  | chargeStale | chargeFailure | completeTask | waitForCapacity | blockSource | submitMissing =>
    exact { writes_nothing db with }
  | createTask inserted =>
    obtain ⟨tasks, rfl, _⟩ := insertTask_ok inserted
    exact { writes_nothing db with audit := log_appends }
  | claim | renew | reclaim | markWaiting => exact { writes_nothing db with audit := log_appends }
  | @start ack task worker lease n =>
    have appends := foldl_log_appends (startEvents ack worker) task n
      (db.updateTasks (TaskRow.heldBy task worker lease (· = .leased) n) (TaskRow.started n) fun _ => rfl)
    obtain ⟨audit, logged⟩ := foldl_log (startEvents ack worker) task n
      (db.updateTasks (TaskRow.heldBy task worker lease (· = .leased) n) (TaskRow.started n) fun _ => rfl)
    rw [logged] at appends ⊢
    exact { writes_nothing db with audit := appends }
  | submitResult found _ _ _ _ _ inserted =>
    obtain ⟨there, named⟩ := Table.find?_some.mp found
    obtain ⟨evidence, rfl, rows⟩ := insertEvidence_ok inserted
    exact { writes_nothing db with
      evidence := Table.evolves_insert rows ⟨_, there, named⟩
      audit := log_appends }
  | issueGrant | insertWorkspace | ingestConflict | ingestKnown | ingestNew => cases described
  | expireGrant =>
    exact { writes_nothing db with
      grants := Table.evolves_update rfl fun _ _ _ => rfl
      audit := log_appends }
  | beginApply found _ _ inserted consumed =>
    subst consumed
    obtain ⟨there, named⟩ := Table.find?_some.mp found
    exact { writes_nothing db with
      workspaces := Table.evolves_update rfl fun _ _ _ => rfl
      transactions := Table.evolves_insert (Table.insert?_some inserted).2 ⟨_, there, named⟩
      grants := Table.evolves_update rfl fun _ _ _ => rfl
      audit := log_appends }
  | finishApply =>
    exact { writes_nothing db with
      workspaces := Table.evolves_update rfl fun _ _ _ => rfl
      transactions := Table.evolves_update rfl fun _ _ _ => rfl
      grants := Table.evolves_update rfl fun _ _ _ => rfl
      audit := log_appends }
  | terminalizeFailure =>
    exact { writes_nothing db with
      transactions := Table.evolves_update rfl fun _ _ _ => rfl
      grants := Table.evolves_update rfl fun _ _ _ => rfl }
  | settleRecovery settled =>
    subst settled
    split
    · exact { writes_nothing db with
        transactions := Table.evolves_update rfl fun _ _ _ => rfl
        grants := Table.evolves_update rfl fun _ _ _ => rfl
        audit := log_appends }
    · exact { writes_nothing db with
        transactions := Table.evolves_update rfl fun _ _ _ => rfl
        grants := Table.evolves_update rfl fun _ _ _ => rfl
        audit := log_appends }

theorem exec_writes (s : Stmt β) (x : Input) (db : Db) :
    Writes (fun p => ∃ r ∈ (exec s x db).1.tasks.rows, p.Of r) db (exec s x db).1 := by
  rcases exec_effect s x db with same | ⟨free, effect⟩
  · rw [same]
    exact writes_nothing db
  rw [exec_free s free] at effect ⊢
  cases s with
  | issueGrant q identify n =>
    rcases transaction_cases db (insertGrant q identify n x db) with same | ⟨c, issued, same⟩
    · rw [perform, same]
      exact writes_nothing db
    · obtain ⟨g, grants, event, details, after, rows, task, worker⟩ := insertGrant_ok issued
      rw [perform, same, after]
      exact { writes_nothing db with
        grants := Table.evolves_insert rows ⟨task, worker⟩
        audit := log_appends }
  | insertWorkspace row =>
    rcases transaction_cases db (insertWorkspace row db) with same | ⟨c, inserted, same⟩
    · rw [perform, same]
      exact writes_nothing db
    · simp only [insertWorkspace, found_bind_ok, pure_ok] at inserted
      obtain ⟨workspaces, new, rfl⟩ := inserted
      rw [perform, same]
      exact { writes_nothing db with workspaces := Table.evolves_insert (Table.insert?_some new).2 trivial }
  | ingestEntry e =>
    rcases transaction_cases db (ingestEntry e db) with same | ⟨c, ingested, same⟩
    · rw [perform, same]
      exact writes_nothing db
    · rw [perform, same]
      exact ingestEntry_writes ingested
  | _ => exact effect_writes effect rfl

/-- No update touches the columns a task was created with. -/
theorem Move.fixed {r r' : TaskRow} (move : Move s x db r r') : r'.fixed = r.fixed := by
  cases move <;> rfl

/-- Only a claim assigns a task, and only to a worker that is registered. -/
theorem Move.assigned {r r' : TaskRow} (move : Move s x db r r') : r'.assignedWorkerId = none ∨
    r'.assignedWorkerId = r.assignedWorkerId ∨ ∃ w ∈ db.workers.rows, r'.assignedWorkerId = some w.workerId := by
  cases move with
  | claim _ owner =>
    obtain ⟨there, called⟩ := Table.find?_some.mp owner
    exact .inr (.inr ⟨_, there, congrArg some called.symm⟩)
  | reclaim | chargeStale | chargeFailure | completeTask => exact .inl rfl
  | _ => exact .inr (.inl rfl)

end

/-! ### Runs -/

/-- Every table of the earlier store is the beginning of the later one's, as far as rows are fixed. -/
structure Persists (db db' : Db) : Prop where
  workers : db.workers.Grows WorkerRow.fixed db'.workers
  tasks : db.tasks.Grows TaskRow.fixed db'.tasks
  evidence : db.evidence.Grows id db'.evidence
  audit : db.audit <+: db'.audit
  grants : db.grants.Grows GrantRow.fixed db'.grants
  transactions : db.transactions.Grows TransactionRow.fixed db'.transactions
  workspaces : db.workspaces.Grows WorkspaceRow.fixed db'.workspaces
  provenance : db.provenance.Grows id db'.provenance
  queueRecords : db.queueRecords.Grows id db'.queueRecords

instance : IsTrans Db Persists where
  trans _ _ _ first second :=
    { workers := first.workers.trans second.workers
      tasks := first.tasks.trans second.tasks
      evidence := first.evidence.trans second.evidence
      audit := first.audit.trans second.audit
      grants := first.grants.trans second.grants
      transactions := first.transactions.trans second.transactions
      workspaces := first.workspaces.trans second.workspaces
      provenance := first.provenance.trans second.provenance
      queueRecords := first.queueRecords.trans second.queueRecords }

theorem exec_persists {β : Type} (s : Stmt β) (x : Input) (db : Db) : Persists db (exec s x db).1 := by
  have writes := exec_writes s x db
  exact {
    workers := writes.workers.grows
    tasks := ((exec_tasks s x db).mono (fun _ _ _ moved => moved.2.fixed) fun _ new => new).grows
    evidence := writes.evidence.grows
    audit := writes.audit
    grants := writes.grants.grows
    transactions := writes.transactions.grows
    workspaces := writes.workspaces.grows
    provenance := writes.provenance.grows
    queueRecords := writes.queueRecords.grows }

/-- What rows refer to is there, and a task, its grants and its provenance agree. -/
structure Resolved (db : Db) : Prop where
  evidence : ∀ e ∈ db.evidence.rows, ∃ r ∈ db.tasks.rows, r.taskId = e.taskId
  provenance : ∀ p ∈ db.provenance.rows, ∃ r ∈ db.tasks.rows, p.Of r
  grants : ∀ g ∈ db.grants.rows, (∃ r ∈ db.tasks.rows, g.For r) ∧ ∃ w ∈ db.workers.rows, w.workerId = g.workerId
  transactions : ∀ t ∈ db.transactions.rows, ∃ g ∈ db.grants.rows, g.grantId = t.grantId
  leases : ∀ r ∈ db.tasks.rows, ∀ worker, r.assignedWorkerId = some worker → ∃ w ∈ db.workers.rows, w.workerId = worker

section

variable {β : Type} {s : Stmt β} {x : Input} {db db' : Db} {host : Host} {trace : List (Taken Stmt Input Db)}
  {c : Config Err Stmt Db}

theorem Persists.task (persists : Persists db db') {P : TaskRow → Prop} (stays : ∀ r r' : TaskRow, r'.fixed = r.fixed → P r → P r')
    (there : ∃ r ∈ db.tasks.rows, P r) : ∃ r ∈ db'.tasks.rows, P r := by
  obtain ⟨r, member, holds⟩ := there
  obtain ⟨r', after, same⟩ := persists.tasks.kept member
  exact ⟨r', after, stays r r' same holds⟩

theorem Persists.worker (persists : Persists db db') {id : String} (there : ∃ w ∈ db.workers.rows, w.workerId = id) :
    ∃ w ∈ db'.workers.rows, w.workerId = id := by
  obtain ⟨w, member, rfl⟩ := there
  obtain ⟨w', after, same⟩ := persists.workers.kept member
  exact ⟨w', after, congrArg Prod.fst same⟩

theorem Persists.grant (persists : Persists db db') {id : String} (there : ∃ g ∈ db.grants.rows, g.grantId = id) :
    ∃ g ∈ db'.grants.rows, g.grantId = id := by
  obtain ⟨g, member, rfl⟩ := there
  obtain ⟨g', after, same⟩ := persists.grants.kept member
  exact ⟨g', after, (congrArg GrantRow.grantId same :)⟩

theorem named_fixed {id : String} {r r' : TaskRow} (same : r'.fixed = r.fixed) (named : r.taskId = id) : r'.taskId = id :=
  (congrArg TaskRow.taskId same).trans named

theorem GrantRow.For.of_fixed {g : GrantRow} {r r' : TaskRow} (same : r'.fixed = r.fixed) (granted : g.For r) : g.For r' := by
  obtain ⟨id, target, capability⟩ := granted
  exact ⟨named_fixed same id, (congrArg TaskRow.targetProject same).trans target, (congrArg TaskRow.capability same).trans capability⟩

theorem ProvenanceRow.Of.of_fixed {p : ProvenanceRow} {r r' : TaskRow} (same : r'.fixed = r.fixed) (recorded : p.Of r) : p.Of r' := by
  obtain ⟨id, directive, target, capability⟩ := recorded
  exact ⟨named_fixed same id, (congrArg TaskRow.directiveId same).trans directive,
    (congrArg TaskRow.targetProject same).trans target, (congrArg TaskRow.capability same).trans capability⟩

/-- The task and the worker of a grant outlive it. -/
theorem Persists.granted (persists : Persists db db') {g : GrantRow}
    (granted : (∃ r ∈ db.tasks.rows, g.For r) ∧ ∃ w ∈ db.workers.rows, w.workerId = g.workerId) :
    (∃ r ∈ db'.tasks.rows, g.For r) ∧ ∃ w ∈ db'.workers.rows, w.workerId = g.workerId :=
  ⟨persists.task (fun _ _ => GrantRow.For.of_fixed) granted.1, persists.worker granted.2⟩

theorem exec_resolved (s : Stmt β) (x : Input) (resolved : Resolved db) : Resolved (exec s x db).1 := by
  have persists := exec_persists s x db
  have writes := exec_writes s x db
  constructor
  case evidence =>
    refine writes.evidence.all (I := fun e => ∃ r ∈ (exec s x db).1.tasks.rows, r.taskId = e.taskId) ?_ ?_ ?_
    · exact fun e member => persists.task (fun _ _ => named_fixed) (resolved.evidence e member)
    · exact fun e _ e' same there => same ▸ there
    · exact fun e there => persists.task (fun _ _ => named_fixed) there
  case provenance =>
    refine writes.provenance.all ?_ (fun p _ p' same there => same ▸ there) fun p there => there
    exact fun p member => persists.task (fun _ _ => ProvenanceRow.Of.of_fixed) (resolved.provenance p member)
  case grants =>
    refine writes.grants.all (I := fun g => (∃ r ∈ (exec s x db).1.tasks.rows, g.For r) ∧ ∃ w ∈ (exec s x db).1.workers.rows, w.workerId = g.workerId) ?_ ?_ ?_
    · exact fun g member => persists.granted (resolved.grants g member)
    · rintro g _ g' same ⟨⟨r, task, id, target, capability⟩, w, worker, called⟩
      exact ⟨⟨r, task, id.trans (congrArg GrantRow.taskId same :).symm, target.trans (congrArg GrantRow.targetProject same :).symm,
        capability.trans (congrArg GrantRow.capability same :).symm⟩, w, worker, called.trans (congrArg GrantRow.workerId same :).symm⟩
    · exact fun g referred => persists.granted referred
  case transactions =>
    refine writes.transactions.all (I := fun t => ∃ g ∈ (exec s x db).1.grants.rows, g.grantId = t.grantId) ?_ ?_ ?_
    · exact fun t member => persists.grant (resolved.transactions t member)
    · rintro t _ t' same ⟨g, member, id⟩
      exact ⟨g, member, id.trans (congrArg TransactionRow.grantId same :).symm⟩
    · exact fun t there => persists.grant there
  case leases =>
    refine (exec_tasks s x db).all ?_ ?_ ?_
    · exact fun r member worker assigned => persists.worker (resolved.leases r member worker assigned)
    · intro r member r' moved before worker assigned
      rcases moved.2.assigned with none | same | ⟨w, there, same⟩
      · rw [none] at assigned
        cases assigned
      · exact before worker (same ▸ assigned)
      · rw [same] at assigned
        exact persists.worker ⟨w, there, Option.some.inj assigned⟩
    · intro r created worker assigned
      cases created <;> cases assigned

/-- Over every run: no row is lost or moved, and no column that `fixed` shows is ever rewritten. -/
theorem nothing_forgotten (run : Runs host trace c) :
    (states trace c.state).Pairwise fun later earlier => Persists earlier later :=
  run.linked.pairwise_iff.mp fun t _ => exec_persists t.stmt t.input t.before

/-- Over every run: no reference dangles. -/
theorem references_resolved (run : Runs host trace c) : ∀ db ∈ states trace c.state, Resolved db := by
  have empty : Resolved Db.empty := by constructor <;> intro _ member <;> cases member
  exact run.linked.invariant empty fun t _ resolved => exec_resolved t.stmt t.input resolved

end

/-- A worker reports a result, and then again. -/
def reportedTwice : List (Taken Stmt Input Db) × Config Err Stmt Db :=
  let report : Client Unit := .call (.submitResult "t" "w" "lease" "e" (String.ofList (List.replicate 64 'a')) (.fin 1))
  script Sample.host [Sample.task "t", Sample.worker "w", .call (.claim "t" "w" (.fin 30) (.fin 0)), report, report]
    (moves [4, 4, 3] ++ [(2, { uuid := "lease" })] ++ moves [1, 0])

theorem nothing_forgotten_reportedTwice :
    (states reportedTwice.1 reportedTwice.2.state).Pairwise fun later earlier => Persists earlier later :=
  nothing_forgotten (runs_script Sample.host _ _)

theorem references_resolved_reportedTwice : reportedTwice.2.state.evidence.rows.length = 1 ∧
    ∀ db ∈ states reportedTwice.1 reportedTwice.2.state, Resolved db :=
  ⟨by decide +kernel, references_resolved (runs_script Sample.host _ _)⟩

end ControlPlane.Autonomy
