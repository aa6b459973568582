import ControlPlane.Autonomy.Calls

/-!
# Reconciliation and dead leases

`reconcile` charges what it selects by state: RUNNING tasks of stale workers, then
LEASED and RUNNING tasks whose lease has lapsed.
-/

namespace ControlPlane.Autonomy

open Data Interleaving

/-- No task that is still to be worked on, reviewed and terminal tasks apart, holds
a lease that has lapsed at `n`. -/
def NoDeadLease (n : ℚ) (db : Db) : Prop :=
  ∀ r ∈ db.tasks.rows, r.leaseId ≠ none → r.Lapsed n → r.state = .reviewPending ∨ r.state.terminal

/-- Lapsed leases are held in the two states that reconciliation looks at. -/
def LapsedAtWork (n : ℚ) (db : Db) : Prop :=
  ∀ r ∈ db.tasks.rows, r.leaseId ≠ none → r.Lapsed n → r.state.working ∨ r.state = .reviewPending ∨ r.state.terminal

/-- Some stale task is not found under its cleaned name, at which reconciliation raises. -/
def Misnamed (n : ℚ) (db : Db) : Prop := ∃ id ∈ db.staleTasks n, db.tasks.find? (clean id) = none

instance (n : ℚ) (db : Db) : Decidable (LapsedAtWork n db) := inferInstanceAs (Decidable (∀ r ∈ db.tasks.rows, _ → _))
instance (n : ℚ) (db : Db) : Decidable (Misnamed n db) := inferInstanceAs (Decidable (∃ id ∈ db.staleTasks n, _))

/-- Whenever `reconcile` returns from this state, left alone, no dead lease is left. -/
def ReconcileSettles (host : Host) (now : PyFloat) (db : Db) : Prop :=
  ∀ n, now.clock? = some n → ∀ db' changed,
    connections.Returns (Client.procedure host (Supervisor.reconcile now)) db db' changed → NoDeadLease n db'

/-- What a pass over the tasks `ids` leaves behind. -/
structure Released (ids : List String) (before after : Table TaskRow TaskRow.taskId) : Prop where
  source : ∀ r ∈ after.rows, r ∈ before.rows ∨ r.Unleased ∧ r.state.working = false
  kept : ∀ r ∈ before.rows, r.taskId ∉ ids → r ∈ after.rows

section

variable {host : Host} {db db' : Db} {n : ℚ} {task : String} {ids out : List String} {r : TaskRow}

theorem Released.same {t : Table TaskRow TaskRow.taskId} : Released ids t t :=
  ⟨fun _ member => .inl member, fun _ member _ => member⟩

theorem Released.trans {t u v : Table TaskRow TaskRow.taskId} {rest : List String} (first : Released ids t u)
    (second : Released rest u v) : Released (ids ++ rest) t v where
  source r member := (second.source r member).elim (first.source r) .inr
  kept r member away := by
    rw [List.mem_append, not_or] at away
    exact second.kept r (first.kept r member away.1) away.2

/-- An `UPDATE` that releases the rows it hits, all of one task. -/
theorem Released.update {t u : Table TaskRow TaskRow.taskId} {p : TaskRow → Prop} [DecidablePred p] {f : TaskRow → TaskRow}
    (updated : u.rows = t.rows.map fun r => if p r then f r else r) (named : ∀ r, p r → r.taskId = task)
    (releases : ∀ r, (f r).Unleased ∧ (f r).state.working = false) : Released [task] t u where
  source r member := by
    obtain ⟨old, there, rfl⟩ := List.mem_map.mp (updated ▸ member)
    split
    · exact .inr (releases old)
    · exact .inl there
  kept r member away := by
    rw [updated]
    exact List.mem_map.mpr ⟨r, member, if_neg fun hit => away (List.mem_singleton.mpr (named r hit))⟩

/-! ### The stale pass -/

theorem released_chargeStale {read : TaskRow} : Released [task] db.tasks (chargeStale task read n db).tasks :=
  .update rfl (fun _ named => named) fun _ => ⟨⟨rfl, rfl, rfl⟩, afterFailure_idle read⟩

/-- One round: the row read under the cleaned name is charged to the task. -/
theorem returns_reconcileRows {id : String} {rest : List String} :
    connections.Returns (Store.reconcileRows n (id :: rest)) db db' out ↔ ∃ read tail,
      db.tasks.find? (clean id) = some read ∧ out = id :: tail ∧ connections.Returns (Store.reconcileRows n rest)
        ((chargeStale id read n db).log id "STALE_WORKER_RECONCILED" n (afterFailure read).name) db' tail := by
  simp [Store.reconcileRows, Store.audit, perform, and_comm]

theorem reconcileRows_released (returned : connections.Returns (Store.reconcileRows n ids) db db' out) :
    Released ids db.tasks db'.tasks := by
  induction ids generalizing db out with
  | nil =>
    obtain ⟨rfl, _⟩ := Machine.returns_pure.mp returned
    exact .same
  | cons id rest ih =>
    obtain ⟨read, tail, _, _, later⟩ := returns_reconcileRows.mp returned
    have charged : Released [id] db.tasks (chargeStale id read n db).tasks := released_chargeStale
    have released := ih later
    exact charged.trans released

/-- The pass returns if every task is found under its cleaned name. -/
theorem reconcileRows_returns (named : ∀ id ∈ ids, db.tasks.find? (clean id) ≠ none) :
    ∃ db' out, connections.Returns (Store.reconcileRows n ids) db db' out := by
  induction ids generalizing db with
  | nil => exact ⟨db, [], Machine.returns_pure.mpr ⟨rfl, rfl⟩⟩
  | cons id rest ih =>
    obtain ⟨read, found⟩ := Option.ne_none_iff_exists'.mp (named id List.mem_cons_self)
    let charged := (chargeStale id read n db).log id "STALE_WORKER_RECONCILED" n (afterFailure read).name
    have named : ∀ other ∈ rest, charged.tasks.find? (clean other) ≠ none := fun other member => by
      have keeps : charged.tasks.find? (clean other) = (db.tasks.find? (clean other)).map _ :=
        Table.find?_update rfl fun _ => rfl
      simpa [keeps] using named other (List.mem_cons_of_mem _ member)
    obtain ⟨db', out, later⟩ := ih named
    exact ⟨db', id :: out, returns_reconcileRows.mpr ⟨read, out, found, rfl, later⟩⟩

/-- The pass raises at a task that is not found under its cleaned name. -/
theorem reconcileRows_named (returned : connections.Returns (Store.reconcileRows n ids) db db' out) :
    ∀ id ∈ ids, db.tasks.find? (clean id) ≠ none := by
  induction ids generalizing db out with
  | nil => exact nofun
  | cons id rest ih =>
    obtain ⟨read, tail, found, _, later⟩ := returns_reconcileRows.mp returned
    refine List.forall_mem_cons.mpr ⟨by simp [found], fun other member absent => ih later other member ?_⟩
    have keeps : (chargeStale id read n db).tasks.find? (clean other) = (db.tasks.find? (clean other)).map _ :=
      Table.find?_update rfl fun _ => rfl
    simp [Db.log, keeps, absent]

/-! ### The expiry pass -/

/-- The task is released if at all, and has no lapsed lease. -/
structure Reclaimed (task : String) (n : ℚ) (before after : Table TaskRow TaskRow.taskId) : Prop where
  released : Released [task] before after
  settled : ∀ r ∈ after.rows, r.named task TaskState.working → ¬ r.Lapsed n

theorem reclaim_released {c : Committed Unit} (reclaimed : reclaimTask task n db = .ok c) :
    Released [task] db.tasks c.1.tasks ∧ ∀ r ∈ c.1.tasks.rows, r.named task TaskState.working → ¬ r.Lapsed n := by
  simp only [reclaimTask, require_bind_ok, found_bind_ok, pure_ok] at reclaimed
  obtain ⟨t, _, _, _, _, _, _, rfl⟩ := reclaimed
  refine ⟨.update rfl (fun _ lapsed => lapsed.1.1) fun _ => ⟨⟨rfl, rfl, rfl⟩, afterFailure_idle t⟩, fun r member => ?_⟩
  obtain ⟨old, there, rfl⟩ := List.mem_map.mp member
  split
  · exact fun named => absurd named.2 (by simp [TaskRow.charged, afterFailure_idle])
  · rename_i missed
    exact fun named lapsed => missed ⟨named, lapsed⟩

/-- A lapsed lease of a task at work is reclaimed. -/
theorem reclaim_ok (member : r ∈ db.tasks.rows) (named : r.named task TaskState.working) (lapsed : r.Lapsed n) :
    ∃ db', reclaimTask task n db = .ok (db', .ok ()) := by
  have found : db.tasks.find? task = some r := Table.find?_some.mpr ⟨member, named.1⟩
  obtain ⟨e, expires, past⟩ := lapsed
  have one : db.tasks.rowcount (fun r => r.named task TaskState.working ∧ r.Lapsed n) = 1 := by
    rw [Table.rowcount_key fun _ hit => hit.1.1]
    exact if_pos ⟨r, found, named, e, expires, past⟩
  apply Exists.intro
  simp only [reclaimTask, require_bind_ok, found_bind_ok, pure_ok]
  exact ⟨r, found, named.2, e, expires, PyFloat.not_lt_of_le past, one, rfl⟩

/-- A reclaim that was not locked out leaves no lapsed lease of the task. -/
theorem reclaim_settles {x : Input} (free : x.busy = false) :
    Reclaimed task n db.tasks (exec (.reclaim task n) x db).1.tasks := by
  rw [exec_free _ free, perform]
  cases answer : reclaimTask task n db with
  | ok c =>
    obtain ⟨released, settled⟩ := reclaim_released answer
    exact ⟨released, settled⟩
  | error e =>
    refine ⟨.same, fun r member named lapsed => ?_⟩
    obtain ⟨db', reclaimed⟩ := reclaim_ok member named lapsed
    cases answer.symm.trans reclaimed

/-- The tasks are released if at all, and none at work has a lapsed lease. -/
structure ReclaimedAll (ids : List String) (n : ℚ) (before after : Table TaskRow TaskRow.taskId) : Prop where
  released : Released ids before after
  settled : ∀ r ∈ after.rows, r.state.working → r.Lapsed n → r.taskId ∉ ids

theorem now_valid {now : PyFloat} (valid : now.clock? = some n) : Store.now now = pure n := by
  simp only [Store.now, valid]

theorem ends_reclaimExpired {now : PyFloat} {answer : Answer Unit} (valid : now.clock? = some n) :
    connections.Ends (Store.reclaimExpired task now).run db db' answer ↔ ∃ x, exec (.reclaim task n) x db = (db', answer) := by
  rw [Store.reclaimExpired, now_valid valid]
  exact Machine.ends_ask

/-- One round: whatever becomes of the reclaim, no lapsed lease of the task is left. -/
theorem reclaimAll_step {id : String} {rest : List String} {now : PyFloat} (valid : now.clock? = some n)
    (returned : connections.Returns (Client.procedure host (Supervisor.reclaimAll now (id :: rest))) db db' out) :
    ∃ mid tail, connections.Returns (Client.procedure host (Supervisor.reclaimAll now rest)) mid db' tail ∧
      Reclaimed id n db.tasks mid.tasks := by
  simp only [Supervisor.reclaimAll, Client.procedure, Procedure.interp_bind, Procedure.interp_attempt,
    Procedure.interp_ask, Machine.returns_bind, Machine.returns_attempt, Op.run, ends_reclaimExpired valid] at returned
  obtain ⟨mid, answer, ⟨x, reclaimed⟩, returned⟩ := returned
  cases busy : x.busy with
  | true =>
    obtain ⟨rfl, rfl⟩ : db = mid ∧ .error .operational = answer := by simpa [exec, busy, lockedError] using reclaimed
    exact absurd returned Machine.returns_throw
  | false =>
    have settled : Reclaimed id n db.tasks (exec (.reclaim id n) x db).1.tasks := reclaim_settles busy
    rw [reclaimed] at settled
    cases answer with
    | ok u =>
      simp only [Procedure.interp_bind, Machine.returns_bind, Procedure.interp_pure, Machine.returns_pure] at returned
      obtain ⟨_, tail, later, rfl, _⟩ := returned
      exact ⟨mid, tail, later, settled⟩
    | error e =>
      dsimp only at returned
      split at returned
      · exact ⟨mid, out, returned, settled⟩
      · exact absurd returned Machine.returns_throw

theorem reclaimAll_cons {id : String} {rest : List String} {now : PyFloat} {mid : Db} (valid : now.clock? = some n)
    (reclaimed : reclaimTask id n db = .ok (mid, .ok ()))
    (later : connections.Returns (Client.procedure host (Supervisor.reclaimAll now rest)) mid db' out) :
    connections.Returns (Client.procedure host (Supervisor.reclaimAll now (id :: rest))) db db' (id :: out) := by
  simp only [Supervisor.reclaimAll, Client.procedure, Procedure.interp_bind, Procedure.interp_attempt,
    Procedure.interp_ask, Machine.returns_bind, Machine.returns_attempt, Op.run, ends_reclaimExpired valid]
  refine ⟨mid, .ok (), ⟨{}, ?_⟩, ?_⟩
  · simp [exec, perform, reclaimed, transaction]
  · simp
    exact later

theorem reclaimAll_settles {now : PyFloat} (valid : now.clock? = some n)
    (returned : connections.Returns (Client.procedure host (Supervisor.reclaimAll now ids)) db db' out) :
    ReclaimedAll ids n db.tasks db'.tasks := by
  induction ids generalizing db out with
  | nil =>
    obtain ⟨rfl, _⟩ := Machine.returns_pure.mp returned
    exact ⟨.same, fun _ _ _ _ => List.not_mem_nil⟩
  | cons id rest ih =>
    obtain ⟨mid, tail, later, first, settled⟩ := reclaimAll_step valid returned
    obtain ⟨second, others⟩ := ih later
    refine ⟨first.trans second, fun r member working lapsed named => ?_⟩
    rcases List.mem_cons.mp named with same | late
    · rcases second.source r member with before | ⟨_, idle⟩
      · exact settled r before ⟨same, working⟩ lapsed
      · exact absurd working (by simp [idle])
    · exact others r member working lapsed late

/-- The pass returns if every task that it is given holds a lapsed lease. -/
theorem reclaimAll_returns {now : PyFloat} (valid : now.clock? = some n) (distinct : ids.Nodup)
    (lapsed : ∀ id ∈ ids, ∃ r ∈ db.tasks.rows, r.named id TaskState.working ∧ r.Lapsed n) :
    ∃ db' out, connections.Returns (Client.procedure host (Supervisor.reclaimAll now ids)) db db' out := by
  induction ids generalizing db with
  | nil => exact ⟨db, [], Machine.returns_pure.mpr ⟨rfl, rfl⟩⟩
  | cons id rest ih =>
    obtain ⟨fresh, distinct⟩ := List.nodup_cons.mp distinct
    obtain ⟨r, member, named, past⟩ := lapsed id List.mem_cons_self
    obtain ⟨mid, reclaimed⟩ := reclaim_ok member named past
    have later : ∀ other ∈ rest, ∃ s ∈ mid.tasks.rows, s.named other TaskState.working ∧ s.Lapsed n := by
      intro other late
      obtain ⟨s, there, named, past⟩ := lapsed other (List.mem_cons_of_mem _ late)
      have different : s.taskId ∉ [id] := by
        rw [named.1, List.mem_singleton]
        rintro rfl
        exact fresh late
      exact ⟨s, (reclaim_released reclaimed).1.kept s there different, named, past⟩
    obtain ⟨db', out, later⟩ := ih distinct later
    exact ⟨db', id :: out, reclaimAll_cons valid reclaimed later⟩

/-! ### The whole of `reconcile` -/

theorem mem_expiredLeases : task ∈ db.expiredLeases n ↔
    ∃ r ∈ db.tasks.rows, r.named task TaskState.working ∧ r.Lapsed n := by
  rw [Db.expiredLeases, mem_sortIds, List.mem_map]
  constructor
  · rintro ⟨r, member, rfl⟩
    obtain ⟨there, working, lapsed⟩ := by simpa using member
    exact ⟨r, there, ⟨rfl, working⟩, lapsed⟩
  · rintro ⟨r, there, ⟨rfl, working⟩, lapsed⟩
    exact ⟨r, by simp [there, working, lapsed], rfl⟩

/-- `reconcile` is one pass after the other, the second over what the first left. -/
theorem returns_reconcile {now : PyFloat} (valid : now.clock? = some n) :
    connections.Returns (Client.procedure host (Supervisor.reconcile now)) db db' out ↔ ∃ mid stale reclaimed,
      connections.Returns (Store.reconcileRows n (db.staleTasks n)) db mid stale ∧
        connections.Returns (Client.procedure host (Supervisor.reclaimAll now (mid.expiredLeases n))) mid db' reclaimed ∧
          out = sortIds (stale ++ reclaimed) := by
  simp [Supervisor.reconcile, Client.procedure, Op.run, Store.reconcileStaleWorkers, Store.expiredLeaseTasks,
    now_valid valid, perform]

/-- What was at work before the second pass and is dead is reclaimed by it. -/
theorem noDeadLease_of_reconcile {now : PyFloat} (valid : now.clock? = some n) (atWork : LapsedAtWork n db)
    (returned : connections.Returns (Client.procedure host (Supervisor.reconcile now)) db db' out) : NoDeadLease n db' := by
  obtain ⟨mid, stale, reclaimed, first, second, _⟩ := (returns_reconcile valid).mp returned
  have charged := reconcileRows_released first
  obtain ⟨released, settled⟩ := reclaimAll_settles valid second
  intro r member held lapsed
  have here : r ∈ mid.tasks.rows := (released.source r member).resolve_right fun free => held free.1.2.1
  have there : r ∈ db.tasks.rows := (charged.source r here).resolve_right fun free => held free.1.2.1
  refine (atWork r there held lapsed).resolve_left fun working => ?_
  exact settled r member working lapsed (mem_expiredLeases.mpr ⟨r, here, ⟨rfl, working⟩, lapsed⟩)

/-- Reconciliation returns, unless a stale task is misnamed. -/
theorem reconcile_returns (host : Host) {now : PyFloat} (valid : now.clock? = some n) (named : ¬ Misnamed n db) :
    ∃ db' changed, connections.Returns (Client.procedure host (Supervisor.reconcile now)) db db' changed := by
  obtain ⟨mid, stale, first⟩ := reconcileRows_returns (n := n) fun id member absent => named ⟨id, member, absent⟩
  obtain ⟨db', reclaimed, second⟩ := reclaimAll_returns valid (sortIds_nodup _) fun id member => mem_expiredLeases.mp member
  exact ⟨db', _, (returns_reconcile valid).mpr ⟨mid, stale, reclaimed, first, second, rfl⟩⟩

/-- What is not at work is neither stale nor expired, and reconciliation leaves it as it is. -/
theorem reconcile_keeps {now : PyFloat} (valid : now.clock? = some n)
    (returned : connections.Returns (Client.procedure host (Supervisor.reconcile now)) db db' out)
    (member : r ∈ db.tasks.rows) (idle : ¬ r.state.working) : r ∈ db'.tasks.rows := by
  obtain ⟨mid, stale, reclaimed, first, second, _⟩ := (returns_reconcile valid).mp returned
  have here : r ∈ mid.tasks.rows := (reconcileRows_released first).kept r member fun stale => by
    obtain ⟨s, there, same, running⟩ := mem_staleTasks stale
    rw [Table.eq_of_key member there same.symm, running] at idle
    exact idle rfl
  refine (reclaimAll_settles valid second).released.kept r here fun expired => ?_
  obtain ⟨s, there, ⟨same, working⟩, _⟩ := mem_expiredLeases.mp expired
  exact idle (Table.eq_of_key here there same.symm ▸ working)

theorem lapsedAtWork_of_settles {now : PyFloat} (valid : now.clock? = some n) (settles : ReconcileSettles host now db)
    (named : ¬ Misnamed n db) : LapsedAtWork n db := by
  obtain ⟨db', changed, returned⟩ := reconcile_returns host valid named
  intro r member held lapsed
  by_cases working : r.state.working
  · exact .inl working
  · exact .inr (settles n valid db' changed returned r (reconcile_keeps valid returned member working) held lapsed)

/-- For every state and every time: reconciliation that returns leaves no dead lease
if and only if every lapsed lease is held in LEASED or RUNNING, or in a state that
the law exempts, or a stale task is misnamed and `reconcile` raises. -/
theorem reconcile_settles_iff (host : Host) (now : PyFloat) (db : Db) : ReconcileSettles host now db ↔
    ∀ n, now.clock? = some n → LapsedAtWork n db ∨ Misnamed n db := by
  constructor
  · intro settles n valid
    by_cases named : Misnamed n db
    · exact .inr named
    · exact .inl (lapsedAtWork_of_settles valid settles named)
  · intro condition n valid db' changed returned
    rcases condition n valid with atWork | ⟨id, stale, absent⟩
    · exact noDeadLease_of_reconcile valid atWork returned
    · obtain ⟨mid, _, _, first, _⟩ := (returns_reconcile valid).mp returned
      exact absurd absent (reconcileRows_named first id stale)

end

/-- A result without evidence leaves the task in EVIDENCE_PENDING with its lease,
which lapses. -/
def evidenceNeverSent : List (Taken Stmt Input Db) × Config Err Stmt Db :=
  script Sample.host [Sample.task "t" 5, Sample.worker "w", .call (.claim "t" "w" (.fin 10) (.fin 0)),
      .call (.submitResult "t" "w" "lease" "" "" (.fin 1))]
    (moves [3, 3, 2] ++ [(1, { uuid := "lease" })] ++ moves [0])

theorem reconcile_does_not_settle :
    ¬ ∀ (host : Host) (db : Db) (now : PyFloat), Reachable host db → ReconcileSettles host now db := by
  intro law
  have settles := law Sample.host evidenceNeverSent.2.state (.fin 100) ⟨_, _, runs_script .., rfl⟩
  have atWork := lapsedAtWork_of_settles rfl settles (by decide +kernel)
  exact absurd atWork (by decide +kernel)

end ControlPlane.Autonomy
