import ControlPlane.Autonomy.Router

/-!
# What a pass of the router leaves

Of the leases that tasks hold, a pass changes those that it claims, and it gives each to its own
task of the batch.
-/

namespace ControlPlane.Autonomy

open Data Interleaving

/-- The tasks with the leases they hold. -/
def Db.held (db : Db) : List (String × Option String) := db.tasks.rows.map fun r => (r.taskId, r.leaseId)

/-- The task holds this lease now. -/
def give (held : List (String × Option String)) (task lease : String) : List (String × Option String) :=
  held.map fun p => if p.1 = task then (task, some lease) else p

namespace LocalGateway

/-- What `eligible_sessions` answers in a store that is not locked. -/
def listed (g : LocalGateway) (db : Db) (capability target : String) (n : ℚ) : List String → Answer (List (String × String))
  | [] => .ok []
  | worker :: rest =>
    match g.sessions worker with
    | none => listed g db capability target n rest
    | some s =>
      if s.Serves capability target n then
        match db.workers.find? (clean worker) with
        | none => .error (.blocked "unknown worker")
        | some w =>
          match listed g db capability target n rest with
          | .error e => .error e
          | .ok found =>
            if (w.lastHeartbeat ≤ n + 1 ∧ PyFloat.fin (n - w.lastHeartbeat) ≤ w.heartbeatSla) ∧
                (db.activeLeases worker n : Int) < min w.capacity s.capacity then
              .ok ((worker, s.sessionId.1) :: found)
            else .ok found
      else listed g db capability target n rest

end LocalGateway

section

variable {platform : Platform} {g g' : LocalGateway} {db db' u : Db} {n : ℚ} {capability target task worker session lease : String}
  {workers : List String} {t : TaskRow} {pair : String × String} {pairs : List (String × String)} {router : AgentRouter}

/-! ### The eligible sessions -/

theorem surely_eligibleOf (valid : 0 ≤ n) (workers : List String) :
    connections.Surely Calm (g.eligibleOf capability target n workers).run u fun u' r =>
      u' = u ∧ r = g.listed u capability target n workers := by
  induction workers with
  | nil => exact ⟨rfl, rfl⟩
  | cons worker rest ih =>
    unfold LocalGateway.eligibleOf LocalGateway.listed
    cases current : g.sessions worker with
    | none => exact ih
    | some s =>
      dsimp only
      split
      · cases registered : u.workers.find? (clean worker) with
        | none =>
          refine Machine.surely_bind.mpr ?_
          refine Machine.surely_then (surely_now (clock_fin.mpr ⟨valid, rfl⟩)) ?_
          refine Machine.surely_then (surely_query fun x => rfl) ?_
          rw [registered]
          exact ⟨rfl, rfl⟩
        | some w =>
          refine Machine.surely_then (surely_status valid registered) ?_
          refine ih.andThen (fun u' found done => ?_) fun u' e done => ?_
          · obtain ⟨rfl, answer⟩ := done
            rw [← answer]
            dsimp only
            split
            · rename_i room
              rw [decide_eq_true_iff] at room
              exact ⟨rfl, (if_pos room).symm⟩
            · rename_i full
              rw [decide_eq_true_iff] at full
              exact ⟨rfl, (if_neg full).symm⟩
          · obtain ⟨rfl, answer⟩ := done
            rw [← answer]
            exact ⟨rfl, rfl⟩
      · exact ih

theorem listed_blocked {e : Err} (refused : g.listed u capability target n workers = .error e) : e.isBlocked = true := by
  induction workers with
  | nil => cases refused
  | cons worker rest ih =>
    unfold LocalGateway.listed at refused
    split at refused
    · exact ih refused
    · split at refused
      · split at refused
        · cases refused
          rfl
        · split at refused
          · rename_i e' below
            cases refused
            exact ih below
          · split at refused <;> cases refused
      · exact ih refused

/-- A session that is listed serves the task, and its worker has room. -/
theorem mem_listed (listed : g.listed u capability target n workers = .ok pairs) (member : pair ∈ pairs) :
    pair.1 ∈ workers ∧ ∃ s w, g.sessions pair.1 = some s ∧ s.sessionId.1 = pair.2 ∧ s.Serves capability target n ∧
      u.workers.find? (clean pair.1) = some w ∧ (w.lastHeartbeat ≤ n + 1 ∧ PyFloat.fin (n - w.lastHeartbeat) ≤ w.heartbeatSla) ∧
        (u.activeLeases pair.1 n : Int) < w.capacity := by
  induction workers generalizing pairs with
  | nil =>
    cases listed
    exact absurd member List.not_mem_nil
  | cons worker rest ih =>
    have later {pairs : List (String × String)} (listed : g.listed u capability target n rest = .ok pairs) (member : pair ∈ pairs) :=
      (ih listed member).imp_left (List.mem_cons_of_mem worker)
    unfold LocalGateway.listed at listed
    split at listed
    · exact later listed member
    · rename_i s current
      split at listed
      · rename_i serves
        split at listed
        · cases listed
        · rename_i w registered
          split at listed
          · cases listed
          · rename_i found below
            split at listed
            · rename_i room
              cases listed
              rcases List.mem_cons.mp member with rfl | other
              · exact ⟨List.mem_cons_self, s, w, current, rfl, serves, registered, room.1, lt_of_lt_of_le room.2 (min_le_left _ _)⟩
              · exact later below other
            · cases listed
              exact later below member
      · exact later listed member

/-- The list is the same after tasks have waited. -/
theorem Waited.listed (waited : Waited db u) : g.listed u capability target n workers = g.listed db capability target n workers := by
  induction workers with
  | nil => rfl
  | cons worker rest ih =>
    unfold LocalGateway.listed
    rw [waited.workers, waited.active, ih]

theorem surely_eligibleSessions (valid : 0 ≤ n) (workers : List String) :
    connections.Surely Calm (g.eligibleSessions capability target workers (.fin n)).run u fun u' r =>
      u' = u ∧ r = (g.listed u capability target n workers).map ExternalGateway.sortPairs := by
  refine Machine.surely_then (surely_now (clock_fin.mpr ⟨valid, rfl⟩)) ?_
  refine (surely_eligibleOf valid workers).andThen (fun u' found done => ?_) fun u' e done => ?_
  · obtain ⟨rfl, answer⟩ := done
    rw [← answer]
    exact ⟨rfl, rfl⟩
  · obtain ⟨rfl, answer⟩ := done
    rw [← answer]
    exact ⟨rfl, rfl⟩

/-! ### A claim -/

/-- The claim was granted under this lease. -/
structure Leases (u u' : Db) (n : ℚ) (task worker lease : String) (expires : PyFloat) : Prop where
  unused : ∀ r ∈ u.tasks.rows, r.leaseId ≠ some lease
  held : u'.held = give u.held task lease
  row : ∃ t heartbeat, u.tasks.find? task = some t ∧ u'.tasks.find? task = some (t.claimed worker lease expires heartbeat n)

theorem require_bind_error {β : Type} {c : Prop} [Decidable c] {e e' : Err} {f : Unit → Except Err β}
    (refused : (require c e >>= f) = .error e') : e' = e ∨ c ∧ f () = .error e' := by
  by_cases holds : c
  · rw [require, if_pos holds] at refused
    exact .inr ⟨holds, refused⟩
  · rw [require, if_neg holds] at refused
    exact .inl (Except.error.inj refused).symm

theorem found_bind_error {α β : Type} {o : Option α} {e e' : Err} {f : α → Except Err β}
    (refused : (found o e >>= f) = .error e') : e' = e ∨ ∃ a, o = some a ∧ f a = .error e' := by
  cases o with
  | none => exact .inl (Except.error.inj refused).symm
  | some a => exact .inr ⟨a, rfl, refused⟩

theorem claimTask_blocked {seconds : PyFloat} {e : Err} (unused : ∀ r ∈ u.tasks.rows, r.leaseId ≠ some lease)
    (refused : claimTask task worker seconds n lease u = .error e) : e.isBlocked = true := by
  unfold claimTask at refused
  obtain rfl | ⟨t, -, refused⟩ := found_bind_error refused
  · rfl
  obtain rfl | ⟨w, -, refused⟩ := found_bind_error refused
  · rfl
  obtain rfl | ⟨-, refused⟩ := require_bind_error refused
  · rfl
  obtain rfl | ⟨-, refused⟩ := require_bind_error refused
  · rfl
  obtain rfl | ⟨-, refused⟩ := require_bind_error refused
  · rfl
  obtain rfl | ⟨-, refused⟩ := require_bind_error refused
  · rfl
  obtain rfl | ⟨-, refused⟩ := require_bind_error refused
  · rfl
  rw [require, if_pos fun r member _ => unused r member] at refused
  cases refused

theorem claimTask_leases {seconds : ℚ} {c : Committed Lease} (unused : ∀ r ∈ u.tasks.rows, r.leaseId ≠ some lease)
    (claimed : claimTask task worker (.fin seconds) n lease u = .ok c) :
    c.2 = .ok ⟨task, worker, lease, .fin n + .fin seconds⟩ ∧ Leases u c.1 n task worker lease (.fin (n + seconds)) := by
  simp only [claimTask, require_bind_ok, found_bind_ok, pure_ok] at claimed
  obtain ⟨t, found, w, -, open_, -, -, -, -, -, rfl⟩ := claimed
  have named : t.named task TaskState.leaseable := ⟨(Table.find?_some.mp found).2, open_.1⟩
  refine ⟨rfl, unused, ?_, t, w.lastHeartbeat, found, ?_⟩
  · unfold Db.held give
    show (List.map _ (List.map _ u.tasks.rows)) = _
    rw [List.map_map, List.map_map]
    refine List.map_congr_left fun r member => ?_
    simp only [Function.comp_apply]
    by_cases same : r.taskId = task
    · obtain rfl := hits_found found member same
      rw [if_pos named, if_pos same]
      rw [← same]
      rfl
    · rw [if_neg fun hit => same hit.1, if_neg same]
  · refine (@Table.find?_update _ _ _ u.tasks (TaskRow.named task TaskState.leaseable) _
      (TaskRow.claimed worker lease (.fin n + .fin seconds) w.lastHeartbeat n) _ _ _ rfl fun _ => rfl).trans ?_
    rw [found, Option.map_some, if_pos named]
    rfl

theorem surely_claims {A : Input → Db → Prop} (calm : ∀ x u, A x u → Calm x u) {seconds : ℚ} (valid : 0 ≤ n)
    (positive : 0 < seconds) (task worker : String) :
    connections.Surely A (Store.claim task worker (.fin seconds) (.fin n)).run u fun u' r =>
      (∃ e, r = .error e ∧ e.isBlocked = true ∧ u' = u) ∨ ∃ x, A x u ∧
        r = .ok ⟨task, worker, x.uuid, .fin n + .fin seconds⟩ ∧ Leases u u' n task worker x.uuid (.fin (n + seconds)) := by
  rw [Store.claim, now_valid (clock_fin.mpr ⟨valid, rfl⟩), Store.check, if_pos (finiteDuration_iff.mp ⟨seconds, rfl, positive⟩)]
  refine Machine.surely_ask.mpr fun x supplied => ?_
  show (∃ e, (exec (.claim task worker (.fin seconds) n) x u).2 = .error e ∧ e.isBlocked = true ∧
    (exec (.claim task worker (.fin seconds) n) x u).1 = u) ∨ ∃ y, A y u ∧ (exec (.claim task worker (.fin seconds) n) x u).2 = _ ∧
      Leases u (exec (.claim task worker (.fin seconds) n) x u).1 n task worker y.uuid _
  have free := calm x u supplied
  rw [exec_free _ free.1]
  simp only [perform]
  cases claimed : claimTask task worker (.fin seconds) n x.uuid u with
  | error e => exact .inl ⟨e, rfl, claimTask_blocked free.2 claimed, rfl⟩
  | ok c => exact .inr ⟨x, supplied, claimTask_leases free.2 claimed⟩

/-! ### A task that waits -/

theorem surely_markWaiting (valid : 0 ≤ n) (task : String) :
    connections.Surely Calm (Store.markWaitingCapacity task (.fin n)).run u fun u' r =>
      Waited u u' ∧ u'.held = u.held ∧ ∀ e, r = .error e → e.isBlocked = true := by
  refine Machine.surely_then (surely_now (clock_fin.mpr ⟨valid, rfl⟩)) ?_
  refine Machine.surely_ask.mpr fun x calm => ?_
  show Waited u (exec (.markWaiting task n) x u).1 ∧ (exec (.markWaiting task n) x u).1.held = u.held ∧
    ∀ e, (exec (.markWaiting task n) x u).2 = .error e → e.isBlocked = true
  rw [exec_free _ calm.1]
  simp only [perform]
  cases waits : markWaiting task n u with
  | error e =>
    unfold markWaiting at waits
    obtain rfl | ⟨-, impossible⟩ := require_bind_error waits
    · exact ⟨.refl u, rfl, fun e same => by cases same; rfl⟩
    · cases impossible
  | ok c =>
    simp only [markWaiting, require_bind_ok, pure_ok] at waits
    obtain ⟨-, rfl⟩ := waits
    refine ⟨waited_update rfl rfl fun r _ hit => hit.1.2, ?_, fun e impossible => by cases impossible⟩
    refine (List.map_map ..).trans (List.map_congr_left fun r _ => ?_)
    simp only [Function.comp_apply]
    split <;> rfl

/-! ### A dispatch -/

/-- The procedure leaves the tasks alone. -/
abbrev Taskless {α : Type} (p : Store α) : Prop := Procedure.All (fun s => ∀ x u, (exec s x u).1.tasks = u.tasks) p

theorem taskless_ask {α : Type} {s : Stmt α} (reads : ∀ x u, (perform s x u).1.tasks = u.tasks) : Taskless (Procedure.ask s) := by
  refine Procedure.all_ask fun x u => ?_
  unfold exec
  split
  · rfl
  · exact reads x u

theorem taskless_check {c : Prop} [Decidable c] {e : Err} : Taskless (Store.check c e) := by
  unfold Store.check
  split
  · exact Procedure.all_pure _
  · exact Procedure.all_throw _

theorem taskless_row {α : Type} {o : Option α} {e : Err} : Taskless (Store.row o e) := by
  cases o
  · exact Procedure.all_throw _
  · exact Procedure.all_pure _

theorem taskless_dispatch {task lease : List (String × Json)} {sessionId : Json} {now : PyFloat} :
    Taskless (g.dispatch platform task lease sessionId now) := by
  refine .bind ?_ fun n => .bind (Procedure.all_lift _) fun worker => .bind (Procedure.all_lift _) fun taskId =>
    .bind (Procedure.all_lift _) fun leaseId => .bind (Procedure.all_lift _) fun selected =>
    .bind (.bind (taskless_ask fun x u => rfl) fun r => taskless_row) fun current => .bind taskless_row fun session =>
    .bind taskless_check fun _ => .bind taskless_row fun expires => .bind taskless_check fun _ => ?_
  · unfold Store.now
    split
    · exact Procedure.all_pure _
    · exact Procedure.all_throw _
  · dsimp only
    split
    · exact Procedure.all_pure _
    · exact .bind (taskless_ask fun x u => rfl) fun _ => Procedure.all_pure _

/-- What comes after the claim leaves the leases as they are. -/
theorem surely_afterClaim {u₁ : Db} {l : Lease} {expires : PyFloat} {reason : String}
    (leases : Leases u u₁ n task worker lease expires) : connections.Surely Calm (do
      Store.audit t.taskId "ROUTED" n s!"worker={worker};session={session};lease={l.leaseId};reason={reason}"
      let (g, envelope) ← g.dispatch platform t.dict l.dict (.str session) (.fin n)
      return (g, some envelope) : Store (LocalGateway × Option DispatchEnvelope)).run u₁ fun u₂ _ =>
        ∃ lease, (∀ r ∈ u.tasks.rows, r.leaseId ≠ some lease) ∧ u₂.held = give u.held task lease := by
  have rest : Taskless (do
      Store.audit t.taskId "ROUTED" n s!"worker={worker};session={session};lease={l.leaseId};reason={reason}"
      let (g, envelope) ← g.dispatch platform t.dict l.dict (.str session) (.fin n)
      return (g, some envelope) : Store (LocalGateway × Option DispatchEnvelope)) :=
    .bind (taskless_ask fun x u => rfl) fun _ => .bind taskless_dispatch fun dispatched => Procedure.all_pure _
  refine Machine.surely_of_ends fun u₂ r ends => ⟨lease, leases.unused, ?_⟩
  have tasks : u₂.tasks = u₁.tasks := ends.keeps (I := fun v => v.tasks = u₁.tasks) (rest.mono fun s keeps x v same =>
    (keeps x v).trans same) rfl
  rw [Db.held, tasks]
  exact leases.held

/-- Once there is a candidate, the task is leased to it, or the claim is refused and nothing is changed. -/
theorem surely_place (valid : 0 ≤ n) (t : TaskRow) (worker session : String) :
    connections.Surely Calm (router.place platform g t worker session n).run u fun u' r =>
      (∃ e, r = .error e ∧ e.isBlocked = true ∧ u' = u) ∨
        ∃ lease, (∀ r ∈ u.tasks.rows, r.leaseId ≠ some lease) ∧ u'.held = give u.held t.taskId lease := by
  refine (surely_claims (fun _ _ => id) valid router.finite t.taskId worker).andThen (fun u₁ l done => ?_) fun u₁ e done => ?_
  · rcases done with ⟨_, impossible, _⟩ | ⟨x, _, same, leases⟩
    · cases impossible
    · exact (surely_afterClaim leases).mono fun _ _ leased => .inr leased
  · rcases done with ⟨_, same, blocked, kept⟩ | ⟨_, _, impossible, _⟩
    · cases same
      exact .inl ⟨e, rfl, blocked, kept⟩
    · cases impossible

/-- A candidate that fits is given the task. -/
theorem surely_given (valid : 0 ≤ n) {row : TaskRow} (found : u.tasks.find? t.taskId = some row) (open_ : row.Schedulable)
    (fit : OwnFit u n t.taskId worker) (session : String) :
    connections.Surely Calm (router.place platform g t worker session n).run u fun u' _ =>
      ∃ lease, (∀ r ∈ u.tasks.rows, r.leaseId ≠ some lease) ∧ u'.held = give u.held t.taskId lease := by
  have granted := @surely_claim u n t.taskId worker row (.fin n) (.fin router.leaseSeconds) (clock_fin.mpr ⟨valid, rfl⟩)
    ⟨_, rfl, router.finite⟩ found open_ fit
  have claimed := @surely_claims u n Calm (fun _ _ => id) router.leaseSeconds valid router.finite t.taskId worker
  refine (granted.and claimed).andThen (fun u₁ l done => ?_) fun u₁ e done => ?_
  · rcases done.2 with ⟨_, impossible, _⟩ | ⟨x, _, _, leases⟩
    · cases impossible
    · exact surely_afterClaim leases
  · obtain ⟨⟨_, impossible⟩, _⟩ := done
    cases impossible

/-! ### One round, and the whole pass -/

/-- The task is leased, or nothing but waiting came of it. -/
theorem surely_routeTask (valid : 0 ≤ n) (t : TaskRow) (workers : List String) :
    connections.Surely Calm (router.routeTask platform workers g t n).run u fun u' r =>
      (Waited u u' ∧ u'.held = u.held ∧ (∀ e, r = .error e → e.isBlocked = true) ∧ ∀ out, r = .ok out → out = (g, none)) ∨
        ∃ lease, (∀ r ∈ u.tasks.rows, r.leaseId ≠ some lease) ∧ u'.held = give u.held t.taskId lease := by
  refine (surely_eligibleSessions valid workers).andThen (fun u' found done => ?_) fun u' e done => ?_
  · obtain ⟨rfl, answer⟩ := done
    cases found with
    | nil =>
      refine (surely_markWaiting valid t.taskId).andThen (fun u₁ _ done => ?_) fun u₁ e done => ?_
      · exact .inl ⟨done.1, done.2.1, fun e impossible => (by cases impossible), fun out same => (Except.ok.inj same).symm⟩
      · exact .inl ⟨done.1, done.2.1, fun e' same => done.2.2 e' (Except.error.inj same ▸ rfl), fun out impossible => by cases impossible⟩
    | cons pair rest =>
      refine (surely_place valid t pair.1 pair.2).mono fun u₁ r done => done.imp_left fun refused => ?_
      obtain ⟨e, rfl, blocked, rfl⟩ := refused
      exact ⟨.refl u₁, rfl, fun e' same => Except.error.inj same ▸ blocked, fun out impossible => by cases impossible⟩
  · obtain ⟨rfl, answer⟩ := done
    refine .inl ⟨.refl u', rfl, fun e' same => ?_, fun out impossible => by cases impossible⟩
    obtain rfl := Except.error.inj same
    cases listed : g.listed u' t.capability t.targetProject n workers with
    | ok pairs =>
      rw [listed] at answer
      cases answer
    | error e' =>
      rw [listed] at answer
      obtain rfl := Except.error.inj answer
      exact listed_blocked listed

/-- A lease of a task that is not in the batch is still held after the pass. -/
theorem surely_stillHeld (valid : 0 ≤ n) {batch : List TaskRow} (held : (task, some lease) ∈ u.held)
    (apart : ∀ t ∈ batch, t.taskId ≠ task) :
    connections.Surely Calm (router.routeBatch platform workers n g batch).run u fun u' _ => (task, some lease) ∈ u'.held := by
  induction batch generalizing u g with
  | nil => exact held
  | cons t rest ih =>
    obtain ⟨other, apart⟩ := List.forall_mem_cons.mp apart
    have kept : connections.Surely Calm (router.routeTask platform workers g t n).run u fun u' _ => (task, some lease) ∈ u'.held := by
      refine (surely_routeTask valid t workers).mono fun u' r done => ?_
      rcases done with ⟨_, same, _⟩ | ⟨_, _, given⟩
      · rw [same]
        exact held
      · rw [given]
        exact List.mem_map.mpr ⟨_, held, if_neg (Ne.symm other)⟩
    refine Machine.surely_andThen.mpr (Machine.surely_attempt.mpr (kept.mono fun u₁ r still => ⟨?_, ?_⟩))
    · intro done _
      split
      · refine (ih still apart).andThen (fun u₂ _ still => still) fun u₂ _ still => still
      · split
        · exact ih still apart
        · exact still
    · intro e impossible
      cases impossible

theorem give_held (found : u.tasks.find? task = some t) : (task, some lease) ∈ give u.held task lease := by
  obtain ⟨member, named⟩ := Table.find?_some.mp found
  refine List.mem_map.mpr ⟨(t.taskId, t.leaseId), List.mem_map_of_mem member, ?_⟩
  rw [if_pos named]

end

end ControlPlane.Autonomy
