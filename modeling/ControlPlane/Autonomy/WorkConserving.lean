import ControlPlane.Autonomy.RouterPass

/-!
# Work is not left lying

Only the batch is looked at, so work beyond it waits for as long as the batch is full of tasks
that nobody can take. Within the batch both passes lease something wherever something can be leased.
-/

namespace ControlPlane.Autonomy

open Data Interleaving

/-- The gateway lists this session first. -/
def ListsFirst (g : LocalGateway) (workers : List String) (db : Db) (t : TaskRow) (n : ℚ) (first : String × String) : Prop :=
  connections.Surely Calm (g.eligibleSessions t.capability t.targetProject workers (.fin n)).run db fun _ r =>
    ∃ others, r = .ok (first :: others)

/-- The worker is registered under the labels of the task. -/
def RegisteredFor (db : Db) (worker : String) (t : TaskRow) : Prop :=
  ∃ w, db.workers.find? worker = some w ∧ t.capability ∈ w.capabilities ∧ t.targetProject ∈ w.targets

/-- Something was leased since `db`. -/
def LeasedSince (db db' : Db) : Prop :=
  ∃ r ∈ db'.tasks.rows, ∃ lease, r.leaseId = some lease ∧ ∀ r ∈ db.tasks.rows, r.leaseId ≠ some lease

section

variable {platform : Platform} {g : LocalGateway} {db u : Db} {n : ℚ} {task worker lease : String} {workers : List String}
  {t : TaskRow} {router : AgentRouter} {batch : List TaskRow} {first : String × String} {host : Host}

theorem held_iff : (task, some lease) ∈ db.held ↔ ∃ r ∈ db.tasks.rows, r.taskId = task ∧ r.leaseId = some lease := by
  unfold Db.held
  rw [List.mem_map]
  exact exists_congr fun r => and_congr_right fun _ => Prod.mk.injEq .. ▸ Iff.rfl

theorem exists_calm (db : Db) : ∃ x, Calm x db := by
  obtain ⟨uuid, unused⟩ := exists_unused db
  exact ⟨{ uuid }, rfl, unused⟩

/-- The tasks of a batch are different tasks. -/
theorem schedulable_nodup {limit : Nat} : ((db.schedulable limit).map TaskRow.taskId).Nodup := by
  have inserted : ∀ (r : TaskRow) (rows : List TaskRow), (insertBy TaskRow.before r rows).Perm (r :: rows) := by
    intro r rows
    induction rows with
    | nil => exact .refl _
    | cons head rest ih =>
      unfold insertBy
      split
      · exact (ih.cons head).trans (.swap ..)
      · exact .refl _
  have sorted : ∀ rows : List TaskRow, (rows.foldr (insertBy TaskRow.before) []).Perm rows := by
    intro rows
    induction rows with
    | nil => exact .refl _
    | cons head rest ih => exact (inserted head _).trans (ih.cons head)
  refine List.Nodup.sublist (List.Sublist.map _ (List.take_sublist limit _)) ?_
  exact ((sorted _).map TaskRow.taskId).nodup_iff.mpr (db.tasks.unique.sublist (List.filter_sublist.map _))

/-- What is listed first fits, where it is registered for the task. -/
theorem listed_fits (stored : SlasStored db) (found : db.tasks.find? t.taskId = some t) (named : clean first.1 = first.1)
    (registered : RegisteredFor db first.1 t) {pairs : List (String × String)}
    (listed : g.listed db t.capability t.targetProject n workers = .ok pairs) (member : first ∈ pairs) :
    OwnFit db n t.taskId first.1 := by
  obtain ⟨-, s, w, -, -, -, read, available, room⟩ := mem_listed listed member
  obtain ⟨w', owner, able⟩ := registered
  rw [named] at read
  obtain rfl := Option.some.inj (read.symm.trans owner)
  exact ⟨t, w, found, owner, (available_iff (stored w (Table.find?_some.mp owner).1)).mp available, room, able⟩

theorem listsFirst_listed (valid : 0 ≤ n) (lists : ListsFirst g workers db t n first) : ∃ pairs,
    g.listed db t.capability t.targetProject n workers = .ok pairs ∧ ∃ others, ExternalGateway.sortPairs pairs = first :: others := by
  have both := (surely_eligibleSessions valid workers).and lists
  have answered : ∃ others, (g.listed db t.capability t.targetProject n workers).map ExternalGateway.sortPairs = .ok (first :: others) := by
    refine (both.mono fun u' r done => ?_).holds exists_calm
    obtain ⟨⟨-, answer⟩, others, first⟩ := done
    exact ⟨others, answer.symm.trans first⟩
  obtain ⟨others, answered⟩ := answered
  cases listed : g.listed db t.capability t.targetProject n workers with
  | error e =>
    rw [listed] at answered
    cases answered
  | ok pairs =>
    rw [listed] at answered
    exact ⟨pairs, rfl, others, Except.ok.inj answered⟩

/-- A lease that was given, and that nobody had at the start. -/
theorem leasedSince_of_held {u₁ : Db} (held : u.held = db.held) (unused : ∀ r ∈ u.tasks.rows, r.leaseId ≠ some lease)
    (here : (task, some lease) ∈ u₁.held) : LeasedSince db u₁ := by
  obtain ⟨r, member, -, holds⟩ := held_iff.mp here
  refine ⟨r, member, lease, holds, fun s there same => ?_⟩
  have before : (s.taskId, some lease) ∈ u.held := by
    rw [held]
    exact held_iff.mpr ⟨s, there, rfl, same⟩
  obtain ⟨s', there', -, same'⟩ := held_iff.mp before
  exact unused s' there' same'

/-- A lease that was new when it was given shows at the end of the pass. -/
theorem surely_shows (valid : 0 ≤ n) {u₁ : Db} (held : u.held = db.held) (unused : ∀ r ∈ u.tasks.rows, r.leaseId ≠ some lease)
    (here : (task, some lease) ∈ u₁.held) (apart : ∀ r ∈ batch, r.taskId ≠ task) :
    connections.Surely Calm (router.routeBatch platform workers n g batch).run u₁ fun u' _ => LeasedSince db u' :=
  (surely_stillHeld valid here apart).mono fun _ _ still => leasedSince_of_held held unused still

theorem surely_routes (valid : 0 ≤ n) (stored : SlasStored db) (rows : ∀ r ∈ batch, db.tasks.find? r.taskId = some r ∧ r.Schedulable)
    (distinct : (batch.map TaskRow.taskId).Nodup) (member : t ∈ batch) (named : clean first.1 = first.1)
    (registered : RegisteredFor db first.1 t) (lists : ListsFirst g workers db t n first) (waited : Waited db u)
    (held : u.held = db.held) :
    connections.Surely Calm (router.routeBatch platform workers n g batch).run u fun u' _ => LeasedSince db u' := by
  induction batch generalizing u with
  | nil => exact absurd member List.not_mem_nil
  | cons head rest ih =>
    obtain ⟨⟨found, open_⟩, rows⟩ := List.forall_mem_cons.mp rows
    obtain ⟨apart, distinct⟩ := List.nodup_cons.mp distinct
    have others : ∀ r ∈ rest, r.taskId ≠ head.taskId := fun r there same => apart (same ▸ List.mem_map_of_mem there)
    obtain ⟨row, foundNow, openNow⟩ := waited.schedulable found open_
    have tried : connections.Surely Calm (router.routeTask platform workers g head n).run u fun u₁ r =>
        (∃ lease, (∀ r ∈ u.tasks.rows, r.leaseId ≠ some lease) ∧ u₁.held = give u.held head.taskId lease) ∨
          t ∈ rest ∧ Waited u u₁ ∧ u₁.held = u.held ∧ (∀ e, r = .error e → e.isBlocked = true) ∧ ∀ out, r = .ok out → out = (g, none) := by
      rcases List.mem_cons.mp member with rfl | later
      · obtain ⟨pairs, listed, rest', sorted⟩ := listsFirst_listed valid lists
        have among : first ∈ pairs := mem_sortPairs.mp (sorted ▸ List.mem_cons_self)
        have fit := waited.ownFit (listed_fits stored found named registered listed among)
        refine (surely_eligibleSessions valid workers).andThen (fun u₁ candidates done => ?_) fun u₁ e done => ?_
        · obtain ⟨rfl, answer⟩ := done
          rw [waited.listed, listed] at answer
          obtain rfl := Except.ok.inj answer
          rw [sorted]
          exact (surely_given valid foundNow openNow fit first.2).mono fun _ _ given => .inl given
        · obtain ⟨rfl, answer⟩ := done
          rw [waited.listed, listed] at answer
          cases answer
      · exact (surely_routeTask valid head workers).mono fun u₁ r done => done.elim (fun waits => .inr ⟨later, waits⟩) .inl
    refine Machine.surely_andThen.mpr (Machine.surely_attempt.mpr (tried.mono fun u₁ r outcome => ⟨?_, ?_⟩))
    · intro done same
      obtain rfl := Except.ok.inj same
      rcases outcome with ⟨lease, unused, given⟩ | ⟨later, waits, kept, blocked, unmoved⟩
      · have here : (head.taskId, some lease) ∈ u₁.held := given ▸ give_held foundNow
        cases r with
        | ok out => exact (surely_shows valid held unused here others).andThen (fun u₂ _ shown => shown) fun u₂ _ shown => shown
        | error e =>
          dsimp only
          split
          · exact surely_shows valid held unused here others
          · exact leasedSince_of_held held unused here
      · have rest := ih rows distinct later (waited.trans waits) (kept.trans held)
        cases r with
        | ok out =>
          obtain rfl := unmoved out rfl
          exact rest.andThen (fun u₂ _ shown => shown) fun u₂ _ shown => shown
        | error e =>
          dsimp only
          rw [if_pos (blocked e rfl)]
          exact rest
    · intro e impossible
      cases impossible

theorem surely_routeOnce {now : PyFloat} (stored : SlasStored db) (clock : now.clock? = some n)
    (member : t ∈ db.schedulable router.batchSize.toNat) (named : clean first.1 = first.1) (registered : RegisteredFor db first.1 t)
    (lists : ListsFirst g workers db t n first) :
    connections.Surely Calm (router.routeOnce platform workers g now).run db fun db' _ => LeasedSince db db' := by
  have valid : 0 ≤ n := by
    rw [fin_of_clock? clock] at clock
    exact (clock_fin.mp clock).1
  refine Machine.surely_then (surely_now clock) ?_
  refine Machine.surely_then (surely_schedulable router.bounded) ?_
  exact surely_routes valid stored (fun r => mem_schedulable) schedulable_nodup member named registered lists (.refl db) rfl

/-- A pass leases something, if some task of its batch can be claimed: by any worker in the scheduler,
and in the router by the worker that the gateway lists first. -/
theorem work_conserving {now seconds : PyFloat} {batchSize : Int} {x : Input} (stored : SlasStored db) (named : WorkersNamed db)
    (plain : clean t.taskId = t.taskId) (clock : now.clock? = some n)
    (claimable : ((LeaseOp.claim t.taskId worker seconds now).exec x db).2 = .ok ()) :
    (t ∈ db.schedulable batchSize.toNat → connections.Surely Calm (Client.procedure host (Scheduler.scheduleOnce batchSize now)).run db
      fun _ r => ∃ leases, r = .ok leases ∧ leases ≠ []) ∧
    (t ∈ db.schedulable router.batchSize.toNat → ListsFirst g workers db t n first → RegisteredFor db first.1 t →
      connections.Surely Calm (router.routeOnce platform workers g now).run db fun db' _ => LeasedSince db db') := by
  constructor
  · intro member
    have positive : 0 < batchSize := by
      by_contra empty
      rw [Int.toNat_of_nonpos (by omega)] at member
      exact absurd member List.not_mem_nil
    exact surely_scheduleOnce positive stored named clock member plain claimable
  · intro member lists registered
    have own := registered
    obtain ⟨w, owner, -⟩ := own
    obtain ⟨row, same⟩ := Table.find?_some.mp owner
    have called : w.workerId = first.1 := same
    exact surely_routeOnce stored clock member (called ▸ named w row) registered lists

end

namespace Sample

theorem labelled_sample : isIdentifier "sample" = true := by decide

theorem labelled_read : isIdentifier "read" = true := by decide

theorem labelled_lab : isIdentifier "lab" = true := by decide

theorem labelled_s : isIdentifier "s" = true := by decide

theorem labelled_v : isIdentifier "v" = true := by decide

theorem labelled_w : isIdentifier "w" = true := by decide

theorem thirty_positive : (0 : ℚ) < 30 := by norm_num

theorem eight_positive : (0 : Int) < 8 := by decide

/-- A session of a worker that is enrolled for the sample tasks. -/
def serving (worker : Identifier) : Session :=
  let profile : Profile := ⟨worker, ⟨"sample", labelled_sample⟩, [⟨"read", labelled_read⟩], [⟨"lab", labelled_lab⟩], 1, 30,
    thirty_positive⟩
  ⟨profile, ⟨"s", labelled_s⟩, 0, 0, 1, "VERIFIED_LOCAL_HARNESS", "VERIFIED_LOCAL_HARNESS"⟩

def sessions (worker : String) : Option Session :=
  if worker = "v" then some (serving ⟨"v", labelled_v⟩)
  else if worker = "w" then some (serving ⟨"w", labelled_w⟩) else none

def served : LocalGateway := ⟨fun _ => none, sessions, fun _ => none, fun _ => none⟩

def router : AgentRouter := ⟨8, 30, eight_positive, thirty_positive⟩

def other (id : String) : Client Unit := .call
  (.createTask { taskId := id, directiveId := none, targetProject := "lab", capability := "write", governanceAllowed := 1 } 0 (.fin 0))

/-- A task that nobody can take comes before one that the worker can take. -/
def crowded : Db := (script host [other "a", task "t", worker "w"] (moves [2, 1, 1, 0])).2.state

/-- A worker that is registered for something else comes before the one that can take the task. -/
def misplaced : Db := (script host [task "t", .call (.registerWorker "v" "sample" ["write"] ["lab"] (.fin 30) 1 (.fin 0)), worker "w"]
  (moves [2, 1, 0])).2.state

end Sample

/-- Where the list of the gateway is known. -/
theorem listsFirst_of {g : LocalGateway} {workers : List String} {db : Db} {t : TaskRow} {n : ℚ} {first : String × String}
    (valid : 0 ≤ n) {others : List (String × String)}
    (lists : (g.listed db t.capability t.targetProject n workers).map ExternalGateway.sortPairs = .ok (first :: others)) :
    ListsFirst g workers db t n first :=
  (surely_eligibleSessions valid workers).mono fun _ _ done => ⟨others, done.2.trans lists⟩

theorem work_conserving_ready :
    (connections.Surely Calm (Client.procedure Sample.host (Scheduler.scheduleOnce 8 (.fin 1))).run ready
      fun _ r => ∃ leases, r = .ok leases ∧ leases ≠ []) ∧
    connections.Surely Calm (Sample.router.routeOnce Sample.platform ["w"] Sample.served (.fin 1)).run ready
      fun db' _ => LeasedSince ready db' := by
  obtain ⟨t, found⟩ : ∃ t, ready.tasks.find? "t" = some t := Option.isSome_iff_exists.mp (by decide)
  have rows : ready.tasks.rows = [t] := by
    have only : ready.tasks.rows.length = 1 := by decide
    obtain ⟨r, rows⟩ := List.length_eq_one_iff.mp only
    obtain rfl := List.mem_singleton.mp (rows ▸ (Table.find?_some.mp found).1)
    exact rows
  have called : t.taskId = "t" := (Table.find?_some.mp found).2
  have batch : ready.schedulable 8 = [t] := by
    have all : ready.schedulable 8 = ready.tasks.rows := by decide
    rw [all, rows]
  have slas : ∀ w ∈ ready.workers.rows, w.heartbeatSla ≠ .nan := by decide
  have named : ∀ w ∈ ready.workers.rows, clean w.workerId = w.workerId := by decide
  have claimed : ((LeaseOp.claim "t" "w" (.fin 30) (.fin 1)).exec { uuid := "lease" } ready).2 = .ok () := by decide +kernel
  have labels : ready.tasks.rows.all fun t => t.capability = "read" ∧ t.targetProject = "lab" := by decide
  rw [rows, List.all_cons, List.all_nil, Bool.and_true, decide_eq_true_iff] at labels
  have both := @work_conserving Sample.platform Sample.served ready 1 "w" ["w"] t Sample.router ("w", "s") Sample.host (.fin 1) (.fin 30) 8
    { uuid := "lease" } slas named (called ▸ (by decide)) rfl (called.symm ▸ claimed)
  have member : t ∈ ready.schedulable 8 := batch ▸ List.mem_singleton_self t
  obtain ⟨w, owner⟩ : ∃ w, ready.workers.find? "w" = some w := Option.isSome_iff_exists.mp (by decide)
  have able : ready.workers.rows.all fun w => "read" ∈ w.capabilities ∧ "lab" ∈ w.targets := by decide
  have able := of_decide_eq_true (List.all_eq_true.mp able w (Table.find?_some.mp owner).1)
  refine ⟨both.1 member, both.2 member (@listsFirst_of _ _ _ _ _ _ (by norm_num) [] ?_) ⟨w, owner, ?_⟩⟩
  · rw [labels.1, labels.2]
    decide +kernel
  · rw [labels.1, labels.2]
    exact able

/-- One schedulable task is not enough, nor is one eligible session. -/
theorem work_waits :
    (((LeaseOp.claim "t" "w" (.fin 30) (.fin 1)).exec { uuid := "lease" } Sample.crowded).2 = .ok () ∧
      ∃ db', connections.Returns (Client.procedure Sample.host (Scheduler.scheduleOnce 1 (.fin 1))) Sample.crowded db' []) ∧
    (((LeaseOp.claim "t" "w" (.fin 30) (.fin 1)).exec { uuid := "lease" } Sample.misplaced).2 = .ok () ∧
      (∀ t ∈ Sample.misplaced.tasks.rows, ListsFirst Sample.served ["v", "w"] Sample.misplaced t 1 ("v", "s")) ∧
      ∃ db' r, connections.Ends (Sample.router.routeOnce Sample.platform ["v", "w"] Sample.served (.fin 1)).run Sample.misplaced db' r ∧
        ¬ LeasedSince Sample.misplaced db') := by
  refine ⟨⟨by decide +kernel, ?_⟩, by decide +kernel, fun t member => ?_, ?_⟩
  · have answer : (connections.alone (Client.procedure Sample.host (Scheduler.scheduleOnce 1 (.fin 1))).run [] Sample.crowded).2 = .ok [] := by
      decide +kernel
    have ends := @Machine.ends_alone _ _ _ _ _ connections Sample.crowded _
      (p := (Client.procedure Sample.host (Scheduler.scheduleOnce 1 (.fin 1))).run) []
    rw [answer] at ends
    exact ⟨_, ends⟩
  · refine @listsFirst_of _ _ _ _ _ _ (by norm_num) [("w", "s")] ?_
    have labels : Sample.misplaced.tasks.rows.all fun t => t.capability = "read" ∧ t.targetProject = "lab" := by decide +kernel
    have own := of_decide_eq_true (List.all_eq_true.mp labels t member)
    rw [own.1, own.2]
    decide +kernel
  · refine ⟨_, _, @Machine.ends_alone _ _ _ _ _ connections Sample.misplaced _
      (p := (Sample.router.routeOnce Sample.platform ["v", "w"] Sample.served (.fin 1)).run) [], ?_⟩
    rintro ⟨r, member, lease, held, -⟩
    have none_ : (connections.alone (Sample.router.routeOnce Sample.platform ["v", "w"] Sample.served (.fin 1)).run []
      Sample.misplaced).1.tasks.rows.all fun r => r.leaseId = none := by decide +kernel
    exact absurd held (by rw [of_decide_eq_true (List.all_eq_true.mp none_ r member)]; exact Option.some_ne_none lease ∘ Eq.symm)

end ControlPlane.Autonomy
