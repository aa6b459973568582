import ControlPlane.Autonomy.LocalDispatches
import ControlPlane.Autonomy.LocalSessions
import ControlPlane.Autonomy.WorkConserving

/-!
# Leases that nobody is told of

A claim takes any task, and a dispatch takes tasks whose id is an identifier. The router passes
over a dispatch that is refused, and the claim before it stands: of the leases that a pass grants,
exactly those of tasks with an identifier reach a worker.
-/

namespace ControlPlane.Autonomy

open Data Interleaving

/-- What a dispatch looks at is in order, but perhaps for the task's id. -/
structure Dispatchable (g : LocalGateway) (u : Db) (n : ℚ) (t : TaskRow) (worker session lease : String) : Prop where
  identified : isIdentifier worker = true ∧ isIdentifier lease = true
  session : ∃ s, g.sessions worker = some s ∧ s.sessionId.1 = session ∧ ¬ s.Lapsed n ∧
    t.capability ∈ s.profile.capabilities.map Subtype.val ∧ t.targetProject ∈ s.profile.allowedTargets.map Subtype.val
  row : ∃ row, u.tasks.find? t.taskId = some row ∧ row.state = .leased ∧ row.assignedWorkerId = some worker ∧
    row.leaseId = some lease ∧ (∃ expires, row.leaseExpiresAt = some expires ∧ ¬ expires ≤ .fin n) ∧
    row.capability = t.capability ∧ row.targetProject = t.targetProject

/-- The gateway after a dispatch, and its envelope. -/
inductive DispatchedAs (g : LocalGateway) (id : String) (b : Binding) : LocalGateway → DispatchEnvelope → Prop
  | known {d : Dispatch} (there : g.dispatches id = some d) : DispatchedAs g id b g d.envelope
  | new {e : DispatchEnvelope} (bound : e.binding = b) : DispatchedAs g id b (g.setDispatch id { envelope := e }) e

/-- No task has this lease. -/
def Unused (db : Db) (lease : String) : Prop := ∀ r ∈ db.tasks.rows, r.leaseId ≠ some lease

/-- What the environment supplies in a pass: a lease id is an identifier that is in no use and was in
no use when the pass started, and what is hashed with it is among `hashed`. -/
structure Supplied (hashed : Set Binding) (workers : List String) (start : LocalWorld) (x : Input) (u : Db) : Prop where
  calm : Calm x u
  unused : Unused start.db x.uuid
  identified : isIdentifier x.uuid = true
  hashed : ∀ r ∈ start.db.tasks.rows, ∀ worker ∈ workers, ∀ s, start.gateway.sessions worker = some s →
    (⟨r.taskId, worker, s.sessionId.1, x.uuid⟩ : Binding) ∈ hashed

/-- Dispatches are kept under the digests of their bindings. -/
def Keyed (platform : Platform) (hashed : Set Binding) (g : LocalGateway) : Prop :=
  ∀ id d, g.dispatches id = some d → d.envelope.binding ∈ hashed ∧ id = LocalGateway.dispatchId platform d.envelope.binding

/-- What one round of the pass came to. -/
inductive Round (platform : Platform) (hashed : Set Binding) (start : Db) (g : LocalGateway) (t : TaskRow) (u u' : Db) :
    Answer (LocalGateway × Option DispatchEnvelope) → Prop
  | idle (held : u'.held = u.held) : Round platform hashed start g t u u' (.ok (g, none))
  | refused {e : Err} (held : u'.held = u.held) (blocked : e.isBlocked = true) : Round platform hashed start g t u u' (.error e)
  | told {lease : String} {g' : LocalGateway} {e : DispatchEnvelope} (held : u'.held = give u.held t.taskId lease)
      (unused : Unused u lease ∧ Unused start lease) (identified : isIdentifier t.taskId = true) (own : e.leaseId.1 = lease)
      (sessions : g'.sessions = g.sessions) (keyed : Keyed platform hashed g') : Round platform hashed start g t u u' (.ok (g', some e))
  | orphaned {lease : String} {e : Err} (held : u'.held = give u.held t.taskId lease)
      (unused : Unused u lease ∧ Unused start lease) (unidentified : isIdentifier t.taskId ≠ true) (blocked : e.isBlocked = true) :
      Round platform hashed start g t u u' (.error e)

/-- Every new lease belongs to a task with an identifier exactly if one of the envelopes is for it. -/
structure Matched (start u : Db) (told : List DispatchEnvelope) : Prop where
  one : ∀ task lease, (task, some lease) ∈ u.held → Unused start lease →
    ((told.map fun e => e.leaseId.1).count lease = 1 ↔ isIdentifier task = true)
  held : ∀ e ∈ told, ∃ task, (task, some e.leaseId.1) ∈ u.held
  unused : ∀ e ∈ told, Unused start e.leaseId.1

section

variable {hashed : Set Binding} {start : LocalWorld} {told more : List DispatchEnvelope} {platform : Platform} {g g' : LocalGateway} {db db' u u₁ : Db} {n : ℚ} {task worker session lease : String}
  {workers : List String} {t : TaskRow} {router : AgentRouter} {batch : List TaskRow} {expires : PyFloat}

/-! ### A dispatch -/

theorem surely_audit {event details : String} :
    connections.Surely Calm (Store.audit task event n details).run u fun u' r => u'.tasks = u.tasks ∧ r = .ok () := by
  refine Machine.surely_ask.mpr fun x calm => ?_
  show (exec (.audit task event n details) x u).1.tasks = u.tasks ∧ (exec (.audit task event n details) x u).2 = .ok ()
  rw [exec_free _ calm.1]
  exact ⟨rfl, rfl⟩

theorem surely_dispatch (valid : 0 ≤ n) (ready : Dispatchable g u n t worker session lease) (identified : isIdentifier t.taskId = true) :
    connections.Surely Calm (g.dispatch platform t.dict (Lease.dict ⟨t.taskId, worker, lease, expires⟩) (.str session) (.fin n)).run u
      fun u' r => u'.tasks = u.tasks ∧ ∃ g' e, r = .ok (g', e) ∧
        DispatchedAs g (LocalGateway.dispatchId platform ⟨t.taskId, worker, session, lease⟩) ⟨t.taskId, worker, session, lease⟩ g' e := by
  obtain ⟨s, current, rfl, fresh, able⟩ := ready.session
  obtain ⟨row, found, leased, owner, held, ⟨ends, deadline, ahead⟩, capability, target⟩ := ready.row
  have named : row.taskId = t.taskId := (Table.find?_some.mp found).2
  refine Machine.surely_then (surely_now (clock_fin.mpr ⟨valid, rfl⟩)) ?_
  refine Machine.surely_then (a := ⟨worker, ready.identified.1⟩) (Machine.surely_lift.mpr ⟨rfl, identifier_str ⟨worker, ready.identified.1⟩ _⟩) ?_
  refine Machine.surely_then (a := ⟨t.taskId, identified⟩) (Machine.surely_lift.mpr ⟨rfl, identifier_str ⟨t.taskId, identified⟩ _⟩) ?_
  refine Machine.surely_then (a := ⟨lease, ready.identified.2⟩) (Machine.surely_lift.mpr ⟨rfl, identifier_str ⟨lease, ready.identified.2⟩ _⟩) ?_
  refine Machine.surely_then (a := s.sessionId) (Machine.surely_lift.mpr ⟨rfl, identifier_str s.sessionId _⟩) ?_
  have read : u.tasks.find? (clean t.taskId) = some row := (clean_identifier ⟨t.taskId, identified⟩).symm ▸ found
  refine Machine.surely_then (surely_task read) ?_
  dsimp only
  rw [current]
  refine Machine.surely_then (a := s) ⟨rfl, rfl⟩ ?_
  refine Machine.surely_then (surely_check ⟨rfl, fresh, leased, owner, held⟩) ?_
  rw [deadline]
  refine Machine.surely_then (a := ends) ⟨rfl, rfl⟩ ?_
  have names : LocalGateway.names t.dict "task_id" row.taskId ∧ LocalGateway.names t.dict "capability" row.capability ∧
      LocalGateway.names t.dict "target_project" row.targetProject := by
    rw [named, capability, target]
    exact ⟨rfl, rfl, rfl⟩
  refine Machine.surely_then (surely_check ⟨ahead, names.1, names.2.1, names.2.2, capability ▸ able.1, target ▸ able.2⟩) ?_
  split
  · rename_i d there
    exact ⟨rfl, _, _, rfl, .known there⟩
  · refine surely_audit.andThen (fun u' _ done => ?_) fun u' e done => ?_
    · exact ⟨done.1, _, _, rfl, .new rfl⟩
    · cases done.2

theorem surely_unidentified (valid : 0 ≤ n) (ready : Dispatchable g u n t worker session lease) (unidentified : isIdentifier t.taskId ≠ true) :
    connections.Surely Calm (g.dispatch platform t.dict (Lease.dict ⟨t.taskId, worker, lease, expires⟩) (.str session) (.fin n)).run u
      fun u' r => u' = u ∧ ∃ e, r = .error e ∧ e.isBlocked = true := by
  refine Machine.surely_then (surely_now (clock_fin.mpr ⟨valid, rfl⟩)) ?_
  refine Machine.surely_then (a := ⟨worker, ready.identified.1⟩) (Machine.surely_lift.mpr ⟨rfl, identifier_str ⟨worker, ready.identified.1⟩ _⟩) ?_
  have refused : identifier (LocalGateway.field (Lease.dict ⟨t.taskId, worker, lease, expires⟩) "task_id") "task_id" =
      .error (.blocked "invalid task_id") := dif_neg unidentified
  rw [refused]
  exact ⟨rfl, _, rfl, rfl⟩

/-! ### One round -/

theorem Keyed.dispatched {b : Binding} {e : DispatchEnvelope} (keyed : Keyed platform hashed g) (distinct : Set.InjOn (LocalGateway.dispatchId platform) hashed)
    (among : b ∈ hashed) (dispatched : DispatchedAs g (LocalGateway.dispatchId platform b) b g' e) :
    e.binding = b ∧ g'.sessions = g.sessions ∧ Keyed platform hashed g' := by
  cases dispatched with
  | @known d there =>
    obtain ⟨known, same⟩ := keyed _ d there
    exact ⟨distinct known among same.symm, rfl, keyed⟩
  | new bound =>
    refine ⟨bound, rfl, fun id d there => ?_⟩
    rw [setDispatch_dispatches] at there
    split at there
    · rename_i same
      obtain rfl := Option.some.inj there
      rw [bound]
      exact ⟨among, same⟩
    · exact keyed id d there

theorem unused_of_held (unused : Unused u lease) : (task, some lease) ∉ u.held := by
  intro held
  obtain ⟨r, member, -, same⟩ := held_iff.mp held
  exact unused r member same

theorem Matched.idle (matched : Matched db u told) (held : u₁.held = u.held) : Matched db u₁ told :=
  ⟨held ▸ matched.one, held ▸ matched.held, matched.unused⟩

theorem Matched.given (matched : Matched db u told) (held : u₁.held = give u.held task lease) (found : (u.tasks.find? task).isSome)
    (unused : Unused u lease ∧ Unused db lease) (untouched : ∀ lease, (task, some lease) ∈ u.held → ¬ Unused db lease)
    (own : (more.map fun e => e.leaseId.1) = if isIdentifier task = true then [lease] else []) : Matched db u₁ (told ++ more) := by
  have here : (task, some lease) ∈ u₁.held := by
    obtain ⟨row, found⟩ := Option.isSome_iff_exists.mp found
    exact held ▸ give_held found
  have older : ∀ e ∈ told, e.leaseId.1 ≠ lease := by
    intro e member same
    obtain ⟨other, holds⟩ := matched.held e member
    exact unused_of_held unused.1 (same ▸ holds)
  have added : ∀ e ∈ more, e.leaseId.1 = lease := by
    intro e member
    have listed : e.leaseId.1 ∈ more.map fun e => e.leaseId.1 := List.mem_map_of_mem member
    rw [own] at listed
    split at listed
    · exact List.mem_singleton.mp listed
    · exact absurd listed List.not_mem_nil
  constructor
  · intro other l holds new
    rw [List.map_append, List.count_append]
    rw [held] at holds
    obtain ⟨⟨id, known⟩, before, same⟩ := List.mem_map.mp holds
    by_cases given : id = task
    · rw [if_pos given] at same
      obtain ⟨rfl, lent⟩ := Prod.mk.inj same
      obtain rfl := Option.some.inj lent
      have absent : (told.map fun e => e.leaseId.1).count lease = 0 :=
        List.count_eq_zero.mpr fun member => by
          obtain ⟨e, listed, same⟩ := List.mem_map.mp member
          exact older e listed same
      rw [absent, own, Nat.zero_add]
      by_cases identified : isIdentifier task = true
      · simp [identified]
      · simp [identified]
    · rw [if_neg given] at same
      obtain ⟨rfl, rfl⟩ := Prod.mk.inj same
      have other : l ≠ lease := by
        rintro rfl
        exact unused_of_held unused.1 before
      have absent : (more.map fun e => e.leaseId.1).count l = 0 :=
        List.count_eq_zero.mpr fun member => by
          obtain ⟨e, listed, same⟩ := List.mem_map.mp member
          exact other (same.symm.trans (added e listed))
      rw [absent, Nat.add_zero]
      exact matched.one id l before new
  · intro e member
    rcases List.mem_append.mp member with before | now
    · obtain ⟨other, holds⟩ := matched.held e before
      refine ⟨other, held ▸ List.mem_map.mpr ⟨_, holds, if_neg ?_⟩⟩
      rintro rfl
      exact untouched _ holds (matched.unused e before)
    · exact ⟨task, added e now ▸ here⟩
  · intro e member
    rcases List.mem_append.mp member with before | now
    · exact matched.unused e before
    · exact added e now ▸ unused.2

/-- A candidate that the gateway listed. -/
structure Candidate (g : LocalGateway) (workers : List String) (n : ℚ) (t : TaskRow) (pair : String × String) : Prop where
  member : pair.1 ∈ workers
  identified : isIdentifier pair.1 = true
  session : ∃ s, g.sessions pair.1 = some s ∧ s.sessionId.1 = pair.2 ∧ s.Serves t.capability t.targetProject n

/-- The task is there, with the labels it had in the batch. -/
def Labelled (u : Db) (t : TaskRow) : Prop :=
  ∃ row, u.tasks.find? t.taskId = some row ∧ row.capability = t.capability ∧ row.targetProject = t.targetProject

theorem surely_placedOrOrphaned (valid : 0 ≤ n) (distinct : Set.InjOn (LocalGateway.dispatchId platform) hashed)
    (keyed : Keyed platform hashed g) (sessions : g.sessions = start.gateway.sessions) (known : ∃ r ∈ start.db.tasks.rows, r.taskId = t.taskId)
    (labelled : Labelled u t) {pair : String × String} (candidate : Candidate g workers n t pair) :
    connections.Surely (Supplied hashed workers start) (router.place platform g t pair.1 pair.2 n).run u fun u' r =>
      Round platform hashed start.db g t u u' r := by
  obtain ⟨row, found, capability, target⟩ := labelled
  obtain ⟨s, current, named, serves⟩ := candidate.session
  have calm : ∀ x u, Supplied hashed workers start x u → Calm x u := fun x u supplied => supplied.calm
  refine (surely_claims calm valid router.finite t.taskId pair.1).andThen (fun u₁ l done => ?_) fun u₁ e done => ?_
  · rcases done with ⟨_, impossible, _⟩ | ⟨x, supplied, same, leases⟩
    · cases impossible
    obtain rfl := Except.ok.inj same
    refine (surely_audit.under calm).andThen (fun u₂ _ done => ?_) fun u₂ e done => ?_
    · have tasks : u₂.tasks = u₁.tasks := done.1
      have ready : Dispatchable g u₂ n t pair.1 pair.2 x.uuid := by
        refine ⟨⟨candidate.identified, supplied.identified⟩, ⟨s, current, named, not_lt.mpr serves.2.2.2.1, serves.2.2.2.2⟩, ?_⟩
        obtain ⟨row', heartbeat, there, claimed⟩ := leases.row
        obtain rfl := Option.some.inj (found.symm.trans there)
        have later : ¬ n + router.leaseSeconds ≤ n := by linarith [router.finite]
        have read : u₂.tasks.find? t.taskId = some (row.claimed pair.1 x.uuid (.fin (n + router.leaseSeconds)) heartbeat n) :=
          tasks ▸ claimed
        exact ⟨_, read, rfl, rfl, rfl, ⟨_, rfl, fun past => later (PyFloat.fin_le_fin.mp past)⟩, capability, target⟩
      have held : u₂.held = give u.held t.taskId x.uuid := by
        rw [Db.held, tasks]
        exact leases.held
      by_cases identified : isIdentifier t.taskId = true
      · refine ((surely_dispatch valid ready identified).under calm).andThen (fun u₃ out done => ?_) fun u₃ e done => ?_
        · obtain ⟨same, g', e, answer, dispatched⟩ := done
          obtain rfl := Except.ok.inj answer
          have among : (⟨t.taskId, pair.1, pair.2, x.uuid⟩ : Binding) ∈ hashed := by
            obtain ⟨r, member, same⟩ := known
            rw [← same, ← named]
            exact supplied.hashed r member pair.1 candidate.member s (sessions ▸ current)
          obtain ⟨bound, kept, keyed⟩ := keyed.dispatched distinct among dispatched
          have own : e.leaseId.1 = x.uuid := congrArg Binding.leaseId bound
          refine .told ?_ ⟨leases.unused, supplied.unused⟩ identified own kept keyed
          rw [← held, Db.held, same]
          rfl
        · obtain ⟨_, _, _, impossible, _⟩ := done
          cases impossible
      · refine ((surely_unidentified valid ready identified).under calm).andThen (fun u₃ out done => ?_) fun u₃ e done => ?_
        · obtain ⟨_, _, impossible, _⟩ := done
          cases impossible
        · obtain ⟨rfl, e', same, blocked⟩ := done
          obtain rfl := Except.error.inj same
          exact .orphaned held ⟨leases.unused, supplied.unused⟩ identified blocked
    · cases done.2
  · rcases done with ⟨e', same, blocked, rfl⟩ | ⟨_, _, impossible, _⟩
    · obtain rfl := Except.error.inj same
      exact .refused rfl blocked
    · cases impossible

/-- Every session belongs to a worker whose id is an identifier. -/
def SessionsNamed (g : LocalGateway) : Prop := ∀ worker s, g.sessions worker = some s → isIdentifier worker = true

theorem surely_round (valid : 0 ≤ n) (distinct : Set.InjOn (LocalGateway.dispatchId platform) hashed)
    (keyed : Keyed platform hashed g) (sessions : g.sessions = start.gateway.sessions) (known : ∃ r ∈ start.db.tasks.rows, r.taskId = t.taskId)
    (labelled : Labelled u t) (named : SessionsNamed g) :
    connections.Surely (Supplied hashed workers start) (router.routeTask platform workers g t n).run u fun u' r =>
      Round platform hashed start.db g t u u' r := by
  have calm : ∀ x u, Supplied hashed workers start x u → Calm x u := fun x u supplied => supplied.calm
  refine ((surely_eligibleSessions valid workers).under calm).andThen (fun u' candidates done => ?_) fun u' e done => ?_
  · obtain ⟨rfl, answer⟩ := done
    cases listed : g.listed u' t.capability t.targetProject n workers with
    | error e =>
      rw [listed] at answer
      cases answer
    | ok pairs =>
      rw [listed] at answer
      obtain rfl := Except.ok.inj answer
      cases sorted : ExternalGateway.sortPairs pairs with
      | nil =>
        refine ((surely_markWaiting valid t.taskId).under calm).andThen (fun u₁ _ done => ?_) fun u₁ e done => ?_
        · exact .idle done.2.1
        · exact .refused done.2.1 (done.2.2 e rfl)
      | cons pair rest =>
        obtain ⟨member, s, _, current, same, serves, _⟩ := mem_listed listed (mem_sortPairs.mp (sorted ▸ List.mem_cons_self))
        exact surely_placedOrOrphaned valid distinct keyed sessions known labelled ⟨member, named _ s current, s, current, same, serves⟩
  · obtain ⟨rfl, answer⟩ := done
    cases listed : g.listed u' t.capability t.targetProject n workers with
    | ok pairs =>
      rw [listed] at answer
      cases answer
    | error e' =>
      rw [listed] at answer
      obtain rfl := Except.error.inj answer
      exact .refused rfl (listed_blocked listed)

/-! ### The whole pass -/

/-- A task of the batch whose turn has not come. -/
structure Pending (start u : Db) (t : TaskRow) : Prop where
  known : ∃ r ∈ start.tasks.rows, r.taskId = t.taskId
  labelled : Labelled u t
  untouched : ∀ lease, (t.taskId, some lease) ∈ u.held → ¬ Unused start lease

theorem exec_labelled {α : Type} (s : Stmt α) (x : Input) (v : Db) (labelled : Labelled v t) : Labelled (exec s x v).1 t := by
  obtain ⟨row, found, capability, target⟩ := labelled
  obtain ⟨row', found', same | ⟨_, move⟩⟩ := exec_find s x found
  · exact ⟨row', found', same ▸ capability, same ▸ target⟩
  · refine ⟨row', found', ?_, ?_⟩
    · refine Eq.trans ?_ capability
      cases move <;> rfl
    · refine Eq.trans ?_ target
      cases move <;> rfl

theorem ends_labelled {α : Type} {p : Store α} {r : Answer α} (labelled : Labelled u t) (ends : connections.Ends p.run u u₁ r) :
    Labelled u₁ t :=
  ends.keeps (I := fun v => Labelled v t) (Program.all_of_forall (fun s x v => exec_labelled s x v) _) labelled

theorem Pending.given (pending : Pending db u t) (labelled : Labelled u₁ t) (held : u₁.held = give u.held task lease)
    (other : t.taskId ≠ task) : Pending db u₁ t := by
  refine ⟨pending.known, labelled, fun l holds => ?_⟩
  rw [held] at holds
  obtain ⟨⟨id, known⟩, before, same⟩ := List.mem_map.mp holds
  split at same
  · exact absurd (Prod.mk.inj same).1.symm other
  · obtain ⟨rfl, rfl⟩ := Prod.mk.inj same
    exact pending.untouched l before

theorem surely_matched (valid : 0 ≤ n) (distinct : Set.InjOn (LocalGateway.dispatchId platform) hashed)
    (named : SessionsNamed start.gateway) (keyed : Keyed platform hashed g) (sessions : g.sessions = start.gateway.sessions)
    (pending : ∀ t ∈ batch, Pending start.db u t) (different : (batch.map TaskRow.taskId).Nodup) (matched : Matched start.db u told) :
    connections.Surely (Supplied hashed workers start) (router.routeBatch platform workers n g batch).run u fun u' r =>
      ∃ g' more, r = .ok (g', more) ∧ Matched start.db u' (told ++ more) := by
  induction batch generalizing u g told with
  | nil => exact ⟨g, [], rfl, (List.append_nil told).symm ▸ matched⟩
  | cons head rest ih =>
    obtain ⟨first, pending⟩ := List.forall_mem_cons.mp pending
    obtain ⟨apart, different⟩ := List.nodup_cons.mp different
    have others : ∀ t ∈ rest, t.taskId ≠ head.taskId := fun t there same => apart (same ▸ List.mem_map_of_mem there)
    have round : connections.Surely (Supplied hashed workers start) (router.routeTask platform workers g head n).run u fun u' r =>
        Round platform hashed start.db g head u u' r :=
      surely_round valid distinct keyed sessions first.known first.labelled fun worker s current => named worker s (sessions ▸ current)
    have labels : connections.Surely (Supplied hashed workers start) (router.routeTask platform workers g head n).run u fun u' _ =>
        ∀ t ∈ rest, Labelled u' t :=
      Machine.surely_of_ends fun v r ends t member => ends_labelled (pending t member).labelled ends
    refine Machine.surely_andThen.mpr (Machine.surely_attempt.mpr ((round.and labels).mono fun u₁ r done => ⟨?_, ?_⟩))
    · intro out same
      obtain rfl := Except.ok.inj same
      obtain ⟨outcome, labelled⟩ := done
      have found : (u.tasks.find? head.taskId).isSome := by
        obtain ⟨row, found, _⟩ := first.labelled
        rw [found]
        rfl
      have stays (held : u₁.held = u.held) : ∀ t ∈ rest, Pending start.db u₁ t := fun t member =>
        ⟨(pending t member).known, labelled t member, held ▸ (pending t member).untouched⟩
      have moves {lease : String} (held : u₁.held = give u.held head.taskId lease) : ∀ t ∈ rest, Pending start.db u₁ t :=
        fun t member => (pending t member).given (labelled t member) held (others t member)
      cases outcome with
      | idle held => 
        refine (ih keyed sessions (stays held) different (matched.idle held)).andThen (fun u₂ out done => ?_) fun u₂ e done => ?_
        · obtain ⟨g', more, same, matched⟩ := done
          obtain rfl := Except.ok.inj same
          exact ⟨g', more, rfl, matched⟩
        · obtain ⟨_, _, impossible, _⟩ := done
          cases impossible
      | refused held blocked =>
        dsimp only
        rw [if_pos blocked]
        exact ih keyed sessions (stays held) different (matched.idle held)
      | @told lease g' e held unused identified own kept keyed' =>
        have own : [e].map (fun e => e.leaseId.1) = if isIdentifier head.taskId = true then [lease] else [] := by
          rw [if_pos identified, ← own]
          rfl
        have after := matched.given held found unused first.untouched own
        refine (ih keyed' (kept.trans sessions) (moves held) different after).andThen (fun u₂ out done => ?_) fun u₂ e' done => ?_
        · obtain ⟨g'', more, same, matched⟩ := done
          obtain rfl := Except.ok.inj same
          exact ⟨g'', e :: more, rfl, List.append_assoc told [e] more ▸ matched⟩
        · obtain ⟨_, _, impossible, _⟩ := done
          cases impossible
      | @orphaned lease e held unused unidentified blocked =>
        have own : ([] : List DispatchEnvelope).map (fun e => e.leaseId.1) = if isIdentifier head.taskId = true then [lease] else [] := by
          rw [if_neg unidentified]
          rfl
        have after := matched.given held found unused first.untouched own
        dsimp only
        rw [if_pos blocked]
        exact ih keyed sessions (moves held) different (List.append_nil told ▸ after)
    · intro e impossible
      cases impossible

/-! ### Gateways that can be reached -/

theorem enrollAll_named {profiles : List WorkerProfile} {known known' : String → Option Profile}
    (enrolled : LocalGateway.enrollAll platform profiles known = .ok known')
    (before : ∀ worker p, known worker = some p → p.workerId.1 = worker) :
    ∀ worker p, known' worker = some p → p.workerId.1 = worker := by
  induction profiles generalizing known with
  | nil =>
    cases pure_ok.mp enrolled
    exact before
  | cons profile rest ih =>
    obtain ⟨p, _, enrolled⟩ := bind_ok.mp enrolled
    refine ih enrolled fun worker q there => ?_
    rw [Function.update_apply] at there
    split at there
    · rename_i same
      obtain rfl := Option.some.inj there
      exact same.symm
    · exact before worker q there

theorem sessions_named {profiles : List WorkerProfile} {evidence : EvidenceResolver} {init : Db} {past : List LocalTransition}
    {w : LocalWorld} (created : LocalGateway.create platform profiles evidence = .ok g)
    (history : LocalHistory platform ⟨init, g⟩ past w) : SessionsNamed w.gateway := by
  have enrolled : ∀ worker p, g.profiles worker = some p → p.workerId.1 = worker := by
    simp only [LocalGateway.create] at created
    obtain ⟨known, enrolled, same⟩ := bind_ok.mp created
    cases pure_ok.mp same
    exact enrollAll_named enrolled fun worker p impossible => by cases impossible
  have kept : w.gateway.profiles = g.profiles ∧ SessionsEnrolled w.gateway := by
    refine (history.invariant (I := fun v => v.gateway.profiles = g.profiles ∧ SessionsEnrolled v.gateway) ⟨rfl, ?_⟩ ?_).1
    · intro worker s there
      rw [(create_empty created).1 worker] at there
      cases there
    · intro t member before
      have step := history.moved t member
      exact ⟨(step_session step before.2 "").1.trans before.1, step_enrolled step before.2⟩
  intro worker s current
  have own := enrolled worker s.profile (kept.1 ▸ kept.2 worker s current)
  exact own ▸ s.profile.workerId.2

/-- Dispatches are kept under their ids. -/
def Filed (platform : Platform) (g : LocalGateway) : Prop :=
  ∀ id d, g.dispatches id = some d → id = LocalGateway.dispatchId platform d.envelope.binding

theorem Filed.set (filed : Filed platform g) {id : String} {d : Dispatch}
    (own : id = LocalGateway.dispatchId platform d.envelope.binding) : Filed platform (g.setDispatch id d) := by
  intro id' d' there
  rw [setDispatch_dispatches] at there
  split at there
  · rename_i same
    obtain rfl := Option.some.inj there
    exact same.trans own
  · exact filed id' d' there

theorem returns_dispatch_filed {task lease : List (String × Json)} {sessionId : Json} {now : PyFloat} {e : DispatchEnvelope}
    (filed : Filed platform g) (returned : connections.Returns (g.dispatch platform task lease sessionId now) db db' (g', e)) :
    Filed platform g' := by
  simp only [LocalGateway.dispatch, Machine.returns_bind, returns_now, Machine.returns_lift, returns_row, returns_check,
    returns_task, and_assoc, exists_eq_left, exists_and_left, exists_const] at returned
  obtain ⟨n, _, workerId, _, taskId, _, leaseId, _, selected, _, current, _, session, _, bound, _, _, _, _, expires, _, _, _,
    _, _, _, _, returned⟩ := returned
  split at returned
  · obtain ⟨_, same⟩ := Machine.returns_pure.mp returned
    obtain ⟨rfl, _⟩ := Prod.mk.inj same
    exact filed
  · simp only [Machine.returns_bind, Machine.returns_pure] at returned
    obtain ⟨_, _, _, _, same⟩ := returned
    obtain ⟨rfl, _⟩ := Prod.mk.inj same
    refine filed.set ?_
    rw [← bound]
    rfl

theorem returns_filed {call : LocalCall} (filed : Filed platform g)
    (returned : connections.Returns (call.procedure platform g) db db' g') : Filed platform g' := by
  cases call with
  | registerLocalHarness hello now => cases returns_registerLocalHarness returned <;> exact filed
  | heartbeat m now =>
    cases returns_heartbeat returned
    exact filed
  | dispatch task lease sessionId now =>
    obtain ⟨_, ⟨g₁, envelope⟩, returned, _, rfl⟩ := by
      simpa only [LocalCall.procedure, Machine.returns_bind, Machine.returns_pure] using returned
    exact returns_dispatch_filed filed returned
  | acknowledge m now =>
    cases returns_acknowledge returned with
    | again => exact filed
    | first _ bound =>
      have own := filed _ _ (boundDispatch_ok bound).2.1
      exact filed.set own
  | result m now =>
    cases returns_result returned with
    | mk _ bound =>
      have own := filed _ _ (boundDispatch_ok bound).2.1
      exact filed.set own
  | declare evidenceId content =>
    obtain ⟨_, _, _, _, rfl⟩ := by
      simpa only [LocalCall.procedure, Machine.returns_bind, Machine.returns_pure] using returned
    exact filed
  | other s =>
    obtain ⟨_, _, _, _, rfl⟩ := by
      simpa only [LocalCall.procedure, Machine.returns_bind, Machine.returns_pure] using returned
    exact filed

theorem filed_of_history {profiles : List WorkerProfile} {evidence : EvidenceResolver} {init : Db} {past : List LocalTransition}
    {w : LocalWorld} (created : LocalGateway.create platform profiles evidence = .ok g)
    (history : LocalHistory platform ⟨init, g⟩ past w) : Filed platform w.gateway := by
  refine (history.invariant (I := fun v => Filed platform v.gateway) (fun id d there => ?_) fun t member filed => ?_).1
  · rw [(create_empty created).2 id] at there
    cases there
  · rcases (history.moved t member).cases with ⟨_, returned⟩ | ⟨_, _, same, _⟩
    · exact returns_filed filed returned
    · rw [same]
      exact filed

/-- Of the leases that a pass grants, exactly those of tasks with an identifier reach a worker, each in one envelope. -/
theorem dispatched_iff {profiles : List WorkerProfile} {evidence : EvidenceResolver} {init : Db} {past : List LocalTransition}
    {w : LocalWorld} {now : PyFloat} (created : LocalGateway.create platform profiles evidence = .ok g)
    (history : LocalHistory platform ⟨init, g⟩ past w) (distinct : Set.InjOn (LocalGateway.dispatchId platform) hashed)
    (known : ∀ id d, w.gateway.dispatches id = some d → d.envelope.binding ∈ hashed) :
    connections.Surely (Supplied hashed workers w) (router.routeOnce platform workers w.gateway now).run w.db fun db' r =>
      ∀ t ∈ db'.tasks.rows, ∀ lease, t.leaseId = some lease → Unused w.db lease →
        ((∃ g' told, r = .ok (g', told) ∧ (told.map fun e => e.leaseId.1).count lease = 1) ↔ isIdentifier t.taskId = true) := by
  have nothing : ∀ t ∈ w.db.tasks.rows, ∀ lease, t.leaseId = some lease → ¬ Unused w.db lease :=
    fun t member lease held unused => unused t member held
  cases clock : now.clock? with
  | none =>
    rw [AgentRouter.routeOnce, Store.now, clock]
    exact fun t member lease held unused => absurd unused (nothing t member lease held)
  | some n =>
    have valid : 0 ≤ n := by
      rw [fin_of_clock? clock] at clock
      exact (clock_fin.mp clock).1
    have calm : ∀ x u, Supplied hashed workers w x u → Calm x u := fun x u supplied => supplied.calm
    have untouched : ∀ task lease, (task, some lease) ∈ w.db.held → ¬ Unused w.db lease := by
      intro task lease holds
      obtain ⟨r, member, _, held⟩ := held_iff.mp holds
      exact nothing r member lease held
    have filed := filed_of_history created history
    refine Machine.surely_then ((surely_now clock).under calm) ?_
    refine Machine.surely_then ((surely_schedulable router.bounded).under calm) ?_
    have pending : ∀ t ∈ w.db.schedulable router.batchSize.toNat, Pending w.db w.db t := by
      intro t member
      have found := (mem_schedulable member).1
      exact ⟨⟨t, (Table.find?_some.mp found).1, rfl⟩, ⟨t, found, rfl, rfl⟩, untouched t.taskId⟩
    have none_ : Matched w.db w.db [] :=
      ⟨fun task lease holds unused => absurd unused (untouched task lease holds),
        fun e impossible => absurd impossible List.not_mem_nil, fun e impossible => absurd impossible List.not_mem_nil⟩
    have keyed : Keyed platform hashed w.gateway := fun id d there => ⟨known id d there, filed id d there⟩
    refine (surely_matched valid distinct (sessions_named created history) keyed rfl pending schedulable_nodup none_).mono fun db' r done t member lease held unused => ?_
    obtain ⟨g', more, rfl, matched⟩ := done
    have exact_ := matched.one t.taskId lease (held_iff.mpr ⟨t, member, rfl, held⟩) unused
    rw [← exact_, List.nil_append]
    constructor
    · rintro ⟨g'', told, same, counted⟩
      obtain ⟨_, rfl⟩ := Prod.mk.inj (Except.ok.inj same)
      exact counted
    · exact fun counted => ⟨g', more, rfl, counted⟩

end

namespace Sample

/-- A task that the store takes, and a worker for it. -/
def offered (task : String) : List (LocalCall × List Input) :=
  [(.other (.createTask { taskId := task, directiveId := none, targetProject := "lab", capability := "read", governanceAllowed := 1 } 0), []),
   (.registerLocalHarness (hello "s" 0 0) (.fin 0), [])]

def reached (g : LocalGateway) (task : String) : LocalWorld := (playLocal platform ⟨.empty, g⟩ (offered task)).2

theorem reached_history (g : LocalGateway) (task : String) :
    LocalHistory platform ⟨.empty, g⟩ (playLocal platform ⟨.empty, g⟩ (offered task)).1 (reached g task) := playLocal_history ..

theorem reached_undispatched {g : LocalGateway} {task : String} (empty : ∀ id, g.dispatches id = none) :
    ∀ id, (reached g task).gateway.dispatches id = none := by
  refine ((reached_history g task).invariant (I := fun v => ∀ id, v.gateway.dispatches id = none) empty fun t member before => ?_).1
  have step := (reached_history g task).moved t member
  have called : t.label.call ∈ (offered task).map Prod.fst := by
    rcases List.mem_cons.mp member with rfl | member
    · exact List.mem_cons_of_mem _ List.mem_cons_self
    · rcases List.mem_cons.mp member with rfl | member
      · exact List.mem_cons_self
      · exact absurd member List.not_mem_nil
  rcases step.cases with ⟨_, returned⟩ | ⟨_, _, same, _⟩
  · rcases List.mem_cons.mp called with same | called
    · rw [same] at returned
      obtain ⟨_, _, _, _, same⟩ := by
        simpa only [LocalCall.procedure, Machine.returns_bind, Machine.returns_pure] using returned
      rw [same]
      exact before
    · rw [List.mem_singleton.mp called] at returned
      generalize t.after.gateway = g' at returned ⊢
      cases returns_registerLocalHarness returned <;> exact before
  · rw [same]
    exact before

end Sample

theorem dispatched_iff_offered : ∃ g, LocalGateway.create Sample.platform [Sample.profile] (fun _ => none) = .ok g ∧
    connections.Surely (Supplied {⟨"t", "w", "s", "lease"⟩} ["w"] (Sample.reached g "t"))
      (Sample.router.routeOnce Sample.platform ["w"] (Sample.reached g "t").gateway (.fin 1)).run (Sample.reached g "t").db fun db' r =>
        ∀ t ∈ db'.tasks.rows, ∀ lease, t.leaseId = some lease → Unused (Sample.reached g "t").db lease →
          ((∃ g' told, r = .ok (g', told) ∧ (told.map fun e => e.leaseId.1).count lease = 1) ↔ isIdentifier t.taskId = true) := by
  obtain ⟨g, created⟩ := Sample.gateway_created
  refine ⟨g, created, dispatched_iff created (Sample.reached_history g "t") (Set.injOn_singleton _ _) fun id d there => ?_⟩
  rw [Sample.reached_undispatched (create_empty created).2 id] at there
  cases there

/-- The store takes a task id with a blank in it, the worker's lease is granted, and nobody is told. -/
theorem lease_orphaned : ∃ g, LocalGateway.create Sample.platform [Sample.profile] (fun _ => none) = .ok g ∧ ∃ db' g',
    connections.Returns (Sample.router.routeOnce Sample.platform ["w"] (Sample.reached g "my task").gateway (.fin 1))
      (Sample.reached g "my task").db db' (g', []) ∧
    (∃ t ∈ db'.tasks.rows, t.leaseId = some "lease") ∧ Unused (Sample.reached g "my task").db "lease" := by
  let pass (g : LocalGateway) := connections.alone
    (Sample.router.routeOnce Sample.platform ["w"] (Sample.reached g "my task").gateway (.fin 1)).run
    (List.replicate 9 { uuid := "lease" }) (Sample.reached g "my task").db
  have computed : (LocalGateway.create Sample.platform [Sample.profile] fun _ => none).map (fun g =>
      ((Sample.reached g "my task").db.tasks.rows.map TaskRow.leaseId, (pass g).1.tasks.rows.map TaskRow.leaseId,
        (pass g).2.map fun out => out.2)) = .ok ([none], [some "lease"], .ok []) := by decide +kernel
  obtain ⟨g, created⟩ := Sample.gateway_created
  rw [created] at computed
  obtain ⟨before, computed⟩ := Prod.mk.inj (Except.ok.inj computed)
  obtain ⟨after, answer⟩ := Prod.mk.inj computed
  have ends := @Machine.ends_alone _ _ _ _ _ connections (Sample.reached g "my task").db _
    (p := (Sample.router.routeOnce Sample.platform ["w"] (Sample.reached g "my task").gateway (.fin 1)).run)
    (List.replicate 9 { uuid := "lease" })
  change connections.Ends _ _ (pass g).1 (pass g).2 at ends
  cases outcome : (pass g).2 with
  | error e =>
    rw [outcome] at answer
    cases answer
  | ok out =>
    rw [outcome] at answer ends
    obtain ⟨g', told⟩ := out
    obtain rfl : told = [] := Except.ok.inj answer
    refine ⟨g, created, _, g', ends, ?_, fun r member held => ?_⟩
    · have listed : some "lease" ∈ (pass g).1.tasks.rows.map TaskRow.leaseId := after ▸ List.mem_cons_self
      exact List.mem_map.mp listed
    · have listed : r.leaseId ∈ (Sample.reached g "my task").db.tasks.rows.map TaskRow.leaseId := List.mem_map_of_mem member
      rw [before, List.mem_singleton, held] at listed
      cases listed

end ControlPlane.Autonomy
