import ControlPlane.Autonomy.ExternalIsolation
import ControlPlane.Autonomy.ExternalProvider
import ControlPlane.Autonomy.ExternalRevocation
import ControlPlane.Autonomy.Projections
import ControlPlane.Interleaving.Surely

/-!
# What is shown against what is chosen

The projections leave the store's row of the worker and its leases out, so a worker that is
shown as available need not be eligible. All else that they ask agrees, in every state that
calls and restarts can reach.
-/

namespace ControlPlane.Autonomy

open Data Interleaving

/-- The worker has a row in the store, and one for its profile. -/
def KnownWorker (db : ExternalDb) (worker : String) : Prop :=
  (∃ row, db.store.workers.find? worker = some row) ∧ ∃ row, db.profiles.find? worker = some row

/-- Every session is a known worker's. -/
def Equipped (db : ExternalDb) : Prop := ∀ s ∈ db.sessions.rows, KnownWorker db s.workerId

/-- A session is withdrawn only when its worker is revoked. -/
def Withdrawn (db : ExternalDb) : Prop := ∀ s ∈ db.sessions.rows, s.state = .revoked → Revoked s.workerId db

/-- What holds of the tables, and of the gateway that runs on them. -/
structure Regular (w : ExternalWorld) : Prop where
  equipped : Equipped w.db
  withdrawn : Withdrawn w.db
  attested : ∀ r ∈ w.db.providerStatus.rows, r.attestationScope = attestationScope
  closed : ∀ worker, Revoked worker w.db → Closed worker w
  enrolled : ∀ g, w.gateway = some g → ∀ p ∈ g.registry.profiles, ∃ row, w.db.profiles.find? p.workerId.1 = some row
  trusted : ∀ g, w.gateway = some g → ∀ s ∈ w.db.sessions.rows, s.state = .authenticated →
    ∃ p, Trusted g w.db p ∧ p.workerId.1 = s.workerId

section

variable {α : Type} {crypto : Crypto} {g : ExternalGateway} {db db' : ExternalDb} {c : ExternalCall}
  {next : Pending ExternalStmt} {w w' : ExternalWorld} {e : ExternalEvent} {p : VerifiedProfile} {n : ℚ} {roles : List Role}
  {capability target : String} {now : PyFloat} {past : List ExternalTransition}

/-! ### The workers of the sessions -/

theorem update_known {ρ κ : Type} {key : ρ → κ} [DecidableEq κ] {t : Table ρ key} {q : ρ → Prop} [DecidablePred q] {f : ρ → ρ}
    (keeps : ∀ r, key (f r) = key r) {k : κ} (known : ∃ s, t.find? k = some s) : ∃ s, (t.update q f keeps).find? k = some s := by
  obtain ⟨s, found⟩ := known
  rw [Table.find?_update Table.rows_update keeps, found]
  exact ⟨_, rfl⟩

theorem upsert_known {ρ κ : Type} {key : ρ → κ} [DecidableEq κ] {t : Table ρ key} {r : ρ} {f : ρ → ρ}
    {keeps : ∀ r, key (f r) = key r} {k : κ} (known : key r = k ∨ ∃ s, t.find? k = some s) :
    ∃ s, (t.upsert r f keeps).find? k = some s := by
  unfold Table.upsert
  split
  · rename_i fresh
    have inserted : t.insert? r = some (t.insert r fresh) := dif_pos fresh
    rw [Table.find?_insert? inserted]
    split
    · exact ⟨r, rfl⟩
    · exact known.resolve_left ‹_›
  · rename_i taken
    refine update_known keeps ?_
    rcases known with rfl | there
    · obtain ⟨s, member, same⟩ := List.mem_map.mp (not_not.mp taken)
      exact ⟨s, Table.find?_some.mpr ⟨member, same⟩⟩
    · exact there

theorem exec_workers {β : Type} {worker : String} (s : Stmt β) (x : Input) (db : Db)
    (known : ∃ row, db.workers.find? worker = some row) : ∃ row, (exec s x db).1.workers.find? worker = some row := by
  rcases exec_effect s x db with same | ⟨_, effect⟩
  · rwa [same]
  generalize (exec s x db).1 = db' at effect
  cases effect with
  | registerWorker upserted =>
    subst upserted
    exact upsert_known (.inr known)
  | heartbeat updated | publishCapacity updated =>
    subst updated
    refine update_known ?_ known
    exact fun _ => rfl
  | createTask inserted | ingestNew inserted =>
    obtain ⟨tasks, rfl, _⟩ := insertTask_ok inserted
    exact known
  | @start ack task worker lease n =>
    obtain ⟨audit, logged⟩ := foldl_log (startEvents ack worker) task n
      (db.updateTasks (TaskRow.heldBy task worker lease (· = .leased) n) (TaskRow.started n) fun _ => rfl)
    rw [logged]
    exact known
  | submitResult _ _ _ _ _ _ inserted =>
    obtain ⟨evidence, rfl, _⟩ := insertEvidence_ok inserted
    exact known
  | settleRecovery settled =>
    subst settled
    split <;> exact known
  | _ => exact known

/-- A profile's row stays. -/
theorem Kept.profile {worker : String} (kept : Kept db db') (known : ∃ row, db.profiles.find? worker = some row) :
    ∃ row, db'.profiles.find? worker = some row := by
  obtain ⟨row, found⟩ := known
  obtain ⟨member, named⟩ := Table.find?_some.mp found
  obtain ⟨row', there, rfl | rfl⟩ := kept.profiles row member
  · exact ⟨_, Table.find?_some.mpr ⟨there, named⟩⟩
  · exact ⟨_, Table.find?_some.mpr ⟨there, named⟩⟩

theorem updated_worker {f : SessionRow → SessionRow} {q : SessionRow → Prop} [DecidablePred q]
    {keeps : ∀ s, (f s).workerId = s.workerId} {s : SessionRow} (member : s ∈ (db.updateSessions q f keeps).sessions.rows) :
    ∃ s' ∈ db.sessions.rows, s'.workerId = s.workerId := by
  obtain ⟨s', there, rfl⟩ := List.mem_map.mp member
  refine ⟨s', there, ?_⟩
  split
  · exact (keeps s').symm
  · rfl

theorem equipped_stays (st : ExternalStmt α) (x : ExternalInput) (other : st.role ≠ .authenticate) (equipped : Equipped db) :
    Equipped (externals.exec st x db).1 := by
  have unmoved (same : (externals.exec st x db).1.sessions = db.sessions) :
      ∀ s ∈ (externals.exec st x db).1.sessions.rows, ∃ s' ∈ db.sessions.rows, s'.workerId = s.workerId :=
    fun s member => ⟨s, same ▸ member, rfl⟩
  have sources : ∀ s ∈ (externals.exec st x db).1.sessions.rows, ∃ s' ∈ db.sessions.rows, s'.workerId = s.workerId := by
    cases st with
    | inl s => exact unmoved rfl
    | inr s =>
      cases s with
      | requireReauthentication | revokeSession | advanceSession => exact fun s member => updated_worker member
      | authenticate => exact absurd rfl other
      | _ => exact unmoved ((untouched _ x db).sessions nofun nofun nofun nofun)
  intro s member
  obtain ⟨s', there, same⟩ := sources s member
  obtain ⟨stored, enrolled⟩ := equipped s' there
  rw [same] at stored enrolled
  refine ⟨?_, (performed_kept st x db).profile enrolled⟩
  exact performed_store (I := fun u => ∃ row, u.workers.find? s.workerId = some row) exec_workers st x db stored

theorem Confined.equipped {q : External α} (confined : Confined roles q) (other : .authenticate ∉ roles)
    (cut : externals.Cut q db db' next) (equipped : Equipped db) : Equipped db' := by
  refine cut.keeps (I := Equipped) (Program.All.mono (fun st role x u => equipped_stays st x ?_) confined) equipped
  intro same
  rw [same] at role
  rcases role with impossible | impossible | listed
  · cases impossible
  · cases impossible
  · exact other listed

/-- The row that a request registers is its worker's. -/
theorem requested_worker {value : Json} {r : SessionRequest} (returned : externals.Returns (g.requestSession crypto value now) db db' r) :
    r.worker.workerId = r.row.workerId := by
  simp only [ExternalGateway.requestSession, Machine.returns_bind, Machine.returns_lift, returns_external_now, returns_sql,
    GatewayStmt.perform, Machine.returns_pure, Prod.mk.injEq, Except.ok.injEq, and_assoc, exists_const, exists_and_left,
    exists_eq_left, exists_eq_left', require_ok, found_ok] at returned
  obtain ⟨_, _, _, _, worker, _, _, _, _, _, _, _, _, _, _, rfl, _, _, _, _, _, _, _, _, _, _, _, _, rfl, rfl⟩ := returned
  exact clean_identifier worker

theorem call_equipped (cut : externals.Cut (c.procedure crypto g) db db' next) (equipped : Equipped db) : Equipped db' := by
  by_cases authenticates : ∃ value now, c = .authenticateSession value now
  · obtain ⟨value, now, rfl⟩ := authenticates
    rcases reads_requestSession.cut_write (Machine.cut_then_pure.mp cut) with same | ⟨r, returned, _, written⟩
    · rwa [same]
    obtain ⟨_, frame, p, requested⟩ := returns_requestSession returned
    obtain ⟨_, store, registered, rfl⟩ := written
    have named := requested_worker returned
    have stored : ∀ worker, (r.worker.workerId = worker ∨ ∃ row, db.store.workers.find? worker = some row) →
        ∃ row, store.workers.find? worker = some row := by
      intro worker known
      simp only [upsertWorker, require_bind_ok, pure_ok, Prod.mk.injEq, and_true] at registered
      obtain ⟨_, rfl⟩ := registered
      exact upsert_known known
    intro s member
    rcases Table.mem_replace.mp member with ⟨there, _⟩ | rfl
    · exact ⟨stored _ (.inr (equipped s there).1), (equipped s there).2⟩
    · obtain ⟨capacity, row⟩ := requested.row
      obtain ⟨profile, found, _⟩ := requested.trusted.durable
      have worker : r.row.workerId = p.workerId.1 := by rw [row]
      exact ⟨stored _ (.inl named), profile, worker ▸ found⟩
  · refine (confined_call c).equipped ?_ cut equipped
    cases c <;> simp [ExternalCall.writes] at authenticates ⊢

theorem step_equipped (step : ExternalStep crypto w e w') (equipped : Equipped w.db) : Equipped w'.db := by
  cases step.cases with
  | called running label stays ends => exact call_equipped ends.stops equipped
  | crashed running label died cut => exact call_equipped cut equipped
  | restarted label runs returned => exact confined_create.equipped (by decide) returned.stops equipped
  | failed label died cut => exact confined_create.equipped (by decide) cut equipped
  | outside none_ same tables =>
    obtain ⟨store, spool, same⟩ := tables
    intro s member
    rw [same] at member
    obtain ⟨stored, enrolled⟩ := equipped s member
    exact ⟨step.store (I := fun u => ∃ row, u.workers.find? s.workerId = some row) exec_workers stored, step.kept.profile enrolled⟩

/-! ### Withdrawn sessions -/

theorem withdrawn_stays (st : ExternalStmt α) (x : ExternalInput) (opens : st.role ≠ .authenticate) (revokes : st.role ≠ .revokeSession)
    (withdrawn : Withdrawn db) : Withdrawn (externals.exec st x db).1 := by
  have stays {s : SessionRow} (member : s ∈ db.sessions.rows) (state : s.state = .revoked) :
      Revoked s.workerId (externals.exec st x db).1 := revoked_stays (performed_kept st x db) (withdrawn s member state)
  have unmoved (same : (externals.exec st x db).1.sessions = db.sessions) : Withdrawn (externals.exec st x db).1 :=
    fun s member => stays (same ▸ member)
  cases st with
  | inl s => exact unmoved rfl
  | inr s =>
    cases s with
    | requireReauthentication =>
      intro s member state
      obtain ⟨old, there, rfl⟩ := List.mem_map.mp member
      split at state
      · cases state
      · rename_i kept
        rw [if_neg kept]
        exact stays there state
    | advanceSession =>
      intro s member state
      obtain ⟨old, there, rfl⟩ := List.mem_map.mp member
      split at state
      · rename_i moved
        rw [if_pos moved]
        exact @stays old there state
      · rename_i kept
        rw [if_neg kept]
        exact stays there state
    | authenticate => exact absurd rfl opens
    | revokeSession => exact absurd rfl revokes
    | _ => exact unmoved ((untouched _ x db).sessions nofun nofun nofun nofun)

theorem Confined.withdrawn {q : External α} (confined : Confined roles q) (opens : .authenticate ∉ roles)
    (revokes : .revokeSession ∉ roles) (cut : externals.Cut q db db' next) (withdrawn : Withdrawn db) : Withdrawn db' := by
  refine cut.keeps (I := Withdrawn) (Program.All.mono (fun st role x u => withdrawn_stays st x ?_ ?_) confined) withdrawn
  · intro same
    rw [same] at role
    simp [opens] at role
  · intro same
    rw [same] at role
    simp [revokes] at role

theorem call_withdrawn (cut : externals.Cut (c.procedure crypto g) db db' next) (equipped : Equipped db) (withdrawn : Withdrawn db) :
    Withdrawn db' := by
  by_cases revokes : ∃ value, c = .revoke value
  · obtain ⟨value, rfl⟩ := revokes
    rcases cut_revoke (Machine.cut_then_pure.mp cut) with rfl | ⟨id, rfl, ⟨rfl, _⟩ | ⟨_, written⟩⟩
    · exact withdrawn
    · exact fun s member state => revoked_stays (cut_kept cut) (withdrawn s member state)
    · intro s member state
      obtain rfl := written
      obtain ⟨old, there, rfl⟩ := List.mem_map.mp member
      split at state
      · rename_i named
        rw [if_pos named]
        obtain ⟨row, found⟩ := (equipped old there).2
        refine ⟨{ row with revoked := true }, ((Table.find?_update_key (t := db.profiles)
          (f := fun p => { p with revoked := true }) fun _ => rfl).trans (if_pos named.symm)).trans ?_, rfl⟩
        rw [found]
        rfl
      · rename_i other
        rw [if_neg other]
        exact revoked_stays (cut_kept cut) (withdrawn old there state)
  by_cases authenticates : ∃ value now, c = .authenticateSession value now
  · obtain ⟨value, now, rfl⟩ := authenticates
    rcases cut_authenticateSession (Machine.cut_then_pure.mp cut) with rfl | ⟨r, frame, p, requested, _, written⟩
    · exact withdrawn
    · obtain ⟨_, store, registered, rfl⟩ := written
      intro s member state
      rcases Table.mem_replace.mp member with ⟨there, _⟩ | rfl
      · exact revoked_stays (cut_kept cut) (withdrawn s there state)
      · obtain ⟨capacity, row⟩ := requested.row
        rw [row] at state
        cases state
  · refine (confined_call c).withdrawn ?_ ?_ cut withdrawn <;>
      cases c <;> simp [ExternalCall.writes] at revokes authenticates ⊢

theorem step_withdrawn (step : ExternalStep crypto w e w') (equipped : Equipped w.db) (withdrawn : Withdrawn w.db) :
    Withdrawn w'.db := by
  cases step.cases with
  | called running label stays ends => exact call_withdrawn ends.stops equipped withdrawn
  | crashed running label died cut => exact call_withdrawn cut equipped withdrawn
  | restarted label runs returned => exact confined_create.withdrawn (by decide) (by decide) returned.stops withdrawn
  | failed label died cut => exact confined_create.withdrawn (by decide) (by decide) cut withdrawn
  | outside none_ same tables =>
    obtain ⟨store, spool, same⟩ := tables
    intro s member
    rw [same] at member
    exact fun state => revoked_stays step.kept (withdrawn s member state)

/-! ### Every reachable state is regular -/

/-- A start leaves a row for every profile that it has read. -/
theorem returns_persistProfiles {profiles : List VerifiedProfile} {u : Unit}
    (returned : externals.Returns (persistProfiles profiles) db db' u) :
    ∀ p ∈ profiles, ∃ row, db'.profiles.find? p.workerId.1 = some row := by
  induction profiles generalizing db with
  | nil => exact fun p member => absurd member List.not_mem_nil
  | cons p rest ih =>
    obtain ⟨db₁, _, first, others⟩ := Machine.returns_bind.mp returned
    refine List.forall_mem_cons.mpr ⟨?_, ih others⟩
    suffices there : ∃ row, db₁.profiles.find? p.workerId.1 = some row by
      exact (cut_kept others.stops).profile there
    obtain ⟨db₂, row, selected, last⟩ := Machine.returns_bind.mp first
    obtain ⟨_, selected⟩ := returns_sql.mp selected
    obtain ⟨rfl, found⟩ := Prod.mk.inj selected
    cases row with
    | none =>
      obtain ⟨x, ran⟩ := returns_sql.mp last
      obtain ⟨profiles, inserted, same⟩ := insertProfile_ok (update_ok.mp ran)
      rw [same]
      exact ⟨p.row, (Table.find?_insert? inserted).trans (if_pos rfl)⟩
    | some actual => exact (cut_kept last.stops).profile ⟨actual, Except.ok.inj found⟩

theorem returns_create_enrolled {c : Configuration} (returned : externals.Returns (ExternalGateway.create crypto c) db db' g) :
    ∀ p ∈ g.registry.profiles, ∃ row, db'.profiles.find? p.workerId.1 = some row := by
  simp only [ExternalGateway.create, Machine.returns_bind, Machine.returns_lift, Machine.returns_pure] at returned
  obtain ⟨_, _, _, _, _, _, _, _, _, _, registry, _, db₁, _, persisted, db₂, _, downgraded, rfl, rfl⟩ := returned
  intro p member
  exact (cut_kept downgraded.stops).profile (returns_persistProfiles persisted p (Registry.mem_all.mpr member))

/-- Trust ends with a revocation only. -/
theorem Trusted.stays (trusted : Trusted g db p) (kept : Kept db db') (unrevoked : ¬ Revoked p.workerId.1 db') : Trusted g db' p := by
  obtain ⟨row, found, enabled, open_, digest, key⟩ := trusted.durable
  obtain ⟨member, named⟩ := Table.find?_some.mp found
  obtain ⟨row', there, same⟩ := kept.profiles row member
  have found' : db'.profiles.find? p.workerId.1 = some row' := by
    refine Table.find?_some.mpr ⟨there, ?_⟩
    rcases same with rfl | rfl <;> exact named
  refine ⟨trusted.enrolled, trusted.enabled, trusted.unrevoked, row', found', ?_⟩
  rcases same with rfl | rfl
  · exact ⟨enabled, open_, digest, key⟩
  · exact absurd ⟨_, found', rfl⟩ unrevoked

theorem call_trusted (cut : externals.Cut (c.procedure crypto g) db db' next)
    (closed : ∀ worker, Revoked worker db' → ∀ s, db'.sessions.find? worker = some s → s.state ≠ .authenticated)
    (trusted : ∀ s ∈ db.sessions.rows, s.state = .authenticated → ∃ p, Trusted g db p ∧ p.workerId.1 = s.workerId) :
    ∀ s ∈ db'.sessions.rows, s.state = .authenticated → ∃ p, Trusted g db' p ∧ p.workerId.1 = s.workerId := by
  intro s member state
  have found : db'.sessions.find? s.workerId = some s := Table.find?_some.mpr ⟨member, rfl⟩
  suffices before : ∃ p, Trusted g db p ∧ p.workerId.1 = s.workerId by
    obtain ⟨p, trusted, own⟩ := before
    exact ⟨p, trusted.stays (cut_kept cut) fun revoked => closed _ (own ▸ revoked) s found state, own⟩
  have change := call_session cut s.workerId
  rw [found] at change
  generalize same : some s = after at change
  cases change with
  | kept =>
    obtain ⟨there, _⟩ := Table.find?_some.mp same.symm
    exact trusted s there state
  | advanced _ admitted own => exact ⟨_, admitted.trusted, own⟩
  | opened _ requested own => exact ⟨_, requested.trusted, own⟩
  | dropped => cases same
  | revoked =>
    cases same
    cases state

theorem step_regular (step : ExternalStep crypto w e w') (regular : Regular w) : Regular w' := by
  have closed : ∀ worker, Revoked worker w'.db → Closed worker w' :=
    fun worker revoked => step_closed step (regular.closed worker) revoked
  refine ⟨step_equipped step regular.equipped, step_withdrawn step regular.equipped regular.withdrawn, ?_, closed, ?_, ?_⟩
  · rcases step_provider step with ⟨same, _⟩ | ⟨_, _, _, row, _, _, _, _, reported, written⟩
    · rw [same]
      exact regular.attested
    · obtain ⟨_, _, _, same⟩ := written
      rw [same]
      intro r member
      rcases Table.mem_replace.mp member with ⟨there, _⟩ | rfl
      · exact regular.attested r there
      · exact reported.scope.2
  · cases step.cases with
    | called running _ stays =>
      intro g runs p member
      rw [stays] at runs
      cases runs
      exact step.kept.profile (regular.enrolled _ running p member)
    | crashed _ _ died => exact fun _ runs => absurd (runs.symm.trans died) nofun
    | failed _ died => exact fun _ runs => absurd (runs.symm.trans died) nofun
    | restarted _ runs returned =>
      intro g' runs' p member
      rw [runs] at runs'
      cases runs'
      exact returns_create_enrolled returned p member
    | outside _ same => exact fun g runs p member => step.kept.profile (regular.enrolled g (same ▸ runs) p member)
  · cases step.cases with
    | called running _ stays ends =>
      intro g runs
      rw [stays] at runs
      cases runs
      exact call_trusted ends.stops (fun worker revoked s => closed worker revoked _ s stays) (regular.trusted _ running)
    | crashed _ _ died => exact fun _ runs => absurd (runs.symm.trans died) nofun
    | failed _ died => exact fun _ runs => absurd (runs.symm.trans died) nofun
    | restarted _ _ returned => exact fun _ _ s member state => absurd state (returns_create returned s member)
    | outside _ gateway tables =>
      obtain ⟨store, spool, same⟩ := tables
      intro g runs s member state
      rw [same] at member
      obtain ⟨p, trusted, own⟩ := regular.trusted g (gateway ▸ runs) s member state
      rw [same]
      exact ⟨p, ⟨trusted.enrolled, trusted.enabled, trusted.unrevoked, trusted.durable⟩, own⟩

theorem regular_of_history (history : ExternalHistory crypto ⟨.empty, none⟩ past w) : Regular w := by
  have none (worker : String) : ¬ Revoked worker ExternalDb.empty := by
    rintro ⟨_, impossible, _⟩
    cases impossible
  have initial : Regular ⟨.empty, .none⟩ := {
    equipped := fun _ impossible => absurd impossible List.not_mem_nil
    withdrawn := fun _ impossible => absurd impossible List.not_mem_nil
    attested := fun _ impossible => absurd impossible List.not_mem_nil
    closed := fun worker revoked => absurd revoked (none worker)
    enrolled := fun _ impossible => by cases impossible
    trusted := fun _ impossible => by cases impossible }
  exact (history.invariant initial fun t member => step_regular (history.moved t member)).1

/-! ### What the procedures give -/

theorem gives_sql {s : GatewayStmt α} {a : α} (same : ∀ x, s.perform x db = (db, .ok a)) :
    externals.Gives (External.sql s) db (.ok a) := Machine.gives_ask same

theorem gives_now (clock : now.clock? = some n) : externals.Gives (External.now now) db (.ok n) := by
  unfold External.now
  rw [clock]
  exact Machine.gives_lift

theorem gives_found {β : Type} {x : Option β} {b : β} {err : Err} {k : β → External α} {r : Answer α} (known : x = some b)
    (rest : externals.Gives (k b) db r) : externals.Gives (Procedure.lift (found x err) >>= k) db r := by
  rw [found_ok.mpr known]
  exact Machine.gives_lift.bind rest

theorem gives_require {q : Prop} [Decidable q] {err : Err} {k : Unit → External α} {r : Answer α} (holds : q)
    (rest : externals.Gives (k ()) db r) : externals.Gives (Procedure.lift (require q err) >>= k) db r := by
  rw [require_ok.mpr holds]
  exact Machine.gives_lift.bind rest

theorem Trusted.gives (trusted : Trusted g db p) : externals.Gives (g.trusted (.str p.workerId.1)) db (.ok p) := by
  unfold ExternalGateway.trusted
  rw [trusted.get]
  obtain ⟨row, found, enabled, unrevoked, digest, key⟩ := trusted.durable
  refine Machine.gives_lift.bind ((gives_sql fun _ => rfl).bind (gives_require ?_ Machine.gives_pure))
  exact ⟨row, found, enabled, by simp [unrevoked], digest, key⟩

theorem registry_get_blocked {r : Registry} {worker : Identifier} {err : Err} (raised : r.get (.str worker.1) = .error err) :
    err.isBlocked = true := by
  simp only [Registry.get, identifier_str] at raised
  change (found _ _ >>= fun p => _) = _ at raised
  rcases known : r.profiles.find? fun p => p.workerId = worker with _ | p
  · rw [known] at raised
    cases raised
    rfl
  · rw [known] at raised
    change (require (p.enabled ∧ ¬ p.revoked) _ >>= fun _ => _) = _ at raised
    by_cases active : p.enabled ∧ ¬ p.revoked
    · rw [show require (p.enabled ∧ ¬ p.revoked) (Err.blocked "worker trust unavailable") = .ok () from if_pos active] at raised
      cases raised
    · rw [show require (p.enabled ∧ ¬ p.revoked) (Err.blocked "worker trust unavailable") = _ from if_neg active] at raised
      cases raised
      rfl

variable (g db) in
/-- The lookup of a worker knows it, or raises what the projection catches. -/
theorem gives_trusted (worker : Identifier) :
    ∃ r, externals.Gives (g.trusted (.str worker.1)) db r ∧ ∀ err, r = .error err → err.isBlocked = true := by
  unfold ExternalGateway.trusted
  cases got : g.registry.get (.str worker.1) with
  | error err =>
    refine ⟨.error err, Machine.Gives.raise Machine.gives_lift, fun _ same => ?_⟩
    cases same
    exact registry_get_blocked got
  | ok p =>
    by_cases good : ∃ r ∈ db.profiles.find? p.workerId.1, r.enabled ∧ ¬ r.revoked ∧ r.profileDigest = p.digest ∧ r.keyId = p.keyId.1
    · refine ⟨.ok p, Machine.gives_lift.bind ((gives_sql fun _ => rfl).bind ?_), fun _ same => by cases same⟩
      exact gives_require good Machine.gives_pure
    · refine ⟨.error (.blocked "worker trust revoked or contradictory"), Machine.gives_lift.bind ((gives_sql fun _ => rfl).bind ?_),
        fun _ same => by cases same; rfl⟩
      have refused : require (∃ r ∈ db.profiles.find? p.workerId.1, r.enabled ∧ ¬ r.revoked ∧ r.profileDigest = p.digest ∧
          r.keyId = p.keyId.1) (Err.blocked "worker trust revoked or contradictory") = .error _ := if_neg good
      rw [refused]
      exact Machine.Gives.raise Machine.gives_lift

/-! ### Sessions -/

/-- The row that is shown for a profile. -/
def rowOf (db : ExternalDb) (n : ℚ) (p : VerifiedProfile) : SessionProjection :=
  p.projection (db.profiles.find? p.workerId.1) (db.sessions.find? p.workerId.1) n

theorem gives_projectSessions (profiles : List VerifiedProfile) :
    externals.Gives (ExternalGateway.projectSessions n profiles) db (.ok (profiles.map (rowOf db n))) := by
  induction profiles with
  | nil => exact Machine.gives_pure
  | cons p rest ih => exact (gives_sql fun _ => rfl).bind ((gives_sql fun _ => rfl).bind (ih.bind Machine.gives_pure))

theorem gives_sessionProjection (clock : now.clock? = some n) :
    externals.Gives (g.sessionProjection now) db (.ok (g.registry.all.map (rowOf db n))) :=
  (gives_now clock).bind (gives_projectSessions _)

theorem gives_workerStatus {w : WorkerRow} (valid : 0 ≤ n) (found : db.store.workers.find? p.workerId.1 = some w) :
    externals.Gives (External.store (Store.workerStatus p.workerId.1 (.fin n))) db (.ok ⟨w,
      w.lastHeartbeat ≤ n + 1 ∧ .fin (n - w.lastHeartbeat) ≤ w.heartbeatSla, db.store.activeLeases p.workerId.1 n⟩) := by
  have clock : (PyFloat.fin n).clock? = some n := by simp [PyFloat.clock?, valid]
  unfold External.store Store.workerStatus Store.now
  rw [clock, clean_identifier]
  simp only [Procedure.interp_bind, Procedure.interp_pure, Procedure.interp_ask]
  refine Machine.gives_pure.bind (Machine.Gives.bind (Machine.gives_ask fun x => rfl) ?_)
  rw [found]
  exact Machine.gives_pure.bind (Machine.Gives.bind (Machine.gives_ask fun x => rfl) Machine.gives_pure)

variable (capability target) in
theorem gives_eligible (regular : Regular w) (running : w.gateway = some g) (enrolled : p ∈ g.registry.profiles) (valid : 0 ≤ n) :
    ∃ found, externals.Gives (ExternalGateway.eligible capability target n p) w.db (.ok found) ∧
      ∀ pair, found = some pair ↔ pair.1 = p.workerId.1 ∧ Eligible w.db capability target n p pair.2 := by
  have nobody (refused : ∀ session, ¬ Eligible w.db capability target n p session) :
      ∃ found, externals.Gives (pure none : External (Option (String × String))) w.db (.ok found) ∧
        ∀ pair, found = some pair ↔ pair.1 = p.workerId.1 ∧ Eligible w.db capability target n p pair.2 :=
    ⟨none, Machine.gives_pure, fun pair => iff_of_false (fun impossible => by cases impossible) fun held => refused _ held.2⟩
  obtain ⟨row, found⟩ := regular.enrolled g running p enrolled
  unfold ExternalGateway.eligible
  refine (gives_sql fun _ => rfl).exists_bind ?_
  by_cases idle : ¬ p.enabled ∨ p.revoked
  · rw [if_pos idle]
    refine nobody fun session eligible => ?_
    simp [eligible.enabled, eligible.unrevoked] at idle
  rw [if_neg idle, found_ok.mpr found]
  refine Machine.gives_lift.exists_bind ?_
  by_cases unfit : row.revoked ∨ capability ∉ p.capabilities ∨ target ∉ p.allowedTargets
  · rw [if_pos unfit]
    refine nobody fun session eligible => ?_
    obtain ⟨_, same, unrevoked⟩ := eligible.durable
    cases found.symm.trans same
    simp [unrevoked, eligible.capable, eligible.targeted] at unfit
  rw [if_neg unfit]
  refine (gives_sql fun _ => rfl).exists_bind ?_
  cases current : w.db.sessions.find? p.workerId.1 with
  | none =>
    refine nobody fun session eligible => ?_
    obtain ⟨_, impossible, _⟩ := eligible.current
    cases current.symm.trans impossible
  | some s =>
    dsimp only
    by_cases stale : s.state ≠ .authenticated ∨ n - s.lastHeartbeat > p.heartbeatSla
    · rw [if_pos stale]
      refine nobody fun session eligible => ?_
      obtain ⟨_, same, state, _, fresh, _⟩ := eligible.current
      cases current.symm.trans same
      rcases stale with other | late
      · exact other state
      · exact absurd fresh (not_le.mpr late)
    rw [if_neg stale]
    obtain ⟨member, named⟩ := Table.find?_some.mp current
    obtain ⟨⟨stored, known⟩, _⟩ := named ▸ regular.equipped s member
    refine (gives_workerStatus valid known).exists_bind ?_
    simp only [not_or, not_not, ne_eq, gt_iff_lt, not_lt] at idle unfit stale
    have spare : SpareCapacity w.db p.workerId.1 s.capacity n ↔ (stored.lastHeartbeat ≤ n + 1 ∧
        .fin (n - stored.lastHeartbeat) ≤ stored.heartbeatSla) ∧
          (w.db.store.activeLeases p.workerId.1 n : Int) < min stored.capacity s.capacity := by
      constructor
      · rintro ⟨_, same, ahead, fresh, room⟩
        cases known.symm.trans same
        exact ⟨⟨ahead, fresh⟩, room⟩
      · rintro ⟨⟨ahead, fresh⟩, room⟩
        exact ⟨stored, known, ahead, fresh, room⟩
    by_cases room : SpareCapacity w.db p.workerId.1 s.capacity n
    · rw [if_pos (by simpa using spare.mp room)]
      refine ⟨some (p.workerId.1, s.sessionId), Machine.gives_pure, fun pair => ?_⟩
      constructor
      · rintro ⟨_⟩
        exact ⟨rfl, idle.1, Bool.eq_false_iff.mpr idle.2, ⟨row, found, Bool.eq_false_iff.mpr unfit.1⟩, unfit.2.1, unfit.2.2,
          s, current, stale.1, rfl, stale.2, room⟩
      · rintro ⟨worker, eligible⟩
        obtain ⟨_, same, _, session, _⟩ := eligible.current
        cases current.symm.trans same
        exact congrArg some (Prod.ext worker.symm session)
    · rw [if_neg (fun held => room (spare.mpr (by simpa using held)))]
      refine nobody fun session eligible => ?_
      obtain ⟨_, same, _, _, _, free⟩ := eligible.current
      cases current.symm.trans same
      exact room free

variable (capability target) in
theorem gives_eligibleOf (regular : Regular w) (running : w.gateway = some g) (valid : 0 ≤ n) {profiles : List VerifiedProfile}
    (enrolled : ∀ p ∈ profiles, p ∈ g.registry.profiles) :
    ∃ pairs, externals.Gives (ExternalGateway.eligibleOf capability target n profiles) w.db (.ok pairs) ∧
      ∀ pair, pair ∈ pairs ↔ ∃ p ∈ profiles, pair.1 = p.workerId.1 ∧ Eligible w.db capability target n p pair.2 := by
  induction profiles with
  | nil => exact ⟨[], Machine.gives_pure, by simp⟩
  | cons p rest ih =>
    obtain ⟨here, later⟩ := List.forall_mem_cons.mp enrolled
    obtain ⟨found, first, own⟩ := gives_eligible capability target regular running here valid
    obtain ⟨pairs, others, listed⟩ := ih later
    refine ⟨_, first.bind (others.bind Machine.gives_pure), fun pair => ?_⟩
    rw [List.mem_append, Option.mem_toList, own, listed, List.exists_mem_cons_iff]

variable (capability target) in
theorem gives_eligibleSessions (regular : Regular w) (running : w.gateway = some g) (clock : now.clock? = some n) :
    ∃ pairs, externals.Gives (g.eligibleSessions capability target now) w.db (.ok pairs) ∧
      ∀ pair, pair ∈ pairs ↔ ∃ p ∈ g.registry.profiles, pair.1 = p.workerId.1 ∧ Eligible w.db capability target n p pair.2 := by
  have valid : 0 ≤ n := by
    have read := clock?_fin clock
    simp only [PyFloat.clock?, Option.ite_none_right_eq_some] at read
    exact read.1
  obtain ⟨pairs, gives, listed⟩ := gives_eligibleOf capability target regular running valid
    fun p member => Registry.mem_all.mp member
  refine ⟨_, (gives_now clock).bind (gives.bind Machine.gives_pure), fun pair => ?_⟩
  rw [mem_sortPairs, listed]
  simp only [Registry.mem_all]

/-! ### Reports of the provider -/

/-- The worker's last report is of its open session, connected and fresh. -/
def Connected (db : ExternalDb) (n : ℚ) (p : VerifiedProfile) : Prop :=
  ∃ s r, db.sessions.find? p.workerId.1 = some s ∧ db.providerStatus.find? p.workerId.1 = some r ∧ s.state = .authenticated ∧
    ExternalGateway.ProviderFresh s.sessionId p.heartbeatSla n r

theorem connection_fresh {row : ProviderRow} {sla : ℚ} : row.connection sla n = connectedUnattested ↔
    row.connectionState = connectedUnattested ∧ ¬ n - row.observedAt > sla ∧ ¬ row.observedAt > n + 1 := by
  unfold ProviderRow.connection
  simp only [gt_iff_lt, not_lt]
  split
  · rename_i fresh
    exact ⟨fun connected => ⟨connected, fresh.2, fresh.1⟩, And.left⟩
  · rename_i late
    exact iff_of_false (by decide) fun held => late ⟨held.2.2, held.2.1⟩

variable (g db n) in
theorem gives_firstConnection {item : SessionProjection} (row : ProviderRow) (own : item.workerId = p.workerId.1) :
    ∃ r, externals.Gives (g.firstConnection n item row) db r ∧ ∀ err, r = .error err → err.isBlocked = true := by
  obtain ⟨r, gives, blocked⟩ := gives_trusted g db p.workerId
  unfold ExternalGateway.firstConnection
  rw [own]
  cases r with
  | error err => exact ⟨.error err, gives.raise, fun _ same => blocked _ (congrArg Except.error (Except.error.inj same))⟩
  | ok q =>
    by_cases shown : item.status = .available ∧ row.sessionId = item.sessionStatus
    · refine ⟨.ok (row.connection q.heartbeatSla n), gives.bind ?_, fun _ same => by cases same⟩
      rw [if_pos shown]
      exact Machine.gives_pure
    · refine ⟨.ok unknownStatus, gives.bind ?_, fun _ same => by cases same⟩
      rw [if_neg shown]
      exact Machine.gives_pure

theorem Regular.session_trusted (regular : Regular w) (running : w.gateway = some g) (enrolled : p ∈ g.registry.profiles)
    {s : SessionRow} (current : w.db.sessions.find? p.workerId.1 = some s) (state : s.state = .authenticated) : Trusted g w.db p := by
  obtain ⟨member, named⟩ := Table.find?_some.mp current
  obtain ⟨q, trusted, own⟩ := regular.trusted g running s member state
  obtain rfl := Registry.eq_of_worker enrolled trusted.enrolled (Subtype.ext (named.symm.trans own.symm))
  exact trusted

theorem gives_tryConnection {item : SessionProjection} {row : Option ProviderRow} (own : item.workerId = p.workerId.1) :
    externals.Gives (g.tryConnection n item row) db (.ok ()) := by
  cases row with
  | none => exact Machine.gives_pure
  | some row =>
    obtain ⟨first, tried, blocked⟩ := gives_firstConnection g db n row own
    refine tried.attempt.bind ?_
    cases first with
    | ok _ => exact Machine.gives_pure
    | error err =>
      dsimp only
      rw [require_ok.mpr (blocked err rfl)]
      exact Machine.gives_lift

theorem gives_currentConnection {item : SessionProjection} (regular : Regular w)
    (running : w.gateway = some g) (enrolled : p ∈ g.registry.profiles) (own : item.workerId = p.workerId.1) :
    ∃ current, externals.Gives (g.currentConnection n item (w.db.sessions.find? p.workerId.1)
        (w.db.providerStatus.find? p.workerId.1)) w.db (.ok current) ∧
      (current = connectedUnattested ↔ Connected w.db n p) := by
  cases reported : w.db.providerStatus.find? p.workerId.1 with
  | none =>
    refine ⟨unknownStatus, Machine.gives_pure, iff_of_false (by decide) ?_⟩
    rintro ⟨_, _, _, impossible, _⟩
    cases reported.symm.trans impossible
  | some row =>
    unfold ExternalGateway.currentConnection
    rw [own]
    dsimp only
    by_cases bound : ∃ s ∈ w.db.sessions.find? p.workerId.1, s.state = .authenticated ∧ row.sessionId = s.sessionId
    · rw [if_pos bound]
      obtain ⟨s, current, state, session⟩ := bound
      have trusted := regular.session_trusted running enrolled current state
      refine ⟨row.connection p.heartbeatSla n, trusted.gives.bind Machine.gives_pure, connection_fresh.trans ⟨?_, ?_⟩⟩
      · rintro ⟨connected, fresh, past⟩
        have scope := regular.attested row (Table.find?_some.mp reported).1
        exact ⟨s, row, current, reported, state, session, connected, scope, fresh, past⟩
      · rintro ⟨s', r', current', reported', _, _, connected, _, fresh, past⟩
        cases reported.symm.trans reported'
        exact ⟨connected, fresh, past⟩
    · rw [if_neg bound]
      refine ⟨unknownStatus, Machine.gives_pure, iff_of_false (by decide) ?_⟩
      rintro ⟨s, r, current, reported', state, session, _⟩
      cases reported.symm.trans reported'
      exact bound ⟨s, current, state, session⟩

theorem gives_projectProvider (item : SessionProjection) (regular : Regular w) (running : w.gateway = some g)
    (enrolled : p ∈ g.registry.profiles) (own : item.workerId = p.workerId.1) :
    ∃ row, externals.Gives (g.projectProvider n item) w.db (.ok row) ∧ row.item.workerId = p.workerId.1 ∧
      (row.providerExecutionEligible = true ↔ item.status = .available ∧ Connected w.db n p) := by
  obtain ⟨current, gives, connected⟩ := gives_currentConnection (n := n) regular running enrolled own
  rw [← own] at gives
  unfold ExternalGateway.projectProvider
  refine (gives_sql fun _ => rfl).exists_bind ((gives_tryConnection own).exists_bind ?_)
  refine (gives_sql fun _ => rfl).exists_bind (gives.exists_bind ⟨_, Machine.gives_pure, own, ?_⟩)
  simp only [decide_eq_true_eq, connected]

theorem gives_projectProviders (regular : Regular w) (running : w.gateway = some g) {profiles : List VerifiedProfile}
    (enrolled : ∀ p ∈ profiles, p ∈ g.registry.profiles) :
    ∃ rows, externals.Gives (g.projectProviders n (profiles.map (rowOf w.db n))) w.db (.ok rows) ∧
      ∀ p ∈ g.registry.profiles, (∃ row ∈ rows, row.item.workerId = p.workerId.1 ∧ row.providerExecutionEligible = true) ↔
        p ∈ profiles ∧ (rowOf w.db n p).status = .available ∧ Connected w.db n p := by
  induction profiles with
  | nil => exact ⟨[], Machine.gives_pure, by simp⟩
  | cons q rest ih =>
    obtain ⟨here, later⟩ := List.forall_mem_cons.mp enrolled
    obtain ⟨row, first, named, eligible⟩ := gives_projectProvider (n := n) (rowOf w.db n q) regular running here rfl
    obtain ⟨rows, others, listed⟩ := ih later
    refine ⟨row :: rows, first.bind (others.bind Machine.gives_pure), fun p member => ?_⟩
    rw [List.exists_mem_cons_iff, listed p member, List.mem_cons, or_and_right, named, eligible]
    refine or_congr ⟨?_, ?_⟩ Iff.rfl
    · rintro ⟨same, held⟩
      obtain rfl := Registry.eq_of_worker here member (Subtype.ext same)
      exact ⟨rfl, held⟩
    · rintro ⟨rfl, held⟩
      exact ⟨rfl, held⟩

theorem gives_providerSessionProjection (regular : Regular w) (running : w.gateway = some g) (clock : now.clock? = some n) :
    ∃ rows, externals.Gives (g.providerSessionProjection now) w.db (.ok rows) ∧
      ∀ p ∈ g.registry.profiles, (∃ row ∈ rows, row.item.workerId = p.workerId.1 ∧ row.providerExecutionEligible = true) ↔
        (rowOf w.db n p).status = .available ∧ Connected w.db n p := by
  obtain ⟨rows, gives, listed⟩ := gives_projectProviders (n := n) regular running fun p member => Registry.mem_all.mp member
  refine ⟨rows, (gives_now clock).bind ((gives_sessionProjection (clock?_fin clock)).bind gives), fun p member => ?_⟩
  rw [listed p member, and_iff_right (Registry.mem_all.mpr member)]

variable (g db n) in
theorem gives_providerEligibleOf (pairs : List (String × String))
    (trusted : ∀ pair ∈ pairs, ∃ p, pair.1 = p.workerId.1 ∧ Trusted g db p) :
    ∃ found, externals.Gives (g.providerEligibleOf n pairs) db (.ok found) ∧
      ∀ pair, pair ∈ found ↔ pair ∈ pairs ∧ ∃ p, pair.1 = p.workerId.1 ∧ Trusted g db p ∧
        ∃ r, db.providerStatus.find? pair.1 = some r ∧ ExternalGateway.ProviderFresh pair.2 p.heartbeatSla n r := by
  induction pairs with
  | nil => exact ⟨[], Machine.gives_pure, by simp⟩
  | cons pair rest ih =>
    obtain ⟨⟨p, named, known⟩, later⟩ := List.forall_mem_cons.mp trusted
    obtain ⟨worker, session⟩ := pair
    obtain rfl : worker = p.workerId.1 := named
    obtain ⟨found, others, listed⟩ := ih later
    have own : (∃ q, p.workerId.1 = q.workerId.1 ∧ Trusted g db q ∧
        ∃ r, db.providerStatus.find? p.workerId.1 = some r ∧ ExternalGateway.ProviderFresh session q.heartbeatSla n r) ↔
        ∃ r ∈ db.providerStatus.find? p.workerId.1, ExternalGateway.ProviderFresh session p.heartbeatSla n r := by
      constructor
      · rintro ⟨q, same, trusted, reported⟩
        obtain rfl := Registry.eq_of_worker known.enrolled trusted.enrolled (Subtype.ext same)
        exact reported
      · exact fun reported => ⟨p, rfl, known, reported⟩
    refine ⟨_, (gives_sql fun _ => rfl).bind (known.gives.bind (others.bind Machine.gives_pure)), fun pair => ?_⟩
    split
    · rename_i fresh
      rw [List.mem_cons, List.mem_cons, listed, or_and_right]
      refine or_congr (iff_self_and.mpr ?_) Iff.rfl
      rintro rfl
      exact own.mpr fresh
    · rename_i late
      rw [listed, List.mem_cons, or_and_right]
      refine (or_iff_right ?_).symm
      rintro ⟨rfl, reported⟩
      exact late (own.mp reported)

variable (capability target) in
theorem gives_providerEligibleSessions (regular : Regular w) (running : w.gateway = some g) (clock : now.clock? = some n) :
    ∃ pairs, externals.Gives (g.providerEligibleSessions capability target now) w.db (.ok pairs) ∧
      ∀ p ∈ g.registry.profiles, (∃ session, (p.workerId.1, session) ∈ pairs) ↔
        (∃ session, Eligible w.db capability target n p session) ∧ Connected w.db n p := by
  obtain ⟨listed, gives, eligible⟩ := gives_eligibleSessions capability target regular running
    (clock?_fin clock)
  have owner {p q : VerifiedProfile} (hp : p ∈ g.registry.profiles) (hq : q ∈ g.registry.profiles)
      (same : p.workerId.1 = q.workerId.1) : p = q := Registry.eq_of_worker hp hq (Subtype.ext same)
  have trusted {p : VerifiedProfile} {session : String} (enrolled : p ∈ g.registry.profiles)
      (open_ : Eligible w.db capability target n p session) : Trusted g w.db p := by
    obtain ⟨s, current, state, _⟩ := open_.current
    exact regular.session_trusted running enrolled current state
  obtain ⟨found, narrowed, kept⟩ := gives_providerEligibleOf g w.db n listed fun pair member => by
    obtain ⟨p, enrolled, named, open_⟩ := (eligible pair).mp member
    exact ⟨p, named, trusted enrolled open_⟩
  refine ⟨_, (gives_now clock).bind (gives.bind (narrowed.bind Machine.gives_pure)), fun p enrolled => ?_⟩
  simp only [mem_sortPairs, kept, eligible]
  constructor
  · rintro ⟨session, ⟨q, there, same, open_⟩, q', same', known, r, reported, fresh⟩
    obtain rfl := owner enrolled there same
    obtain rfl := owner enrolled known.enrolled same'
    obtain ⟨s, current, state, rfl, _⟩ := open_.current
    exact ⟨⟨_, open_⟩, s, r, current, reported, state, fresh⟩
  · rintro ⟨⟨session, open_⟩, s, r, current, reported, state, fresh⟩
    obtain ⟨s', current', _, rfl, _⟩ := open_.current
    cases current.symm.trans current'
    exact ⟨_, ⟨p, enrolled, rfl, open_⟩, p, rfl, trusted enrolled open_, r, reported, fresh⟩

/-! ### Shown and chosen -/

/-- The worker has an open session with a fresh heartbeat, so that only the store can hold it back. -/
def Presents (db : ExternalDb) (n : ℚ) (p : VerifiedProfile) (s : SessionRow) : Prop :=
  db.sessions.find? p.workerId.1 = some s ∧ s.state = .authenticated ∧ n - s.lastHeartbeat ≤ p.heartbeatSla

/-- What is shown as available is an open session with a fresh heartbeat. -/
theorem Regular.shown (regular : Regular w) (running : w.gateway = some g) (enrolled : p ∈ g.registry.profiles) :
    (rowOf w.db n p).status = .available ↔ ∃ s, Presents w.db n p s := by
  change p.shown (w.db.profiles.find? p.workerId.1) (w.db.sessions.find? p.workerId.1) n = .available ↔ _
  unfold VerifiedProfile.shown
  constructor
  · intro shown
    split at shown
    · cases shown
    rename_i unrevoked
    split at shown
    · cases shown
    rename_i s current
    split at shown
    · cases shown
    rename_i authenticated
    split at shown
    · cases shown
    rename_i fresh
    refine ⟨s, current, ?_, not_lt.mp fresh⟩
    obtain ⟨member, named⟩ := Table.find?_some.mp current
    cases state : s.state with
    | authenticated => rfl
    | reauthRequired => exact absurd state authenticated
    | revoked =>
      obtain ⟨row, found, revoked⟩ := named ▸ regular.withdrawn s member state
      simp [VerifiedProfile.isRevoked, found, revoked] at unrevoked
  · rintro ⟨s, current, state, fresh⟩
    have trusted := regular.session_trusted running enrolled current state
    obtain ⟨row, found, _, unrevoked, _⟩ := trusted.durable
    have open_ : p.isRevoked (w.db.profiles.find? p.workerId.1) = false := by
      simp [VerifiedProfile.isRevoked, found, unrevoked, trusted.unrevoked]
    rw [open_, current]
    simp [state, fresh]

/-- What the projections leave out. -/
theorem Regular.eligible (regular : Regular w) (running : w.gateway = some g) (enrolled : p ∈ g.registry.profiles)
    (capable : capability ∈ p.capabilities) (targeted : target ∈ p.allowedTargets) :
    (∃ session, Eligible w.db capability target n p session) ↔
      ∃ s, Presents w.db n p s ∧ SpareCapacity w.db p.workerId.1 s.capacity n := by
  constructor
  · rintro ⟨session, eligible⟩
    obtain ⟨s, current, state, _, fresh, spare⟩ := eligible.current
    exact ⟨s, ⟨current, state, fresh⟩, spare⟩
  · rintro ⟨s, ⟨current, state, fresh⟩, spare⟩
    have trusted := regular.session_trusted running enrolled current state
    obtain ⟨row, found, _, unrevoked, _⟩ := trusted.durable
    exact ⟨s.sessionId, trusted.enabled, trusted.unrevoked, ⟨row, found, unrevoked⟩, capable, targeted, s, current, state, rfl, fresh, spare⟩

/-- What two projections show of the worker is what was chosen. -/
def Agree (worker : String) (rows : List SessionProjection) (pairs : List (String × String)) (offers : List ProviderProjection)
    (chosen : List (String × String)) : Prop :=
  ((∃ row ∈ rows, row.workerId = worker ∧ row.status = .available) ↔ ∃ session, (worker, session) ∈ pairs) ∧
    ((∃ row ∈ offers, row.item.workerId = worker ∧ row.providerExecutionEligible = true) ↔ ∃ session, (worker, session) ∈ chosen)

/-- In every reachable state, the projections of both gateways agree with their choices of the
worker just when the store does not hold back a session that presents itself. -/
theorem projections_agree_iff (history : ExternalHistory crypto ⟨.empty, none⟩ past w) (running : w.gateway = some g)
    (enrolled : p ∈ g.registry.profiles) (capable : capability ∈ p.capabilities) (targeted : target ∈ p.allowedTargets)
    (clock : now.clock? = some n) :
    ∃ rows pairs offers chosen, externals.Gives (g.sessionProjection now) w.db (.ok rows) ∧
      externals.Gives (g.eligibleSessions capability target now) w.db (.ok pairs) ∧
      externals.Gives (g.providerSessionProjection now) w.db (.ok offers) ∧
      externals.Gives (g.providerEligibleSessions capability target now) w.db (.ok chosen) ∧
      (Agree p.workerId.1 rows pairs offers chosen ↔
        ∀ s, Presents w.db n p s → SpareCapacity w.db p.workerId.1 s.capacity n) := by
  have regular := regular_of_history history
  obtain ⟨pairs, chooses, listed⟩ := gives_eligibleSessions capability target regular running clock
  obtain ⟨offers, offer, offered⟩ := gives_providerSessionProjection regular running clock
  obtain ⟨chosen, narrow, kept⟩ := gives_providerEligibleSessions capability target regular running clock
  refine ⟨_, pairs, offers, chosen, gives_sessionProjection clock, chooses, offer, narrow, ?_⟩
  have own : (∃ row ∈ g.registry.all.map (rowOf w.db n), row.workerId = p.workerId.1 ∧ row.status = .available) ↔
      ∃ s, Presents w.db n p s := by
    rw [← regular.shown running enrolled]
    simp only [List.mem_map, exists_exists_and_eq_and]
    constructor
    · rintro ⟨q, member, same, shown⟩
      obtain rfl := Registry.eq_of_worker enrolled (Registry.mem_all.mp member) (Subtype.ext same.symm)
      exact shown
    · exact fun shown => ⟨p, Registry.mem_all.mpr enrolled, rfl, shown⟩
  have picked : (∃ session, (p.workerId.1, session) ∈ pairs) ↔ ∃ session, Eligible w.db capability target n p session := by
    constructor
    · rintro ⟨session, member⟩
      obtain ⟨q, there, same, eligible⟩ := (listed _).mp member
      obtain rfl := Registry.eq_of_worker enrolled there (Subtype.ext same)
      exact ⟨session, eligible⟩
    · rintro ⟨session, eligible⟩
      exact ⟨session, (listed _).mpr ⟨p, enrolled, rfl, eligible⟩⟩
  have one {s s' : SessionRow} (first : Presents w.db n p s) (second : Presents w.db n p s') : s' = s :=
    Option.some.inj (second.1.symm.trans first.1)
  unfold Agree
  rw [own, picked, offered p enrolled, kept p enrolled, regular.shown running enrolled,
    regular.eligible running enrolled capable targeted]
  constructor
  · rintro ⟨agrees, _⟩ s presents
    obtain ⟨s', presents', spare⟩ := agrees.mp ⟨s, presents⟩
    rwa [one presents presents'] at spare
  · intro spare
    have same : (∃ s, Presents w.db n p s) ↔ ∃ s, Presents w.db n p s ∧ SpareCapacity w.db p.workerId.1 s.capacity n :=
      exists_congr fun s => (and_iff_left_of_imp (spare s)).symm
    exact ⟨same, and_congr_left' same⟩

end

instance (db : ExternalDb) (worker : String) (capacity : Int) (n : ℚ) : Decidable (SpareCapacity db worker capacity n) :=
  decidable_of_iff (∃ r ∈ db.store.workers.find? worker, r.lastHeartbeat ≤ n + 1 ∧ .fin (n - r.lastHeartbeat) ≤ r.heartbeatSla ∧
    (db.store.activeLeases worker n : Int) < min r.capacity capacity) ⟨fun known => ⟨known⟩, fun spare => spare.known⟩

namespace Sample

/-- Worker `w` runs under the profile of the configuration, and its open session is fresh at 13. -/
def presents (w : ExternalWorld) (spare : Bool) : Bool :=
  w.gateway.any fun g => g.registry.profiles.any fun p =>
    p.workerId.1 = "w" ∧ "OBSERVE_STATUS" ∈ p.capabilities ∧ "lab" ∈ p.allowedTargets ∧
      (w.db.sessions.find? p.workerId.1).any fun s => s.state = .authenticated ∧ 13 - s.lastHeartbeat ≤ p.heartbeatSla ∧
        decide (SpareCapacity w.db p.workerId.1 s.capacity 13) = spare

theorem presents_session {w : ExternalWorld} {spare : Bool} (presented : presents w spare = true) : ∃ g p s,
    w.gateway = some g ∧ p ∈ g.registry.profiles ∧ p.workerId.1 = "w" ∧ "OBSERVE_STATUS" ∈ p.capabilities ∧
      "lab" ∈ p.allowedTargets ∧ Presents w.db 13 p s ∧ decide (SpareCapacity w.db p.workerId.1 s.capacity 13) = spare := by
  obtain ⟨g, running, listed⟩ := (Option.any_eq_true _ _).mp presented
  obtain ⟨p, member, held⟩ := List.any_eq_true.mp listed
  obtain ⟨named, capable, targeted, found⟩ := of_decide_eq_true held
  obtain ⟨s, current, open_⟩ := (Option.any_eq_true _ _).mp found
  obtain ⟨state, fresh, same⟩ := of_decide_eq_true open_
  exact ⟨g, p, s, running, member, named, capable, targeted, ⟨current, state, fresh⟩, same⟩

end Sample

theorem projections_agree_connected : ∃ past w g p rows pairs offers chosen,
    ExternalHistory Sample.crypto ⟨.empty, none⟩ past w ∧ w.gateway = some g ∧ p ∈ g.registry.profiles ∧
      "OBSERVE_STATUS" ∈ p.capabilities ∧ "lab" ∈ p.allowedTargets ∧
      externals.Gives (g.sessionProjection (.fin 13)) w.db (.ok rows) ∧
      externals.Gives (g.eligibleSessions "OBSERVE_STATUS" "lab" (.fin 13)) w.db (.ok pairs) ∧
      externals.Gives (g.providerSessionProjection (.fin 13)) w.db (.ok offers) ∧
      externals.Gives (g.providerEligibleSessions "OBSERVE_STATUS" "lab" (.fin 13)) w.db (.ok chosen) ∧
      Agree p.workerId.1 rows pairs offers chosen := by
  have presented : Sample.presents (Sample.played Sample.reporting).2 true = true := by decide +kernel
  obtain ⟨g, p, s, running, enrolled, named, capable, targeted, presents, spare⟩ := Sample.presents_session presented
  obtain ⟨rows, pairs, offers, chosen, shows, chooses, offer, narrow, agree⟩ :=
    projections_agree_iff (Sample.played_history Sample.reporting) running enrolled capable targeted
      (show (PyFloat.fin 13).clock? = some 13 by decide)
  refine ⟨_, _, g, p, rows, pairs, offers, chosen, Sample.played_history Sample.reporting, running, enrolled, capable, targeted,
    shows, chooses, offer, narrow, agree.mpr fun s' presents' => ?_⟩
  obtain rfl : s' = s := Option.some.inj (presents'.1.symm.trans presents.1)
  exact of_decide_eq_true spare

/-- A worker whose only lease is taken is shown as available, and cannot be chosen. -/
theorem projections_disagree : ∃ past w g p rows pairs, ExternalHistory Sample.crypto ⟨.empty, none⟩ past w ∧
    w.gateway = some g ∧ p ∈ g.registry.profiles ∧ "OBSERVE_STATUS" ∈ p.capabilities ∧ "lab" ∈ p.allowedTargets ∧
      externals.Gives (g.sessionProjection (.fin 13)) w.db (.ok rows) ∧
      externals.Gives (g.eligibleSessions "OBSERVE_STATUS" "lab" (.fin 13)) w.db (.ok pairs) ∧
      (∃ row ∈ rows, row.workerId = p.workerId.1 ∧ row.status = .available) ∧ ¬ ∃ session, (p.workerId.1, session) ∈ pairs := by
  have presented : Sample.presents (Sample.played (Sample.connect ++ Sample.send)).2 false = true := by decide +kernel
  obtain ⟨g, p, s, running, enrolled, named, capable, targeted, presents, held⟩ := Sample.presents_session presented
  have history := Sample.played_history (Sample.connect ++ Sample.send)
  have regular := regular_of_history history
  have clock : (PyFloat.fin 13).clock? = some 13 := by decide
  obtain ⟨pairs, chooses, listed⟩ := gives_eligibleSessions "OBSERVE_STATUS" "lab" regular running clock
  refine ⟨_, _, g, p, _, pairs, history, running, enrolled, capable, targeted, gives_sessionProjection clock, chooses, ?_, ?_⟩
  · refine ⟨_, List.mem_map_of_mem (Registry.mem_all.mpr enrolled), rfl, ?_⟩
    exact (regular.shown running enrolled).mpr ⟨s, presents⟩
  · rintro ⟨session, member⟩
    obtain ⟨q, there, same, eligible⟩ := (listed _).mp member
    obtain rfl := Registry.eq_of_worker enrolled there (Subtype.ext same)
    obtain ⟨s', current, _, _, _, spare⟩ := eligible.current
    cases current.symm.trans presents.1
    exact of_decide_eq_false held spare

end ControlPlane.Autonomy
