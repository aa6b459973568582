import ControlPlane.Autonomy.Completion

/-!
# Grants and their transactions

A grant is consumed in the block that inserts its transaction. From then on every
block that settles the one settles the other, whoever runs it.
-/

namespace ControlPlane.Autonomy

open Data Interleaving Protocol

/-- APPLIED, FAILED, EXPIRED and INTEGRITY_BLOCKED. -/
def GrantState.final (s : GrantState) : Bool := s ∈ [applied, failed, expired, integrityBlocked]

/-- A grant has a transaction if and only if it was consumed, and then the two agree. -/
structure GrantsAgree (db : Db) : Prop where
  owned : ∀ tx ∈ db.transactions.rows, ∃ g ∈ db.grants.rows, g.grantId = tx.grantId
  consumed : ∀ g ∈ db.grants.rows, (∃ tx ∈ db.transactions.rows, tx.grantId = g.grantId) ↔ g.consumedAt.isSome
  same : ∀ g ∈ db.grants.rows, ∀ tx ∈ db.transactions.rows, tx.grantId = g.grantId →
    tx.state = g.state ∧ g.planHash = some tx.planHash
  unused : ∀ g ∈ db.grants.rows, g.consumedAt = none ↔ g.state = .issued ∨ g.state = .expired

def Db.grantState? (db : Db) (grantId : String) : Option GrantState := (db.grants.find? grantId).map (·.state)

/-- The statement takes the grant from ISSUED to APPLYING. -/
def Consumes (grantId : String) (t : Taken Stmt Input Db) : Prop :=
  t.before.grantState? grantId = some .issued ∧ (connections.after t).grantState? grantId = some .applying

instance (grantId : String) (t : Taken Stmt Input Db) : Decidable (Consumes grantId t) := inferInstanceAs (Decidable (_ ∧ _))

/-- Every grant that was final is there in the same state. -/
def FinalKept (db db' : Db) : Prop :=
  ∀ g ∈ db.grants.rows, g.state.final → ∃ g' ∈ db'.grants.rows, g'.grantId = g.grantId ∧ g'.state = g.state

/-- The ways a grant can go from one state to another. -/
def GrantState.Leads (s s' : GrantState) : Prop :=
  s' = s ∨ s = .issued ∨ s = .applying ∧ s' ∈ [applied, failed, integrityBlocked]

instance (s s' : GrantState) : Decidable (s.Leads s') := inferInstanceAs (Decidable (_ ∨ _ ∨ _))

/-- The columns that say what a grant is for never change, nor is it ever unused again. -/
structure GrantRow.Onward (g g' : GrantRow) : Prop where
  grantId : g'.grantId = g.grantId
  taskId : g'.taskId = g.taskId
  workerId : g'.workerId = g.workerId
  leaseId : g'.leaseId = g.leaseId
  workspaceId : g'.workspaceId = g.workspaceId
  consumed : g.consumedAt.isSome → g'.consumedAt.isSome
  leads : g.state.Leads g'.state

/-- Every grant is still there and has gone on. -/
def GrantsOnward (db db' : Db) : Prop := ∀ g ∈ db.grants.rows, ∃ g' ∈ db'.grants.rows, g.Onward g'

/-- What one statement can do to grants and transactions, both at once. -/
inductive GrantEffect (db db' : Db) : Prop
  | still (grants : db'.grants = db.grants) (transactions : db'.transactions = db.transactions)
  | issued {g} (inserted : db.grants.insert? g = some db'.grants) (issued : g.state = .issued) (unused : g.consumedAt = none)
      (transactions : db'.transactions = db.transactions)
  | expired {id} (grants : db'.grants.rows = db.grants.rows.map fun g =>
        if g.grantId = id ∧ g.state = .issued then { g with state := .expired } else g)
      (transactions : db'.transactions = db.transactions)
  | consumed {g tx n} (found : db.grants.find? tx.grantId = some g) (issued : g.state = .issued)
      (grants : db'.grants.rows = db.grants.rows.map fun g => if g.grantId = tx.grantId ∧ g.state = .issued then
        { g with state := .applying, consumedAt := some n, planHash := some tx.planHash } else g)
      (inserted : db.transactions.insert? tx = some db'.transactions) (applying : tx.state = .applying)
  | settled {id state} {f : TransactionRow → TransactionRow} (ends : state ∈ [.applied, .failed, .integrityBlocked])
      (grants : db'.grants.rows = db.grants.rows.map fun g =>
        if g.grantId = id ∧ g.state = .applying then { g with state } else g)
      (transactions : db'.transactions.rows = db.transactions.rows.map fun tx =>
        if tx.grantId = id ∧ tx.state = .applying then f tx else tx)
      (settles : ∀ tx, (f tx).grantId = tx.grantId ∧ (f tx).state = state ∧ (f tx).planHash = tx.planHash)

/-! ### One statement -/

section

variable {β : Type} {s : Stmt β} {x : Input} {db db' : Db} {host : Host}

theorem recovered_ends (outcome : Recovered) : outcome.state ∈ [.applied, .failed, .integrityBlocked] := by
  cases outcome <;> simp [Recovered.state]

theorem exec_grantEffect (s : Stmt β) (x : Input) (db : Db) (sent : x.busy = false → s.writer ≠ .nobody) :
    GrantEffect db (exec s x db).1 := by
  rcases exec_effect s x db with same | ⟨free, effect⟩
  · rw [same]
    exact .still rfl rfl
  have sent := sent free
  generalize (exec s x db).1 = db' at effect
  cases effect with
  | issueGrant inserted _ issued unused => exact .issued inserted issued unused rfl
  | expireGrant => exact .expired rfl rfl
  | beginApply found issued _ inserted consumed =>
    subst consumed
    exact .consumed found issued rfl inserted rfl
  | finishApply => exact .settled (by decide) rfl rfl fun _ => ⟨rfl, rfl, rfl⟩
  | @terminalizeFailure grantId state =>
    cases state with
    | failed => exact .settled (by decide) rfl rfl fun _ => ⟨rfl, rfl, rfl⟩
    | integrityBlocked => exact .settled (by decide) rfl rfl fun _ => ⟨rfl, rfl, rfl⟩
    | issued | applying | applied | expired => exact absurd rfl sent
  | @settleRecovery grant outcome n _ _ _ _ _ settled =>
    subst settled
    split <;> exact .settled (recovered_ends outcome) rfl rfl fun _ => ⟨rfl, rfl, rfl⟩
  | @start ack task worker lease n =>
    obtain ⟨audit, logged⟩ := foldl_log (startEvents ack worker) task n
      (db.updateTasks (TaskRow.heldBy task worker lease (· = .leased) n) (TaskRow.started n) fun _ => rfl)
    rw [logged]
    exact .still rfl rfl
  | submitResult _ _ _ _ _ _ inserted =>
    obtain ⟨evidence, rfl, _⟩ := insertEvidence_ok inserted
    exact .still rfl rfl
  | createTask inserted | ingestNew inserted =>
    obtain ⟨tasks, rfl, _⟩ := insertTask_ok inserted
    exact .still rfl rfl
  | _ => exact .still rfl rfl

theorem GrantState.Leads.refl (s : GrantState) : s.Leads s := .inl rfl

theorem GrantState.Leads.trans {s₁ s₂ s₃ : GrantState} (first : s₁.Leads s₂) (second : s₂.Leads s₃) : s₁.Leads s₃ := by
  revert first second
  cases s₁ <;> cases s₂ <;> cases s₃ <;> decide

theorem GrantRow.Onward.refl (g : GrantRow) : g.Onward g := ⟨rfl, rfl, rfl, rfl, rfl, id, .refl _⟩

theorem GrantRow.Onward.trans {g₁ g₂ g₃ : GrantRow} (first : g₁.Onward g₂) (second : g₂.Onward g₃) : g₁.Onward g₃ where
  grantId := second.grantId.trans first.grantId
  taskId := second.taskId.trans first.taskId
  workerId := second.workerId.trans first.workerId
  leaseId := second.leaseId.trans first.leaseId
  workspaceId := second.workspaceId.trans first.workspaceId
  consumed used := second.consumed (first.consumed used)
  leads := first.leads.trans second.leads

instance : IsTrans Db GrantsOnward where
  trans _ _ _ first second g member := by
    obtain ⟨g', there, onward⟩ := first g member
    obtain ⟨g'', after, further⟩ := second g' there
    exact ⟨g'', after, onward.trans further⟩

theorem grantsOnward_refl : GrantsOnward db db := fun g member => ⟨g, member, .refl g⟩

/-- Every grant stays where it is and goes on, and a new one is unused. -/
theorem GrantEffect.evolves (effect : GrantEffect db db') :
    db.grants.Evolves GrantRow.Onward (fun g => g.state = .issued ∧ g.consumedAt = none) db'.grants := by
  cases effect with
  | still grants =>
    rw [grants]
    exact Table.evolves_refl
  | issued inserted issued unused => exact Table.evolves_insert (Table.insert?_some inserted).2 ⟨issued, unused⟩
  | expired grants =>
    exact Table.evolves_update grants fun g _ hit => ⟨rfl, rfl, rfl, rfl, rfl, id, .inr (.inl hit.2)⟩
  | consumed _ _ grants =>
    exact Table.evolves_update grants fun g _ hit => ⟨rfl, rfl, rfl, rfl, rfl, fun _ => rfl, .inr (.inl hit.2)⟩
  | settled ends grants =>
    exact Table.evolves_update grants fun g _ hit => ⟨rfl, rfl, rfl, rfl, rfl, id, .inr (.inr ⟨hit.2, ends⟩)⟩

theorem GrantEffect.onward (effect : GrantEffect db db') : GrantsOnward db db' := by
  intro g member
  obtain ⟨g', there, rfl | onward⟩ := effect.evolves.kept member
  · exact ⟨g', there, .refl g'⟩
  · exact ⟨g', there, onward⟩

/-! ### The two tables agree -/

theorem agree_issued {g : GrantRow} (agree : GrantsAgree db) (inserted : db.grants.insert? g = some db'.grants)
    (issued : g.state = .issued) (unused : g.consumedAt = none) (transactions : db'.transactions = db.transactions) :
    GrantsAgree db' := by
  obtain ⟨fresh, rows⟩ := Table.insert?_some inserted
  -- a transaction under the new name would have a grant already
  have absent : ¬ ∃ tx ∈ db.transactions.rows, tx.grantId = g.grantId := by
    rintro ⟨tx, member, named⟩
    obtain ⟨owner, there, same⟩ := agree.owned tx member
    exact fresh owner there (same.trans named)
  refine ⟨?_, ?_, ?_, ?_⟩ <;> simp only [transactions, rows, List.mem_append, List.mem_singleton]
  · intro tx member
    obtain ⟨owner, there, same⟩ := agree.owned tx member
    exact ⟨owner, .inl there, same⟩
  · rintro g' (old | rfl)
    · exact agree.consumed g' old
    · exact iff_of_false absent (by simp [unused])
  · rintro g' (old | rfl) tx member named
    · exact agree.same g' old tx member named
    · exact absurd ⟨tx, member, named⟩ absent
  · rintro g' (old | rfl)
    · exact agree.unused g' old
    · exact iff_of_true unused (.inl issued)

theorem agree_expired {id : String} (agree : GrantsAgree db) (grants : db'.grants.rows = db.grants.rows.map fun g =>
      if g.grantId = id ∧ g.state = .issued then { g with state := .expired } else g)
    (transactions : db'.transactions = db.transactions) : GrantsAgree db' := by
  refine ⟨?_, ?_, ?_, ?_⟩ <;> simp only [transactions, grants, List.mem_map]
  · intro tx member
    obtain ⟨owner, there, same⟩ := agree.owned tx member
    refine ⟨_, ⟨owner, there, rfl⟩, ?_⟩
    split <;> exact same
  · rintro _ ⟨g, member, rfl⟩
    split <;> exact agree.consumed g member
  · rintro _ ⟨g, member, rfl⟩ tx there named
    split at named
    · rename_i hit
      have used := (agree.consumed g member).mp ⟨tx, there, named⟩
      rw [(agree.unused g member).mpr (.inl hit.2)] at used
      cases used
    · rename_i missed
      rw [if_neg missed]
      exact agree.same g member tx there named
  · rintro _ ⟨g, member, rfl⟩
    split
    · rename_i hit
      exact iff_of_true ((agree.unused g member).mpr (.inl hit.2)) (.inr rfl)
    · exact agree.unused g member

theorem agree_consumed {g : GrantRow} {tx : TransactionRow} {n : ℚ} (agree : GrantsAgree db)
    (found : db.grants.find? tx.grantId = some g) (issued : g.state = .issued)
    (grants : db'.grants.rows = db.grants.rows.map fun g => if g.grantId = tx.grantId ∧ g.state = .issued then
      { g with state := .applying, consumedAt := some n, planHash := some tx.planHash } else g)
    (inserted : db.transactions.insert? tx = some db'.transactions) (applying : tx.state = .applying) :
    GrantsAgree db' := by
  obtain ⟨there, named⟩ := Table.find?_some.mp found
  obtain ⟨fresh, rows⟩ := Table.insert?_some inserted
  -- the grant of that name is the one that was found, so the update hits it
  have hits : ∀ g' ∈ db.grants.rows, g'.grantId = tx.grantId → g'.state = .issued := fun g' member same => by
    rwa [Table.eq_of_key member there (same.trans named.symm)]
  refine ⟨?_, ?_, ?_, ?_⟩ <;> simp only [rows, grants, List.mem_map, List.mem_append, List.mem_singleton]
  · have kept : ∀ g' : GrantRow, (if g'.grantId = tx.grantId ∧ g'.state = .issued then
        { g' with state := .applying, consumedAt := some n, planHash := some tx.planHash } else g').grantId = g'.grantId := by
      intro g'
      split <;> rfl
    rintro tx' (old | rfl)
    · obtain ⟨owner, member, same⟩ := agree.owned tx' old
      exact ⟨_, ⟨owner, member, rfl⟩, (kept owner).trans same⟩
    · exact ⟨_, ⟨g, there, rfl⟩, (kept g).trans named⟩
  · rintro _ ⟨g', member, rfl⟩
    split
    · rename_i hit
      exact iff_of_true ⟨tx, .inr rfl, hit.1.symm⟩ rfl
    · rename_i missed
      refine (exists_congr fun tx' => ?_).trans (agree.consumed g' member)
      refine and_congr_left fun same => or_iff_left ?_
      rintro rfl
      exact missed ⟨same.symm, hits g' member same.symm⟩
  · rintro _ ⟨g', member, rfl⟩ tx' stored same
    split at same
    · rename_i hit
      rw [if_pos hit]
      rcases stored with old | rfl
      · exact absurd (same.trans hit.1) (fresh tx' old)
      · exact ⟨applying, rfl⟩
    · rename_i missed
      rw [if_neg missed]
      rcases stored with old | rfl
      · exact agree.same g' member tx' old same
      · exact absurd ⟨same.symm, hits g' member same.symm⟩ missed
  · rintro _ ⟨g', member, rfl⟩
    split
    · simp
    · exact agree.unused g' member

theorem agree_settled {id : String} {state : GrantState} {f : TransactionRow → TransactionRow} (agree : GrantsAgree db)
    (ends : state ∈ [.applied, .failed, .integrityBlocked]) (grants : db'.grants.rows = db.grants.rows.map fun g =>
      if g.grantId = id ∧ g.state = .applying then { g with state } else g)
    (transactions : db'.transactions.rows = db.transactions.rows.map fun tx =>
      if tx.grantId = id ∧ tx.state = .applying then f tx else tx)
    (settles : ∀ tx, (f tx).grantId = tx.grantId ∧ (f tx).state = state ∧ (f tx).planHash = tx.planHash) :
    GrantsAgree db' := by
  have keptTx : ∀ tx, (if tx.grantId = id ∧ tx.state = .applying then f tx else tx).grantId = tx.grantId := by
    intro tx
    split
    · exact (settles tx).1
    · rfl
  have kept : ∀ g : GrantRow, (if g.grantId = id ∧ g.state = .applying then { g with state } else g).grantId = g.grantId := by
    intro g
    split <;> rfl
  refine ⟨?_, ?_, ?_, ?_⟩ <;> simp only [transactions, grants, List.mem_map]
  · rintro _ ⟨tx, member, rfl⟩
    obtain ⟨owner, there, same⟩ := agree.owned tx member
    exact ⟨_, ⟨owner, there, rfl⟩, (kept owner).trans (same.trans (keptTx tx).symm)⟩
  · rintro _ ⟨g, member, rfl⟩
    have used : (if g.grantId = id ∧ g.state = .applying then { g with state } else g).consumedAt = g.consumedAt := by
      split <;> rfl
    rw [used, kept, ← agree.consumed g member]
    constructor
    · rintro ⟨_, ⟨tx, there, rfl⟩, same⟩
      exact ⟨tx, there, (keptTx tx).symm.trans same⟩
    · rintro ⟨tx, there, same⟩
      exact ⟨_, ⟨tx, there, rfl⟩, (keptTx tx).trans same⟩
  · rintro _ ⟨g, member, rfl⟩ _ ⟨tx, there, rfl⟩ same
    rw [keptTx, kept] at same
    obtain ⟨state', hash⟩ := agree.same g member tx there same
    -- both rows are hit or neither is
    rw [same, state']
    split
    · exact ⟨(settles tx).2.1, hash.trans (congrArg some (settles tx).2.2.symm)⟩
    · exact ⟨state', hash⟩
  · rintro _ ⟨g, member, rfl⟩
    split
    · rename_i hit
      have used : ¬ g.consumedAt = none := by simp [agree.unused g member, hit.2]
      refine iff_of_false used ?_
      rintro (rfl | rfl) <;> simp at ends
    · exact agree.unused g member

theorem GrantEffect.agree (effect : GrantEffect db db') (agree : GrantsAgree db) : GrantsAgree db' := by
  cases effect with
  | still grants transactions =>
    obtain ⟨owned, consumed, same, unused⟩ := agree
    rw [← grants, ← transactions] at owned consumed same
    rw [← grants] at unused
    exact ⟨owned, consumed, same, unused⟩
  | issued inserted issued unused transactions => exact agree_issued agree inserted issued unused transactions
  | expired grants transactions => exact agree_expired agree grants transactions
  | consumed found issued grants inserted applying => exact agree_consumed agree found issued grants inserted applying
  | settled ends grants transactions settles => exact agree_settled agree ends grants transactions settles

/-! ### Every run -/

/-- The grant that was read is still there under its name, for the same task, worker,
lease and workspace, and used if it was seen applying. -/
def StillGranted (g : GrantRow) (db : Db) : Prop :=
  ∃ row ∈ db.grants.rows, row.grantId = g.grantId ∧ row.taskId = g.taskId ∧ row.workerId = g.workerId ∧
    row.leaseId = g.leaseId ∧ row.workspaceId = g.workspaceId ∧ (g.state = .applying → row.consumedAt.isSome)

/-- What two statements need: a failure ends the transaction, and a recovery settles a
grant it has read. -/
def SettlesKnown {β : Type} : Stmt β → Db → Prop
  | .terminalizeFailure _ state _ _, _ => state = .failed ∨ state = .integrityBlocked
  | .settleRecovery g _ _, db => g.state = .applying ∧ StillGranted g db
  | _, _ => True

theorem sent_of_settlesKnown (known : SettlesKnown s db) : s.writer ≠ .nobody := by
  cases s with
  | terminalizeFailure grantId state code n => rcases known with rfl | rfl <;> exact nofun
  | _ => exact nofun

def grantProtocol : Protocol connections where
  Inv := GrantsAgree
  Rely := GrantsOnward
  Admissible _ := True
  Requires t := t.input.busy = false → SettlesKnown t.stmt t.before
  kept t agree _ known :=
    have effect := exec_grantEffect t.stmt t.input t.before fun free => sent_of_settlesKnown (known free)
    ⟨effect.agree agree, effect.onward⟩

theorem grants_free {w : Writer} (free : w ∈ [.none, .stale, .failure, .completion, .routing, .application]) {β : Type}
    (s : Stmt β) (sent : s.writer = .none ∨ s.writer = w) : grantProtocol.Free s := by
  have other : s.writer ∈ [.none, .stale, .failure, .completion, .routing, .application] := by
    rcases sent with none | late
    · simp [none]
    · rwa [late]
  intro x db _
  cases s with
  | settleRecovery => simp [Stmt.writer] at other
  | terminalizeFailure grantId state code n =>
    cases state with
    | failed => exact .inl rfl
    | integrityBlocked => exact .inr rfl
    | _ => simp [Stmt.writer] at other
  | _ => trivial

theorem grants_locked {s : Stmt β} (x : Input) (db : Db) (busy : x.busy = true) : grantProtocol.Requires ⟨s, x, db⟩ :=
  fun free => absurd (busy.symm.trans free) nofun

theorem grants_any {α : Type} {A : Db → Prop} {p : Store α} (sends : Sends .none p) : grantProtocol.MeetsE A p Anything :=
  meetsE_of_sends_any sends (grants_free (by decide))

theorem grants_keeps {α : Type} {A : Db → Prop} {p : Store α} (stable : grantProtocol.Stable A) (sends : Sends .none p) :
    grantProtocol.MeetsE A p fun _ => A :=
  meetsE_of_sends sends stable (grants_free (by decide))

theorem stillGranted_stable {g : GrantRow} : grantProtocol.Stable (StillGranted g) := by
  rintro db db' _ onward ⟨row, member, named, task, worker, lease, workspace, used⟩
  obtain ⟨row', there, on⟩ := onward row member
  exact ⟨row', there, on.grantId.trans named, on.taskId.trans task, on.workerId.trans worker, on.leaseId.trans lease,
    on.workspaceId.trans workspace, fun applying => on.consumed (used applying)⟩

theorem grants_selectGrant {grantId : String} : grantProtocol.MeetsE (fun _ => True)
    (Procedure.ask (.selectGrant grantId)) fun o db => ∀ g, o = some g → StillGranted g db := by
  refine meetsE_send (fun o db db' agree onward known g same => stillGranted_stable db db' agree onward (known g same))
    grants_locked fun x db _ agree _ _ => ⟨fun _ => trivial, fun o answer g same => ?_⟩
  cases answer
  obtain ⟨member, _⟩ := Table.find?_some.mp same
  refine ⟨g, member, rfl, rfl, rfl, rfl, rfl, fun applying => ?_⟩
  have used : ¬ g.consumedAt = none := by simp [agree.unused g member, applying]
  exact Option.isSome_iff_ne_none.mpr used

theorem grants_recover {grantId : String} {now : PyFloat} :
    grantProtocol.MeetsE (fun _ => True) (Execution.recover host grantId now) Anything := by
  refine meetsE_now.bind fun n => MeetsE.bind (Q := StillGranted) ?_ fun g => ?_
  · refine meetsE_check.bind fun _ => MeetsE.bind (grants_selectGrant.mono (fun _ _ _ => trivial) fun _ _ _ h => h) fun o => ?_
    exact meetsE_row.mono (fun _ _ h => h) fun g _ _ ⟨same, known⟩ => known g same
  refine MeetsE.bind (grants_keeps stillGranted_stable (sends_bind (sends_ask (.inl rfl)) fun _ => sends_row)) fun tx => ?_
  refine meetsE_check.bind fun _ => ?_
  have stable : grantProtocol.Stable fun db => (g.state = .applying ∧ tx.state = .applying) ∧ StillGranted g db :=
    fun db db' agree onward known => ⟨known.1, stillGranted_stable db db' agree onward known.2⟩
  refine MeetsE.bind (grants_keeps stable sends_workspaceAuthority) fun workspace => ?_
  refine MeetsE.bind (grants_keeps stable sends_actualFiles) fun actual => ?_
  have settled (outcome : Recovered) : grantProtocol.MeetsE
      (fun db => (g.state = .applying ∧ tx.state = .applying) ∧ StillGranted g db)
      (Procedure.attempt (Procedure.ask (.settleRecovery g outcome n))) Anything := by
    refine MeetsE.mono (MeetsE.attempt (meetsE_write stable grants_locked ?_)) (fun _ _ h => h) fun _ _ _ _ => trivial
    exact fun x db _ _ known _ _ => (⟨known.1.1, known.2⟩ : g.state = .applying ∧ StillGranted g db)
  dsimp only
  split
  on_goal 1 => refine MeetsE.bind (grants_keeps stable (sends_ask (.inl rfl))) fun _ => ?_
  all_goals
    refine MeetsE.bind (settled _) fun answer => grants_any ?_
    cases answer with
    | ok _ => exact sends_pure
    | error e =>
      dsimp only
      split
      · exact sends_bind (sends_ask (.inl rfl)) fun _ => sends_throw
      · exact sends_throw

theorem op_grants {α : Type} (op : Op α) : grantProtocol.Meets (fun _ => True) (op.run host).run Anything := by
  by_cases early : op.writer ∈ [.none, .stale, .failure, .completion, .routing, .application]
  · exact meets_of_sends (op_sends op) (grants_free early)
  · cases op with
    | recover => exact meets_of_meetsE grants_recover
    | _ => exact absurd (by simp [Op.writer]) early

variable {trace : List (Taken Stmt Input Db)} {c : Config Err Stmt Db}

/-- Throughout a run grants agree with their transactions, and statements settle
grants that are known. -/
theorem runs_grants (run : Runs host trace c) : (∀ db ∈ states trace c.state, GrantsAgree db) ∧
    ∀ t ∈ trace, t.input.busy = false → SettlesKnown t.stmt t.before := by
  have meets : ∀ p ∈ clients host, grantProtocol.Meets (fun _ => True) p Anything := by
    rintro p ⟨client, rfl⟩
    exact Meets.interp (fun op => op_grants op) client
  have initial : GrantsAgree Db.empty := ⟨by simp [Db.empty], by simp [Db.empty], by simp [Db.empty], by simp [Db.empty]⟩
  obtain ⟨agree, taken, _⟩ := run_keeps (P := grantProtocol) initial meets run fun _ _ => trivial
  refine ⟨fun db member => ?_, fun t member => (taken t member).2⟩
  rcases List.mem_cons.mp member with rfl | earlier
  · exact agree
  · obtain ⟨t, there, rfl⟩ := List.mem_map.mp earlier
    exact (taken t there).1

theorem runs_onward (run : Runs host trace c) : ∀ t ∈ trace, GrantsOnward t.before (connections.after t) := by
  intro t member
  have known := (runs_grants run).2 t member
  exact (exec_grantEffect t.stmt t.input t.before fun free => sent_of_settlesKnown (known free)).onward

theorem finalKept_of_onward (onward : GrantsOnward db db') : FinalKept db db' := by
  intro g member final
  obtain ⟨g', there, on⟩ := onward g member
  refine ⟨g', there, on.grantId, on.leads.resolve_right ?_⟩
  rintro (issued | ⟨applying, _⟩)
  · simp [issued, GrantState.final] at final
  · simp [applying, GrantState.final] at final

/-- What was applying is never issued again. -/
theorem not_issued_after {grantId : String} (onward : GrantsOnward db db') (applying : db.grantState? grantId = some .applying) :
    db'.grantState? grantId ≠ some .issued := by
  intro issued
  obtain ⟨g, found, state⟩ := Option.map_eq_some_iff.mp applying
  obtain ⟨g', found', state'⟩ := Option.map_eq_some_iff.mp issued
  obtain ⟨member, named⟩ := Table.find?_some.mp found
  obtain ⟨there, named'⟩ := Table.find?_some.mp found'
  obtain ⟨g'', after, on⟩ := onward g member
  obtain rfl := Table.eq_of_key after there (on.grantId.trans (named.trans named'.symm))
  have leads := on.leads
  rw [state, state'] at leads
  exact absurd leads (by decide)

/-- In every run each grant has a transaction if and only if it was consumed, the two
agree, no grant is consumed twice and no final state is left. -/
theorem grants_single_use (run : Runs host trace c) : (∀ db ∈ states trace c.state, GrantsAgree db) ∧
    (trace.Pairwise fun later earlier => ∀ grantId, ¬ (Consumes grantId earlier ∧ Consumes grantId later)) ∧
    (states trace c.state).Pairwise fun later earlier => FinalKept earlier later := by
  have onward := runs_onward run
  refine ⟨(runs_grants run).1, ?_, ?_⟩
  · refine (run.linked.pairwise_steps (fun _ => grantsOnward_refl) onward).imp ?_
    rintro later earlier between grantId ⟨first, second⟩
    exact not_issued_after between first.2 second.1
  · exact (run.linked.pairwise_iff.mp onward).imp finalKept_of_onward

end

/-- `apply` consumes its grant and dies; the recovery finds the file untouched, and a
second `apply` is refused. -/
def recoveredOnce : List (Taken Stmt Input Db) × Config Err Stmt Db :=
  let (plan, host, files) := (RecoveredTooLate.plan, RecoveredTooLate.host, RecoveredTooLate.files "ABSENT")
  script host [Sample.task "t", Sample.worker "w", .call (.claim "t" "w" (.fin 300) (.fin 0)),
      .call (.start "t" "w" "lease" (.fin 0)), .call (.openController [RecoveredTooLate.lab]),
      .call (.issueGrant ⟨"t", "w", "s", "lease", "lab", [.create], [""], .fin 300⟩ (.fin 0)),
      .call (.apply plan (.fin 0)), .call (.recover plan.grantId (.fin 1)), .call (.apply plan (.fin 2))]
    (moves [8, 8, 7] ++ [(6, { uuid := "lease" })] ++ moves [5, 4, 4] ++
      [3, 3, 2, 1, 1, 1, 1, 1, 1, 1, 1, 0].map (·, files))

theorem grants_single_use_recoveredOnce :
    recoveredOnce.2.state.grantState? RecoveredTooLate.plan.grantId = some .failed ∧
      (∃ t ∈ recoveredOnce.1, Consumes RecoveredTooLate.plan.grantId t) ∧
      (∀ db ∈ states recoveredOnce.1 recoveredOnce.2.state, GrantsAgree db) ∧
      (recoveredOnce.1.Pairwise fun later earlier => ∀ grantId, ¬ (Consumes grantId earlier ∧ Consumes grantId later)) ∧
      (states recoveredOnce.1 recoveredOnce.2.state).Pairwise fun later earlier => FinalKept earlier later :=
  ⟨by decide +kernel, by decide +kernel, grants_single_use (runs_script _ _ _)⟩

end ControlPlane.Autonomy
