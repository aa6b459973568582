import ControlPlane.Autonomy.AllOrNothing
import ControlPlane.Autonomy.RecoveryFencing

/-!
# Recovery after a crash

What every statement of `apply` keeps once its grant is consumed, and from it what a
later `recover` makes of the state in which `apply` was cut.
-/

namespace ControlPlane.Autonomy

open Data Interleaving Procedure

/-- What stays true of the transaction of a plan from its first block on. -/
structure Traced (site : Site) (plan : CanonicalPlan) (w : World) : Prop where
  home : w.root = .ok site.workspace.physicalId
  disposable : site.workspace.kind = "DISPOSABLE"
  granted : ∃ g tx, w.db.grants.find? plan.grantId = some g ∧ w.db.transactions.find? plan.grantId = some tx ∧
    tx.state = g.state ∧ g.workspaceId = site.workspace.workspaceId ∧ g.targetProject = site.workspace.targetProject ∧
    tx.planHash = plan.planHash ∧ tx.operationsManifest = plan.files.map PlannedFile.row
  placed : ∃ row, w.db.workspaces.find? site.workspace.workspaceId = some row ∧
    sameWorkspace site.workspace row site.workspace.physicalId
  ways : ∀ file ∈ plan.files, site.allowed file.row.path ∧ file.name ≠ [] ∧
    ∀ p ∈ parents file.name, w.tree.isDirectory p

/-- What `apply` of the plan sends once the grant is consumed. -/
def belongs (plan : CanonicalPlan) {α : Type} : Act α → Bool
  | .inl (.terminalizeFailure grantId ..) => grantId = plan.grantId
  | .inl (.finishApply p ..) => p.grantId = plan.grantId
  | s => works s

section

variable {site : Site} {plan : CanonicalPlan} {w w' : World} {db db' : Db}

theorem isDirectory_stat {t : Tree Name Bytes} {p : Name} (directory : t.isDirectory p) : t.stat p = some .directory := by
  unfold Tree.isDirectory at directory
  split at directory
  · rename_i named
    simp only [Tree.stat, Tree.follow, named]
  · cases directory

theorem Begun.traced (begun : Begun site plan w w') : Traced site plan w' := by
  obtain ⟨g, found, applying, workspace, target⟩ := begun.granted
  obtain ⟨tx, recorded, pending, planHash, manifest⟩ := begun.recorded
  refine ⟨begun.root.trans begun.home, begun.disposable,
    ⟨g, tx, found, recorded, pending.trans applying.symm, workspace, target, planHash, manifest⟩, begun.placed, ?_⟩
  intro file member
  obtain ⟨passed, _⟩ := begun.preimages file member
  obtain ⟨_, allowed, _, traversed, _, _, present, below⟩ := path_ok.mp passed
  refine ⟨allowed, below, fun p way => ?_⟩
  rw [begun.tree]
  have known := List.all_eq_true.mp present p way
  have plain := List.all_eq_true.mp traversed p way
  cases stat : w.tree.stat p with
  | none =>
    rw [stat] at known
    cases known
  | some node =>
    rw [stat] at plain
    simpa using plain

theorem Traced.worked (traced : Traced site plan w) (worked : Worked w w') : Traced site plan w' := by
  obtain ⟨g, tx, found, recorded, same⟩ := traced.granted
  obtain ⟨row, known, place⟩ := traced.placed
  obtain ⟨row', known', root, physical, target, kind⟩ := worked.records.workspaces _ row known
  refine ⟨worked.root.trans traced.home, traced.disposable,
    ⟨g, tx, worked.records.grants ▸ found, worked.records.transactions ▸ recorded, same⟩, ⟨row', known', ?_⟩, ?_⟩
  · obtain ⟨root', physical', target', kind', here⟩ := place
    exact ⟨root.trans root', physical.trans physical', target.trans target', kind.trans kind', here.trans physical.symm⟩
  · intro file member
    obtain ⟨allowed, below, ways⟩ := traced.ways file member
    exact ⟨allowed, below, fun p way => worked.directories p (ways p way)⟩

/-- Settling moves grant and transaction together. -/
theorem settled_together {grantId : String} {state : GrantState} {f : TransactionRow → TransactionRow}
    (keeps : ∀ r, (f r).grantId = r.grantId ∧ (f r).state = state ∧ (f r).planHash = r.planHash ∧
      (f r).operationsManifest = r.operationsManifest) {g : GrantRow} {tx : TransactionRow}
    (found : db.grants.find? grantId = some g) (recorded : db.transactions.find? grantId = some tx)
    (same : tx.state = g.state) :
    ∃ g' tx', ((db.settleTransaction grantId f fun r => (keeps r).1).settleGrant grantId state).grants.find? grantId = some g' ∧
      ((db.settleTransaction grantId f fun r => (keeps r).1).settleGrant grantId state).transactions.find? grantId = some tx' ∧
      tx'.state = g'.state ∧ g'.workspaceId = g.workspaceId ∧ g'.targetProject = g.targetProject ∧
      tx'.planHash = tx.planHash ∧ tx'.operationsManifest = tx.operationsManifest := by
  by_cases applying : g.state = .applying
  · obtain ⟨g', again, settled⟩ := find?_settledGrant state ⟨g, found, applying⟩
    cases found.symm.trans again
    exact ⟨_, _, settled, find?_settledTransaction (fun r => (keeps r).1) recorded (same.trans applying),
      (keeps tx).2.1, rfl, rfl, (keeps tx).2.2⟩
  · have grants : (db.settleGrant grantId state).grants.find? grantId = (db.grants.find? grantId).map fun g =>
        if g.grantId = grantId ∧ g.state = .applying then { g with state } else g := Table.find?_update rfl fun _ => rfl
    have transactions : (db.settleTransaction grantId f fun r => (keeps r).1).transactions.find? grantId =
        (db.transactions.find? grantId).map fun r => if r.grantId = grantId ∧ r.state = .applying then f r else r :=
      Table.find?_update rfl fun r => (keeps r).1
    refine ⟨g, tx, grants.trans ?_, transactions.trans ?_, same, rfl, rfl, rfl, rfl⟩
    · rw [found]
      exact congrArg some (if_neg fun hit => applying hit.2)
    · rw [recorded]
      exact congrArg some (if_neg fun hit => applying (same ▸ hit.2))

/-- Grants and transactions change together, and nothing else that matters does. -/
theorem Traced.settled (state : GrantState) (f : TransactionRow → TransactionRow) (traced : Traced site plan w) (tree : w'.tree = w.tree) (root : w'.root = w.root)
    (places : ∀ id row, w.db.workspaces.find? id = some row → ∃ row', w'.db.workspaces.find? id = some row' ∧ row.SamePlace row')
    (keeps : ∀ r, (f r).grantId = r.grantId ∧ (f r).state = state ∧ (f r).planHash = r.planHash ∧
      (f r).operationsManifest = r.operationsManifest)
    (same : w'.db.grants = ((w.db.settleTransaction plan.grantId f fun r => (keeps r).1).settleGrant plan.grantId state).grants ∧
      w'.db.transactions =
        ((w.db.settleTransaction plan.grantId f fun r => (keeps r).1).settleGrant plan.grantId state).transactions) :
    Traced site plan w' := by
  obtain ⟨g, tx, found, recorded, together, workspace, target, planHash, manifest⟩ := traced.granted
  obtain ⟨g', tx', found', recorded', together', workspace', target', planHash', manifest'⟩ :=
    settled_together keeps found recorded together
  obtain ⟨row, known, root', physical', target₀, kind', here⟩ := traced.placed
  obtain ⟨row', known', root₁, physical, target₁, kind⟩ := places _ row known
  refine ⟨root.trans traced.home, traced.disposable, ⟨g', tx', same.1 ▸ found', same.2 ▸ recorded', together',
    workspace'.trans workspace, target'.trans target, planHash'.trans planHash, manifest'.trans manifest⟩,
    ⟨row', known', root₁.trans root', physical.trans physical', target₁.trans target₀, kind.trans kind',
      here.trans physical.symm⟩, ?_⟩
  rw [tree]
  exact traced.ways

theorem traced_terminalize {state : GrantState} {code : String} {n : ℚ} {x : Input} (traced : Traced site plan w)
    (db : w'.db = (exec (.terminalizeFailure plan.grantId state code n) x w.db).1) (tree : w'.tree = w.tree)
    (root : w'.root = w.root) : Traced site plan w' := by
  unfold exec at db
  split at db
  · exact traced.worked ⟨db ▸ .refl _, fun _ is => tree ▸ is, root⟩
  · refine Traced.settled state (fun r => { r with state, finishedAt := some n, errorCode := some (clean code) }) traced
      tree root (fun id row found => ⟨row, by rw [db]; exact found, rfl, rfl, rfl, rfl⟩) (fun r => ⟨rfl, rfl, rfl, rfl⟩) ?_
    rw [db]
    exact ⟨rfl, rfl⟩

theorem traced_finish {p : Plan} {envelope sha : String} {n : ℚ} {x : Input} (traced : Traced site plan w)
    (names : p.grantId = plan.grantId) (db : w'.db = (exec (.finishApply p envelope sha n) x w.db).1)
    (tree : w'.tree = w.tree) (root : w'.root = w.root) : Traced site plan w' := by
  have unchanged (same : w'.db = w.db) : Traced site plan w' := traced.worked ⟨same ▸ .refl _, fun _ is => tree ▸ is, root⟩
  unfold exec at db
  split at db
  · exact unchanged db
  · simp only [perform] at db
    rcases transaction_cases w.db (finishApply p envelope sha n x w.db) with same | ⟨c, committed, same⟩
    · exact unchanged (db.trans same)
    · simp only [finishApply, found_bind_ok] at committed
      obtain ⟨grant, _, committed⟩ := committed
      obtain ⟨_, _, committed⟩ := bind_ok.mp committed
      obtain ⟨db', verified, committed⟩ := bind_ok.mp committed
      obtain ⟨workspace, rfl⟩ := workspaceAuthority_ok verified
      simp only [require_bind_ok, pure_ok] at committed
      obtain ⟨_, rfl⟩ := committed
      have checked : SameRecords w.db (w.db.verifyWorkspace workspace n) := .ofUpdate fun _ => ⟨rfl, rfl, rfl, rfl⟩
      refine Traced.settled .applied (fun r => { r with
          state := .applied, finishedAt := some n, evidenceSha256 := some sha, evidenceEnvelope := some envelope }) traced
        tree root (fun id row found => ?_) (fun r => ⟨rfl, rfl, rfl, rfl⟩) ?_
      · obtain ⟨row', found', place⟩ := checked.workspaces id row found
        exact ⟨row', by rw [db, same]; exact found', place⟩
      · rw [db, same, names]
        exact ⟨rfl, rfl⟩

/-- What every statement of `apply` keeps, whatever becomes of it. -/
theorem exec_traced {α : Type} {trusted : {α : Type} → Act α → Bool} {s : Act α} (mine : belongs plan s) (c : Call)
    (traced : Traced site plan w) : Traced site plan ((site.controller trusted).exec s c w).1 := by
  cases s with
  | inr s => exact traced.worked (exec_works rfl c w)
  | inl s =>
    have performed (c : Call) : Traced site plan (site.perform (.inl s) c w).1 := by
      cases s with
      | terminalizeFailure grantId state code n =>
        obtain rfl := of_decide_eq_true mine
        exact traced_terminalize traced rfl rfl rfl
      | finishApply p envelope sha n => exact traced_finish traced (of_decide_eq_true mine) rfl rfl rfl
      | _ =>
        refine traced.worked (perform_works ?_ c w)
        exact mine
    show Traced site plan (site.exec trusted (.inl s) c w).1
    unfold Site.exec
    split
    · exact performed _
    · split
      · exact performed c
      · exact traced

end

/-! ### Where `apply` can be cut -/

/-- The procedure sends nothing that does not belong to `apply` of the plan. -/
def Belongs {α : Type} (plan : CanonicalPlan) (p : Files α) : Prop := Procedure.All (fun s => belongs plan s) p

section

variable {α β : Type} {host : Host} {site : Site} {plan : CanonicalPlan} {taken : List Files.Backup} {e : Err} {n : ℚ}
  {w w' : World} {trusted : {α : Type} → Act α → Bool}

theorem belongs_of_works {s : Act α} (working : works s) : belongs plan s := by
  cases s with
  | inr s => rfl
  | inl s => cases s <;> first | exact working | cases working

theorem Works.belongs {p : Files α} (working : Works p) : Belongs plan p := Program.All.mono (fun _ => belongs_of_works) working

theorem belongs_bind {p : Files α} {k : α → Files β} (first : Belongs plan p) (rest : ∀ a, Belongs plan (k a)) :
    Belongs plan (p >>= k) := All.bind first rest

theorem belongs_attempt {p : Files α} (body : Belongs plan p) : Belongs plan (attempt p) :=
  Program.All.bind body fun _ => trivial

theorem belongs_stmt {s : Stmt α} (mine : belongs plan (.inl s : Act α)) : Belongs plan (Files.store (ask s)) := by
  rw [files_ask]
  exact all_ask mine

theorem belongs_finish : Belongs plan (Files.finish host plan) := by
  refine belongs_bind (looks_store checks_freshAuthority).works.belongs fun _ => ?_
  refine belongs_bind looks_expectFiles.works.belongs fun _ => ?_
  exact belongs_bind (belongs_stmt (decide_eq_true rfl)) fun _ => (looks_store checks_transaction).works.belongs

theorem belongs_abandon : Belongs plan (Files.store (Execution.abandon plan.plan e n)) := by
  simp only [Execution.abandon, store_bind, files_ask]
  refine belongs_bind (all_ask rfl) fun known => ?_
  split
  · rw [store_bind, files_ask]
    exact belongs_bind (all_ask (decide_eq_true rfl)) fun _ => all_throw _
  · exact all_throw _

theorem belongs_rollBack : Belongs plan (Files.rollBack site plan taken e n) := by
  refine belongs_bind (belongs_attempt (Works.belongs ?_)) fun restored => ?_
  · exact works_bind works_file fun _ => works_bind (looks_store (checks_ask rfl)).works fun _ => works_bind (all_lift _)
      fun _ => works_bind works_restoreFiles fun _ => looks_verify.works
  · simp only [files_ask]
    split
    · exact belongs_bind (all_ask (decide_eq_true rfl)) fun _ => all_throw _
    · exact belongs_bind (all_ask rfl) fun _ => belongs_bind (all_ask (decide_eq_true rfl)) fun _ => all_throw _

theorem belongs_proceed : Belongs plan (Files.proceed host site plan n) := by
  refine belongs_bind (looks_attempt (looks_bind (looks_file rfl) fun _ => looks_store checks_freshAuthority)).works.belongs
    fun opened => ?_
  cases opened with
  | error e => exact belongs_abandon
  | ok authority =>
    refine belongs_bind looks_backUp.works.belongs fun saved => ?_
    obtain ⟨taken, checked⟩ := saved
    have undo (e : Err) : Belongs plan (if taken = [] then Files.store (Execution.abandon plan.plan e n)
        else Files.rollBack site plan taken e n) := by
      split
      · exact belongs_abandon
      · exact belongs_rollBack
    cases checked with
    | error e => exact belongs_bind (all_pure _) fun applied => by cases applied <;> first | exact all_pure _ | exact undo _
    | ok u =>
      refine belongs_bind (belongs_attempt (belongs_bind works_changeFiles.belongs fun _ => belongs_finish)) fun applied => ?_
      cases applied with
      | ok tx => exact all_pure _
      | error e => exact undo e

/-- A call of `apply` that was cut after the grant was consumed. -/
structure Crashed (host : Host) (text : Text) (site : Site) (plan : ExecutionPlan) (canonical : CanonicalPlan)
    (w w' : World) : Prop where
  accepted : canonicalPlan host text site.digest plan = .ok canonical
  unused : w.db.transactions.find? plan.grantId = none
  consumed : (w'.db.transactions.find? plan.grantId).isSome
  cut : ∃ now next, (site.controller fun _ => false).Cut (Files.apply host text site plan now) w w' next

theorem Crashed.traced {text : Text} {plan : ExecutionPlan} {canonical : CanonicalPlan}
    (crashed : Crashed host text site plan canonical w w') : Traced site canonical w' := by
  obtain ⟨now, next, cut⟩ := crashed.cut
  have named := canonicalPlan_grantId crashed.accepted
  have consumed : ¬ w'.db.transactions = w.db.transactions := by
    intro same
    have some := crashed.consumed
    rw [same, crashed.unused] at some
    cases some
  simp only [Files.apply, store_now, files_ask] at cut
  obtain ⟨_, _, cut₁⟩ | ⟨_, _, raised⟩ | ⟨_, n, read, cut₁⟩ := Machine.cut_bind.mp cut
  · obtain ⟨rfl, _⟩ := Machine.cut_lift.mp cut₁
    exact absurd rfl consumed
  · obtain ⟨rfl, _⟩ := Machine.raises_lift.mp raised
    exact absurd rfl consumed
  obtain ⟨rfl, _⟩ := Machine.returns_lift.mp read
  obtain ⟨_, _, cut₂⟩ | ⟨_, _, raised⟩ | ⟨_, canonical', planned, cut₂⟩ := Machine.cut_bind.mp cut₁
  · obtain ⟨rfl, _⟩ := Machine.cut_lift.mp cut₂
    exact absurd rfl consumed
  · obtain ⟨rfl, _⟩ := Machine.raises_lift.mp raised
    exact absurd rfl consumed
  obtain ⟨rfl, accepted⟩ := Machine.returns_lift.mp planned
  cases crashed.accepted.symm.trans accepted
  obtain ⟨st, _, cut₃⟩ | ⟨_, _, raised⟩ | ⟨w₁, _, began, cut₃⟩ := Machine.cut_bind.mp cut₂
  · obtain ⟨rfl, _⟩ | ⟨impossible, _⟩ := Machine.cut_ask.mp cut₃
    · exact absurd rfl consumed
    · cases impossible
  · rcases ends_beginApply raised with ⟨_, unconsumed⟩ | ⟨impossible, _⟩
    · exact absurd unconsumed.transactions consumed
    · cases impossible
  rcases ends_beginApply began with ⟨⟨_, impossible⟩, _⟩ | ⟨_, begun⟩
  · cases impossible
  refine Machine.Stops.keeps (I := Traced site canonical) cut₃ ?_ begun.traced
  refine Program.All.mono (fun s mine c u traced => exec_traced mine c traced) belongs_proceed

end

/-! ### `recover` -/

/-- No call fails. -/
def calm {α : Type} (_ : Act α) : Bool := true

section

variable {α : Type} {host : Host} {site : Site} {plan : CanonicalPlan} {w w' : World} {n : ℚ}

/-- A query answers, and that is all. -/
theorem ends_query {s : Stmt α} {a : α} {r : Answer α} (answers : ∀ x, perform s x w.db = (w.db, .ok a))
    (forgets : site.remember w s = w.blocked)
    (ends : (site.controller calm).Ends (ask (.inl s) : Files α).run w w' r) : w' = w ∧ r = .ok a := by
  obtain ⟨x, ran, tree, root, blocked⟩ := ends_trusted rfl ends
  rw [answers] at ran
  obtain ⟨db, answer⟩ := Prod.mk.inj ran
  refine ⟨?_, answer.symm⟩
  cases w
  cases w'
  simp_all

@[simp] theorem store_attempt {p : Store α} : Files.store (attempt p) = attempt (Files.store p) :=
  Procedure.interp_attempt

theorem ends_row {o : Option α} {e : Err} {r : Answer α}
    (ends : (site.controller calm).Ends (Files.store (Store.row o e)).run w w' r) :
    w' = w ∧ ∀ a, o = some a → r = .ok a := by
  cases o with
  | none =>
    obtain ⟨rfl, rfl⟩ := ends
    exact ⟨rfl, fun _ impossible => by cases impossible⟩
  | some a =>
    obtain ⟨rfl, rfl⟩ := ends
    exact ⟨rfl, fun _ same => by rw [Option.some.inj same]⟩

/-- The grant that `recover` reads. -/
theorem ends_grant {grantId : String} {g : GrantRow} {r : Answer GrantRow} (identifier : isIdentifier grantId)
    (found : w.db.grants.find? grantId = some g)
    (ends : (site.controller calm).Ends (Files.store (Execution.grant grantId)).run w w' r) : w' = w ∧ r = .ok g := by
  simp only [Execution.grant, Store.check, if_pos identifier, store_bind, files_ask] at ends
  obtain ⟨_, rfl, raised⟩ | ⟨_, _, checked, ends₁⟩ := Machine.ends_then.mp ends
  · cases Machine.raises_pure raised
  obtain ⟨rfl, _⟩ := Machine.returns_pure.mp checked
  obtain ⟨_, rfl, raised⟩ | ⟨_, o, selected, ends₂⟩ := Machine.ends_then.mp ends₁
  · cases (ends_query (fun _ => rfl) rfl raised).2
  obtain ⟨rfl, same⟩ := ends_query (fun _ => rfl) rfl selected
  obtain rfl := Except.ok.inj same
  obtain ⟨rfl, answer⟩ := ends_row ends₂
  exact ⟨rfl, answer g found⟩

theorem ends_transaction {grantId : String} {tx : TransactionRow} {r : Answer TransactionRow}
    (found : w.db.transactions.find? grantId = some tx)
    (ends : (site.controller calm).Ends (Files.store (Execution.transaction grantId)).run w w' r) : w' = w ∧ r = .ok tx := by
  simp only [Execution.transaction, store_bind, files_ask] at ends
  obtain ⟨_, rfl, raised⟩ | ⟨_, o, selected, ends₂⟩ := Machine.ends_then.mp ends
  · cases (ends_query (fun _ => rfl) rfl raised).2
  obtain ⟨rfl, same⟩ := ends_query (fun _ => rfl) rfl selected
  obtain rfl := Except.ok.inj same
  obtain ⟨rfl, answer⟩ := ends_row ends₂
  exact ⟨rfl, answer tx found⟩

/-- A statement that no fault befalls. -/
theorem ends_calm {s : Stmt α} {r : Answer α} (ends : (site.controller calm).Ends (ask (.inl s) : Files α).run w w' r) :
    ∃ x, w' = { w with db := (perform s (site.input w s x) w.db).1, blocked := site.remember w s } ∧
      r = (perform s (site.input w s x) w.db).2 := by
  obtain ⟨x, ran, tree, root, blocked⟩ := ends_trusted rfl ends
  refine ⟨x, ?_, by rw [ran]⟩
  rw [ran]
  cases w'
  cases tree
  cases root
  cases blocked
  rfl

theorem ends_checked {c : Prop} [Decidable c] {e : Err} {r : Answer Unit}
    (ends : (site.controller calm).Ends (Files.store (Store.check c e)).run w w' r) :
    w' = w ∧ (c ∧ r = .ok () ∨ ¬ c ∧ r = .error e) := by
  by_cases holds : c
  · rw [Store.check, if_pos holds] at ends
    exact ⟨ends.1, .inl ⟨holds, ends.2⟩⟩
  · rw [Store.check, if_neg holds] at ends
    exact ⟨ends.1, .inr ⟨holds, ends.2⟩⟩

/-- The registry knows the workspace that was registered. -/
theorem ends_resolved {workspace target : String} {r : Answer (Answer Descriptor)}
    (home : w.root = .ok site.workspace.physicalId) (disposable : site.workspace.kind = "DISPOSABLE")
    (named : workspace = site.workspace.workspaceId) (aimed : target = site.workspace.targetProject)
    (ends : (site.controller calm).Ends (attempt (ask (.inl (.resolveWorkspace workspace target))) : Files (Answer Descriptor)).run w w' r) :
    w' = w ∧ r = .ok (.ok site.workspace) := by
  obtain ⟨w₁, r₁, asked, rfl, rfl⟩ := Machine.ends_bind.mp ends
  obtain ⟨x, rfl, rfl⟩ := ends_calm asked
  have known : site.resolve w workspace target = .ok site.workspace := by
    simp only [Site.resolve, require_bind_ok, pure_ok]
    exact ⟨named.symm, ⟨aimed.symm, disposable⟩, home, trivial⟩
  refine ⟨?_, congrArg Except.ok known⟩
  have kept : site.remember w (.resolveWorkspace workspace target) = w.blocked := if_neg fun lost => lost.2 home
  exact congrArg (fun blocked => { w with blocked }) kept

/-- `_workspace_authority` of the registered workspace. -/
theorem ends_workspaceAuthority {grant : GrantRow} {row : WorkspaceRow} {r : Answer Descriptor}
    (home : w.root = .ok site.workspace.physicalId) (disposable : site.workspace.kind = "DISPOSABLE")
    (named : grant.workspaceId = site.workspace.workspaceId) (aimed : grant.targetProject = site.workspace.targetProject)
    (known : w.db.workspaces.find? site.workspace.workspaceId = some row)
    (place : sameWorkspace site.workspace row site.workspace.physicalId)
    (ends : (site.controller calm).Ends (Files.store (Execution.workspaceAuthority grant n)).run w w' r) :
    row.state = .integrityBlocked ∧ (∃ e, r = .error e) ∨
      row.state ≠ .integrityBlocked ∧ r = .ok site.workspace ∧
        w' = { w with db := w.db.verifyWorkspace site.workspace.workspaceId n } := by
  simp only [Execution.workspaceAuthority, store_bind, store_attempt, files_ask] at ends
  obtain ⟨_, _, raised⟩ | ⟨_, resolved, tried, ends₁⟩ := Machine.ends_then.mp ends
  · cases (ends_resolved home disposable named aimed raised).2
  obtain ⟨rfl, same⟩ := ends_resolved home disposable named aimed tried
  obtain rfl := Except.ok.inj same
  simp only [store_bind, store_pure, files_ask] at ends₁
  obtain ⟨_, _, raised⟩ | ⟨_, workspace, chosen, ends₂⟩ := Machine.ends_then.mp ends₁
  · cases Machine.raises_pure raised
  obtain ⟨rfl, rfl⟩ := Machine.returns_pure.mp chosen
  obtain ⟨_, _, raised⟩ | ⟨_, o, selected, ends₃⟩ := Machine.ends_then.mp ends₂
  · cases (ends_query (fun _ => rfl) rfl raised).2
  obtain ⟨rfl, same⟩ := ends_query (fun _ => rfl) rfl selected
  obtain rfl := Except.ok.inj same
  obtain ⟨_, _, raised⟩ | ⟨_, found, listed, ends₄⟩ := Machine.ends_then.mp ends₃
  · obtain ⟨_, answer⟩ := ends_row raised
    cases answer row known
  obtain ⟨rfl, answer⟩ := ends_row listed
  obtain rfl := Except.ok.inj (answer row known)
  obtain ⟨_, rfl, raised⟩ | ⟨_, _, open_, ends₅⟩ := Machine.ends_then.mp ends₄
  · obtain ⟨_, ⟨_, impossible⟩ | ⟨blocked, _⟩⟩ := ends_checked raised
    · cases impossible
    · exact .inl ⟨not_not.mp blocked, _, rfl⟩
  obtain ⟨rfl, ⟨available, _⟩ | ⟨_, impossible⟩⟩ := ends_checked open_
  · obtain ⟨_, _, raised⟩ | ⟨_, physical, asked, ends₆⟩ := Machine.ends_then.mp ends₅
    · obtain ⟨_, _, answer⟩ := ends_calm raised
      cases answer.trans home
    obtain ⟨x, same, answer⟩ := ends_calm asked
    obtain rfl := Except.ok.inj (answer.trans home)
    subst same
    rw [if_pos place, store_bind, files_ask] at ends₆
    obtain ⟨_, _, raised⟩ | ⟨_, _, verified, ends₇⟩ := Machine.ends_then.mp ends₆
    · obtain ⟨_, _, impossible⟩ := ends_calm raised
      cases impossible
    obtain ⟨_, rfl, _⟩ := ends_calm verified
    obtain ⟨rfl, rfl⟩ := ends₇
    exact .inr ⟨available, rfl, rfl⟩
  · cases impossible

end

/-! ### What `recover` reads -/

section

variable {site : Site} {plan : CanonicalPlan} {w w' : World} {rows : List FileRow} {file : PlannedFile}

/-- Every file of the plan is what `image` says. -/
def Site.AllAre (site : Site) (plan : CanonicalPlan) (image : FileRow → String) (t : Tree Name Bytes) : Prop :=
  ∀ file ∈ plan.files, ∃ content, site.actual t file.name = .ok (image file.row, content)

/-- A file that has its name for itself is looked at without an error. -/
theorem Traced.path_regular (traced : Traced site plan w) (member : file ∈ plan.files)
    (regular : w.tree.seen file.name ≠ .irregular) :
    site.path w file.row.path = .ok file.name ∧ ∃ read, site.actual w.tree file.name = .ok read := by
  obtain ⟨allowed, below, ways⟩ := traced.ways file member
  have directories : ∀ p ∈ parents file.name, w.tree.stat p = some .directory := fun p way => isDirectory_stat (ways p way)
  have plain : w.tree.stat file.name = none ∨ ∃ i content, w.tree.names file.name = some (.file i) ∧
      w.tree.inodes i = ⟨content, 1⟩ := by
    cases seen : w.tree.seen file.name with
    | absent => exact .inl (Tree.seen_absent.mp seen)
    | file content =>
      obtain ⟨i, named, alone⟩ := Tree.seen_file.mp seen
      exact .inr ⟨i, content, named, alone⟩
    | irregular => exact absurd seen regular
  constructor
  · refine path_ok.mpr ⟨rfl, allowed, traced.home, ?_, ?_, ?_, ?_, below⟩
    · exact List.all_eq_true.mpr fun p way => by simp [ways p way]
    · refine plain.imp id ?_
      rintro ⟨i, content, named, _⟩
      simp [Tree.isSymlink, show w.tree.names (pathParts file.row.path) = _ from named]
    · refine plain.imp id ?_
      rintro ⟨i, content, named, alone⟩
      simp [Tree.unshared, Tree.file?, show w.tree.names (pathParts file.row.path) = _ from named, alone]
    · exact List.all_eq_true.mpr fun p way => by simp [directories p way]
  · unfold Site.actual
    cases seen : w.tree.seen file.name with
    | absent => exact ⟨_, rfl⟩
    | file content => exact ⟨_, rfl⟩
    | irregular => exact absurd seen regular

theorem returns_actualFiles {digests : List String}
    (returned : (site.controller calm).Returns (Files.actualFiles rows) w w' digests) :
    w' = w ∧ digests.map Except.ok = rows.map fun row => (site.actual w.tree (pathParts row.path)).map Prod.fst := by
  induction rows generalizing w' digests with
  | nil =>
    obtain ⟨rfl, rfl⟩ := Machine.returns_pure.mp returned
    exact ⟨rfl, rfl⟩
  | cons row rest ih =>
    obtain ⟨w₁, x, guarded, returned₁⟩ := Machine.returns_bind.mp returned
    obtain ⟨rfl, passed⟩ := returns_path guarded
    obtain ⟨rfl, _⟩ := path_ok.mp passed
    obtain ⟨w₂, read, looked, returned₂⟩ := Machine.returns_bind.mp returned₁
    obtain ⟨rfl, seen⟩ := returns_actual looked
    obtain ⟨w₃, others, later, last⟩ := Machine.returns_bind.mp returned₂
    obtain ⟨rfl, same⟩ := ih later
    obtain ⟨rfl, rfl⟩ := Machine.returns_pure.mp last
    refine ⟨rfl, ?_⟩
    rw [List.map_cons, List.map_cons, same, seen]
    rfl

/-- What raises is a path that is refused or a file that is not regular. -/
theorem raises_actualFiles {e : Err} (raised : (site.controller calm).Raises (Files.actualFiles rows) w w' e) :
    ∃ row ∈ rows, ¬ (site.path w row.path = .ok (pathParts row.path) ∧ ∃ read, site.actual w.tree (pathParts row.path) = .ok read) := by
  induction rows generalizing w w' with
  | nil => exact absurd raised Machine.raises_pure
  | cons row rest ih =>
    rcases Machine.raises_bind.mp raised with refused | ⟨w₁, x, guarded, raised₁⟩
    · obtain ⟨c, ran⟩ := Machine.raises_ask.mp refused
      have refused : site.path w row.path = .error e := congrArg Prod.snd ran
      refine ⟨row, List.mem_cons_self, fun passed => ?_⟩
      cases refused.symm.trans passed.1
    obtain ⟨rfl, passed⟩ := returns_path guarded
    obtain ⟨rfl, _⟩ := path_ok.mp passed
    rcases Machine.raises_bind.mp raised₁ with refused | ⟨w₂, read, looked, raised₂⟩
    · obtain ⟨c, ran⟩ := Machine.raises_ask.mp refused
      have refused : site.actual w₁.tree (pathParts row.path) = .error e := congrArg Prod.snd ran
      refine ⟨row, List.mem_cons_self, ?_⟩
      rintro ⟨_, read, seen⟩
      cases refused.symm.trans seen
    obtain ⟨rfl, _⟩ := returns_actual looked
    rcases Machine.raises_bind.mp raised₂ with later | ⟨w₃, others, _, last⟩
    · obtain ⟨other, member, irregular⟩ := ih later
      exact ⟨other, List.mem_cons_of_mem _ member, irregular⟩
    · exact absurd last Machine.raises_pure

theorem map_fst_ok {α β : Type} {r : Answer (α × β)} {a : α} : r.map Prod.fst = .ok a ↔ ∃ b, r = .ok (a, b) := by
  constructor
  · intro same
    cases r with
    | error e => cases same
    | ok read => exact ⟨read.2, congrArg (fun a => Except.ok (a, read.2)) (Except.ok.inj same)⟩
  · rintro ⟨b, rfl⟩
    rfl

/-- The comparison of two lists compares file by file. -/
theorem allAre_iff {digests : List String} {image : FileRow → String}
    (read : digests.map Except.ok = (plan.files.map PlannedFile.row).map fun row =>
      (site.actual w.tree (pathParts row.path)).map Prod.fst) :
    digests = (plan.files.map PlannedFile.row).map image ↔ site.AllAre plan image w.tree := by
  have injective : Function.Injective (Except.ok : String → Answer String) := fun _ _ => Except.ok.inj
  rw [← (List.map_injective_iff.mpr injective).eq_iff, read, List.map_map, List.map_map, List.map_map, List.map_inj_left]
  exact forall₂_congr fun file _ => map_fst_ok

/-- What was read is regular. -/
theorem regular_of_read {digests : List String}
    (read : digests.map Except.ok = (plan.files.map PlannedFile.row).map fun row =>
      (site.actual w.tree (pathParts row.path)).map Prod.fst) : ∀ file ∈ plan.files, w.tree.seen file.name ≠ .irregular := by
  intro file member irregular
  have listed : (site.actual w.tree file.name).map Prod.fst ∈ digests.map Except.ok := by
    rw [read]
    exact List.mem_map_of_mem (List.mem_map_of_mem member)
  obtain ⟨digest, _, same⟩ := List.mem_map.mp listed
  obtain ⟨content, seen⟩ := map_fst_ok.mp same.symm
  unfold Site.actual at seen
  rw [irregular] at seen
  cases seen

end

/-! ### What `recover` settles -/

/-- What `recover` has made of the transaction that it found. -/
structure Settled (host : Host) (site : Site) (plan : CanonicalPlan) (n : ℚ) (w w' : World) (state : GrantState) : Prop where
  tree : w'.tree = w.tree
  stands : w'.db.Stands plan.grantId state
  terminal : state ∈ [.failed, .applied, .integrityBlocked]
  failed : state = .failed ↔ site.AllAre plan FileRow.preimage w.tree
  applied : state = .applied ↔ site.AllAre plan FileRow.postimage w.tree
  reviewed : state = .applied → ∃ g t tx, w.db.grants.find? plan.grantId = some g ∧
    w'.db.tasks.find? g.taskId = some t ∧ t.state = .reviewPending ∧
    w'.db.transactions.find? plan.grantId = some tx ∧
    tx.evidenceEnvelope = some (Envelope.text host ⟨g, plan.planHash, plan.plan.operations, n⟩) ∧
    tx.evidenceSha256 = some (host.sha256 (Envelope.text host ⟨g, plan.planHash, plan.plan.operations, n⟩))
  blocked : state = .integrityBlocked → ∃ row, w'.db.workspaces.find? site.workspace.workspaceId = some row ∧
    row.state = .integrityBlocked

/-- The transaction is still open, the workspace is not blocked, and every path of the plan
leads to nothing or to a regular file with one link. -/
structure Recoverable (site : Site) (plan : CanonicalPlan) (w : World) : Prop where
  applying : ∃ g, w.db.grants.find? plan.grantId = some g ∧ g.state = .applying
  available : ∀ row, w.db.workspaces.find? site.workspace.workspaceId = some row → row.state ≠ .integrityBlocked
  regular : ∀ file ∈ plan.files, w.tree.seen file.name ≠ .irregular

section

variable {host : Host} {site : Site} {plan : CanonicalPlan} {w w' : World} {n : ℚ} {g : GrantRow} {tx : TransactionRow}
  {outcome : Recovered} {digests : List String} {db : Db}

/-- `settleRecovery` of a transaction that is open, on a task that runs. -/
theorem settleRecovery_settles (n : ℚ) (outcome : Recovered) (found : db.grants.find? g.grantId = some g) (recorded : db.transactions.find? g.grantId = some tx)
    (applying : g.state = .applying) (pending : tx.state = .applying)
    (running : ∃ t, db.tasks.find? g.taskId = some t ∧ t.state = .running) :
    ∃ db' tx', transaction db (settleRecovery g outcome n db) = (db', .ok ()) ∧
      db'.Stands g.grantId outcome.state ∧ db'.workspaces = db.workspaces ∧
      db'.transactions.find? g.grantId = some tx' ∧ tx'.evidenceEnvelope = outcome.envelope? ∧ tx'.evidenceSha256 = outcome.sha? ∧
      (outcome.state = .applied → ∃ t, db'.tasks.find? g.taskId = some t ∧ t.state = .reviewPending) := by
  obtain ⟨t, known, runs⟩ := running
  obtain ⟨settled, same⟩ : ∃ u, u = (db.settleTransaction g.grantId (fun r => { r with
      state := outcome.state, finishedAt := some n, evidenceSha256 := outcome.sha?
      evidenceEnvelope := outcome.envelope? }) fun _ => rfl).settleGrant g.grantId outcome.state := ⟨_, rfl⟩
  have granted : settled.grants.find? g.grantId = some { g with state := outcome.state } := by
    obtain ⟨_, again, granted⟩ := find?_settledGrant outcome.state ⟨g, found, applying⟩
    cases found.symm.trans again
    rw [same]
    exact granted
  have closed : settled.transactions.find? g.grantId = some { tx with
      state := outcome.state, finishedAt := some n, evidenceSha256 := outcome.sha?
      evidenceEnvelope := outcome.envelope? } := by
    rw [same]
    refine find?_settledTransaction ?_ recorded pending
    exact fun _ => rfl
  have one : settled.tasks.rowcount (TaskRow.named g.taskId (· = .running)) = 1 := by
    rw [same, Table.rowcount_key fun _ named => named.1]
    exact if_pos ⟨t, known, (Table.find?_some.mp known).2, decide_eq_true runs⟩
  have others : settled.workspaces = db.workspaces := by
    rw [same]
    rfl
  have body : settleRecovery g outcome n db = (do
      let db ← settled.reviewRecovered g.taskId outcome n
      return (db.log g.taskId "EXECUTION_RECOVERED" n s!"grant={g.grantId};state={outcome.state.name}", .ok ())) := by
    rw [same]
    rfl
  rw [body, Db.reviewRecovered]
  by_cases applied : outcome.state = .applied
  · obtain ⟨t', _, _, reviewed⟩ := find?_reviewed (n := n) one
    rw [if_pos applied, require, if_pos one]
    exact ⟨_, _, rfl, ⟨⟨_, granted, rfl⟩, _, closed, rfl⟩, others, closed, rfl, rfl, fun _ => ⟨_, reviewed, rfl⟩⟩
  · rw [if_neg applied]
    exact ⟨_, _, rfl, ⟨⟨_, granted, rfl⟩, _, closed, rfl⟩, others, closed, rfl, rfl, fun is => absurd is applied⟩

theorem recovered_state (host : Host) (g : GrantRow) (tx : TransactionRow) (digests : List String) (n : ℚ) :
    (Execution.recovered host g tx digests n).state ∈ [.failed, .applied, .integrityBlocked] ∧
    ((Execution.recovered host g tx digests n).state = .failed ↔ digests = tx.operationsManifest.map FileRow.preimage) ∧
    ((Execution.recovered host g tx digests n).state = .applied ↔
      digests ≠ tx.operationsManifest.map FileRow.preimage ∧ digests = tx.operationsManifest.map FileRow.postimage) := by
  unfold Execution.recovered
  split
  · simp_all [Recovered.state]
  · split <;> simp_all [Recovered.state]

theorem recovered_envelope (applied : (Execution.recovered host g tx digests n).state = .applied) :
    (Execution.recovered host g tx digests n).envelope? = some (Envelope.text host ⟨g, tx.planHash, tx.operationsManifest, n⟩) ∧
    (Execution.recovered host g tx digests n).sha? =
      some (host.sha256 (Envelope.text host ⟨g, tx.planHash, tx.operationsManifest, n⟩)) := by
  unfold Execution.recovered at applied ⊢
  split at applied
  · cases applied
  · split at applied
    · rename_i other same
      rw [if_neg other, if_pos same]
      exact ⟨rfl, rfl⟩
    · cases applied

/-- The block of `recover`, as it stands in the `try`. -/
theorem ends_recoveryBlock {r : Answer (Answer Unit)} (found : w.db.grants.find? g.grantId = some g)
    (recorded : w.db.transactions.find? g.grantId = some tx) (applying : g.state = .applying) (pending : tx.state = .applying)
    (running : ∃ t, w.db.tasks.find? g.taskId = some t ∧ t.state = .running)
    (ends : (site.controller calm).Ends (attempt (ask (.inl (.settleRecovery g outcome n))) : Files (Answer Unit)).run w w' r) :
    r = .ok (.ok ()) ∧ w'.tree = w.tree ∧ w'.db.Stands g.grantId outcome.state ∧ w'.db.workspaces = w.db.workspaces ∧
      (∃ tx', w'.db.transactions.find? g.grantId = some tx' ∧ tx'.evidenceEnvelope = outcome.envelope? ∧
        tx'.evidenceSha256 = outcome.sha?) ∧
      (outcome.state = .applied → ∃ t, w'.db.tasks.find? g.taskId = some t ∧ t.state = .reviewPending) := by
  obtain ⟨w₁, a, asked, rfl, rfl⟩ := Machine.ends_bind.mp ends
  obtain ⟨x, rfl, rfl⟩ := ends_calm asked
  obtain ⟨db', tx', settled, stands, workspaces, closed, envelope, sha, reviewed⟩ :=
    settleRecovery_settles n outcome found recorded applying pending running
  simp only [perform, settled]
  exact ⟨trivial, trivial, stands, workspaces, ⟨tx', closed, envelope, sha⟩, reviewed⟩

theorem not_all_both (changes : ∃ file ∈ plan.files, file.row.preimage ≠ file.row.postimage) {t : Tree Name Bytes}
    (pre : site.AllAre plan FileRow.preimage t) (post : site.AllAre plan FileRow.postimage t) : False := by
  obtain ⟨file, member, changed⟩ := changes
  obtain ⟨_, before⟩ := pre file member
  obtain ⟨_, after⟩ := post file member
  exact changed (Prod.mk.inj (Except.ok.inj (before.symm.trans after))).1

/-- `recover` of what a crash has left, with the task still running: it settles the
transaction if that can be done at all. -/
theorem ends_recover {now : PyFloat} {r : Answer GrantState} (clock : now.clock? = some n) (traced : Traced site plan w)
    (identifier : isIdentifier plan.grantId)
    (changes : ∃ file ∈ plan.files, file.row.preimage ≠ file.row.postimage)
    (running : ∃ g t, w.db.grants.find? plan.grantId = some g ∧ w.db.tasks.find? g.taskId = some t ∧ t.state = .running)
    (ends : (site.controller calm).Ends (Files.recover host plan.grantId now).run w w' r) :
    (∃ e, r = .error e) ∧ ¬ Recoverable site plan w ∨
      (∃ state, r = .ok state ∧ Settled host site plan n w w' state) ∧ Recoverable site plan w := by
  obtain ⟨g, tx, found, recorded, together, workspace, target, planHash, manifest⟩ := traced.granted
  obtain ⟨row, known, place⟩ := traced.placed
  obtain ⟨g', t, again, task, runs⟩ := running
  cases found.symm.trans again
  simp only [Files.recover, store_now, files_ask] at ends
  obtain ⟨_, _, raised⟩ | ⟨w, m, read, ends₁⟩ := Machine.ends_then.mp ends
  · rw [clock] at raised
    cases (Machine.raises_lift.mp raised).2
  obtain ⟨rfl, valid⟩ := Machine.returns_lift.mp read
  obtain rfl := Option.some.inj (clock.symm.trans (found_ok.mp valid))
  obtain ⟨_, _, raised⟩ | ⟨w, g, granted, ends₂⟩ := Machine.ends_then.mp ends₁
  · cases (ends_grant identifier found raised).2
  obtain ⟨rfl, same⟩ := ends_grant identifier found granted
  obtain rfl := Except.ok.inj same
  obtain ⟨_, _, raised⟩ | ⟨w, tx, listed, ends₃⟩ := Machine.ends_then.mp ends₂
  · cases (ends_transaction recorded raised).2
  obtain ⟨rfl, same⟩ := ends_transaction recorded listed
  obtain rfl := Except.ok.inj same
  obtain ⟨_, rfl, raised⟩ | ⟨w, _, open_, ends₄⟩ := Machine.ends_then.mp ends₃
  · left
    refine ⟨⟨_, rfl⟩, fun recoverable => ?_⟩
    obtain ⟨_, again, applying⟩ := recoverable.applying
    cases found.symm.trans again
    rw [require, if_pos ⟨applying, together.trans applying⟩] at raised
    cases (Machine.raises_lift.mp raised).2
  obtain ⟨rfl, passed⟩ := Machine.returns_lift.mp open_
  obtain ⟨applying, pending⟩ := require_ok.mp passed
  obtain ⟨_, rfl, raised⟩ | ⟨w₁, d, authorized, ends₅⟩ := Machine.ends_then.mp ends₄
  · rcases ends_workspaceAuthority traced.home traced.disposable workspace target known place raised with
      ⟨blocked, _⟩ | ⟨_, impossible, _⟩
    · exact .inl ⟨⟨_, rfl⟩, fun recoverable => recoverable.available row known blocked⟩
    · cases impossible
  rcases ends_workspaceAuthority traced.home traced.disposable workspace target known place authorized with
    ⟨_, _, impossible⟩ | ⟨available, same, verified⟩
  · cases impossible
  obtain rfl := Except.ok.inj same
  have looked : Looked w w₁ := by
    rw [verified]
    exact ⟨.ofUpdate fun _ => ⟨rfl, rfl, rfl, rfl⟩, rfl, rfl⟩
  have traced₁ : Traced site plan w₁ := traced.worked looked.worked
  obtain ⟨_, rfl, raised⟩ | ⟨w₂, digests, seen, ends₆⟩ := Machine.ends_then.mp ends₅
  · obtain ⟨row, member, irregular⟩ := raises_actualFiles raised
    rw [manifest] at member
    obtain ⟨file, planned, rfl⟩ := List.mem_map.mp member
    refine .inl ⟨⟨_, rfl⟩, fun recoverable => irregular (traced₁.path_regular planned ?_)⟩
    rw [looked.tree]
    exact recoverable.regular file planned
  obtain ⟨rfl, digests_eq⟩ := returns_actualFiles seen
  rw [manifest, looked.tree] at digests_eq
  right
  have named : g.grantId = plan.grantId := (Table.find?_some.mp found).2
  have recoverable : Recoverable site plan w := by
    refine ⟨⟨g, found, applying⟩, fun row' again => ?_, regular_of_read digests_eq⟩
    cases known.symm.trans again
    exact available
  refine ⟨?_, recoverable⟩
  obtain ⟨terminal, failed, applied⟩ := recovered_state host g tx digests n
  rw [manifest, allAre_iff digests_eq] at failed
  rw [manifest, ne_eq, allAre_iff digests_eq, allAre_iff digests_eq, and_iff_right_of_imp
    fun post pre => not_all_both changes pre post] at applied
  have envelope (is : (Execution.recovered host g tx digests n).state = .applied) := recovered_envelope is
  rw [planHash, manifest] at envelope
  -- what is left to do is the block, in either case
  have close {u u' : World} {a : Answer (Answer Unit)} (same : SameRecords w.db u.db)
      (ends : (site.controller calm).Ends
        (attempt (ask (.inl (.settleRecovery g (Execution.recovered host g tx digests n) n))) : Files (Answer Unit)).run u u' a) :=
    ends_recoveryBlock (same.grants ▸ named.symm ▸ found) (same.transactions ▸ named.symm ▸ recorded) applying pending
      ⟨t, same.tasks ▸ task, runs⟩ ends
  split at ends₆
  · rename_i mixed
    obtain ⟨_, _, raised⟩ | ⟨w₃, _, blocked, ends₇⟩ := Machine.ends_then.mp ends₆
    · obtain ⟨_, _, impossible⟩ := ends_calm raised
      cases impossible
    obtain ⟨_, rfl, _⟩ := ends_calm blocked
    have same : SameRecords w.db (w₂.db.blockWorkspace site.workspace.workspaceId "MIXED_RECOVERY_STATE" n) :=
      looked.records.trans (.ofUpdate fun _ => ⟨rfl, rfl, rfl, rfl⟩)
    obtain ⟨_, _, raised⟩ | ⟨w₄, a, settled, ends₈⟩ := Machine.ends_then.mp ends₇
    · cases (close same raised).1
    obtain ⟨done, tree, stands, workspaces, _, _⟩ := close same settled
    obtain rfl := Except.ok.inj done
    obtain ⟨rfl, rfl⟩ := ends₈
    refine ⟨_, rfl, tree.trans looked.tree, named ▸ stands, terminal, failed, applied, fun is => ?_, fun _ => ?_⟩
    · cases mixed.symm.trans is
    · obtain ⟨row₂, known₂, _⟩ := looked.records.workspaces _ row known
      have marked : (w₂.db.blockWorkspace site.workspace.workspaceId "MIXED_RECOVERY_STATE" n).workspaces.find?
          site.workspace.workspaceId = (w₂.db.workspaces.find? site.workspace.workspaceId).map fun row =>
            if row.workspaceId = site.workspace.workspaceId then
              { row with state := .integrityBlocked, lastVerifiedAt := some n, lastError := some (clean "MIXED_RECOVERY_STATE") }
            else row := Table.find?_update rfl fun _ => rfl
      rw [known₂, Option.map_some, if_pos (Table.find?_some.mp known₂).2] at marked
      exact ⟨_, (congrArg (fun t => Table.find? t _) workspaces).trans marked, rfl⟩
  · rename_i whole
    obtain ⟨_, _, raised⟩ | ⟨w₄, a, settled, ends₈⟩ := Machine.ends_then.mp ends₆
    · cases (close looked.records raised).1
    obtain ⟨done, tree, stands, workspaces, ⟨tx', closed, evidence, sha⟩, reviewed⟩ := close looked.records settled
    obtain rfl := Except.ok.inj done
    obtain ⟨rfl, rfl⟩ := ends₈
    refine ⟨_, rfl, tree.trans looked.tree, named ▸ stands, terminal, failed, applied, fun is => ?_, fun is => absurd is whole⟩
    obtain ⟨t', task', pendingReview⟩ := reviewed is
    exact ⟨g, t', tx', found, task', pendingReview, named ▸ closed, evidence.trans (envelope is).1, sha.trans (envelope is).2⟩

end

/-- Nothing has happened to the workspace and to the transaction. -/
structure LeftAlone (site : Site) (grantId : String) (w w' : World) : Prop where
  tree : w'.tree = w.tree
  root : w'.root = w.root
  grant : w'.db.grants.find? grantId = w.db.grants.find? grantId
  transaction : w'.db.transactions.find? grantId = w.db.transactions.find? grantId
  workspace : w'.db.workspaces.find? site.workspace.workspaceId = w.db.workspaces.find? site.workspace.workspaceId

section

variable {host : Host} {text : Text} {site : Site} {plan : ExecutionPlan} {canonical : CanonicalPlan} {w w' u : World}
  {n : ℚ} {now : PyFloat}

theorem Traced.alone (traced : Traced site canonical w) (alone : LeftAlone site canonical.grantId w w') :
    Traced site canonical w' := by
  obtain ⟨home, disposable, granted, placed, ways⟩ := traced
  refine ⟨alone.root.trans home, disposable, ?_, ?_, ?_⟩
  · rwa [alone.grant, alone.transaction]
  · rwa [alone.workspace]
  · rwa [alone.tree]

theorem LeftAlone.recoverable (alone : LeftAlone site canonical.grantId w w') :
    Recoverable site canonical w' ↔ Recoverable site canonical w := by
  constructor
  · rintro ⟨applying, available, regular⟩
    rw [alone.grant] at applying
    rw [alone.workspace] at available
    rw [alone.tree] at regular
    exact ⟨applying, available, regular⟩
  · rintro ⟨applying, available, regular⟩
    refine ⟨?_, ?_, ?_⟩
    · rwa [alone.grant]
    · rwa [alone.workspace]
    · rwa [alone.tree]

/-- After a crash of `apply` anywhere behind its first block, `recover` settles the
transaction exactly if the crash has left it recoverable. A grant's id is a digest. -/
theorem crash_recovery_iff (crashed : Crashed host text site plan canonical w w')
    (alone : LeftAlone site plan.grantId w' u) (identifier : isIdentifier plan.grantId)
    (changes : ∃ file ∈ canonical.files, file.row.preimage ≠ file.row.postimage)
    (running : ∃ g t, u.db.grants.find? plan.grantId = some g ∧ u.db.tasks.find? g.taskId = some t ∧ t.runsUnder g)
    (clock : now.clock? = some n) :
    (∀ u' r, (site.controller calm).Ends (Files.recover host plan.grantId now).run u u' r →
      ∃ state, r = .ok state ∧ Settled host site canonical n u u' state) ↔ Recoverable site canonical w' := by
  have named := canonicalPlan_grantId crashed.accepted
  rw [← named] at alone identifier running ⊢
  have runs : ∃ g t, u.db.grants.find? canonical.grantId = some g ∧ u.db.tasks.find? g.taskId = some t ∧ t.state = .running := by
    obtain ⟨g, t, found, task, under⟩ := running
    exact ⟨g, t, found, task, under.1⟩
  have traced := crashed.traced.alone alone
  rw [← alone.recoverable]
  constructor
  · intro settles
    have ends : (site.controller calm).Ends (Files.recover host canonical.grantId now).run u _ _ := Machine.ends_alone []
    obtain ⟨state, answer, _⟩ := settles _ _ ends
    rcases ends_recover clock traced identifier changes runs ends with ⟨⟨e, raised⟩, _⟩ | ⟨_, recoverable⟩
    · cases answer.symm.trans raised
    · exact recoverable
  · intro recoverable u' r ends
    rcases ends_recover clock traced identifier changes runs ends with ⟨_, lost⟩ | ⟨settled, _⟩
    · exact absurd recoverable lost
    · exact settled

end

namespace Disposable

/-- `apply` dies before so many calls. -/
def crashed (calls : Nat) : World :=
  ((site.controller fun _ => false).cut (Files.apply RecoveredTooLate.host text site plan (.fin 0)).run calls
    (List.replicate calls fine) granted).1

def recovered (w : World) : World × Answer GrantState :=
  (site.controller calm).alone (Files.recover RecoveredTooLate.host plan.grantId (.fin 9)).run [] w

/-- The task still runs under the grant. -/
def runs (w : World) : Bool :=
  (w.db.grants.find? plan.grantId).any fun g => (w.db.tasks.find? g.taskId).any fun t => decide (t.runsUnder g)

theorem runs_iff {w : World} (running : runs w) : ∃ g t, w.db.grants.find? plan.grantId = some g ∧
    w.db.tasks.find? g.taskId = some t ∧ t.runsUnder g := by
  obtain ⟨g, found, later⟩ := (Option.any_eq_true ..).mp running
  obtain ⟨t, task, under⟩ := (Option.any_eq_true ..).mp later
  exact ⟨g, t, found, task, of_decide_eq_true under⟩

theorem planned : ∃ canonical, canonicalPlan RecoveredTooLate.host text site.digest plan = .ok canonical ∧
    canonical.files.map PlannedFile.row = [⟨some .create, "a.txt", "ABSENT", digest [97], digest [97]⟩,
      ⟨some .replace, "b.txt", digest [98], digest [97], digest [97]⟩] := by
  have rows : ((canonicalPlan RecoveredTooLate.host text site.digest plan).toOption.map fun c => c.files.map PlannedFile.row) =
      some [⟨some .create, "a.txt", "ABSENT", digest [97], digest [97]⟩,
        ⟨some .replace, "b.txt", digest [98], digest [97], digest [97]⟩] := by decide
  cases accepted : canonicalPlan RecoveredTooLate.host text site.digest plan with
  | error e =>
    rw [accepted] at rows
    cases rows
  | ok canonical =>
    rw [accepted] at rows
    exact ⟨canonical, rfl, Option.some.inj rows⟩

theorem changes {canonical : CanonicalPlan} (rows : canonical.files.map PlannedFile.row =
    [⟨some .create, "a.txt", "ABSENT", digest [97], digest [97]⟩,
      ⟨some .replace, "b.txt", digest [98], digest [97], digest [97]⟩]) :
    ∃ file ∈ canonical.files, file.row.preimage ≠ file.row.postimage := by
  have first : (⟨some .create, "a.txt", "ABSENT", digest [97], digest [97]⟩ : FileRow) ∈ canonical.files.map PlannedFile.row := by
    rw [rows]
    exact List.mem_cons_self
  obtain ⟨file, member, same⟩ := List.mem_map.mp first
  refine ⟨file, member, ?_⟩
  rw [same]
  exact Ne.symm (site.digest_ne_absent [97])

theorem crashed_at {calls : Nat} {canonical : CanonicalPlan}
    (accepted : canonicalPlan RecoveredTooLate.host text site.digest plan = .ok canonical)
    (unused : granted.db.transactions.find? plan.grantId = none)
    (consumed : ((crashed calls).db.transactions.find? plan.grantId).isSome) :
    Crashed RecoveredTooLate.host text site plan canonical granted (crashed calls) :=
  ⟨accepted, unused, consumed, .fin 0, _, Machine.stops_cut calls _⟩

end Disposable

/-- Between `os.link` and the `unlink` of the temporary file, the file that was created has
two links, which `_path` does not accept: the transaction stays open for good. -/
theorem crash_not_recovered : ∃ canonical,
    Crashed RecoveredTooLate.host Disposable.text Disposable.site Disposable.plan canonical Disposable.granted
      (Disposable.crashed 34) ∧
    (∃ file ∈ canonical.files, file.row.preimage ≠ file.row.postimage) ∧
    (∃ g t, (Disposable.crashed 34).db.grants.find? Disposable.plan.grantId = some g ∧
      (Disposable.crashed 34).db.tasks.find? g.taskId = some t ∧ t.runsUnder g) ∧
    ∃ w e, (Disposable.site.controller calm).Ends
        (Files.recover RecoveredTooLate.host Disposable.plan.grantId (.fin 9)).run (Disposable.crashed 34) w (.error e) ∧
      w.db.grants.rows.map GrantRow.state = [.applying] := by
  have facts : (Disposable.granted.db.transactions.find? Disposable.plan.grantId,
      ((Disposable.crashed 34).db.transactions.find? Disposable.plan.grantId).isSome, Disposable.runs (Disposable.crashed 34),
      (Disposable.recovered (Disposable.crashed 34)).2,
      (Disposable.recovered (Disposable.crashed 34)).1.db.grants.rows.map GrantRow.state) =
      (none, true, true, .error (.blocked "hardlinked target"), [.applying]) := by decide +kernel
  simp only [Prod.mk.injEq] at facts
  obtain ⟨unused, consumed, running, refused, applying⟩ := facts
  obtain ⟨canonical, accepted, rows⟩ := Disposable.planned
  refine ⟨canonical, Disposable.crashed_at accepted unused consumed, Disposable.changes rows, Disposable.runs_iff running,
    _, .blocked "hardlinked target", ?_, applying⟩
  rw [← refused]
  exact Machine.ends_alone _

theorem crash_recovery_iff_applied : ∃ canonical state,
    canonicalPlan RecoveredTooLate.host Disposable.text Disposable.site.digest Disposable.plan = .ok canonical ∧
    (Disposable.recovered (Disposable.crashed 58)).2 = .ok state ∧
    Settled RecoveredTooLate.host Disposable.site canonical 9 (Disposable.crashed 58)
      (Disposable.recovered (Disposable.crashed 58)).1 state := by
  have unused : Disposable.granted.db.transactions.find? Disposable.plan.grantId = none := by decide +kernel
  have facts : (((Disposable.crashed 58).db.transactions.find? Disposable.plan.grantId).isSome, Disposable.runs (Disposable.crashed 58),
      ((Disposable.crashed 58).db.grants.find? Disposable.plan.grantId).map GrantRow.state,
      ((Disposable.crashed 58).db.workspaces.find? "lab").map WorkspaceRow.state) =
      (true, true, some .applying, some .available) := by decide +kernel
  have files : ((Disposable.crashed 58).tree.seen ["a.txt"], (Disposable.crashed 58).tree.seen ["b.txt"]) =
      (.file [97], .file [97]) := by decide +kernel
  simp only [Prod.mk.injEq] at facts files
  obtain ⟨consumed, running, applying, available⟩ := facts
  obtain ⟨created, replaced⟩ := files
  obtain ⟨canonical, accepted, rows⟩ := Disposable.planned
  have named := canonicalPlan_grantId accepted
  have recoverable : Recoverable Disposable.site canonical (Disposable.crashed 58) := by
    refine ⟨?_, fun row known => ?_, fun file member => ?_⟩
    · rw [named]
      obtain ⟨g, found, state⟩ := Option.map_eq_some_iff.mp applying
      exact ⟨g, found, state⟩
    · obtain ⟨row', found, state⟩ := Option.map_eq_some_iff.mp available
      cases found.symm.trans known
      rw [state]
      decide
    · have listed := List.mem_map_of_mem (f := PlannedFile.row) member
      rw [rows, List.mem_cons, List.mem_singleton] at listed
      rcases listed with same | same
      · rw [PlannedFile.name, same, show pathParts "a.txt" = ["a.txt"] by decide, created]
        intro same
        cases same
      · rw [PlannedFile.name, same, show pathParts "b.txt" = ["b.txt"] by decide, replaced]
        intro same
        cases same
  obtain ⟨state, answer, settled⟩ := (crash_recovery_iff (Disposable.crashed_at accepted unused consumed)
    ⟨rfl, rfl, rfl, rfl, rfl⟩ (by decide) (Disposable.changes rows) (Disposable.runs_iff running)
    (show (PyFloat.fin 9).clock? = some 9 by rfl)).mpr recoverable _ _ (Machine.ends_alone _)
  exact ⟨canonical, state, accepted, answer, settled⟩

end ControlPlane.Autonomy
