import ControlPlane.Autonomy.FileFrame
import ControlPlane.Autonomy.Calls
import ControlPlane.Autonomy.Completion

/-!
# All or nothing

A call of `apply` that nobody interferes with has applied the whole plan, or has left
every file as it was, or has blocked the workspace.
-/

namespace ControlPlane.Autonomy

open Data Interleaving Procedure

/-- Grant and transaction are both in this state. -/
def Db.Stands (db : Db) (grantId : String) (state : GrantState) : Prop :=
  (∃ g, db.grants.find? grantId = some g ∧ g.state = state) ∧
    ∃ tx, db.transactions.find? grantId = some tx ∧ tx.state = state

/-- The grant was not consumed, and no file was changed. -/
structure Unconsumed (grantId : String) (w w' : World) : Prop where
  tree : w'.tree = w.tree
  transactions : w'.db.transactions = w.db.transactions
  grant : w'.db.grants.find? grantId = w.db.grants.find? grantId ∨ ∃ g, w.db.grants.find? grantId = some g ∧
    g.state = .issued ∧ w'.db.grants.find? grantId = some { g with state := .expired }

/-- Every file of the plan is there as it was, or absent as it was. -/
structure Undone (site : Site) (plan : CanonicalPlan) (w w' : World) : Prop where
  files : ∀ file ∈ plan.files, ∃ original,
    site.actual w.tree file.name = .ok original ∧ site.actual w'.tree file.name = .ok original
  stands : w'.db.Stands plan.grantId .failed

/-- The workspace is blocked, in memory and in the database. -/
structure Blocked (plan : CanonicalPlan) (w' : World) : Prop where
  stands : w'.db.Stands plan.grantId .integrityBlocked
  workspace : ∃ g row, w'.db.grants.find? plan.grantId = some g ∧ g.workspaceId ∈ w'.blocked ∧
    w'.db.workspaces.find? g.workspaceId = some row ∧ row.state = .integrityBlocked

/-- What the failure handler sends to the database, and the last statement of all. -/
def settles {α : Type} : Act α → Bool
  | .inl (.terminalizeFailure ..) | .inl (.selectTransaction _) => true
  | .inl (.blockWorkspace _ reason _) => reason = "ROLLBACK_UNPROVABLE"
  | _ => false

/-! ### Single calls -/

section

variable {α β : Type} {site : Site} {trusted : {α : Type} → Act α → Bool} {w w' : World} {a : α} {r : Answer α}

@[simp] theorem store_bind {p : Store α} {k : α → Store β} : Files.store (p >>= k) = Files.store p >>= fun a => Files.store (k a) :=
  Procedure.interp_bind

@[simp] theorem files_ask {s : Stmt α} : Files.store (ask s) = ask (.inl s) := Procedure.interp_ask

@[simp] theorem store_pure : Files.store (pure a : Store α) = pure a := rfl

@[simp] theorem store_throw {e : Err} : Files.store (throw e : Store α) = throw e := rfl

theorem store_now {now : PyFloat} : Files.store (Store.now now) = lift (found now.clock? (.blocked "invalid clock")) := by
  unfold Store.now
  cases now.clock? <;> rfl

/-- A call that returns was carried out. -/
theorem returns_file {s : FileCall α} (returned : (site.controller trusted).Returns (Files.file s) w w' a) :
    site.call s w = (w', .ok a) := by
  obtain ⟨c, ran⟩ := Machine.returns_ask.mp returned
  change site.exec trusted (.inr s) c w = _ at ran
  unfold Site.exec at ran
  split at ran
  · exact ran
  · split at ran
    · exact ran
    · cases ran

theorem perform_stmt {s : Stmt α} {c : Call} : site.perform (.inl s) c w =
    ({ w with db := (exec s (site.input w s c.input) w.db).1, blocked := site.remember w s },
      (exec s (site.input w s c.input) w.db).2) := rfl

/-- A statement that returns was carried out. -/
theorem returns_stmt {s : Stmt α} (returned : (site.controller trusted).Returns (ask (.inl s)) w w' a) :
    ∃ x, perform s (site.input w s x) w.db = (w'.db, .ok a) ∧ w'.tree = w.tree ∧ w'.root = w.root ∧
      w'.blocked = site.remember w s := by
  obtain ⟨c, ran⟩ := Machine.returns_ask.mp returned
  change site.exec trusted (.inl s) c w = _ at ran
  have performed : ∃ c, site.perform (.inl s) c w = (w', .ok a) := by
    unfold Site.exec at ran
    split at ran
    · exact ⟨_, ran⟩
    · split at ran
      · exact ⟨_, ran⟩
      · cases ran
  obtain ⟨c, performed⟩ := performed
  rw [perform_stmt] at performed
  obtain ⟨rfl, answer⟩ := Prod.mk.inj performed
  refine ⟨c.input, ?_, rfl, rfl, rfl⟩
  cases busy : c.input.busy with
  | true =>
    rw [exec, if_pos (show (site.input w s c.input).busy = true from busy)] at answer
    cases answer
  | false =>
    have free : exec s (site.input w s c.input) w.db = perform s (site.input w s c.input) w.db := exec_free _ busy
    rw [free] at answer ⊢
    exact Prod.ext rfl answer

/-- A statement that raises has at most done what it does while it raises. -/
theorem raises_stmt {s : Stmt α} {e : Err} (raised : (site.controller trusted).Raises (ask (.inl s)) w w' e) :
    w' = w ∨ ∃ x, (exec s (site.input w s x) w.db).2 = .error e ∧
      w' = { w with db := (exec s (site.input w s x) w.db).1, blocked := site.remember w s } := by
  obtain ⟨c, ran⟩ := Machine.raises_ask.mp raised
  change site.exec trusted (.inl s) c w = _ at ran
  unfold Site.exec at ran
  split at ran
  · rw [perform_stmt] at ran
    obtain ⟨rfl, answer⟩ := Prod.mk.inj ran
    exact .inr ⟨_, answer, rfl⟩
  · split at ran
    · rw [perform_stmt] at ran
      obtain ⟨rfl, answer⟩ := Prod.mk.inj ran
      exact .inr ⟨_, answer, rfl⟩
    · obtain ⟨rfl, _⟩ := Prod.mk.inj ran
      exact .inl rfl

/-! Of the calls on files, what it takes to return. -/

theorem returns_path {path : String} {x : Name} (returned : (site.controller trusted).Returns (Files.file (.path path)) w w' x) :
    w' = w ∧ site.path w path = .ok x := by
  obtain ⟨same, passed⟩ := Prod.mk.inj (returns_file returned)
  exact ⟨same.symm, passed⟩

theorem returns_actual {x : Name} {read : String × Option Bytes}
    (returned : (site.controller trusted).Returns (Files.file (.actual x)) w w' read) :
    w' = w ∧ site.actual w.tree x = .ok read := by
  obtain ⟨same, passed⟩ := Prod.mk.inj (returns_file returned)
  exact ⟨same.symm, passed⟩

theorem returns_exists {x : Name} {present : Bool}
    (returned : (site.controller trusted).Returns (Files.file (.exists_ x)) w w' present) :
    w' = w ∧ present = (w.tree.stat x).isSome := by
  obtain ⟨same, answer⟩ := Prod.mk.inj (returns_file returned)
  exact ⟨same.symm, (Except.ok.inj answer).symm⟩

theorem returns_open {x : Name} {descriptor : Nat}
    (returned : (site.controller trusted).Returns (Files.file (.open_ x)) w w' descriptor) :
    ∃ tree, w.tree.create x [] = .ok tree ∧ w' = { w with tree } ∧ descriptor = w.tree.next := by
  have opened := returns_file returned
  simp only [Site.call] at opened
  split at opened
  · rename_i tree created
    obtain ⟨same, answer⟩ := Prod.mk.inj opened
    exact ⟨tree, created, same.symm, (Except.ok.inj answer).symm⟩
  · cases (Prod.mk.inj opened).2

theorem returns_change {r : Except Errno (Tree Name Bytes)} {u : Unit} (changed : w.change r = (w', .ok u)) :
    ∃ tree, r = .ok tree ∧ w' = { w with tree } := by
  cases r with
  | ok tree => exact ⟨tree, rfl, (Prod.mk.inj changed).1.symm⟩
  | error e => cases (Prod.mk.inj changed).2

end

/-! ### The first block -/

/-- What the first block of `apply` has established once it is committed. -/
structure Begun (site : Site) (plan : CanonicalPlan) (w w' : World) : Prop where
  tree : w'.tree = w.tree
  root : w'.root = w.root
  home : w.root = .ok site.workspace.physicalId
  unused : w.db.transactions.find? plan.grantId = none
  granted : ∃ g, w'.db.grants.find? plan.grantId = some g ∧ g.state = .applying ∧
    g.workspaceId = site.workspace.workspaceId ∧ g.targetProject = site.workspace.targetProject
  recorded : ∃ tx, w'.db.transactions.find? plan.grantId = some tx ∧ tx.state = .applying ∧
    tx.planHash = plan.planHash ∧ tx.operationsManifest = plan.files.map PlannedFile.row
  placed : ∃ row, w'.db.workspaces.find? site.workspace.workspaceId = some row ∧
    sameWorkspace site.workspace row site.workspace.physicalId
  disposable : site.workspace.kind = "DISPOSABLE"
  preimages : ∀ file ∈ plan.files, site.path w file.row.path = .ok file.name ∧
    ∃ content, site.actual w.tree file.name = .ok (file.row.preimage, content)

section

variable {site : Site} {db : Db} {x : Input} {n : ℚ} {plan : Plan} {rows : List FileRow} {w : World}
  {workspace target path : String} {d : Descriptor} {name : Name}

theorem preimagesHold_ok {actual : String → Answer String} (holds : preimagesHold rows actual = .ok ()) :
    ∀ row ∈ rows, actual row.path = .ok row.preimage := by
  induction rows with
  | nil => simp
  | cons row rest ih =>
    obtain ⟨_, here, later⟩ := bind_ok.mp holds
    obtain ⟨digest, read, same⟩ := bind_ok.mp here
    rw [require_ok] at same
    exact List.forall_mem_cons.mpr ⟨same ▸ read, ih later⟩

/-- The first block expires the grant, or it consumes it. -/
theorem beginApply_ok {c : Committed Unit} (committed : beginApply plan n x db = .ok c) :
    ∃ grant, db.grants.find? plan.grantId = some grant ∧ grant.state = .issued ∧
      (c = (db.expireGrant grant n, .error (.blocked "grant expired")) ∨
        ∃ d row physical transactions event details, x.workspace = .ok d ∧
          db.workspaces.find? d.workspaceId = some row ∧ x.physicalId = .ok physical ∧ sameWorkspace d row physical ∧
          preimagesHold plan.operations x.actual = .ok () ∧
          db.transactions.insert? {
            grantId := plan.grantId, planHash := plan.planHash, operationsManifest := plan.operations
            state := .applying, startedAt := n } = some transactions ∧
          c = (Db.log { db.verifyWorkspace d.workspaceId n with
              transactions
              grants := db.grants.update (fun g => g.grantId = plan.grantId ∧ g.state = .issued)
                (fun g => { g with state := .applying, consumedAt := some n, planHash := some plan.planHash })
                fun _ => rfl } grant.taskId event n details, .ok ())) := by
  simp only [beginApply, require_bind_ok, found_bind_ok] at committed
  obtain ⟨grant, found, issued, committed⟩ := committed
  refine ⟨grant, found, issued, ?_⟩
  obtain ⟨lapsed, _, committed⟩ := bind_ok.mp committed
  split at committed
  · exact .inl (pure_ok.mp committed).symm
  · obtain ⟨_, authority, committed⟩ := bind_ok.mp committed
    obtain ⟨db', verified, committed⟩ := bind_ok.mp committed
    simp only [Db.workspaceAuthority] at verified
    obtain ⟨d, resolved, verified⟩ := bind_ok.mp verified
    simp only [require_bind_ok, found_bind_ok] at verified
    obtain ⟨row, known, _, verified⟩ := verified
    obtain ⟨physical, root, verified⟩ := bind_ok.mp verified
    simp only [require_bind_ok, pure_ok] at verified
    obtain ⟨same, rfl⟩ := verified
    simp only [require_bind_ok] at committed
    obtain ⟨_, _, committed⟩ := committed
    obtain ⟨_, holds, committed⟩ := bind_ok.mp committed
    simp only [require_bind_ok, found_bind_ok, pure_ok] at committed
    obtain ⟨transactions, inserted, _, rfl⟩ := committed
    exact .inr ⟨d, row, physical, transactions, _, _, resolved, known, root, same, holds, inserted, rfl⟩

theorem resolve_ok (resolved : site.resolve w workspace target = .ok d) : d = site.workspace ∧
    site.workspace.workspaceId = workspace ∧ site.workspace.targetProject = target ∧
    site.workspace.kind = "DISPOSABLE" ∧ w.root = .ok site.workspace.physicalId := by
  simp only [Site.resolve, require_bind_ok, pure_ok] at resolved
  obtain ⟨workspace, ⟨target, kind⟩, root, rfl⟩ := resolved
  exact ⟨rfl, workspace, target, kind, root⟩

theorem path_ok : site.path w path = .ok name ↔ name = pathParts path ∧ site.allowed path ∧
    w.root = .ok site.workspace.physicalId ∧
    ((parents (pathParts path)).all fun p => (w.tree.stat p).isNone || w.tree.isDirectory p) ∧
    (w.tree.stat (pathParts path) = none ∨ ¬ w.tree.isSymlink (pathParts path)) ∧
    (w.tree.stat (pathParts path) = none ∨ w.tree.unshared (pathParts path)) ∧
    ((parents (pathParts path)).all fun p => (w.tree.stat p).isSome) ∧ pathParts path ≠ [] := by
  simp only [Site.path, bind_ok, require_ok, pure_ok, exists_const]
  constructor
  · rintro ⟨allowed, _, root, rfl, traversed, link, shared, present, below, rfl⟩
    exact ⟨rfl, allowed, root, traversed, link, shared, present, below⟩
  · rintro ⟨rfl, allowed, root, traversed, link, shared, present, below⟩
    exact ⟨allowed, _, root, rfl, traversed, link, shared, present, below, rfl⟩

theorem find?_inserted {ρ κ : Type} {key : ρ → κ} [DecidableEq κ] {t u : Table ρ key} {r : ρ}
    (inserted : t.insert? r = some u) : t.find? (key r) = none ∧ u.find? (key r) = some r :=
  ⟨Table.find?_none.mpr (Table.insert?_some inserted).1,
    Table.find?_some.mpr ⟨(Table.mem_inserted inserted).mpr (.inr rfl), rfl⟩⟩

end

section

variable {site : Site} {trusted : {α : Type} → Act α → Bool} {plan : CanonicalPlan} {w w' : World} {n : ℚ}

/-- Whatever becomes of the first block, the tree is as it was; it raises before the grant
is consumed, or returns after. -/
theorem ends_beginApply {r : Answer Unit}
    (ends : (site.controller trusted).Ends (ask (.inl (.beginApply plan.plan n)) : Files Unit).run w w' r) :
    (∃ e, r = .error e) ∧ Unconsumed plan.grantId w w' ∨ r = .ok () ∧ Begun site plan w w' := by
  cases r with
  | ok u =>
    right
    refine ⟨rfl, ?_⟩
    obtain ⟨x, ran, tree, root, _⟩ := returns_stmt ends
    rw [perform, transaction_ok] at ran
    obtain ⟨grant, found, issued, expired | ⟨d, row, physical, transactions, event, details, resolved, known, home, same,
      holds, inserted, committed⟩⟩ := beginApply_ok ran
    · cases (Prod.mk.inj expired).2
    · have workspace : site.resolve w grant.workspaceId grant.targetProject = .ok d := by
        have lookup : site.resolved w (.beginApply plan.plan n) = .ok d := resolved
        simpa only [Site.resolved, show w.db.grants.find? plan.plan.grantId = some grant from found] using lookup
      obtain ⟨rfl, workspaceId, target, kind, root_ok⟩ := resolve_ok workspace
      cases home.symm.trans root_ok
      obtain ⟨db', _⟩ := Prod.mk.inj committed
      obtain ⟨unused, recorded⟩ := find?_inserted inserted
      refine ⟨tree, root, root_ok, unused, ?_, ?_, ?_, kind, ?_⟩
      · refine ⟨{ grant with state := .applying, consumedAt := some n, planHash := some plan.planHash }, ?_, rfl,
          workspaceId.symm, target.symm⟩
        have consumed : w'.db.grants.find? plan.grantId = (w.db.grants.find? plan.grantId).map fun g =>
            if g.grantId = plan.grantId ∧ g.state = .issued then
              { g with state := .applying, consumedAt := some n, planHash := some plan.planHash } else g := by
          rw [db']
          exact Table.find?_update rfl fun _ => rfl
        rw [consumed, show w.db.grants.find? plan.grantId = some grant from found]
        exact congrArg some (if_pos ⟨(Table.find?_some.mp found).2, issued⟩)
      · exact ⟨_, by rw [db']; exact recorded, rfl, rfl, rfl⟩
      · refine ⟨{ row with lastVerifiedAt := some n, lastError := none }, ?_, same⟩
        have verified : w'.db.workspaces.find? site.workspace.workspaceId =
            (w.db.workspaces.find? site.workspace.workspaceId).map fun row =>
              if row.workspaceId = site.workspace.workspaceId then
                { row with lastVerifiedAt := some n, lastError := none } else row := by
          rw [db']
          exact Table.find?_update rfl fun _ => rfl
        rw [verified, known]
        exact congrArg some (if_pos (Table.find?_some.mp known).2)
      · intro file member
        have read := preimagesHold_ok holds file.row (List.mem_map_of_mem member)
        obtain ⟨name, passed, read⟩ := bind_ok.mp read
        obtain ⟨⟨digest, content⟩, read, here⟩ := bind_ok.mp read
        obtain rfl := (path_ok.mp passed).1
        obtain rfl : digest = file.row.preimage := pure_ok.mp here
        exact ⟨passed, content, read⟩
  | error e =>
    left
    refine ⟨⟨e, rfl⟩, ?_⟩
    rcases raises_stmt ends with rfl | ⟨x, refused, rfl⟩
    · exact ⟨rfl, rfl, .inl rfl⟩
    · have cases : (exec (.beginApply plan.plan n) (site.input w (.beginApply plan.plan n) x) w.db).1 = w.db ∨
          ∃ grant, w.db.grants.find? plan.grantId = some grant ∧ grant.state = .issued ∧
            (exec (.beginApply plan.plan n) (site.input w (.beginApply plan.plan n) x) w.db).1 = w.db.expireGrant grant n := by
        unfold exec
        split
        · exact .inl rfl
        · rename_i free
          rw [exec, if_neg free] at refused
          simp only [perform] at refused ⊢
          cases body : beginApply plan.plan n (site.input w (.beginApply plan.plan n) x) w.db with
          | error e => exact .inl rfl
          | ok c =>
            obtain ⟨grant, found, issued, rfl | ⟨_, _, _, _, _, _, _, _, _, _, _, _, rfl⟩⟩ := beginApply_ok body
            · exact .inr ⟨grant, found, issued, rfl⟩
            · rw [body] at refused
              cases refused
      rcases cases with same | ⟨grant, found, issued, same⟩
      · exact ⟨rfl, (congrArg Db.transactions same :), .inl (congrArg (fun db : Db => db.grants.find? plan.grantId) same)⟩
      · refine ⟨rfl, (congrArg Db.transactions same :), .inr ⟨grant, found, issued, ?_⟩⟩
        have expired : (w.db.expireGrant grant n).grants.find? plan.grantId = (w.db.grants.find? plan.grantId).map
            fun g => if g.grantId = grant.grantId ∧ g.state = .issued then { g with state := .expired } else g :=
          Table.find?_update rfl fun _ => rfl
        refine (congrArg (fun db : Db => db.grants.find? plan.grantId) same).trans (expired.trans ?_)
        rw [found]
        exact congrArg some (if_pos ⟨rfl, issued⟩)

end

/-! ### The statements of the failure handler, and the last block -/

section

variable {α : Type} {site : Site} {trusted : {α : Type} → Act α → Bool} {w w' : World} {n : ℚ} {grantId : String}
  {state : GrantState} {db : Db}

/-- A trusted statement is carried out. -/
theorem ends_trusted {s : Stmt α} {r : Answer α} (trust : trusted (.inl s : Act α) = true)
    (ends : (site.controller trusted).Ends (ask (.inl s) : Files α).run w w' r) :
    ∃ x, perform s (site.input w s x) w.db = (w'.db, r) ∧ w'.tree = w.tree ∧ w'.root = w.root ∧
      w'.blocked = site.remember w s := by
  obtain ⟨c, ran⟩ := Machine.ends_ask.mp ends
  change site.exec trusted (.inl s) c w = _ at ran
  rw [Site.exec, if_pos trust, perform_stmt] at ran
  obtain ⟨rfl, rfl⟩ := Prod.mk.inj ran
  exact ⟨{ c.input with busy := false }, rfl, rfl, rfl, rfl⟩

theorem find?_settledGrant (state : GrantState) (found : ∃ g, db.grants.find? grantId = some g ∧ g.state = .applying) :
    ∃ g, db.grants.find? grantId = some g ∧ (db.settleGrant grantId state).grants.find? grantId = some { g with state } := by
  obtain ⟨g, found, applying⟩ := found
  have settled : (db.settleGrant grantId state).grants.find? grantId = (db.grants.find? grantId).map fun g =>
      if g.grantId = grantId ∧ g.state = .applying then { g with state } else g := Table.find?_update rfl fun _ => rfl
  refine ⟨g, found, ?_⟩
  rw [settled, found]
  exact congrArg some (if_pos ⟨(Table.find?_some.mp found).2, applying⟩)

theorem find?_settledTransaction {f : TransactionRow → TransactionRow} (keeps : ∀ r, (f r).grantId = r.grantId)
    {tx : TransactionRow} (found : db.transactions.find? grantId = some tx) (applying : tx.state = .applying) :
    (db.settleTransaction grantId f keeps).transactions.find? grantId = some (f tx) := by
  have settled : (db.settleTransaction grantId f keeps).transactions.find? grantId =
      (db.transactions.find? grantId).map fun r => if r.grantId = grantId ∧ r.state = .applying then f r else r :=
    Table.find?_update rfl keeps
  rw [settled, found]
  exact congrArg some (if_pos ⟨(Table.find?_some.mp found).2, applying⟩)

/-- The running task that `reviewTask` finds. -/
theorem find?_reviewed {task : String} (running : db.tasks.rowcount (TaskRow.named task (· = .running)) = 1) :
    ∃ t, db.tasks.find? task = some t ∧ t.state = .running ∧ (db.reviewTask task n).tasks.find? task = some (t.received n) := by
  rw [Table.rowcount_key fun _ named => named.1, ite_eq_left_iff] at running
  have hit : ∃ t, db.tasks.find? task = some t ∧ TaskRow.named task (· = .running) t := by
    by_contra none
    cases running none
  obtain ⟨t, found, named⟩ := hit
  have reviewed : (db.reviewTask task n).tasks.find? task = (db.tasks.find? task).map fun r =>
      if TaskRow.named task (· = .running) r then r.received n else r := Table.find?_update rfl fun _ => rfl
  refine ⟨t, found, of_decide_eq_true named.2, ?_⟩
  rw [reviewed, found]
  exact congrArg some (if_pos named)

end

/-! ### Putting one file back -/

/-- What was backed up is there. -/
def Restores (t : Tree Name Bytes) (x : Name) : Option Bytes → Prop
  | none => t.seen x = .absent
  | some content => t.seen x = .file content

section

variable {site : Site} {trusted : {α : Type} → Act α → Bool} {w w' : World} {t : Tree Name Bytes} {x : Name}
  {digest grantId : String} {original : Option Bytes}

theorem actual_ok : site.actual t x = .ok (digest, original) ↔
    Restores t x original ∧ digest = (match original with | none => "ABSENT" | some content => site.digest content) := by
  unfold Site.actual Restores
  cases t.seen x with
  | absent => cases original <;> simp [eq_comm]
  | file content =>
    cases original with
    | none => simp
    | some content' =>
      simp only [Except.ok.injEq, Prod.mk.injEq, Option.some.injEq, Tree.Seen.file.injEq]
      constructor
      · rintro ⟨rfl, rfl⟩
        exact ⟨rfl, rfl⟩
      · rintro ⟨rfl, rfl⟩
        exact ⟨rfl, rfl⟩
  | irregular => cases original <;> simp

theorem beside_ne {suffix : String} : Files.beside x grantId suffix ≠ x := by
  intro same
  have last : (Files.beside x grantId suffix).getLastD "" = x.getLastD "" := congrArg (List.getLastD · "") same
  rw [Files.beside, List.getLastD_concat] at last
  have longer := congrArg String.length last
  have dot : ".".length = 1 := rfl
  simp only [String.length_append] at longer
  omega

end

/-! ### Putting all files back -/

/-- Where a backup was taken. -/
def Files.Backup.name (backup : Files.Backup) : Name := pathParts backup.1

section

variable {site : Site} {trusted : {α : Type} → Act α → Bool} {w w' : World} {taken : List Files.Backup} {grantId : String}
  {files : List PlannedFile}

/-- What `verify` has checked. -/
theorem returns_verify (returned : (site.controller trusted).Returns (Files.verify site taken) w w' true) :
    w' = w ∧ ∀ backup ∈ taken, ∃ original, site.actual w.tree backup.name =
      .ok ((match backup.2 with | none => "ABSENT" | some content => site.digest content), original) := by
  induction taken with
  | nil => exact ⟨(Machine.returns_pure.mp returned).1, by simp⟩
  | cons backup rest ih =>
    simp only [Files.verify, Machine.returns_bind] at returned
    obtain ⟨w₁, ⟨digest, original⟩, read, w₂, later, checked, last⟩ := returned
    obtain ⟨rfl, read⟩ := returns_actual read
    obtain ⟨rfl, same⟩ := Machine.returns_pure.mp last
    obtain ⟨here, rfl⟩ := (Bool.and_eq_true _ _).mp same.symm
    obtain ⟨rfl, verified⟩ := ih checked
    obtain rfl := of_decide_eq_true here
    exact ⟨rfl, List.forall_mem_cons.mpr ⟨⟨original, read⟩, verified⟩⟩

/-- The backups that were taken: the first of the files, each with what it held. -/
structure BackedUp (site : Site) (t : Tree Name Bytes) (files : List PlannedFile) (new : List Files.Backup) : Prop where
  paths : ∃ rest, new.map Prod.fst ++ rest = files.map (fun file => file.row.path)
  originals : ∀ backup ∈ new, ∃ digest, site.actual t backup.name = .ok (digest, backup.2)

theorem returns_expect {path digest : String} {e : Err} {read : Name × Option Bytes}
    (returned : (site.controller trusted).Returns (Files.expect path digest e) w w' read) :
    w' = w ∧ site.path w path = .ok read.1 ∧ site.actual w.tree (pathParts path) = .ok (digest, read.2) := by
  simp only [Files.expect, Machine.returns_bind] at returned
  obtain ⟨w₁, x, guarded, w₂, ⟨actual, original⟩, read_, w₃, _, compared, last⟩ := returned
  obtain ⟨rfl, passed⟩ := returns_path guarded
  obtain ⟨rfl, seen⟩ := returns_actual read_
  obtain ⟨rfl, same⟩ := Machine.returns_lift.mp compared
  obtain rfl := require_ok.mp same
  obtain ⟨rfl, rfl⟩ := Machine.returns_pure.mp last
  obtain ⟨rfl, _⟩ := path_ok.mp passed
  exact ⟨rfl, passed, seen⟩

theorem still_expect {path digest : String} {e : Err} : (site.controller trusted).Still (Files.expect path digest e) :=
  All.bind (all_ask fun c w => exec_still rfl c w) fun _ => All.bind (all_ask fun c w => exec_still rfl c w) fun _ =>
    All.bind (all_lift _) fun _ => all_pure _

/-- `backUp` raises nothing: it says what it has and why there is no more. -/
theorem ends_backUp {r : Answer (List Files.Backup × Answer Unit)}
    (ends : (site.controller trusted).Ends (Files.backUp files taken).run w w' r) :
    w' = w ∧ ∃ new checked, r = .ok (taken ++ new, checked) ∧ BackedUp site w.tree files new ∧
      (checked = .ok () → new.map Prod.fst = files.map fun file => file.row.path) := by
  induction files generalizing taken with
  | nil =>
    obtain ⟨rfl, rfl⟩ := ends
    exact ⟨rfl, [], .ok (), by simp, ⟨⟨[], rfl⟩, by simp⟩, fun _ => rfl⟩
  | cons planned rest ih =>
    obtain ⟨_, _, raised⟩ | ⟨w₁, read, tried, later⟩ := Machine.ends_then.mp ends
    · obtain ⟨_, _, _, impossible⟩ := Machine.ends_bind.mp raised
      cases impossible.2
    · simp only [Machine.returns_attempt] at tried
      cases read with
      | error e =>
        obtain rfl := still_expect.ends tried
        obtain ⟨rfl, rfl⟩ := later
        exact ⟨rfl, [], .error e, by simp, ⟨⟨_, rfl⟩, by simp⟩, fun impossible => by cases impossible⟩
      | ok read =>
        obtain ⟨rfl, _, seen⟩ := returns_expect tried
        have further : (site.controller trusted).Ends (Files.backUp rest (taken ++ [(planned.row.path, read.2)])).run w₁ w' r := later
        obtain ⟨rfl, new, checked, rfl, ⟨⟨more, paths⟩, originals⟩, all⟩ := ih further
        refine ⟨rfl, (planned.row.path, read.2) :: new, checked, by simp, ⟨⟨more, by simpa using paths⟩, ?_⟩, ?_⟩
        · exact List.forall_mem_cons.mpr ⟨⟨_, seen⟩, originals⟩
        · intro complete
          simpa using all complete

end

/-! ### The failure handler -/

/-- Where the transaction of a plan is, while its files are worked on. -/
structure Underway (site : Site) (plan : CanonicalPlan) (w : World) : Prop where
  stands : w.db.Stands plan.grantId .applying
  granted : ∃ g, w.db.grants.find? plan.grantId = some g ∧ g.workspaceId = site.workspace.workspaceId
  placed : ∃ row, w.db.workspaces.find? site.workspace.workspaceId = some row

section

variable {site : Site} {trusted : {α : Type} → Act α → Bool} {plan : CanonicalPlan} {w w' : World}
  {taken : List Files.Backup} {e : Err} {n : ℚ}

theorem Begun.underway (begun : Begun site plan w w') : Underway site plan w' := by
  obtain ⟨g, found, applying, workspace, _⟩ := begun.granted
  obtain ⟨tx, recorded, pending, _⟩ := begun.recorded
  obtain ⟨row, known, _⟩ := begun.placed
  exact ⟨⟨⟨g, found, applying⟩, tx, recorded, pending⟩, ⟨g, found, workspace⟩, row, known⟩

theorem Underway.records (underway : Underway site plan w) (same : SameRecords w.db w'.db) : Underway site plan w' := by
  obtain ⟨⟨⟨g, found, applying⟩, tx, recorded, open_⟩, ⟨g', found', workspace⟩, row, known⟩ := underway
  obtain ⟨row', known', _⟩ := same.workspaces _ row known
  exact ⟨⟨⟨g, same.grants ▸ found, applying⟩, tx, same.transactions ▸ recorded, open_⟩,
    ⟨g', same.grants ▸ found', workspace⟩, row', known'⟩

end

/-! ### `apply` -/

section

variable {host : Host} {text : Text} {site : Site} {trusted : {α : Type} → Act α → Bool} {plan : CanonicalPlan} {w w' w₁ : World}
  {taken : List Files.Backup} {files : List PlannedFile} {e : Err} {n : ℚ}

theorem BackedUp.names {t : Tree Name Bytes} (backed : BackedUp site t files taken) :
    ∃ rest, taken.map Files.Backup.name ++ rest = files.map PlannedFile.name := by
  obtain ⟨rest, same⟩ := backed.paths
  refine ⟨rest.map pathParts, ?_⟩
  have parts := congrArg (List.map pathParts) same
  rwa [List.map_append, List.map_map, List.map_map] at parts

theorem BackedUp.holds {t : Tree Name Bytes} (backed : BackedUp site t files taken) :
    ∀ backup ∈ taken, Restores t backup.name backup.2 := by
  intro backup member
  obtain ⟨_, read⟩ := backed.originals backup member
  exact (actual_ok.mp read).1

theorem Looked.unconsumed {grantId : String} (looked : Looked w w') : Unconsumed grantId w w' :=
  ⟨looked.tree, looked.records.transactions, .inl (by rw [looked.records.grants])⟩

/-- What is seen again as it was. -/
theorem Begun.undone (begun : Begun site plan w w₁) (stands : w'.db.Stands plan.grantId .failed)
    (again : ∀ file ∈ plan.files, ∀ original, Restores w.tree file.name original → Restores w'.tree file.name original) :
    Undone site plan w w' := by
  refine ⟨fun file member => ?_, stands⟩
  obtain ⟨_, original, read⟩ := begun.preimages file member
  obtain ⟨holds, digest⟩ := actual_ok.mp read
  exact ⟨_, read, actual_ok.mpr ⟨again file member original holds, digest⟩⟩

theorem returns_expectFiles {digest : FileRow → String} {u : Unit}
    (returned : (site.controller trusted).Returns (Files.expectFiles digest e files) w w' u) :
    w' = w ∧ ∀ file ∈ files, ∃ content, site.actual w.tree file.name = .ok (digest file.row, content) := by
  induction files with
  | nil => exact ⟨(Machine.returns_pure.mp returned).1, by simp⟩
  | cons file rest ih =>
    obtain ⟨w₁, read, here, later⟩ := Machine.returns_bind.mp returned
    obtain ⟨rfl, _, seen⟩ := returns_expect here
    obtain ⟨rfl, others⟩ := ih later
    exact ⟨rfl, List.forall_mem_cons.mpr ⟨⟨read.2, seen⟩, others⟩⟩

end

namespace Disposable

def digest (content : Bytes) : String :=
  if content = [97] then "ca978112ca1bbdcafac231b39a23dc4da786eff8147c4e72b9807785afee48bb"
  else if content = [98] then "3e23e8160039594a33894f6564e1b1348bbd7a0088d42c4acb73eeaed59c009d"
  else "e3b0c44298fc1c149afbf4c8996fb92427ae41e4649b934ca495991b7852b855"

/-- The site of the workspace that the earlier samples register. -/
def site : Site where
  workspace := RecoveredTooLate.lab
  casefold := id
  protectedPaths := [".git", "directives/audit", "reports", "state"]
  digest := digest
  digest_ne_absent content := by
    unfold digest
    split
    · decide
    · split <;> decide

/-- The tables restricted to ASCII. -/
def text : Text where
  nfc := id
  casefold s := String.ofList (s.toList.map Char.toLower)
  upper s := String.ofList (s.toList.map Char.toUpper)
  lower s := String.ofList (s.toList.map Char.toLower)
  onDrive s := s.toList[1]? = some ':'

/-- One file is created and the other replaced. -/
def plan : ExecutionPlan :=
  ⟨"twsleaselab0uuid", [⟨"CREATE", "a.txt", "ABSENT", digest [97], some [97]⟩, ⟨"REPLACE", "b.txt", digest [98], digest [97], some [97]⟩]⟩

/-- A grant for both, on a workspace with the second file. -/
def granted : World :=
  let host := RecoveredTooLate.host
  let run := script host [Sample.task "t", Sample.worker "w", .call (.claim "t" "w" (.fin 300) (.fin 0)),
      .call (.start "t" "w" "lease" (.fin 0)), .call (.openController [RecoveredTooLate.lab]),
      .call (.issueGrant ⟨"t", "w", "s", "lease", "lab", [.create, .replace], [""], .fin 300⟩ (.fin 0))]
    (moves [5, 5, 4] ++ [(3, { uuid := "lease" })] ++ moves [2, 1, 1] ++
      (List.replicate 2 0).map (·, RecoveredTooLate.files "ABSENT"))
  { db := run.2.state
    tree := ((Tree.bare []).create ["b.txt"] [98]).toOption.getD (.bare [])
    root := .ok "7"
    blocked := [] }

/-- A call that succeeds. -/
def fine : Call := { input := { session := .ok true } }

def applied (calls : List Call) : World × Answer TransactionRow :=
  (site.controller settles).alone (Files.apply RecoveredTooLate.host text site plan (.fin 0)).run calls granted

/-- Both files are changed; then the caller's hook raises. -/
def undone : World × Answer TransactionRow :=
  applied (List.replicate 57 fine ++ [{ fault := some (.other "OSError") }] ++ List.replicate 40 fine)

end Disposable

end ControlPlane.Autonomy
