import ControlPlane.Autonomy.FileExecution
import ControlPlane.Autonomy.Effect

/-!
# What the calls of the controller leave alone

Looking at the tree changes nothing of it, working on it changes nothing of the
database, and checking an authority changes at most what is known about a workspace.
-/

namespace ControlPlane.Autonomy

open Data Interleaving Procedure

/-! ### Records -/

/-- The row still names the same place. -/
def WorkspaceRow.SamePlace (row row' : WorkspaceRow) : Prop :=
  row'.root = row.root ∧ row'.physicalId = row.physicalId ∧ row'.targetProject = row.targetProject ∧ row'.kind = row.kind

/-- The same database, up to what has happened to the workspaces. -/
structure SameRecords (db db' : Db) : Prop where
  grants : db'.grants = db.grants
  transactions : db'.transactions = db.transactions
  tasks : db'.tasks = db.tasks
  workspaces : ∀ id row, db.workspaces.find? id = some row →
    ∃ row', db'.workspaces.find? id = some row' ∧ row.SamePlace row'

namespace SameRecords

variable {db db' db₁ db₂ db₃ : Db}

theorem refl (db : Db) : SameRecords db db := ⟨rfl, rfl, rfl, fun _ row found => ⟨row, found, rfl, rfl, rfl, rfl⟩⟩

theorem trans (first : SameRecords db₁ db₂) (second : SameRecords db₂ db₃) : SameRecords db₁ db₃ where
  grants := second.grants.trans first.grants
  transactions := second.transactions.trans first.transactions
  tasks := second.tasks.trans first.tasks
  workspaces id row found := by
    obtain ⟨row₂, found, root, physical, target, kind⟩ := first.workspaces id row found
    obtain ⟨row₃, found, root', physical', target', kind'⟩ := second.workspaces id row₂ found
    exact ⟨row₃, found, root'.trans root, physical'.trans physical, target'.trans target, kind'.trans kind⟩

theorem log (same : SameRecords db db') {task event details : String} {n : ℚ} :
    SameRecords db (db'.log task event n details) := ⟨same.grants, same.transactions, same.tasks, same.workspaces⟩

/-- An update of workspaces that leaves them where they are. -/
theorem ofUpdate {p : WorkspaceRow → Prop} [DecidablePred p] {f : WorkspaceRow → WorkspaceRow}
    {keeps : ∀ row, (f row).workspaceId = row.workspaceId} (stays : ∀ row : WorkspaceRow, row.SamePlace (f row)) :
    SameRecords db { db with workspaces := db.workspaces.update p f keeps } where
  grants := rfl
  transactions := rfl
  tasks := rfl
  workspaces id row found := by
    refine ⟨if p row then f row else row, ?_, ?_⟩
    · rw [Table.find?_update rfl keeps, found]
      rfl
    · split
      · exact stays row
      · exact ⟨rfl, rfl, rfl, rfl⟩

end SameRecords

/-- What the checks of an authority send to the database. -/
def Stmt.checks {β : Type} : Stmt β → Bool
  | .selectTask _ | .selectWorker _ | .selectGrant _ | .selectTransaction _ | .selectWorkspace _ | .verifyWorkspace ..
  | .blockWorkspace .. | .clock | .session .. | .resolveWorkspace .. | .physicalId _ => true
  | _ => false

theorem exec_checks {β : Type} {s : Stmt β} (checks : s.checks) (x : Input) (db : Db) : SameRecords db (exec s x db).1 := by
  unfold exec
  split
  · exact .refl db
  · cases s with
    | verifyWorkspace workspace n => exact .ofUpdate fun _ => ⟨rfl, rfl, rfl, rfl⟩
    | blockWorkspace workspace reason n => exact .ofUpdate fun _ => ⟨rfl, rfl, rfl, rfl⟩
    | selectTask => exact .refl db
    | selectWorker => exact .refl db
    | selectGrant => exact .refl db
    | selectTransaction => exact .refl db
    | selectWorkspace => exact .refl db
    | clock => exact .refl db
    | session => exact .refl db
    | resolveWorkspace => exact .refl db
    | physicalId => exact .refl db
    | _ => cases checks

section

variable {α β : Type} {host : Host}

/-- The procedure sends nothing else. -/
def Checks (p : Store α) : Prop := Procedure.All (fun s => s.checks) p

theorem checks_bind {p : Store α} {k : α → Store β} (first : Checks p) (rest : ∀ a, Checks (k a)) : Checks (p >>= k) :=
  All.bind first rest

theorem checks_attempt {p : Store α} (body : Checks p) : Checks (attempt p) := Program.All.bind body fun _ => trivial

theorem checks_ask {s : Stmt α} (known : s.checks) : Checks (ask s) := all_ask known

theorem checks_now {n : PyFloat} : Checks (Store.now n) := by
  unfold Store.now
  split
  · exact all_pure _
  · exact all_throw _

theorem checks_check {c : Prop} [Decidable c] {e : Err} : Checks (Store.check c e) := by
  unfold Store.check
  split
  · exact all_pure _
  · exact all_throw _

theorem checks_row {o : Option α} {e : Err} : Checks (Store.row o e) := by
  cases o
  · exact all_throw _
  · exact all_pure _

theorem checks_workspaceAuthority {grant : GrantRow} {n : ℚ} : Checks (Execution.workspaceAuthority grant n) := by
  unfold Execution.workspaceAuthority
  repeat' first
    | exact all_pure _
    | exact all_throw _
    | exact checks_row
    | exact checks_check
    | exact checks_attempt (checks_ask rfl)
    | exact checks_ask rfl
    | refine checks_bind ?_ fun _ => ?_
    | split

theorem checks_freshAuthority {grantId : String} : Checks (Execution.freshAuthority grantId) := by
  unfold Execution.freshAuthority Execution.freshAuthority.liftExcept
  repeat' first
    | exact all_pure _
    | exact all_throw _
    | exact checks_now
    | exact checks_row
    | exact checks_check
    | exact checks_workspaceAuthority
    | exact checks_ask rfl
    | refine checks_bind ?_ fun _ => ?_
    | split

theorem checks_transaction {grantId : String} : Checks (Execution.transaction grantId) :=
  checks_bind (checks_ask rfl) fun _ => checks_row

theorem checks_grant {grantId : String} : Checks (Execution.grant grantId) :=
  checks_bind checks_check fun _ => checks_bind (checks_ask rfl) fun _ => checks_row

end

/-! ### Worlds -/

/-- The same world, after looking at it. -/
structure Looked (w w' : World) : Prop where
  records : SameRecords w.db w'.db
  tree : w'.tree = w.tree
  root : w'.root = w.root

/-- The same world, after work on its tree: what was a directory still is one. -/
structure Worked (w w' : World) : Prop where
  records : SameRecords w.db w'.db
  directories : ∀ x, w.tree.isDirectory x → w'.tree.isDirectory x
  root : w'.root = w.root

namespace Looked

variable {w w' w₁ w₂ w₃ : World}

theorem refl (w : World) : Looked w w := ⟨.refl _, rfl, rfl⟩

theorem trans (first : Looked w₁ w₂) (second : Looked w₂ w₃) : Looked w₁ w₃ :=
  ⟨first.records.trans second.records, second.tree.trans first.tree, second.root.trans first.root⟩

theorem worked (looked : Looked w w') : Worked w w' := ⟨looked.records, fun _ is => looked.tree ▸ is, looked.root⟩

end Looked

namespace Worked

variable {w w₁ w₂ w₃ : World}

theorem refl (w : World) : Worked w w := ⟨.refl _, fun _ => id, rfl⟩

theorem trans (first : Worked w₁ w₂) (second : Worked w₂ w₃) : Worked w₁ w₃ :=
  ⟨first.records.trans second.records, fun x is => second.directories x (first.directories x is),
    second.root.trans first.root⟩

end Worked

/-- A call that only looks. -/
def looks {α : Type} : Act α → Bool
  | .inl s => s.checks
  | .inr (.path _) | .inr (.actual _) | .inr (.exists_ _) | .inr (.occupied _) | .inr (.single _) | .inr (.fsync _)
  | .inr (.close _) | .inr .hook => true
  | _ => false

/-- A call that looks, or works on the tree. -/
def works {α : Type} : Act α → Bool
  | .inl s => s.checks
  | .inr _ => true

section

variable {α β : Type} {site : Site} {trusted : {α : Type} → Act α → Bool} {s : Act α}

theorem call_looks {s : FileCall α} (looking : looks (.inr s : Act α)) (w : World) : (site.call s w).1 = w := by
  cases s with
  | single x =>
    simp only [Site.call]
    split <;> rfl
  | path => rfl
  | actual => rfl
  | exists_ => rfl
  | occupied => rfl
  | fsync => rfl
  | close => rfl
  | hook => rfl
  | _ => cases looking

theorem perform_looks (looking : looks s) (c : Call) (w : World) : Looked w (site.perform s c w).1 := by
  cases s with
  | inl s => exact ⟨exec_checks looking _ _, rfl, rfl⟩
  | inr s =>
    rw [show (site.perform (.inr s) c w).1 = w from call_looks looking w]
    exact .refl w

theorem change_works {w : World} {r : Except Errno (Tree Name Bytes)}
    (directories : ∀ tree, r = .ok tree → ∀ x, w.tree.isDirectory x → tree.isDirectory x) : Worked w (w.change r).1 := by
  cases r with
  | ok tree => exact ⟨.refl _, directories tree rfl, rfl⟩
  | error e => exact .refl w

theorem write_works {w : World} {i : Nat} {content : Bytes} : Worked w { w with tree := w.tree.write i content } :=
  ⟨.refl _, fun _ is => is, rfl⟩

theorem perform_works (working : works s) (c : Call) (w : World) : Worked w (site.perform s c w).1 := by
  cases s with
  | inl s => exact ⟨exec_checks working _ _, fun _ is => is, rfl⟩
  | inr s =>
    cases s with
    | open_ x =>
      simp only [Site.perform, Site.call]
      split
      · rename_i tree created
        exact ⟨.refl _, fun _ => Tree.create_directory created, rfl⟩
      · exact .refl w
    | write i content => exact write_works
    | link x y => exact change_works fun _ linked _ => Tree.link_directory linked
    | unlink x missingOk =>
      simp only [Site.perform, Site.call]
      split
      · exact .refl w
      · exact change_works fun _ unlinked _ => Tree.unlink_directory unlinked
    | replace x y => exact change_works fun _ replaced _ => Tree.replace_directory replaced
    | single x => exact (perform_looks rfl c w).worked
    | _ => exact .refl w

theorem spoil_looks (looking : looks s) (c : Call) (w : World) : Site.spoil s c w = w := by
  cases s with
  | inl s => rfl
  | inr s =>
    cases s with
    | write => cases looking
    | _ => rfl

theorem spoil_works (c : Call) (w : World) : Worked w (Site.spoil s c w) := by
  cases s with
  | inl s => exact .refl w
  | inr s =>
    cases s with
    | write => exact write_works
    | _ => exact .refl w

theorem exec_looks (looking : looks s) (c : Call) (w : World) : Looked w ((site.controller trusted).exec s c w).1 := by
  show Looked w (site.exec trusted s c w).1
  unfold Site.exec
  split
  · exact perform_looks looking _ w
  · split
    · exact perform_looks looking c w
    · rw [spoil_looks looking]
      exact .refl w

/-- A call on a file that only looks changes nothing at all. -/
theorem exec_still {s : FileCall α} (looking : looks (.inr s : Act α)) (c : Call) (w : World) :
    ((site.controller trusted).exec (.inr s) c w).1 = w := by
  show (site.exec trusted (.inr s) c w).1 = w
  unfold Site.exec
  split
  · exact call_looks looking w
  · split
    · exact call_looks looking w
    · exact spoil_looks looking c w

theorem exec_works (working : works s) (c : Call) (w : World) : Worked w ((site.controller trusted).exec s c w).1 := by
  show Worked w (site.exec trusted s c w).1
  unfold Site.exec
  split
  · exact perform_works working _ w
  · split
    · exact perform_works working c w
    · exact spoil_works c w

end

/-! ### Procedures -/

/-- The procedure only looks. -/
def Looks {α : Type} (p : Files α) : Prop := Procedure.All (fun s => looks s) p

/-- The procedure looks, and works on the tree. -/
def Works {α : Type} (p : Files α) : Prop := Procedure.All (fun s => works s) p

section

variable {α β : Type} {site : Site} {host : Host} {grantId : String}

theorem works_of_looks {s : Act α} (looking : looks s) : works s := by
  cases s with
  | inl s => exact looking
  | inr s => rfl

theorem looks_bind {p : Files α} {k : α → Files β} (first : Looks p) (rest : ∀ a, Looks (k a)) : Looks (p >>= k) :=
  All.bind first rest

theorem works_bind {p : Files α} {k : α → Files β} (first : Works p) (rest : ∀ a, Works (k a)) : Works (p >>= k) :=
  All.bind first rest

theorem looks_attempt {p : Files α} (body : Looks p) : Looks (attempt p) := Program.All.bind body fun _ => trivial

theorem works_attempt {p : Files α} (body : Works p) : Works (attempt p) := Program.All.bind body fun _ => trivial

theorem looks_file {s : FileCall α} (looking : looks (.inr s)) : Looks (Files.file s) := all_ask looking

theorem works_file {s : FileCall α} : Works (Files.file s) := all_ask rfl

theorem looks_store {p : Store α} (checks : Checks p) : Looks (Files.store p) :=
  Program.All.interp_of checks fun _ known => all_ask known

theorem Looks.works {p : Files α} (looking : Looks p) : Works p := Program.All.mono (fun _ => works_of_looks) looking

theorem looks_expect {path digest : String} {e : Err} : Looks (Files.expect path digest e) :=
  looks_bind (looks_file rfl) fun _ => looks_bind (looks_file rfl) fun _ => looks_bind (all_lift _) fun _ => all_pure _

theorem looks_expectFiles {digest : FileRow → String} {e : Err} {files : List PlannedFile} :
    Looks (Files.expectFiles digest e files) := by
  induction files with
  | nil => exact all_pure _
  | cons planned rest ih => exact looks_bind looks_expect fun _ => ih

theorem looks_backUp {files : List PlannedFile} {taken : List Files.Backup} : Looks (Files.backUp files taken) := by
  induction files generalizing taken with
  | nil => exact all_pure _
  | cons planned rest ih =>
    refine looks_bind (looks_attempt looks_expect) fun read => ?_
    cases read
    · exact all_pure _
    · exact ih

theorem looks_verify {taken : List Files.Backup} : Looks (Files.verify site taken) := by
  induction taken with
  | nil => exact all_pure _
  | cons backup rest ih => exact looks_bind (looks_file rfl) fun _ => looks_bind ih fun _ => all_pure _

theorem looks_actualFiles {rows : List FileRow} : Looks (Files.actualFiles rows) := by
  induction rows with
  | nil => exact all_pure _
  | cons row rest ih =>
    exact looks_bind (looks_file rfl) fun _ => looks_bind (looks_file rfl) fun _ => looks_bind ih fun _ => all_pure _

theorem works_writeNew {x : Name} {content : Option Bytes} : Works (Files.writeNew x content) := by
  refine works_bind works_file fun descriptor => works_bind (works_attempt ?_) fun written => ?_
  · exact works_bind (all_lift _) fun _ => works_bind works_file fun _ => works_file
  · exact works_bind works_file fun _ => all_lift _

theorem works_perform {planned : PlannedFile} {x : Name} : Works (Files.perform grantId planned x) := by
  unfold Files.perform Files.prepare
  repeat' first
    | exact all_pure _
    | exact all_throw _
    | exact all_lift _
    | exact works_writeNew
    | exact works_file
    | refine works_bind ?_ fun _ => ?_
    | dsimp only
    | split

theorem works_changeFiles {files : List PlannedFile} : Works (Files.changeFiles grantId files) := by
  induction files with
  | nil => exact all_pure _
  | cons planned rest ih =>
    exact works_bind (looks_store checks_freshAuthority).works fun _ => works_bind looks_expect.works fun _ =>
      works_bind works_perform fun _ => works_bind works_file fun _ => works_bind (all_lift _) fun _ =>
        works_bind works_file fun _ => ih

theorem works_restore {backup : Files.Backup} : Works (Files.restore grantId backup) := by
  unfold Files.restore
  repeat' first
    | exact all_pure _
    | exact all_lift _
    | exact works_writeNew
    | exact works_file
    | refine works_bind ?_ fun _ => ?_
    | dsimp only
    | split

theorem works_restoreFiles {taken : List Files.Backup} : Works (Files.restoreFiles grantId taken) := by
  induction taken with
  | nil => exact all_pure _
  | cons backup rest ih => exact works_bind ih fun _ => works_restore

variable {trusted : {α : Type} → Act α → Bool} {w w' : World} {next : Pending Act}

theorem Looks.stops {p : Files α} (looking : Looks p) (stops : (site.controller trusted).Cut p w w' next) : Looked w w' :=
  stops.keeps (I := Looked w) (Program.All.mono (fun _ known c _ here => here.trans (exec_looks known c _)) looking) (.refl w)

theorem Works.stops {p : Files α} (working : Works p) (stops : (site.controller trusted).Cut p w w' next) : Worked w w' :=
  stops.keeps (I := Worked w) (Program.All.mono (fun _ known c _ here => here.trans (exec_works known c _)) working) (.refl w)

theorem Looks.ends {p : Files α} {r : Answer α} (looking : Looks p) (ends : (site.controller trusted).Ends p.run w w' r) :
    Looked w w' := looking.stops ends.stops

theorem Works.ends {p : Files α} {r : Answer α} (working : Works p) (ends : (site.controller trusted).Ends p.run w w' r) :
    Worked w w' := working.stops ends.stops

end

end ControlPlane.Autonomy
