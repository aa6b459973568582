import ControlPlane.Autonomy.Confinement
import ControlPlane.Autonomy.PlanAcceptance

/-!
# What `apply` leaves behind

A temporary file that was created and neither put in place nor removed stays: the handler
puts the files of the plan back and knows of no other.
-/

namespace ControlPlane.Autonomy

open Data Interleaving Procedure

/-- `.<name>.<grant_id>.af03-tmp` or `.af03-rollback`, in any directory -/
def Temporary (grantId : String) (y : Name) : Prop :=
  ∃ way name suffix, (suffix = "tmp" ∨ suffix = "rollback") ∧ y = way ++ ["." ++ name ++ "." ++ grantId ++ ".af03-" ++ suffix]

/-! ### How a transaction fails -/

/-- A statement that can settle a transaction as FAILED. -/
def Stmt.fails {β : Type} : Stmt β → Bool
  | .terminalizeFailure _ state _ _ => state = .failed
  | .settleRecovery .. => true
  | _ => false

/-- A call that cannot settle a transaction as FAILED. -/
def spared {α : Type} : Act α → Bool
  | .inl s => !s.fails
  | .inr _ => true

section

variable {α β : Type} {host : Host} {text : Text} {site : Site} {trusted : {α : Type} → Act α → Bool}
  {w w' : World} {steps : List FileStep} {grantId : String} {db : Db}

theorem exec_unfailed {s : Stmt β} (other : s.fails = false) (x : Input) (db : Db) :
    db.transactions.Evolves (fun _ tx' => tx'.state ≠ .failed) (fun tx => tx.state ≠ .failed) (exec s x db).1.transactions := by
  rcases exec_effect s x db with same | ⟨_, effect⟩
  · rw [same]
    exact Table.evolves_refl
  generalize (exec s x db).1 = db' at effect
  cases effect with
  | beginApply _ _ _ inserted => exact Table.evolves_insert (Table.insert?_some inserted).2 fun impossible => by cases impossible
  | finishApply => exact Table.evolves_update rfl fun _ _ _ impossible => by cases impossible
  | terminalizeFailure => exact Table.evolves_update rfl fun _ _ _ failed => of_decide_eq_false other failed
  | settleRecovery => cases other
  | @start ack task worker lease n =>
    obtain ⟨audit, logged⟩ := foldl_log (startEvents ack worker) task n
      (db.updateTasks (TaskRow.heldBy task worker lease (· = .leased) n) (TaskRow.started n) fun _ => rfl)
    rw [logged]
    exact Table.evolves_refl
  | submitResult _ _ _ _ _ _ inserted =>
    obtain ⟨evidence, rfl, _⟩ := insertEvidence_ok inserted
    exact Table.evolves_refl
  | createTask inserted | ingestNew inserted =>
    obtain ⟨tasks, rfl, _⟩ := insertTask_ok inserted
    exact Table.evolves_refl
  | _ => exact Table.evolves_refl

theorem failed_before {s : Act α} {c : Call} (sparing : spared s)
    (failed : ((site.controller trusted).exec s c w).1.db.Transacted grantId .failed) : w.db.Transacted grantId .failed := by
  cases s with
  | inr s =>
    obtain ⟨tx, member, named, state⟩ := failed
    rw [(exec_works (s := .inr s) rfl c w).records.transactions] at member
    exact ⟨tx, member, named, state⟩
  | inl s =>
    have other : s.fails = false := by simpa [spared] using sparing
    have performed (x : Input) (failed : (exec s x w.db).1.Transacted grantId .failed) : w.db.Transacted grantId .failed := by
      obtain ⟨tx, member, named, state⟩ := failed
      rcases (exec_unfailed other x w.db).source member with ⟨tx', there, rfl | impossible⟩ | impossible
      · exact ⟨tx, there, named, state⟩
      · exact absurd state impossible
      · exact absurd state impossible
    change (site.exec trusted (.inl s) c w).1.db.Transacted grantId .failed at failed
    unfold Site.exec at failed
    split at failed
    · rw [perform_stmt] at failed
      exact performed _ failed
    · split at failed
      · rw [perform_stmt] at failed
        exact performed _ failed
      · exact failed

/-- A procedure that cannot fail the transaction. -/
def Spares (p : Files α) : Prop := Procedure.All (fun s => spared s) p

theorem Spares.ends {p : Files α} {r : Answer α} (sparing : Spares p) (ends : (site.controller trusted).Ends p.run w w' r)
    (failed : w'.db.Transacted grantId .failed) : w.db.Transacted grantId .failed := by
  by_contra unfailed
  refine ends.keeps (I := fun u => ¬ u.db.Transacted grantId .failed) ?_ unfailed failed
  exact Program.All.mono (fun s sparing c u before after => before (failed_before sparing after)) sparing

theorem Works.spares {p : Files α} (working : Works p) : Spares p := by
  refine Program.All.mono (fun s works => ?_) working
  cases s with
  | inr s => rfl
  | inl s => cases s <;> first | rfl | cases works

theorem spares_changes {plan : CanonicalPlan} : Spares (do
    Files.changeFiles plan.grantId plan.files
    Files.finish host plan : Files TransactionRow) := by
  refine All.bind works_changeFiles.spares fun _ => ?_
  refine All.bind (looks_store checks_freshAuthority).works.spares fun _ => All.bind looks_expectFiles.works.spares fun _ => ?_
  refine All.bind ?_ fun _ => ?_
  · exact all_ask rfl
  · exact (looks_store checks_transaction).works.spares

/-- A transaction that the handler fails was rolled back. -/
theorem rollBack_failed {plan : CanonicalPlan} {taken : List Files.Backup} {e : Err} {n : ℚ} {r : Answer TransactionRow}
    (ran : (site.controller trusted).Trail (Files.rollBack site plan taken e n).run w steps w' r)
    (unfailed : ¬ w.db.Transacted grantId .failed) (failed : w'.db.Transacted grantId .failed) :
    ∃ w₁ w₂ w₃, w₁.tree = w.tree ∧ w'.tree = w₂.tree ∧
      (site.controller trusted).Returns (Files.restoreFiles plan.grantId taken) w₁ w₂ () ∧
      (site.controller trusted).Returns (Files.verify site taken) w₂ w₃ true := by
  rw [Files.rollBack, Machine.trail_bind] at ran
  obtain ⟨e, rfl, raised⟩ | ⟨first, w₁, restored, rest, rfl, undone, ran⟩ := ran
  · obtain ⟨_, impossible, _⟩ := Machine.trail_attempt.mp raised
    cases impossible
  obtain ⟨_, same, undone⟩ := Machine.trail_attempt.mp undone
  cases same
  have body : Works (do
      Files.file .hook
      let physical ← Files.store (ask (.physicalId site.workspace))
      lift (require (physical = site.workspace.physicalId) (.integrityBlocked "workspace changed before rollback"))
      Files.restoreFiles plan.grantId taken
      Files.verify site taken : Files Bool) :=
    works_bind works_file fun _ => works_bind (all_ask rfl) fun _ => works_bind (all_lift _) fun _ =>
      works_bind works_restoreFiles fun _ => looks_verify.works
  have still : ¬ w₁.db.Transacted grantId .failed := fun early => unfailed (body.spares.ends undone.ends early)
  dsimp only at ran
  split at ran
  · rename_i returned
    subst returned
    obtain ⟨_, restored⟩ := @trail_undo site trusted (fun _ => True) _ _ _ _ _ _ (fun _ _ => ⟨trivial, trivial⟩) undone
    obtain ⟨w₂, w₃, tree₂, tree₃, put, verified⟩ := restored rfl
    have settling : Procedure.All (fun s => rests s) (do
        Files.store (ask (.terminalizeFailure plan.grantId .failed e.name n))
        throw e : Files TransactionRow) := All.bind rests_store fun _ => all_throw _
    exact ⟨w₂, w₃, w₁, tree₂, (trail_rests settling ran).1.trans tree₃, put, verified⟩
  · have sparing : Spares (do
        Files.store (ask (.blockWorkspace site.workspace.workspaceId "ROLLBACK_UNPROVABLE" n))
        Files.store (ask (.terminalizeFailure plan.grantId .integrityBlocked e.name n))
        throw e : Files TransactionRow) :=
      All.bind (all_ask rfl) fun _ => All.bind (all_ask rfl) fun _ => all_throw _
    exact absurd (sparing.ends ran.ends failed) still

/-! ### The names after the handler -/

/-- Every other name is what it was, and no file that was put back had two names. -/
theorem returns_restoreFiles_names {taken : List Files.Backup} (apart : (taken.map Files.Backup.name).Nodup)
    (returned : (site.controller trusted).Returns (Files.restoreFiles grantId taken) w w' ()) :
    (∀ y, y ∉ taken.map Files.Backup.name → w'.tree.names y = w.tree.names y) ∧
      ∀ y, y ∉ taken.map Files.Backup.name → ∀ backup ∈ taken, ∀ i, w.tree.names y = some (.file i) →
        w.tree.names backup.name ≠ some (.file i) := by
  induction taken generalizing w' with
  | nil =>
    obtain ⟨rfl, _⟩ := Machine.returns_pure.mp returned
    exact ⟨fun _ _ => rfl, fun _ _ backup member => absurd member List.not_mem_nil⟩
  | cons backup rest ih =>
    obtain ⟨w₁, _, earlier, last⟩ := Machine.returns_bind.mp returned
    rw [List.map_cons, List.nodup_cons] at apart
    obtain ⟨others, single⟩ := ih apart.2 earlier
    obtain ⟨_, ran⟩ := Machine.Ends.trail last
    obtain ⟨⟨node, names⟩, passed⟩ := (@trail_restore site trusted (fun _ => True) _ _ _ _ _ _ trivial trivial ran).2 rfl
    have outside : ∀ y, y ∉ (backup :: rest).map Files.Backup.name → y ≠ backup.name ∧ y ∉ rest.map Files.Backup.name := by
      intro y outside
      rwa [List.map_cons, List.mem_cons, not_or] at outside
    constructor
    · intro y elsewhere
      obtain ⟨other, elsewhere⟩ := outside y elsewhere
      rw [names, Function.update_of_ne other, others y elsewhere]
    · intro y elsewhere other member i named
      obtain ⟨different, elsewhere⟩ := outside y elsewhere
      rcases List.mem_cons.mp member with rfl | later
      · intro shared
        obtain ⟨_, _, _, _, _, unshared, _⟩ := path_ok.mp passed
        have here : w₁.tree.names other.name = some (.file i) := (others _ apart.1).trans shared
        have there : w₁.tree.names y = some (.file i) := (others _ (fun later => elsewhere (List.mem_cons_of_mem _ later))).trans named
        rcases unshared with absent | unshared
        · cases (Tree.stat_file here).symm.trans absent
        · exact Tree.not_unshared here there different unshared
      · exact single y elsewhere other later i named

/-! ### The names beside a file -/

theorem beside_temporary {x : Name} : Temporary grantId (Files.beside x grantId "tmp") :=
  ⟨x.dropLast, x.getLastD "", "tmp", .inl rfl, rfl⟩

theorem beside_inj {x y : Name} {suffix : String} (solid : x ≠ []) (solid' : y ≠ [])
    (same : Files.beside x grantId suffix = Files.beside y grantId suffix) : x = y := by
  obtain ⟨way, last⟩ := List.append_inj' same rfl
  have text := congrArg String.toList (List.singleton_inj.mp last)
  simp only [String.toList_append, List.append_assoc, List.append_cancel_left_eq] at text
  have name : x.getLastD "" = y.getLastD "" := by
    rw [← String.toList_inj]
    exact List.append_cancel_right text
  rw [List.getLastD_eq_getLast?, List.getLastD_eq_getLast?, List.getLast?_eq_some_getLast solid,
    List.getLast?_eq_some_getLast solid'] at name
  rw [← List.dropLast_append_getLast solid, ← List.dropLast_append_getLast solid', way]
  exact congrArg (fun last => y.dropLast ++ [last]) name

theorem beside_apart {x y : Name} : Files.beside x grantId "tmp" ≠ Files.beside y grantId "rollback" := by
  intro same
  obtain ⟨_, last⟩ := List.append_inj' same rfl
  have text := congrArg (fun s => s.toList.getLast?) (List.singleton_inj.mp last)
  simp only [String.toList_append] at text
  rw [List.getLast?_append_of_ne_nil _ (by decide), List.getLast?_append_of_ne_nil _ (by decide)] at text
  exact absurd text (by decide)

/-! ### The names while the files change -/

/-- How a name that is no file of the plan can stand when the operations are over. -/
inductive Strays (m : Machine Err Act Call World) (grantId : String) (files : List PlannedFile) (steps : List FileStep)
    (t t' : Tree Name Bytes) (y : Name) : Prop
  | same (names : t'.names y = t.names y) (clear : ¬ Left m steps y)
  | aside (free : t.names y = none) (there : t'.names y ≠ none) (left : Left m steps y)
      (beside : ∃ file ∈ files, y = Files.beside file.name grantId "tmp")
  | twice {file : PlannedFile} {i : Nat} (member : file ∈ files) (named : t'.names y = some (.file i))
      (shared : t'.names file.name = some (.file i)) (clear : ¬ Left m steps y)

theorem trail_within {S : Name → Prop} {r : α} {p : Program Err Act α} (ran : (site.controller trusted).Trail p w steps w' r)
    (minds : ∀ t ∈ steps, Minds (site.controller trusted) S t) : Tree.Within S w.tree w'.tree :=
  ran.keeps (I := fun u => Tree.Within S w.tree u.tree) (fun t member here => here.trans (minds t member).within) (.refl _)

theorem strays_perform {planned : PlannedFile} {r : Answer Unit} {y : Name} {m : Machine Err Act Call World}
    (performed : Performed m planned planned.name (Files.beside planned.name grantId "tmp") steps w.tree w'.tree r)
    (minds : ∀ t ∈ steps, Minds m (fun z => z = planned.name ∨ z = Files.beside planned.name grantId "tmp") t)
    (within : Tree.Within (fun z => z = planned.name ∨ z = Files.beside planned.name grantId "tmp") w.tree w'.tree)
    (outside : y ≠ planned.name) : Strays m grantId [planned] steps w.tree w'.tree y := by
  by_cases temporary : y = Files.beside planned.name grantId "tmp"
  · subst temporary
    cases performed with
    | done node names clear => exact .same (by rw [names, Function.update_of_ne outside]) clear
    | gone names clear => exact .same (by rw [names]) clear
    | aside appears left =>
      obtain ⟨i, named⟩ := appears.named
      refine .aside appears.1 ?_ left ⟨planned, List.mem_singleton.mpr rfl, rfl⟩
      rw [named]
      exact Option.some_ne_none _
    | twice free same named clear =>
      obtain ⟨i, named⟩ := named
      exact .twice (List.mem_singleton.mpr rfl) named (same.trans named) clear
  · have apart := minds_apart minds (y := y) (not_or.mpr ⟨outside, temporary⟩)
    exact .same (within.same y (not_or.mpr ⟨outside, temporary⟩)).1 (not_left fun t member => (apart t member).1)

theorem Strays.behind {m : Machine Err Act Call World} {before : List FileStep} {t t₁ t' : Tree Name Bytes} {y : Name}
    {files' : List PlannedFile} (strays : Strays m grantId files steps t₁ t' y) (wider : ∀ file ∈ files, file ∈ files')
    (quiet : ∀ u ∈ before, opened u.stmt ≠ some y ∧ cleared u.stmt ≠ some y) (same : t₁.names y = t.names y) :
    Strays m grantId files' (before ++ steps) t t' y := by
  cases strays with
  | same names clear => exact .same (names.trans same) (mt (left_append_right quiet).mp clear)
  | aside free there left beside =>
    obtain ⟨file, member, beside⟩ := beside
    exact .aside (same ▸ free) there ((left_append_right quiet).mpr left) ⟨file, wider file member, beside⟩
  | twice member named shared clear => exact .twice (wider _ member) named shared (mt (left_append_right quiet).mp clear)

theorem Strays.wider {m : Machine Err Act Call World} {t t' : Tree Name Bytes} {y : Name} {files' : List PlannedFile}
    (strays : Strays m grantId files steps t t' y) (wider : ∀ file ∈ files, file ∈ files') : Strays m grantId files' steps t t' y :=
  have none : ∀ u ∈ ([] : List FileStep), opened u.stmt ≠ some y ∧ cleared u.stmt ≠ some y := List.forall_mem_nil _
  strays.behind wider none rfl

/-- The same, with what holds if all operations were carried out. -/
structure Strayed (m : Machine Err Act Call World) (grantId : String) (files : List PlannedFile) (steps : List FileStep)
    (t t' : Tree Name Bytes) (y : Name) (r : Answer Unit) : Prop where
  strays : Strays m grantId files steps t t' y
  kept : r = .ok () → t'.names y = t.names y ∧ ¬ Left m steps y

theorem Strayed.behind {m : Machine Err Act Call World} {before : List FileStep} {t t₁ t' : Tree Name Bytes} {y : Name}
    {files' : List PlannedFile} {r : Answer Unit} (strayed : Strayed m grantId files steps t₁ t' y r)
    (wider : ∀ file ∈ files, file ∈ files') (quiet : ∀ u ∈ before, opened u.stmt ≠ some y ∧ cleared u.stmt ≠ some y)
    (same : t₁.names y = t.names y) : Strayed m grantId files' (before ++ steps) t t' y r := by
  refine ⟨strayed.strays.behind wider quiet same, fun returned => ?_⟩
  obtain ⟨names, clear⟩ := strayed.kept returned
  exact ⟨names.trans same, mt (left_append_right quiet).mp clear⟩

theorem strayed_rests {m : Machine Err Act Call World} {t t' : Tree Name Bytes} {y : Name} {r : Answer Unit}
    (resting : ∀ u ∈ steps, rests u.stmt) (tree : t' = t) : Strayed m grantId files steps t t' y r := by
  have clear : ¬ Left m steps y := not_left fun u member => (rests_apart resting u member).1
  exact ⟨.same (by rw [tree]) clear, fun _ => ⟨by rw [tree], clear⟩⟩

/-- A name that is no file of the plan, once the operations are over. -/
theorem trail_changeFiles_strays {r : Answer Unit} {y : Name} (apart : (files.map PlannedFile.name).Nodup)
    (solid : ∀ file ∈ files, file.name ≠ []) (outside : y ∉ files.map PlannedFile.name)
    (ran : (site.controller trusted).Trail (Files.changeFiles grantId files).run w steps w' r) :
    Strayed (site.controller trusted) grantId files steps w.tree w'.tree y r := by
  induction files generalizing w steps with
  | nil =>
    obtain ⟨rfl, rfl, _⟩ := Machine.trail_pure.mp ran
    exact strayed_rests (List.forall_mem_nil _) rfl
  | cons planned rest ih =>
    rw [List.map_cons, List.nodup_cons] at apart
    rw [List.map_cons, List.mem_cons, not_or] at outside
    obtain ⟨other, elsewhere⟩ := outside
    obtain ⟨solid', solidRest⟩ := List.forall_mem_cons.mp solid
    have behind {before steps : List FileStep} {w₁ w₂ : World} (resting : ∀ u ∈ before, rests u.stmt) (tree : w₂.tree = w₁.tree)
        (strayed : Strayed (site.controller trusted) grantId (planned :: rest) steps w₂.tree w'.tree y r) :
        Strayed (site.controller trusted) grantId (planned :: rest) (before ++ steps) w₁.tree w'.tree y r :=
      strayed.behind (fun _ => id) (rests_apart resting) (by rw [tree])
    obtain ⟨_, resting, tree⟩ | ⟨checks, w₁, _, steps, rfl, resting, tree, _, ran⟩ := trail_rests_bind rests_store ran
    · exact strayed_rests resting tree
    refine behind resting tree ?_
    obtain ⟨_, resting, tree⟩ | ⟨looked, w₂, ⟨x, original⟩, steps, rfl, resting, tree, expected, ran⟩ :=
      trail_rests_bind looks_expect.rests ran
    · exact strayed_rests resting tree
    refine behind resting tree ?_
    obtain ⟨rfl, passed, seen⟩ := returns_expect expected
    obtain rfl : x = planned.name := (path_ok.mp passed).1
    have sole : w₂.tree.Sole planned.name := sole_of_actual seen
    have performing {steps : List FileStep} {w₃ : World} {r : Answer Unit}
        (ran : (site.controller trusted).Trail (Files.perform grantId planned planned.name).run w₂ steps w₃ r) :=
      trail_perform (S := fun z => z = planned.name ∨ z = Files.beside planned.name grantId "tmp") (.inl rfl) (.inr rfl) sole ran
    dsimp only at ran
    rw [Machine.trail_bind] at ran
    obtain ⟨e, rfl, raised⟩ | ⟨changed, w₃, _, steps, rfl, returned, ran⟩ := ran
    · obtain ⟨minds, performed⟩ := performing raised
      have strays := strays_perform performed minds (trail_within raised minds) other
      exact ⟨strays.wider (by simp), fun impossible => by cases impossible⟩
    obtain ⟨minds, performed⟩ := performing returned
    obtain ⟨later, strayed⟩ : (∀ t ∈ steps, Minds (site.controller trusted)
          (fun z => ∃ file ∈ rest, z = file.name ∨ z = Files.beside file.name grantId "tmp") t) ∧
        Strayed (site.controller trusted) grantId rest steps w₃.tree w'.tree y r := by
      obtain ⟨_, resting, tree⟩ | ⟨looked, w₄, ⟨actual, _⟩, steps, rfl, resting, tree, _, ran⟩ :=
        trail_rests_bind (looks_file rfl).rests ran
      · exact ⟨minds_all resting, strayed_rests resting tree⟩
      dsimp only at ran
      rw [Machine.trail_lift_bind] at ran
      obtain ⟨_, _, rfl, tree', rfl⟩ | ⟨_, _, ran⟩ := ran
      · rw [List.append_nil]
        exact ⟨minds_all resting, strayed_rests resting (tree' ▸ tree)⟩
      obtain ⟨_, resting', tree'⟩ | ⟨hooked, w₅, _, steps, rfl, resting', tree', _, ran⟩ := trail_rests_bind (looks_file rfl).rests ran
      · exact ⟨minds_all (List.forall_mem_append.mpr ⟨resting, resting'⟩),
          strayed_rests (List.forall_mem_append.mpr ⟨resting, resting'⟩) (tree'.trans tree)⟩
      have minds := trail_changeFiles (S := fun z => ∃ file ∈ rest, z = file.name ∨ z = Files.beside file.name grantId "tmp")
        (fun file member => ⟨⟨file, member, .inl rfl⟩, file, member, .inr rfl⟩) ran
      refine ⟨List.forall_mem_append.mpr ⟨minds_all resting, List.forall_mem_append.mpr ⟨minds_all resting', minds⟩⟩, ?_⟩
      rw [← List.append_assoc]
      refine (ih apart.2 solidRest elsewhere ran).behind (fun _ => id)
        (rests_apart (List.forall_mem_append.mpr ⟨resting, resting'⟩)) (by rw [tree', tree])
    by_cases temporary : y = Files.beside planned.name grantId "tmp"
    · subst temporary
      cases performed with
      | done node names clear =>
        have outside : ¬ ∃ file ∈ rest, Files.beside planned.name grantId "tmp" = file.name ∨
            Files.beside planned.name grantId "tmp" = Files.beside file.name grantId "tmp" := by
          rintro ⟨file, member, same | same⟩
          · exact elsewhere (same ▸ List.mem_map_of_mem member)
          · exact apart.1 (beside_inj solid' (solidRest file member) same ▸ List.mem_map_of_mem member)
        have kept : w'.tree.names (Files.beside planned.name grantId "tmp") =
            w₂.tree.names (Files.beside planned.name grantId "tmp") := by
          rw [((trail_within ran later).same _ outside).1, names, Function.update_of_ne other]
        have clear' := mt (left_append_left (minds_apart later outside)).mp clear
        exact ⟨.same kept clear', fun _ => ⟨kept, clear'⟩⟩
    · have quiet := minds_apart minds (y := y) (not_or.mpr ⟨other, temporary⟩)
      exact strayed.behind (fun file => List.mem_cons_of_mem _) quiet ((trail_within returned minds).same y (not_or.mpr ⟨other, temporary⟩)).1

/-- What was planned of a file that was carried out. -/
theorem trail_changeFiles_files (apart : (files.map PlannedFile.name).Nodup)
    (ran : (site.controller trusted).Trail (Files.changeFiles grantId files).run w steps w' (.ok ())) :
    ∀ file ∈ files, (file.row.operation = some .delete ∨ file.content.isSome) ∧
      (file.row.operation = some .create → w.tree.names file.name = none) := by
  induction files generalizing w steps with
  | nil => exact List.forall_mem_nil _
  | cons planned rest ih =>
    rw [List.map_cons, List.nodup_cons] at apart
    obtain ⟨⟨_, impossible⟩, _⟩ | ⟨checks, w₁, _, steps, rfl, _, tree₁, _, ran⟩ := trail_rests_bind rests_store ran
    · cases impossible
    obtain ⟨⟨_, impossible⟩, _⟩ | ⟨looked, w₂, ⟨x, original⟩, steps, rfl, _, tree₂, expected, ran⟩ :=
      trail_rests_bind looks_expect.rests ran
    · cases impossible
    obtain ⟨rfl, passed, seen⟩ := returns_expect expected
    obtain rfl : x = planned.name := (path_ok.mp passed).1
    dsimp only at ran
    rw [Machine.trail_bind] at ran
    obtain ⟨_, impossible, _⟩ | ⟨changed, w₃, _, steps, rfl, returned, ran⟩ := ran
    · cases impossible
    have sole : w₂.tree.Sole planned.name := sole_of_actual seen
    obtain ⟨_, performed⟩ := trail_perform (S := fun _ => True) trivial trivial sole returned
    obtain ⟨⟨_, impossible⟩, _⟩ | ⟨read, w₄, _, steps, rfl, _, tree₄, _, ran⟩ := trail_rests_bind (looks_file rfl).rests ran
    · cases impossible
    rw [Machine.trail_lift_bind] at ran
    obtain ⟨_, _, _, _, impossible⟩ | ⟨_, _, ran⟩ := ran
    · cases impossible
    obtain ⟨⟨_, impossible⟩, _⟩ | ⟨hooked, w₅, _, steps, rfl, _, tree₅, _, ran⟩ := trail_rests_bind (looks_file rfl).rests ran
    · cases impossible
    cases performed with
    | done node names clear has fresh =>
      refine List.forall_mem_cons.mpr ⟨⟨has, fun create => ?_⟩, fun file member => ?_⟩
      · rw [← tree₁]
        exact fresh create
      · obtain ⟨has, fresh⟩ := ih apart.2 ran file member
        refine ⟨has, fun create => ?_⟩
        have other : file.name ≠ planned.name := fun same => apart.1 (same ▸ List.mem_map_of_mem member)
        rw [← tree₁, ← fresh create, tree₅, tree₄, names, Function.update_of_ne other]

/-! ### What the plan says of its files -/

theorem canonicalFile_kinds {text : Text} {digest : Bytes → String} {item : FileOperation} {path : String} {file : PlannedFile}
    (accepted : canonicalFile text digest item path = .ok file) :
    (file.row.operation = some .replace ∨ file.row.operation = some .delete → isDigest file.row.preimage) ∧
      (file.content.isSome → (file.row.operation = some .create ∨ file.row.operation = some .replace) ∧
        isDigest file.row.postimage) := by
  simp only [canonicalFile, require_bind_ok] at accepted
  obtain ⟨_, digested, accepted⟩ := accepted
  split at accepted
  · rename_i kinds
    simp only [found_bind_ok, require_bind_ok, pure_ok] at accepted
    obtain ⟨_, _, images, rfl⟩ := accepted
    exact ⟨digested, fun _ => ⟨kinds, images.1⟩⟩
  · simp only [require_bind_ok, pure_ok] at accepted
    obtain ⟨_, rfl⟩ := accepted
    exact ⟨digested, fun impossible => by cases impossible⟩

theorem planned_file {text : Text} {digest : Bytes → String} {items : List FileOperation}
    (planned : List.Forall₂ (Plans text digest) items files) : ∀ file ∈ files, ∃ item, Plans text digest item file := by
  induction planned with
  | nil => exact List.forall_mem_nil _
  | cons here _ ih => exact List.forall_mem_cons.mpr ⟨⟨_, here⟩, ih⟩

theorem canonicalPlan_file {plan : ExecutionPlan} {digest : Bytes → String} {canonical : CanonicalPlan}
    (accepted : canonicalPlan host text digest plan = .ok canonical) {file : PlannedFile} (member : file ∈ canonical.files) :
    ∃ item path, canonicalFile text digest item path = .ok file := by
  obtain ⟨_, files, planned, _, _, _, sorted⟩ := canonicalPlan_ok.mp accepted
  rw [sorted] at member
  obtain ⟨each, _⟩ := canonicalFiles_iff.mp planned
  obtain ⟨item, path, _, planned⟩ := planned_file each file (byPath_perm.mem_iff.mp member)
  exact ⟨item, path, planned⟩

theorem digest_ne_absent {image : String} (digest : isDigest image) : image ≠ "ABSENT" := by
  rintro rfl
  exact absurd digest (by decide)

/-! ### After the handler -/

theorem actual_absent {t : Tree Name Bytes} {x : Name} {original : Option Bytes} (absent : site.actual t x = .ok ("ABSENT", original)) :
    t.stat x = none := by
  unfold Site.actual at absent
  split at absent
  · rename_i seen
    exact Tree.seen_absent.mp seen
  · obtain ⟨digest, _⟩ := Prod.mk.inj (Except.ok.inj absent)
    exact absurd digest (site.digest_ne_absent _)
  · cases absent

theorem actual_free {t : Tree Name Bytes} {x : Name} (free : t.names x = none) : site.actual t x = .ok ("ABSENT", none) := by
  unfold Site.actual
  rw [Tree.seen_absent.mpr (Tree.stat_none free)]

/-- A name that leads nowhere is free, or a link. -/
theorem free_of_absent {t : Tree Name Bytes} {x : Name} (absent : t.stat x = none) (plain : ∀ target, t.names x ≠ some (.symlink target)) :
    t.names x = none := by
  cases named : t.names x with
  | none => rfl
  | some node =>
    cases node with
    | symlink target => exact absurd named (plain target)
    | _ => simp [Tree.stat, Tree.follow, named] at absent

/-- Where nothing was backed up nothing is put back. -/
theorem restored_free {taken : List Files.Backup} {t : Tree Name Bytes} {y : Name} (backed : BackedUp site t files taken)
    (verified : (site.controller trusted).Returns (Files.verify site taken) w w' true)
    (links : ∀ target, w.tree.names y = some (.symlink target) → t.names y = some (.symlink target))
    (member : y ∈ taken.map Files.Backup.name) (free : t.names y = none) : w.tree.names y = none := by
  obtain ⟨backup, inside, rfl⟩ := List.mem_map.mp member
  obtain ⟨digest, read⟩ := backed.originals backup inside
  obtain ⟨_, same⟩ := Prod.mk.inj (Except.ok.inj ((actual_free free).symm.trans read))
  obtain ⟨original, seen⟩ := (returns_verify verified).2 backup inside
  rw [← same] at seen
  refine free_of_absent (actual_absent seen) fun target link => ?_
  rw [links target link] at free
  cases free

theorem rollBack_raises {plan : CanonicalPlan} {taken : List Files.Backup} {e : Err} {n : ℚ} {r : Answer TransactionRow}
    (ran : (site.controller trusted).Trail (Files.rollBack site plan taken e n).run w steps w' r) : ∃ e, r = .error e := by
  cases r with
  | error e => exact ⟨e, rfl⟩
  | ok tx =>
    obtain ⟨_, _, _, last⟩ := Machine.returns_bind.mp ran.ends
    dsimp only at last
    split at last
    · obtain ⟨_, _, _, impossible⟩ := Machine.returns_bind.mp last
      exact absurd impossible Machine.returns_throw
    · obtain ⟨_, _, _, later⟩ := Machine.returns_bind.mp last
      obtain ⟨_, _, _, impossible⟩ := Machine.returns_bind.mp later
      exact absurd impossible Machine.returns_throw

/-- The handler opens no temporary file of the operations but one that is a file of the plan. -/
theorem rollBack_quiet {plan : CanonicalPlan} {taken : List Files.Backup} {e : Err} {n : ℚ} {r : Answer TransactionRow} {x : Name}
    (ran : (site.controller trusted).Trail (Files.rollBack site plan taken e n).run w steps w' r)
    (outside : Files.beside x plan.grantId "tmp" ∉ taken.map Files.Backup.name) :
    ∀ t ∈ steps, opened t.stmt ≠ some (Files.beside x plan.grantId "tmp") ∧ cleared t.stmt ≠ some (Files.beside x plan.grantId "tmp") := by
  refine minds_apart (trail_rollBack (S := fun z => ∃ backup ∈ taken, z = backup.name ∨ z = Files.beside backup.name plan.grantId "rollback")
    (fun backup member => ⟨⟨backup, member, .inl rfl⟩, backup, member, .inr rfl⟩) ran) ?_
  rintro ⟨backup, member, same | same⟩
  · exact outside (same ▸ List.mem_map_of_mem member)
  · exact beside_apart same

theorem returns_finish_files {plan : CanonicalPlan} {tx : TransactionRow}
    (returned : (site.controller trusted).Returns (Files.finish host plan) w w' tx) :
    ∀ file ∈ plan.files, ∃ content, site.actual w'.tree file.name = .ok (file.row.postimage, content) := by
  have tree : w'.tree = w.tree := by
    obtain ⟨steps, ran⟩ := Machine.Ends.trail returned
    exact (trail_rests rests_finish ran).1
  obtain ⟨w₁, ⟨grant, _, finalNow⟩, fresh, later⟩ := Machine.returns_bind.mp returned
  obtain ⟨w₂, _, checked, _⟩ := Machine.returns_bind.mp later
  obtain ⟨_, files⟩ := returns_expectFiles checked
  rw [tree, ← ((looks_store checks_freshAuthority).ends fresh).tree]
  exact files

/-! ### The whole call -/

/-- No temporary file that was not there before. -/
def Clear (grantId : String) (t t' : Tree Name Bytes) : Prop :=
  ∀ y, Temporary grantId y → t.names y = none → t'.names y = none

/-- A temporary file that is still aside is put back as a file of the plan. -/
def Covered (m : Machine Err Act Call World) (plan : CanonicalPlan) (steps : List FileStep) : Prop :=
  ∀ file ∈ plan.files, Left m steps (Files.beside file.name plan.grantId "tmp") →
    ∃ other ∈ plan.files, other.name = Files.beside file.name plan.grantId "tmp"

/-- The plan makes no file with the name of a temporary one. -/
def Unlike (plan : CanonicalPlan) : Prop :=
  ∀ file ∈ plan.files, file.row.operation = some .create → ¬ Temporary plan.grantId file.name

variable {plan : CanonicalPlan} {taken : List Files.Backup} {e : Err} {n : ℚ} {r : Answer TransactionRow} {tx : TransactionRow}
  {first middle last : List FileStep} {w₁ w₂ : World}

theorem strays_changes {y : Name} (solid : ∀ file ∈ plan.files, file.name ≠ []) (outside : y ∉ plan.files.map PlannedFile.name)
    (ran : (site.controller trusted).Trail (do
      Files.changeFiles plan.grantId plan.files
      Files.finish host plan : Files TransactionRow).run w steps w' r) :
    Strays (site.controller trusted) plan.grantId plan.files steps w.tree w'.tree y := by
  rw [Machine.trail_bind] at ran
  obtain ⟨e, rfl, raised⟩ | ⟨first, w₁, _, rest, rfl, returned, ran⟩ := ran
  · exact (trail_changeFiles_strays plan.apart solid outside raised).strays
  · obtain ⟨tree, resting⟩ := trail_rests rests_finish ran
    obtain ⟨names, clear⟩ := (trail_changeFiles_strays plan.apart solid outside returned).kept rfl
    exact .same (tree ▸ names) (mt (left_append_left (rests_apart resting)).mp clear)

/-- What the names are once the handler has put the files back. -/
structure Handled (taken : List Files.Backup) (t t₁ t' : Tree Name Bytes) : Prop where
  others : ∀ y, y ∉ taken.map Files.Backup.name → t'.names y = t₁.names y
  single : ∀ y, y ∉ taken.map Files.Backup.name → ∀ backup ∈ taken, ∀ i, t₁.names y = some (.file i) →
    t₁.names backup.name ≠ some (.file i)
  free : ∀ y, y ∈ taken.map Files.Backup.name → t.names y = none → t'.names y = none

theorem rollBack_handled {t : Tree Name Bytes} (backed : BackedUp site t plan.files taken) (within : Tree.Within (fun _ => True) t w.tree)
    (unfailed : ¬ w.db.Transacted plan.grantId .failed) (failed : w'.db.Transacted plan.grantId .failed)
    (ran : (site.controller trusted).Trail (Files.rollBack site plan taken e n).run w steps w' r) : Handled taken t w.tree w'.tree := by
  obtain ⟨w₁, w₂, w₃, tree₁, tree₂, put, verified⟩ := rollBack_failed ran unfailed failed
  have apart : (taken.map Files.Backup.name).Nodup := by
    obtain ⟨rest, names⟩ := backed.names
    exact (List.nodup_append.mp (names ▸ plan.apart)).1
  obtain ⟨others, single⟩ := returns_restoreFiles_names apart put
  have minds := trail_rollBack (S := fun _ => True) (fun _ _ => ⟨trivial, trivial⟩) ran
  rw [tree₁] at others single
  refine ⟨tree₂ ▸ others, single, fun y member free => ?_⟩
  rw [tree₂]
  refine restored_free backed verified (fun target link => ?_) member free
  rw [← tree₂] at link
  exact (within.trans (trail_within ran minds)).links y target link

theorem mem_names_of_taken {t : Tree Name Bytes} {y : Name} (backed : BackedUp site t files taken) (member : y ∈ taken.map Files.Backup.name) :
    y ∈ files.map PlannedFile.name := by
  obtain ⟨rest, names⟩ := backed.names
  exact names ▸ List.mem_append_left _ member

theorem covered_iff {m : Machine Err Act Call World} : Covered m plan steps ↔ ∀ file ∈ plan.files,
    Left m steps (Files.beside file.name plan.grantId "tmp") → Files.beside file.name plan.grantId "tmp" ∈ plan.files.map PlannedFile.name := by
  simp only [Covered, List.mem_map]

/-- What is left of operations that failed. -/
theorem clear_failed (all : taken.map Files.Backup.name = plan.files.map PlannedFile.name)
    (strays : ∀ y, y ∉ plan.files.map PlannedFile.name → Strays (site.controller trusted) plan.grantId plan.files steps w.tree w₁.tree y)
    (handled : Handled taken w.tree w₁.tree w'.tree)
    (ran : (site.controller trusted).Trail (Files.rollBack site plan taken e n).run w₁ last w' r) :
    Clear plan.grantId w.tree w'.tree ↔ Covered (site.controller trusted) plan (steps ++ last) := by
  have quiet {x : Name} (outside : Files.beside x plan.grantId "tmp" ∉ plan.files.map PlannedFile.name) :
      Left (site.controller trusted) (steps ++ last) (Files.beside x plan.grantId "tmp") ↔
        Left (site.controller trusted) steps (Files.beside x plan.grantId "tmp") :=
    left_append_left (rollBack_quiet ran (all ▸ outside))
  rw [covered_iff]
  constructor
  · intro clear file member left
    by_contra outside
    cases strays _ outside with
    | same _ clear' => exact clear' ((quiet outside).mp left)
    | aside free there _ _ =>
      refine there ?_
      rw [← handled.others _ (all ▸ outside)]
      exact clear _ beside_temporary free
    | twice _ _ _ clear' => exact clear' ((quiet outside).mp left)
  · intro covered y _ free
    by_cases inside : y ∈ plan.files.map PlannedFile.name
    · exact handled.free y (all ▸ inside) free
    rw [handled.others y (all ▸ inside)]
    cases strays y inside with
    | same names _ => exact names.trans free
    | aside _ _ left beside =>
      obtain ⟨file, member, rfl⟩ := beside
      exact absurd (covered file member ((quiet inside).mpr left)) inside
    | @twice file i member named shared _ =>
      obtain ⟨backup, taken', same⟩ := List.mem_map.mp (all ▸ List.mem_map_of_mem member)
      exact absurd (same ▸ shared) (handled.single y (all ▸ inside) backup taken' i named)

/-- Nothing is left where no operation was begun. -/
theorem clear_undone (backed : BackedUp site w.tree plan.files taken) (resting : ∀ t ∈ steps, rests t.stmt)
    (handled : Handled taken w.tree w.tree w'.tree)
    (ran : (site.controller trusted).Trail (Files.rollBack site plan taken e n).run w last w' r) :
    Clear plan.grantId w.tree w'.tree ∧ Covered (site.controller trusted) plan (steps ++ last) := by
  constructor
  · intro y _ free
    by_cases inside : y ∈ taken.map Files.Backup.name
    · exact handled.free y inside free
    · rw [handled.others y inside, free]
  · refine covered_iff.mpr fun file member left => ?_
    by_contra outside
    have quiet := rollBack_quiet ran fun inside => outside (mem_names_of_taken backed inside)
    exact not_left (fun t member => (rests_apart resting t member).1) ((left_append_left quiet).mp left)

/-- What is left when the plan is carried out. -/
theorem clear_applied {digest : Bytes → String} (kinds : ∀ file ∈ plan.files, ∃ item path, canonicalFile text digest item path = .ok file)
    (preimages : ∀ file ∈ plan.files, ∃ content, site.actual w.tree file.name = .ok (file.row.preimage, content))
    (solid : ∀ file ∈ plan.files, file.name ≠ [])
    (ran : (site.controller trusted).Trail (do
      Files.changeFiles plan.grantId plan.files
      Files.finish host plan : Files TransactionRow).run w steps w' (.ok tx)) :
    Clear plan.grantId w.tree w'.tree ↔ Unlike plan := by
  rw [Machine.trail_bind] at ran
  obtain ⟨_, impossible, _⟩ | ⟨first, w₁, _, rest, rfl, changed, finished⟩ := ran
  · cases impossible
  have achieved := returns_finish_files finished.ends
  have tree := (trail_rests rests_finish finished).1
  have carried := trail_changeFiles_files plan.apart changed
  constructor
  · intro clear file member create temporary
    obtain ⟨has, fresh⟩ := carried file member
    obtain ⟨item, path, planned⟩ := kinds file member
    have content : file.content.isSome := has.resolve_left fun delete => by
      rw [create] at delete
      cases delete
    obtain ⟨_, digested⟩ := (canonicalFile_kinds planned).2 content
    obtain ⟨_, seen⟩ := achieved file member
    rw [actual_free (clear _ temporary (fresh create))] at seen
    exact digest_ne_absent digested (Prod.mk.inj (Except.ok.inj seen)).1.symm
  · intro unlike y temporary free
    by_cases inside : y ∈ plan.files.map PlannedFile.name
    · obtain ⟨file, member, rfl⟩ := List.mem_map.mp inside
      obtain ⟨has, _⟩ := carried file member
      obtain ⟨item, path, planned⟩ := kinds file member
      obtain ⟨digested, contents⟩ := canonicalFile_kinds planned
      obtain ⟨_, seen⟩ := preimages file member
      rw [actual_free free] at seen
      have absent : file.row.preimage = "ABSENT" := (Prod.mk.inj (Except.ok.inj seen)).1.symm
      rcases has with delete | content
      · exact absurd absent (digest_ne_absent (digested (.inr delete)))
      rcases (contents content).1 with create | replace
      · exact absurd temporary (unlike file member create)
      · exact absurd absent (digest_ne_absent (digested (.inl replace)))
    · rw [tree, ((trail_changeFiles_strays plan.apart solid inside changed).kept rfl).1, free]

theorem Begun.unfailed {plan : CanonicalPlan} (begun : Begun site plan w w₁) : ¬ w₁.db.Transacted plan.grantId .failed := by
  rintro ⟨tx, member, named, failed⟩
  obtain ⟨tx', recorded, applying, _⟩ := begun.recorded
  obtain ⟨there, named'⟩ := Table.find?_some.mp recorded
  rw [Table.eq_of_key member there (named.trans named'.symm), applying] at failed
  cases failed

theorem Looked.unfailed (looked : Looked w w₁) (unfailed : ¬ w.db.Transacted grantId .failed) : ¬ w₁.db.Transacted grantId .failed := by
  rintro ⟨tx, member, named, failed⟩
  rw [looked.records.transactions] at member
  exact unfailed ⟨tx, member, named, failed⟩

theorem covered_behind {m : Machine Err Act Call World} (resting : ∀ t ∈ first, rests t.stmt) :
    Covered m plan (first ++ steps) ↔ Covered m plan steps :=
  forall₂_congr fun _ _ => by rw [left_append_right (rests_apart resting)]

theorem not_ok : ¬ ∃ tx, (.error e : Answer TransactionRow) = .ok tx := by
  rintro ⟨_, impossible⟩
  cases impossible

/-- What is left when the call is over, from the moment its grant was consumed. -/
theorem Proceeded.residue {digest : Bytes → String} (proceeded : Proceeded host site trusted plan n w w' steps r)
    (kinds : ∀ file ∈ plan.files, ∃ item path, canonicalFile text digest item path = .ok file)
    (preimages : ∀ file ∈ plan.files, ∃ content, site.actual w.tree file.name = .ok (file.row.preimage, content))
    (solid : ∀ file ∈ plan.files, file.name ≠ []) (unfailed : ¬ w.db.Transacted plan.grantId .failed)
    (ended : (∃ tx, r = .ok tx) ∨ w'.db.Transacted plan.grantId .failed) :
    Clear plan.grantId w.tree w'.tree ↔
      ((∃ tx, r = .ok tx) → Unlike plan) ∧ ((∃ e, r = .error e) → Covered (site.controller trusted) plan steps) := by
  cases proceeded with
  | idle resting tree =>
    refine iff_of_true (fun y _ free => tree ▸ free) ⟨fun returned => (not_ok returned).elim, fun _ file member left => ?_⟩
    exact absurd left (not_left fun t member => (rests_apart resting t member).1)
  | @undone first last w₁ taken e r resting looked backed ran =>
    obtain ⟨e', rfl⟩ := rollBack_raises ran
    have failed := ended.resolve_left not_ok
    have handled := rollBack_handled backed (.refl _) (looked.unfailed unfailed) failed ran
    rw [← looked.tree]
    obtain ⟨clear, covered⟩ := clear_undone backed resting handled ran
    exact iff_of_true clear ⟨fun returned => (not_ok returned).elim, fun _ => covered⟩
  | @failed first middle last w₁ w₂ taken e r resting looked backed all changed ran =>
    obtain ⟨e', rfl⟩ := rollBack_raises ran
    have failed := ended.resolve_left not_ok
    have unfailed₁ := looked.unfailed unfailed
    have unfailed₂ : ¬ w₂.db.Transacted plan.grantId .failed := fun early => unfailed₁ (spares_changes.ends changed.ends early)
    have within := trail_within changed (minds_changes (S := fun _ => True) (fun _ _ => ⟨trivial, trivial⟩) changed)
    have handled := rollBack_handled backed within unfailed₂ failed ran
    have names : taken.map Files.Backup.name = plan.files.map PlannedFile.name := by
      have parts := congrArg (List.map pathParts) all
      rwa [List.map_map, List.map_map] at parts
    have strays (y : Name) (outside : y ∉ plan.files.map PlannedFile.name) := strays_changes solid outside changed
    have residue := clear_failed names strays handled ran
    rw [← looked.tree, residue, ← covered_behind resting]
    exact ⟨fun covered => ⟨fun returned => (not_ok returned).elim, fun _ => covered⟩, fun both => both.2 ⟨e', rfl⟩⟩
  | @applied first middle w₁ tx resting looked changed =>
    rw [← looked.tree] at preimages ⊢
    rw [clear_applied kinds preimages solid changed]
    refine ⟨fun unlike => ⟨fun _ => unlike, fun raised => ?_⟩, fun both => both.1 ⟨tx, rfl⟩⟩
    obtain ⟨_, impossible⟩ := raised
    cases impossible

/-- When the call has returned, or its transaction has failed, it leaves no temporary file behind iff each one
it created was put in place or removed again (or lay at a path of the plan). -/
theorem apply_residue_iff {plan : ExecutionPlan} {canonical : CanonicalPlan} {now : PyFloat}
    (ran : (site.controller trusted).Trail (Files.apply host text site plan now).run w steps w' r)
    (accepted : canonicalPlan host text site.digest plan = .ok canonical)
    (ended : (∃ tx, r = .ok tx) ∨ w'.db.Transacted plan.grantId .failed) :
    Clear plan.grantId w.tree w'.tree ↔
      ((∃ tx, r = .ok tx) → Unlike canonical) ∧ ((∃ e, r = .error e) → Covered (site.controller trusted) canonical steps) := by
  rcases trail_apply ran with ⟨⟨e, rfl⟩, resting, unconsumed⟩ | ⟨canonical', n, t, rest, g, accepted', rfl, resting, before, begun, _,
    _, _, proceeded⟩
  · refine iff_of_true (fun y _ free => unconsumed.tree ▸ free) ⟨fun returned => (not_ok returned).elim, fun _ file member left => ?_⟩
    exact absurd left (not_left fun t member => (rests_apart resting t member).1)
  obtain rfl := Except.ok.inj (accepted'.symm.trans accepted)
  have grantId := canonicalPlan_grantId accepted
  rw [← grantId] at ended ⊢
  have alone : ∀ u ∈ [t], rests u.stmt := List.forall_mem_singleton.mpr resting
  rw [← List.singleton_append, covered_behind alone, ← begun.tree]
  refine proceeded.residue (fun file member => canonicalPlan_file accepted member) (fun file member => ?_) (fun file member => ?_)
    begun.unfailed ended
  · rw [begun.tree]
    exact (begun.preimages file member).2
  · exact (path_ok.mp (begun.preimages file member).1).2.2.2.2.2.2.2

end

/-- Both files were changed, and both are put back. -/
theorem apply_residue_undone : ∃ steps canonical, (Disposable.site.controller settles).Trail
    (Files.apply RecoveredTooLate.host Disposable.text Disposable.site Disposable.plan (.fin 0)).run Disposable.granted
      steps Disposable.undone.1 Disposable.undone.2 ∧
    canonicalPlan RecoveredTooLate.host Disposable.text Disposable.site.digest Disposable.plan = .ok canonical ∧
    Disposable.undone.1.db.Transacted Disposable.plan.grantId .failed ∧
    (Clear Disposable.plan.grantId Disposable.granted.tree Disposable.undone.1.tree ↔
      ((∃ tx, Disposable.undone.2 = .ok tx) → Unlike canonical) ∧
        ((∃ e, Disposable.undone.2 = .error e) → Covered (Disposable.site.controller settles) canonical steps)) := by
  have ends : (Disposable.site.controller settles).Ends (Files.apply RecoveredTooLate.host Disposable.text Disposable.site
    Disposable.plan (.fin 0)).run Disposable.granted Disposable.undone.1 Disposable.undone.2 := Machine.ends_alone _
  obtain ⟨steps, ran⟩ := ends.trail
  have failed : Disposable.undone.1.db.Transacted Disposable.plan.grantId .failed := by decide +kernel
  have planned : (canonicalPlan RecoveredTooLate.host Disposable.text Disposable.site.digest Disposable.plan).isOk = true := by
    decide
  cases accepted : canonicalPlan RecoveredTooLate.host Disposable.text Disposable.site.digest Disposable.plan with
  | error e =>
    rw [accepted] at planned
    cases planned
  | ok canonical => exact ⟨steps, canonical, ran, rfl, failed, apply_residue_iff ran accepted (.inr failed)⟩

namespace Disposable

/-- The first temporary file cannot be written to. -/
def unwritten : World × Answer TransactionRow :=
  applied (List.replicate 28 fine ++ [{ fault := some (.other "OSError") }] ++ List.replicate 60 fine)

end Disposable

theorem apply_residue_unwritten : (Disposable.site.controller settles).Ends
      (Files.apply RecoveredTooLate.host Disposable.text Disposable.site Disposable.plan (.fin 0)).run Disposable.granted
      Disposable.unwritten.1 Disposable.unwritten.2 ∧
    Disposable.unwritten.1.db.Transacted Disposable.plan.grantId .failed ∧
    Temporary Disposable.plan.grantId [".a.txt.twsleaselab0uuid.af03-tmp"] ∧
    Disposable.granted.tree.names [".a.txt.twsleaselab0uuid.af03-tmp"] = none ∧
    (Disposable.unwritten.1.tree.names [".a.txt.twsleaselab0uuid.af03-tmp"]).isSome := by
  refine ⟨Machine.ends_alone _, by decide +kernel, ⟨[], "a.txt", "tmp", .inl rfl, ?_⟩, by decide +kernel, by decide +kernel⟩
  decide +kernel

end ControlPlane.Autonomy
