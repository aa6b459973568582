import ControlPlane.Autonomy.FileSteps

/-!
# What `apply` touches

Each change that a call of `apply` makes to the tree, at whatever call it is interrupted,
is at a path of the plan or at the temporary file beside it, and comes after the grant
was consumed for just these paths.
-/

namespace ControlPlane.Autonomy

open Data Interleaving Procedure

/-- A path of the plan, or one of the two names beside it. -/
def Touched (grantId : String) (files : List PlannedFile) (y : Name) : Prop :=
  ∃ file ∈ files, y = file.name ∨ y = Files.beside file.name grantId "tmp" ∨ y = Files.beside file.name grantId "rollback"

section

variable {α : Type} {host : Host} {text : Text} {site : Site} {trusted : {α : Type} → Act α → Bool} {S : Name → Prop}
  {w w' : World} {steps : List FileStep} {grantId : String} {files : List PlannedFile} {taken : List Files.Backup} {x : Name}

theorem minds_all (resting : ∀ t ∈ steps, rests t.stmt) : ∀ t ∈ steps, Minds (site.controller trusted) S t :=
  fun t member => rests_minds (resting t member)

/-- What `_actual` accepts has no other name. -/
theorem sole_of_actual {t : Tree Name Bytes} {read : String × Option Bytes} (accepted : site.actual t x = .ok read) :
    t.Sole x := by
  unfold Site.actual at accepted
  split at accepted
  · rename_i absent
    exact Tree.sole_of_absent (Tree.seen_absent.mp absent)
  · rename_i content seen
    exact Tree.sole_of_seen seen
  · cases accepted

theorem trail_changeFiles {r : Answer Unit}
    (inside : ∀ file ∈ files, S file.name ∧ S (Files.beside file.name grantId "tmp"))
    (ran : (site.controller trusted).Trail (Files.changeFiles grantId files).run w steps w' r) :
    ∀ t ∈ steps, Minds (site.controller trusted) S t := by
  induction files generalizing w steps with
  | nil =>
    obtain ⟨rfl, _⟩ := Machine.trail_pure.mp ran
    exact List.forall_mem_nil _
  | cons planned rest ih =>
    obtain ⟨⟨target, aside⟩, later⟩ := List.forall_mem_cons.mp inside
    obtain ⟨_, resting, _⟩ | ⟨checks, w₁, _, steps, rfl, resting, _, _, ran⟩ := trail_rests_bind rests_store ran
    · exact minds_all resting
    refine List.forall_mem_append.mpr ⟨minds_all resting, ?_⟩
    obtain ⟨_, resting, _⟩ | ⟨looked, w₂, ⟨x, original⟩, steps, rfl, resting, _, expected, ran⟩ :=
      trail_rests_bind looks_expect.rests ran
    · exact minds_all resting
    refine List.forall_mem_append.mpr ⟨minds_all resting, ?_⟩
    obtain ⟨rfl, passed, seen⟩ := returns_expect expected
    have named : x = planned.name := (path_ok.mp passed).1
    subst named
    have sole : w₂.tree.Sole planned.name := sole_of_actual seen
    dsimp only at ran
    rw [Machine.trail_bind] at ran
    obtain ⟨e, rfl, raised⟩ | ⟨changed, w₃, _, steps, rfl, performed, ran⟩ := ran
    · exact (trail_perform target aside sole raised).1
    refine List.forall_mem_append.mpr ⟨(trail_perform target aside sole performed).1, ?_⟩
    obtain ⟨_, resting, _⟩ | ⟨looked, w₄, ⟨actual, _⟩, steps, rfl, resting, _, _, ran⟩ :=
      trail_rests_bind (looks_file rfl).rests ran
    · exact minds_all resting
    refine List.forall_mem_append.mpr ⟨minds_all resting, ?_⟩
    dsimp only at ran
    rw [Machine.trail_lift_bind] at ran
    obtain ⟨_, _, rfl, _⟩ | ⟨_, _, ran⟩ := ran
    · exact List.forall_mem_nil _
    obtain ⟨_, resting, _⟩ | ⟨hooked, w₅, _, steps, rfl, resting, _, _, ran⟩ := trail_rests_bind (looks_file rfl).rests ran
    · exact minds_all resting
    exact List.forall_mem_append.mpr ⟨minds_all resting, ih later ran⟩

/-- Renaming the new file over the old one, after a look at it. -/
theorem trail_putBack {T : Name} {t₀ : Tree Name Bytes} {r : Answer Unit} (appears : Appears T t₀ w.tree) (apart : T ≠ x)
    (target : S x) (inside : S T)
    (ran : (site.controller trusted).Trail (do
      if ← Files.file (.exists_ x) then
        let _ ← Files.file (.actual x)
      Files.file (.replace T x) : Files Unit).run w steps w' r) :
    (∀ t ∈ steps, Minds (site.controller trusted) S t) ∧
      (r = .ok () → ∃ node, w'.tree.names = Function.update t₀.names x node) := by
  have last (w₁ : World) (steps : List FileStep) (same : w₁.tree = w.tree) (own : w₁.tree.Own S x)
      (ran : (site.controller trusted).Trail (Files.file (.replace T x)).run w₁ steps w' r) :
      (∀ t ∈ steps, Minds (site.controller trusted) S t) ∧
        (r = .ok () → ∃ node, w'.tree.names = Function.update t₀.names x node) := by
    obtain ⟨minds, ⟨rfl, _, names⟩ | ⟨⟨e, rfl⟩, _⟩⟩ := trail_replace (same ▸ appears) target inside apart own ran
    · exact ⟨minds, fun _ => ⟨_, names⟩⟩
    · exact ⟨minds, fun impossible => by cases impossible⟩
  replace ran := trail_rests_bind (looks_file rfl).rests ran
  obtain ⟨⟨e, rfl⟩, resting, _⟩ | ⟨looked, w₁, present, steps, rfl, resting, tree, saw, ran⟩ := ran
  · exact ⟨minds_all resting, fun impossible => by cases impossible⟩
  obtain ⟨rfl, known⟩ := returns_exists saw
  dsimp only at ran
  split at ran
  · replace ran := trail_rests_bind (looks_file rfl).rests ran
    obtain ⟨⟨e, rfl⟩, resting', _⟩ | ⟨read, w₂, _, steps, rfl, resting', tree, actual, ran⟩ := ran
    · exact ⟨List.forall_mem_append.mpr ⟨minds_all resting, minds_all resting'⟩, fun impossible => by cases impossible⟩
    obtain ⟨rfl, seen⟩ := returns_actual actual
    obtain ⟨minds, names⟩ := last _ _ rfl ((sole_of_actual seen).own target) ran
    exact ⟨List.forall_mem_append.mpr ⟨minds_all resting, List.forall_mem_append.mpr ⟨minds_all resting', minds⟩⟩, names⟩
  · rename_i absent
    have none : w₁.tree.stat x = none := by
      rw [known, Option.not_isSome_iff_eq_none] at absent
      exact absent
    obtain ⟨minds, names⟩ := last _ _ rfl ((Tree.sole_of_absent none).own target) ran
    exact ⟨List.forall_mem_append.mpr ⟨minds_all resting, minds⟩, names⟩

/-- One file is put back under its own name. -/
theorem trail_restore {backup : Files.Backup} {r : Answer Unit} (target : S backup.name)
    (inside : S (Files.beside backup.name grantId "rollback"))
    (ran : (site.controller trusted).Trail (Files.restore grantId backup).run w steps w' r) :
    (∀ t ∈ steps, Minds (site.controller trusted) S t) ∧
      (r = .ok () → (∃ node, w'.tree.names = Function.update w.tree.names backup.name node) ∧
        site.path w backup.1 = .ok backup.name) := by
  have apart : Files.beside backup.name grantId "rollback" ≠ backup.name := beside_ne
  obtain ⟨path, original⟩ := backup
  generalize named : Files.Backup.name (path, original) = x at target inside apart ⊢
  simp only [Files.restore] at ran
  replace ran := trail_rests_bind (looks_file rfl).rests ran
  obtain ⟨⟨e, rfl⟩, resting, _⟩ | ⟨looked, w₁, y, steps, rfl, resting, _, passed, ran⟩ := ran
  · exact ⟨minds_all resting, fun impossible => by cases impossible⟩
  obtain ⟨rfl, passed⟩ := returns_path passed
  obtain rfl : x = y := named.symm.trans (path_ok.mp passed).1.symm
  cases original with
  | none =>
    dsimp only at ran
    replace ran := trail_rests_bind (looks_file rfl).rests ran
    obtain ⟨⟨e, rfl⟩, resting', _⟩ | ⟨checked, w₂, present, steps, rfl, resting', _, saw, ran⟩ := ran
    · exact ⟨List.forall_mem_append.mpr ⟨minds_all resting, minds_all resting'⟩, fun impossible => by cases impossible⟩
    obtain ⟨rfl, known⟩ := returns_exists saw
    split at ran
    · rename_i there
      have shared := (path_ok.mp passed).2.2.2.2.2.1
      have sole : w₂.tree.Sole x := by
        rw [known] at there
        obtain rfl := (path_ok.mp passed).1
        refine Tree.sole_of_unshared (shared.resolve_left fun none => ?_)
        rw [none] at there
        cases there
      replace ran := trail_file ran
      obtain ⟨c, rfl, executed⟩ := ran
      refine ⟨List.forall_mem_append.mpr ⟨minds_all resting, List.forall_mem_append.mpr ⟨minds_all resting',
        List.forall_mem_singleton.mpr (call_minds (s := .unlink x false) ⟨target, sole.own target⟩ c)⟩⟩, fun returned => ?_⟩
      obtain ⟨_, _, called⟩ | ⟨e, rfl, _⟩ := file_ran executed
      · simp only [Site.call, Bool.false_and, Bool.false_eq_true, ↓reduceIte] at called
        obtain ⟨tree, unlinked, rfl⟩ := returns_change called
        obtain ⟨rfl, _⟩ := Tree.unlink_ok unlinked
        exact ⟨⟨none, rfl⟩, passed⟩
      · cases returned
    · obtain ⟨rfl, rfl, rfl⟩ := Machine.trail_pure.mp ran
      refine ⟨List.forall_mem_append.mpr ⟨minds_all resting, List.forall_mem_append.mpr
        ⟨minds_all resting', List.forall_mem_nil _⟩⟩, fun _ => ⟨⟨w'.tree.names x, ?_⟩, passed⟩⟩
      rw [Function.update_eq_self]
  | some content =>
    dsimp only at ran
    replace ran := trail_rests_bind (looks_file rfl).rests ran
    obtain ⟨⟨e, rfl⟩, resting', _⟩ | ⟨checked, w₂, occupied, steps, rfl, resting', _, saw, ran⟩ := ran
    · exact ⟨List.forall_mem_append.mpr ⟨minds_all resting, minds_all resting'⟩, fun impossible => by cases impossible⟩
    obtain ⟨rfl, _⟩ := Prod.mk.inj (returns_file saw)
    rw [Machine.trail_lift_bind] at ran
    obtain ⟨_, _, rfl, rfl, rfl⟩ | ⟨_, _, ran⟩ := ran
    · refine ⟨?_, fun impossible => by cases impossible⟩
      rw [List.append_nil]
      exact List.forall_mem_append.mpr ⟨minds_all resting, minds_all resting'⟩
    rw [Machine.trail_bind] at ran
    obtain ⟨e, rfl, raised⟩ | ⟨written, w₃, _, steps, rfl, wrote, ran⟩ := ran
    · exact ⟨List.forall_mem_append.mpr ⟨minds_all resting, List.forall_mem_append.mpr ⟨minds_all resting',
        fun t member => ((trail_writeNew inside raised).1 t member).1⟩⟩, fun impossible => by cases impossible⟩
    obtain ⟨minds, ⟨⟨_, impossible⟩, _⟩ | ⟨appears, _⟩⟩ := trail_writeNew inside wrote
    · cases impossible
    obtain ⟨minds', names⟩ := trail_putBack appears apart target inside ran
    exact ⟨List.forall_mem_append.mpr ⟨minds_all resting, List.forall_mem_append.mpr ⟨minds_all resting',
      List.forall_mem_append.mpr ⟨fun t member => (minds t member).1, minds'⟩⟩⟩, fun returned => ⟨names returned, passed⟩⟩

/-- The files are put back under their own names. -/
theorem trail_restoreFiles {r : Answer Unit}
    (inside : ∀ backup ∈ taken, S backup.name ∧ S (Files.beside backup.name grantId "rollback"))
    (ran : (site.controller trusted).Trail (Files.restoreFiles grantId taken).run w steps w' r) :
    ∀ t ∈ steps, Minds (site.controller trusted) S t := by
  induction taken generalizing w' steps r with
  | nil =>
    obtain ⟨rfl, _⟩ := Machine.trail_pure.mp ran
    exact List.forall_mem_nil _
  | cons backup rest ih =>
    obtain ⟨⟨target, aside⟩, later⟩ := List.forall_mem_cons.mp inside
    rw [Files.restoreFiles, Machine.trail_bind] at ran
    obtain ⟨e, rfl, raised⟩ | ⟨earlier, w₁, _, steps, rfl, restored, ran⟩ := ran
    · exact ih later raised
    · exact List.forall_mem_append.mpr ⟨ih later restored, (trail_restore target aside ran).1⟩

/-- What the failure handler tries before it settles the transaction. -/
theorem trail_undo {plan : CanonicalPlan} {r : Answer Bool}
    (inside : ∀ backup ∈ taken, S backup.name ∧ S (Files.beside backup.name plan.grantId "rollback"))
    (ran : (site.controller trusted).Trail (do
      Files.file .hook
      let physical ← Files.store (ask (.physicalId site.workspace))
      lift (require (physical = site.workspace.physicalId) (.integrityBlocked "workspace changed before rollback"))
      Files.restoreFiles plan.grantId taken
      Files.verify site taken : Files Bool).run w steps w' r) :
    (∀ t ∈ steps, Minds (site.controller trusted) S t) ∧ (r = .ok true →
      ∃ w₁ w₂, w₁.tree = w.tree ∧ w'.tree = w₂.tree ∧
        (site.controller trusted).Returns (Files.restoreFiles plan.grantId taken) w₁ w₂ () ∧
        (site.controller trusted).Returns (Files.verify site taken) w₂ w' true) := by
  replace ran := trail_rests_bind (looks_file rfl).rests ran
  obtain ⟨⟨e, rfl⟩, resting, _⟩ | ⟨hooked, w₁, _, steps, rfl, resting, tree₁, _, ran⟩ := ran
  · exact ⟨minds_all resting, fun impossible => by cases impossible⟩
  replace ran := trail_rests_bind rests_store ran
  obtain ⟨⟨e, rfl⟩, resting', _⟩ | ⟨asked, w₂, physical, steps, rfl, resting', tree₂, _, ran⟩ := ran
  · exact ⟨List.forall_mem_append.mpr ⟨minds_all resting, minds_all resting'⟩, fun impossible => by cases impossible⟩
  rw [Machine.trail_lift_bind] at ran
  obtain ⟨_, _, rfl, rfl, rfl⟩ | ⟨_, _, ran⟩ := ran
  · refine ⟨?_, fun impossible => by cases impossible⟩
    rw [List.append_nil]
    exact List.forall_mem_append.mpr ⟨minds_all resting, minds_all resting'⟩
  rw [Machine.trail_bind] at ran
  obtain ⟨e, rfl, raised⟩ | ⟨restored, w₃, _, steps, rfl, put, ran⟩ := ran
  · exact ⟨List.forall_mem_append.mpr ⟨minds_all resting, List.forall_mem_append.mpr ⟨minds_all resting',
      trail_restoreFiles inside raised⟩⟩, fun impossible => by cases impossible⟩
  obtain ⟨tree, resting₃⟩ := trail_rests looks_verify.rests ran
  refine ⟨List.forall_mem_append.mpr ⟨minds_all resting, List.forall_mem_append.mpr ⟨minds_all resting',
    List.forall_mem_append.mpr ⟨trail_restoreFiles inside put, minds_all resting₃⟩⟩⟩, fun returned => ?_⟩
  subst returned
  exact ⟨w₂, w₃, tree₂.trans tree₁, tree, put.ends, ran.ends⟩

theorem trail_rollBack {plan : CanonicalPlan} {e : Err} {n : ℚ} {r : Answer TransactionRow}
    (inside : ∀ backup ∈ taken, S backup.name ∧ S (Files.beside backup.name plan.grantId "rollback"))
    (ran : (site.controller trusted).Trail (Files.rollBack site plan taken e n).run w steps w' r) :
    ∀ t ∈ steps, Minds (site.controller trusted) S t := by
  rw [Files.rollBack, Machine.trail_bind] at ran
  obtain ⟨e, rfl, raised⟩ | ⟨first, w₁, restored, rest, rfl, undone, ran⟩ := ran
  · obtain ⟨_, impossible, _⟩ := Machine.trail_attempt.mp raised
    cases impossible
  obtain ⟨_, same, undone⟩ := Machine.trail_attempt.mp undone
  cases same
  refine List.forall_mem_append.mpr ⟨(trail_undo inside undone).1, minds_all (trail_rests ?_ ran).2⟩
  dsimp only
  split
  · exact All.bind rests_store fun _ => all_throw _
  · exact All.bind rests_store fun _ => All.bind rests_store fun _ => all_throw _

/-- The ways that `apply` can go once its grant is consumed. -/
inductive Proceeded (host : Host) (site : Site) (trusted : {α : Type} → Act α → Bool) (plan : CanonicalPlan) (n : ℚ)
    (w w' : World) : List FileStep → Answer TransactionRow → Prop
  | idle {steps : List FileStep} {e : Err} (resting : ∀ t ∈ steps, rests t.stmt) (tree : w'.tree = w.tree) :
      Proceeded host site trusted plan n w w' steps (.error e)
  | undone {first last : List FileStep} {w₁ : World} {taken : List Files.Backup} {e : Err} {r : Answer TransactionRow}
      (resting : ∀ t ∈ first, rests t.stmt) (looked : Looked w w₁) (backed : BackedUp site w₁.tree plan.files taken)
      (ran : (site.controller trusted).Trail (Files.rollBack site plan taken e n).run w₁ last w' r) :
      Proceeded host site trusted plan n w w' (first ++ last) r
  | failed {first middle last : List FileStep} {w₁ w₂ : World} {taken : List Files.Backup} {e : Err} {r : Answer TransactionRow}
      (resting : ∀ t ∈ first, rests t.stmt) (looked : Looked w w₁) (backed : BackedUp site w₁.tree plan.files taken)
      (all : taken.map Prod.fst = plan.files.map fun file => file.row.path)
      (changed : (site.controller trusted).Trail (do
        Files.changeFiles plan.grantId plan.files
        Files.finish host plan : Files TransactionRow).run w₁ middle w₂ (.error e))
      (ran : (site.controller trusted).Trail (Files.rollBack site plan taken e n).run w₂ last w' r) :
      Proceeded host site trusted plan n w w' (first ++ (middle ++ last)) r
  | applied {first middle : List FileStep} {w₁ : World} {tx : TransactionRow} (resting : ∀ t ∈ first, rests t.stmt)
      (looked : Looked w w₁) (changed : (site.controller trusted).Trail (do
        Files.changeFiles plan.grantId plan.files
        Files.finish host plan : Files TransactionRow).run w₁ middle w' (.ok tx)) :
      Proceeded host site trusted plan n w w' (first ++ middle) (.ok tx)

theorem trail_abandon {plan : CanonicalPlan} {e : Err} {n : ℚ} {r : Answer TransactionRow}
    (ran : (site.controller trusted).Trail (Files.store (Execution.abandon plan.plan e n)).run w steps w' r) :
    (∃ e, r = .error e) ∧ (∀ t ∈ steps, rests t.stmt) ∧ w'.tree = w.tree := by
  obtain ⟨tree, resting⟩ := trail_rests rests_store ran
  refine ⟨?_, resting, tree⟩
  cases r with
  | error e => exact ⟨e, rfl⟩
  | ok tx =>
    have ends := ran.ends
    simp only [Execution.abandon, store_bind] at ends
    obtain ⟨w₁, found, _, ends⟩ := Machine.returns_bind.mp ends
    split at ends
    · rw [store_bind] at ends
      obtain ⟨_, _, _, impossible⟩ := Machine.returns_bind.mp ends
      exact absurd impossible Machine.returns_throw
    · exact absurd ends Machine.returns_throw

theorem trail_proceed {plan : CanonicalPlan} {n : ℚ} {r : Answer TransactionRow}
    (ran : (site.controller trusted).Trail (Files.proceed host site plan n).run w steps w' r) :
    Proceeded host site trusted plan n w w' steps r := by
  rw [Files.proceed, Machine.trail_bind] at ran
  obtain ⟨e, rfl, raised⟩ | ⟨first, w₁, opened, rest, rfl, tried, ran⟩ := ran
  · obtain ⟨_, impossible, _⟩ := Machine.trail_attempt.mp raised
    cases impossible
  have opening : Looks (attempt (do
      Files.file .hook
      Files.store (Execution.freshAuthority plan.grantId))) :=
    looks_attempt (looks_bind (looks_file rfl) fun _ => looks_store checks_freshAuthority)
  have looked := opening.ends tried.ends
  obtain ⟨_, resting⟩ := trail_rests opening.rests tried
  cases opened with
  | error e =>
    obtain ⟨⟨e, rfl⟩, resting', tree⟩ := trail_abandon ran
    exact .idle (List.forall_mem_append.mpr ⟨resting, resting'⟩) (tree.trans looked.tree)
  | ok authority =>
    dsimp only at ran
    rw [Machine.trail_bind] at ran
    obtain ⟨e, rfl, raised⟩ | ⟨second, w₂, ⟨taken, checked⟩, rest, rfl, saved, ran⟩ := ran
    · obtain ⟨_, _, _, impossible, _⟩ := ends_backUp raised.ends
      cases impossible
    obtain ⟨_, resting'⟩ := trail_rests looks_backUp.rests saved
    obtain ⟨rfl, new, _, same, backed, all⟩ := ends_backUp saved.ends
    cases same
    rw [← List.append_assoc]
    have resting := List.forall_mem_append.mpr ⟨resting, resting'⟩
    cases checked with
    | error e =>
      dsimp only at ran
      rw [Machine.trail_bind] at ran
      obtain ⟨e, rfl, _, _, impossible⟩ | ⟨_, _, applied, last, rfl, ⟨rfl, rfl, same⟩, ran⟩ := ran
      · cases impossible
      cases same
      rw [List.nil_append]
      dsimp only at ran
      split at ran
      · obtain ⟨⟨e, rfl⟩, resting', tree⟩ := trail_abandon ran
        exact .idle (List.forall_mem_append.mpr ⟨resting, resting'⟩) (tree.trans looked.tree)
      · exact .undone resting looked backed ran
    | ok u =>
      dsimp only at ran
      rw [Machine.trail_bind] at ran
      obtain ⟨e, rfl, raised⟩ | ⟨middle, w₃, applied, last, rfl, changed, ran⟩ := ran
      · obtain ⟨_, impossible, _⟩ := Machine.trail_attempt.mp raised
        cases impossible
      obtain ⟨_, same, changed⟩ := Machine.trail_attempt.mp changed
      cases same
      cases applied with
      | ok tx =>
        obtain ⟨rfl, rfl, rfl⟩ := Machine.trail_pure.mp ran
        rw [List.append_nil]
        exact .applied resting looked changed
      | error e =>
        dsimp only at ran
        split at ran
        · rename_i none
          have complete := all rfl
          rw [List.nil_append] at none
          rw [none] at complete
          exact absurd (List.map_eq_nil_iff.mp complete.symm) plan.nonempty
        · exact .failed resting looked backed (all rfl) changed ran

theorem rests_finish {plan : CanonicalPlan} : Procedure.All (fun s => rests s) (Files.finish host plan) :=
  All.bind rests_store fun _ => All.bind looks_expectFiles.rests fun _ => All.bind rests_store fun _ => rests_store

/-- The names that are backed up are names of the plan. -/
theorem BackedUp.touched {t : Tree Name Bytes} (backed : BackedUp site t files taken) :
    ∀ backup ∈ taken, Touched grantId files backup.name ∧ Touched grantId files (Files.beside backup.name grantId "rollback") := by
  intro backup member
  obtain ⟨rest, names⟩ := backed.names
  have known : backup.name ∈ files.map PlannedFile.name := by
    rw [← names]
    exact List.mem_append_left _ (List.mem_map_of_mem member)
  obtain ⟨file, planned, same⟩ := List.mem_map.mp known
  exact ⟨⟨file, planned, .inl same.symm⟩, file, planned, .inr (.inr (by rw [same]))⟩

/-- The operations and what follows them. -/
theorem minds_changes {plan : CanonicalPlan} {r : Answer TransactionRow}
    (inside : ∀ file ∈ plan.files, S file.name ∧ S (Files.beside file.name plan.grantId "tmp"))
    (ran : (site.controller trusted).Trail (do
      Files.changeFiles plan.grantId plan.files
      Files.finish host plan : Files TransactionRow).run w steps w' r) :
    ∀ t ∈ steps, Minds (site.controller trusted) S t := by
  rw [Machine.trail_bind] at ran
  obtain ⟨e, rfl, raised⟩ | ⟨changed, w₃, _, rest, rfl, done, ran⟩ := ran
  · exact trail_changeFiles inside raised
  · exact List.forall_mem_append.mpr ⟨trail_changeFiles inside done, minds_all (trail_rests rests_finish ran).2⟩

theorem Proceeded.minds {plan : CanonicalPlan} {n : ℚ} {r : Answer TransactionRow}
    (proceeded : Proceeded host site trusted plan n w w' steps r) :
    ∀ t ∈ steps, Minds (site.controller trusted) (Touched plan.grantId plan.files) t := by
  have inside : ∀ file ∈ plan.files, Touched plan.grantId plan.files file.name ∧
      Touched plan.grantId plan.files (Files.beside file.name plan.grantId "tmp") :=
    fun file member => ⟨⟨file, member, .inl rfl⟩, file, member, .inr (.inl rfl)⟩
  cases proceeded with
  | idle resting => exact minds_all resting
  | undone resting looked backed ran =>
    exact List.forall_mem_append.mpr ⟨minds_all resting, trail_rollBack backed.touched ran⟩
  | failed resting looked backed all changed ran =>
    exact List.forall_mem_append.mpr ⟨minds_all resting,
      List.forall_mem_append.mpr ⟨minds_changes inside changed, trail_rollBack backed.touched ran⟩⟩
  | applied resting looked changed => exact List.forall_mem_append.mpr ⟨minds_all resting, minds_changes inside changed⟩

/-- The step takes the grant from ISSUED to APPLYING. -/
def Applies (m : Machine Err Act Call World) (grantId : String) (t : FileStep) : Prop :=
  (∃ g, t.before.db.grants.find? grantId = some g ∧ g.state = .issued) ∧
    ∃ g, (m.after t).db.grants.find? grantId = some g ∧ g.state = .applying

/-- The grant is consumed for rows that it allows only. -/
theorem beginApply_scope {db db' : Db} {plan : Plan} {n : ℚ} {x : Input}
    (committed : beginApply plan n x db = .ok (db', .ok ())) :
    ∃ g, db.grants.find? plan.grantId = some g ∧ g.state = .issued ∧ g.allows plan.operations := by
  simp only [beginApply, require_bind_ok, found_bind_ok] at committed
  obtain ⟨grant, found, issued, committed⟩ := committed
  obtain ⟨lapsed, _, committed⟩ := bind_ok.mp committed
  split at committed
  · cases pure_ok.mp committed
  · obtain ⟨_, _, committed⟩ := bind_ok.mp committed
    obtain ⟨_, _, committed⟩ := bind_ok.mp committed
    simp only [require_bind_ok] at committed
    exact ⟨grant, found, issued, committed.2.1⟩

/-- A call of `apply`: it raises before it has consumed the grant, or goes on from there. -/
theorem trail_apply {plan : ExecutionPlan} {now : PyFloat} {r : Answer TransactionRow}
    (ran : (site.controller trusted).Trail (Files.apply host text site plan now).run w steps w' r) :
    ((∃ e, r = .error e) ∧ (∀ t ∈ steps, rests t.stmt) ∧ Unconsumed plan.grantId w w') ∨
      ∃ canonical n t rest g, canonicalPlan host text site.digest plan = .ok canonical ∧ steps = t :: rest ∧
        rests t.stmt ∧ t.before = w ∧ Begun site canonical w ((site.controller trusted).after t) ∧
        w.db.grants.find? canonical.grantId = some g ∧ g.state = .issued ∧ g.allows (canonical.files.map PlannedFile.row) ∧
        Proceeded host site trusted canonical n ((site.controller trusted).after t) w' rest r := by
  simp only [Files.apply, store_now, files_ask] at ran
  rw [Machine.trail_lift_bind] at ran
  obtain ⟨e, _, rfl, rfl, rfl⟩ | ⟨n, _, ran⟩ := ran
  · exact .inl ⟨⟨e, rfl⟩, List.forall_mem_nil _, (Looked.refl _).unconsumed⟩
  rw [Machine.trail_lift_bind] at ran
  obtain ⟨e, _, rfl, rfl, rfl⟩ | ⟨canonical, accepted, ran⟩ := ran
  · exact .inl ⟨⟨e, rfl⟩, List.forall_mem_nil _, (Looked.refl _).unconsumed⟩
  rw [Machine.trail_bind] at ran
  obtain ⟨e, rfl, raised⟩ | ⟨first, w₁, _, rest, rfl, began, ran⟩ := ran
  · obtain ⟨_, resting⟩ := trail_rests (all_ask rfl) raised
    rcases ends_beginApply raised.ends with ⟨_, unconsumed⟩ | ⟨impossible, _⟩
    · exact .inl ⟨⟨e, rfl⟩, resting, canonicalPlan_grantId accepted ▸ unconsumed⟩
    · cases impossible
  rcases ends_beginApply began.ends with ⟨⟨_, impossible⟩, _⟩ | ⟨_, begun⟩
  · cases impossible
  obtain ⟨x, committed, _⟩ := returns_stmt began.ends
  rw [perform, transaction_ok] at committed
  obtain ⟨g, found, issued, allows⟩ := beginApply_scope committed
  obtain ⟨c, rfl, executed⟩ := Machine.trail_ask.mp began
  have after : (site.controller trusted).after ⟨.inl (.beginApply canonical.plan n), c, w⟩ = w₁ := congrArg Prod.fst executed
  exact .inr ⟨canonical, n, _, rest, g, accepted, rfl, rfl, rfl, after ▸ begun, found, issued, allows, after ▸ trail_proceed ran⟩

/-- The step changes what the grant of the plan allows only, and an earlier one has consumed the grant. -/
def Authorized (host : Host) (text : Text) (site : Site) (m : Machine Err Act Call World) (plan : ExecutionPlan) (w : World)
    (earlier : List FileStep) (t : FileStep) : Prop :=
  ∃ canonical g, canonicalPlan host text site.digest plan = .ok canonical ∧
    w.db.grants.find? plan.grantId = some g ∧ g.allows (canonical.files.map PlannedFile.row) ∧
    (∀ file ∈ canonical.files, site.allowed file.row.path) ∧
    Tree.Within (Touched plan.grantId canonical.files) t.before.tree (m.after t).tree ∧
    ∃ u ∈ earlier, u.before = w ∧ Applies m plan.grantId u

/-- Every change that a call of `apply` makes is at a path of the plan or beside it, for a plan
within the scope of its grant, and none is made unless the grant was consumed. -/
theorem apply_touches {plan : ExecutionPlan} {now : PyFloat} {r : Answer TransactionRow}
    (ran : (site.controller trusted).Trail (Files.apply host text site plan now).run w steps w' r) :
    (∀ earlier t later, steps = earlier ++ t :: later → ((site.controller trusted).after t).tree ≠ t.before.tree →
        Authorized host text site (site.controller trusted) plan w earlier t) ∧
      ((∀ t ∈ steps, ¬ Applies (site.controller trusted) plan.grantId t) → w'.tree = w.tree) := by
  have authorized : ∀ earlier t later, steps = earlier ++ t :: later →
      ((site.controller trusted).after t).tree ≠ t.before.tree →
      Authorized host text site (site.controller trusted) plan w earlier t := by
    intro earlier t later split changed
    have still {u : FileStep} (resting : rests u.stmt) : ((site.controller trusted).after u).tree = u.before.tree :=
      rests_tree resting
    rcases trail_apply ran with ⟨_, resting, _⟩ | ⟨canonical, n, u, rest, g, accepted, rfl, resting, before, begun, found,
      issued, allows, proceeded⟩
    · exact absurd (still (resting t (by simp [split]))) changed
    have grantId := canonicalPlan_grantId accepted
    cases earlier with
    | nil =>
      obtain ⟨rfl, _⟩ := List.cons.inj split
      exact absurd (still resting) changed
    | cons v earlier =>
      obtain ⟨rfl, later⟩ := List.cons.inj split
      have member : t ∈ rest := later ▸ List.mem_append_right _ List.mem_cons_self
      have minds := proceeded.minds t member
      refine ⟨canonical, g, accepted, grantId ▸ found, allows, fun file member => ?_, grantId ▸ minds.within, u,
        List.mem_cons_self, before, ⟨g, ?_, issued⟩, ?_⟩
      · exact (path_ok.mp (begun.preimages file member).1).2.1
      · rw [before, ← grantId]
        exact found
      · obtain ⟨g', consumed, applying, _⟩ := begun.granted
        exact ⟨g', grantId ▸ consumed, applying⟩
  refine ⟨authorized, fun unconsumed => ?_⟩
  refine ran.keeps (I := fun u => u.tree = w.tree) (fun t member same => ?_) rfl
  obtain ⟨earlier, later, split⟩ := List.append_of_mem member
  by_contra changed
  obtain ⟨_, _, _, _, _, _, _, u, earlier, _, consumes⟩ := authorized _ t _ split fun same' => changed (same'.trans same)
  exact unconsumed u (by simp [split, earlier]) consumes

end

theorem apply_touches_undone : ∃ steps, (Disposable.site.controller settles).Trail
    (Files.apply RecoveredTooLate.host Disposable.text Disposable.site Disposable.plan (.fin 0)).run Disposable.granted
      steps Disposable.undone.1 Disposable.undone.2 ∧
    ∀ earlier t later, steps = earlier ++ t :: later →
      ((Disposable.site.controller settles).after t).tree ≠ t.before.tree →
      Authorized RecoveredTooLate.host Disposable.text Disposable.site (Disposable.site.controller settles) Disposable.plan
        Disposable.granted earlier t := by
  have ends : (Disposable.site.controller settles).Ends (Files.apply RecoveredTooLate.host Disposable.text Disposable.site
    Disposable.plan (.fin 0)).run Disposable.granted Disposable.undone.1 Disposable.undone.2 := Machine.ends_alone _
  obtain ⟨steps, ran⟩ := ends.trail
  exact ⟨steps, ran, (apply_touches ran).1⟩

end ControlPlane.Autonomy
