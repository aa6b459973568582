import ControlPlane.Autonomy.AllOrNothing

/-!
# The plans that are accepted

`canonical_plan` accepts the well-formed plans, and those that have operations of other kinds
beside them.
-/

namespace ControlPlane.Autonomy

open Data

/-- What is asked of an operation. -/
inductive WellFormedOperation (text : Text) (digest : Bytes → String) (item : FileOperation) : Prop
  | create {content : Bytes} (kind : item.operation = "CREATE") (pre : canonicalImage text item.expectedPreimage = "ABSENT")
      (bytes : item.content = some content) (post : canonicalImage text item.desiredPostimage = digest content)
  | replace {content : Bytes} (kind : item.operation = "REPLACE") (pre : isDigest (canonicalImage text item.expectedPreimage) = true)
      (bytes : item.content = some content) (post : canonicalImage text item.desiredPostimage = digest content)
  | delete (kind : item.operation = "DELETE") (pre : isDigest (canonicalImage text item.expectedPreimage) = true)
      (bytes : item.content = none) (post : canonicalImage text item.desiredPostimage = "ABSENT")

/-- An operation of another kind that nothing refuses. -/
structure Stray (text : Text) (item : FileOperation) : Prop where
  kind : Operation.ofWord item.operation = none
  bytes : item.content = none
  post : canonicalImage text item.desiredPostimage = "ABSENT"

/-- The name under which the path of an operation is compared. -/
def FileOperation.folded (text : Text) (item : FileOperation) : String :=
  text.casefold (text.nfc (asPosix (pathParts item.path)))

/-- A plan whose operations all have `each`, within the limits and without collisions. -/
structure PlanOf (text : Text) (each : FileOperation → Prop) (plan : ExecutionPlan) : Prop where
  size : 1 ≤ plan.operations.length ∧ plan.operations.length ≤ maxPlanFiles
  operations : ∀ item ∈ plan.operations, each item
  paths : ∀ item ∈ plan.operations, ∃ path, normalizedRelative text item.path = .ok path
  distinct : (plan.operations.map (FileOperation.folded text)).Nodup
  bytes : (plan.operations.map fun item => (item.content.getD []).length).sum ≤ maxPlanBytes

def WellFormedPlan (text : Text) (digest : Bytes → String) (plan : ExecutionPlan) : Prop :=
  PlanOf text (WellFormedOperation text digest) plan

/-- `canonical_plan` returns. -/
def AcceptsPlan (host : Host) (text : Text) (digest : Bytes → String) (plan : ExecutionPlan) : Prop :=
  ∃ canonical, canonicalPlan host text digest plan = .ok canonical

/-- An operation and the file it becomes. -/
def Plans (text : Text) (digest : Bytes → String) (item : FileOperation) (file : PlannedFile) : Prop :=
  ∃ path, normalizedRelative text item.path = .ok path ∧ canonicalFile text digest item path = .ok file

section

variable {host : Host} {text : Text} {digest : Bytes → String} {item : FileOperation} {items : List FileOperation} {seen : List String}
  {file : PlannedFile} {files : List PlannedFile} {path : String} {plan : ExecutionPlan} {canonical : CanonicalPlan}

theorem ofWord_some {word : String} {operation : Operation} :
    Operation.ofWord word = some operation ↔ word = Operation.word (some operation) := by
  constructor
  · intro known
    unfold Operation.ofWord at known
    split_ifs at known with create replace delete <;> cases known
    · exact create
    · exact replace
    · exact delete
  · rintro rfl
    cases operation <;> decide

theorem Plans.normalized (plans : Plans text digest item file) : file.row.path = asPosix (pathParts item.path) := by
  obtain ⟨path, normalized, planned⟩ := plans
  rw [canonicalFile_path planned, normalizedRelative_ok normalized]

theorem Plans.folded (plans : Plans text digest item file) : collides text file = item.folded text := by
  rw [collides, plans.normalized, FileOperation.folded]

theorem canonicalFiles_iff : canonicalFiles text digest items seen = .ok files ↔
    List.Forall₂ (Plans text digest) items files ∧ (items.map (FileOperation.folded text)).Nodup ∧
      ∀ item ∈ items, item.folded text ∉ seen := by
  induction items generalizing seen files with
  | nil =>
    constructor
    · intro accepted
      cases accepted
      exact ⟨.nil, .nil, by simp⟩
    · rintro ⟨planned, -, -⟩
      cases planned
      rfl
  | cons item rest ih =>
    simp only [canonicalFiles, bind_ok, require_ok, pure_ok, exists_const, ih, List.map_cons, List.nodup_cons, List.mem_map,
      List.mem_cons, forall_eq_or_imp, not_exists, not_and, not_or]
    constructor
    · rintro ⟨path, normalized, fresh, file, planned, later, ⟨rest, distinct, unseen⟩, rfl⟩
      have plans : Plans text digest item file := ⟨path, normalized, planned⟩
      rw [normalizedRelative_ok normalized] at fresh unseen
      refine ⟨.cons plans rest, ⟨fun other member => ?_, distinct⟩, fresh, fun other member => ?_⟩
      · exact (unseen other member).1
      · exact (unseen other member).2
    · rintro ⟨planned, ⟨apart, distinct⟩, fresh, unseen⟩
      cases planned with
      | @cons _ file _ later plans rest =>
        obtain ⟨path, normalized, planned⟩ := plans
        have named := normalizedRelative_ok normalized
        refine ⟨path, normalized, ?_, file, planned, later, ⟨rest, distinct, fun other member => ?_⟩, rfl⟩
        · rw [named]
          exact fresh
        · rw [named]
          exact ⟨apart other member, unseen other member⟩

/-- What an accepted operation is. -/
theorem canonicalFile_accepts (hex : ∀ content, isDigest (digest content) = true) :
    (∃ file, canonicalFile text digest item path = .ok file) ↔ WellFormedOperation text digest item ∨ Stray text item := by
  have posted {content : Bytes} : isDigest (canonicalImage text item.desiredPostimage) = true ∧
      canonicalImage text item.desiredPostimage = digest content ↔ canonicalImage text item.desiredPostimage = digest content := by
    constructor
    · exact fun post => post.2
    · exact fun post => ⟨post ▸ hex content, post⟩
  unfold canonicalFile
  cases kind : Operation.ofWord item.operation with
  | none =>
    simp only [require_bind_ok, pure_ok, reduceCtorEq, false_imp_iff, or_self, if_false, true_and, exists_and_left, exists_eq', and_true]
    constructor
    · exact fun passed => .inr ⟨kind, passed.1, passed.2⟩
    · rintro (well | stray)
      · cases well with
        | create known => rw [known] at kind; cases kind
        | replace known => rw [known] at kind; cases kind
        | delete known => rw [known] at kind; cases kind
      · exact ⟨stray.bytes, stray.post⟩
  | some operation =>
    have known := ofWord_some.mp kind
    have regular : ¬ Stray text item := fun stray => Option.some_ne_none _ (kind.symm.trans stray.kind)
    rw [or_iff_left regular]
    cases operation with
    | create =>
      simp only [require_bind_ok, found_bind_ok, pure_ok, posted, Option.some.injEq, reduceCtorEq, true_imp_iff, or_self, false_imp_iff,
        true_or, if_true, true_and]
      constructor
      · rintro ⟨_, pre, content, bytes, post, -⟩
        exact .create known pre bytes post
      · intro well
        cases well with
        | create _ pre bytes post => exact ⟨_, pre, _, bytes, post, rfl⟩
        | replace other => exact absurd (known.symm.trans other) (by decide)
        | delete other => exact absurd (known.symm.trans other) (by decide)
    | replace =>
      simp only [require_bind_ok, found_bind_ok, pure_ok, posted, Option.some.injEq, reduceCtorEq, true_imp_iff, false_imp_iff, or_true,
        or_false, if_true, true_and]
      constructor
      · rintro ⟨_, pre, content, bytes, post, -⟩
        exact .replace known pre bytes post
      · intro well
        cases well with
        | create other => exact absurd (known.symm.trans other) (by decide)
        | replace _ pre bytes post => exact ⟨_, pre, _, bytes, post, rfl⟩
        | delete other => exact absurd (known.symm.trans other) (by decide)
    | delete =>
      simp only [require_bind_ok, pure_ok, Option.some.injEq, reduceCtorEq, true_imp_iff, false_imp_iff, or_self, or_true, if_false, true_and]
      constructor
      · rintro ⟨_, pre, images, -⟩
        exact .delete known pre images.1 images.2
      · intro well
        cases well with
        | create other => exact absurd (known.symm.trans other) (by decide)
        | replace other => exact absurd (known.symm.trans other) (by decide)
        | delete _ pre bytes post => exact ⟨_, pre, ⟨bytes, post⟩, rfl⟩

/-- A planned file has the content of its operation. -/
theorem canonicalFile_content (planned : canonicalFile text digest item path = .ok file) : file.content = item.content := by
  simp only [canonicalFile, require_bind_ok] at planned
  obtain ⟨-, -, planned⟩ := planned
  split at planned
  · simp only [found_bind_ok, require_bind_ok, pure_ok] at planned
    obtain ⟨content, bytes, -, rfl⟩ := planned
    exact bytes.symm
  · simp only [require_bind_ok, pure_ok] at planned
    obtain ⟨absent, rfl⟩ := planned
    exact absent.1.symm

theorem exists_planned : (∃ files, List.Forall₂ (Plans text digest) items files) ↔ ∀ item ∈ items, ∃ file, Plans text digest item file := by
  induction items with
  | nil => exact iff_of_true ⟨[], .nil⟩ (by simp)
  | cons item rest ih =>
    rw [List.forall_mem_cons, ← ih]
    constructor
    · rintro ⟨files, planned⟩
      cases planned with
      | cons first later => exact ⟨⟨_, first⟩, _, later⟩
    · rintro ⟨⟨file, first⟩, files, later⟩
      exact ⟨file :: files, .cons first later⟩

theorem payload_planned (planned : List.Forall₂ (Plans text digest) items files) :
    payload files = (items.map fun item => (item.content.getD []).length).sum := by
  unfold payload
  induction planned with
  | nil => rfl
  | cons plans rest ih =>
    obtain ⟨path, -, planned⟩ := plans
    rw [List.map_cons, List.map_cons, List.sum_cons, List.sum_cons, ih, canonicalFile_content planned]

theorem canonicalPlan_ok : canonicalPlan host text digest plan = .ok canonical ↔
    (1 ≤ plan.operations.length ∧ plan.operations.length ≤ maxPlanFiles) ∧ ∃ files,
      canonicalFiles text digest plan.operations [] = .ok files ∧ payload files ≤ maxPlanBytes ∧
        canonical.grantId = plan.grantId ∧ canonical.planHash = host.sha256 (manifest (byPath files)) ∧ canonical.files = byPath files := by
  unfold canonicalPlan
  by_cases size : 1 ≤ plan.operations.length ∧ plan.operations.length ≤ maxPlanFiles
  · rw [dif_pos size]
    split
    · rename_i e refused
      simp only [reduceCtorEq, refused, false_and, exists_false, and_false]
    · rename_i files accepted
      simp only [size, and_self, accepted, Except.ok.injEq, exists_eq_left', true_and]
      obtain ⟨grantId, planHash, ordered, nonempty, apart⟩ := canonical
      split
      · rename_i small
        simp only [Except.ok.injEq, CanonicalPlan.mk.injEq, small, true_and]
        constructor
        · rintro ⟨rfl, rfl, rfl⟩
          exact ⟨rfl, rfl, rfl⟩
        · rintro ⟨rfl, rfl, rfl⟩
          exact ⟨rfl, rfl, rfl⟩
      · rename_i large
        simp only [reduceCtorEq, large, false_and]
  · rw [dif_neg size]
    simp only [reduceCtorEq, size, false_and]

theorem accepted_iff : AcceptsPlan host text digest plan ↔
    (1 ≤ plan.operations.length ∧ plan.operations.length ≤ maxPlanFiles) ∧ ∃ files,
      canonicalFiles text digest plan.operations [] = .ok files ∧ payload files ≤ maxPlanBytes := by
  constructor
  · rintro ⟨canonical, accepted⟩
    obtain ⟨size, files, planned, small, -⟩ := canonicalPlan_ok.mp accepted
    exact ⟨size, files, planned, small⟩
  · rintro ⟨size, files, planned, small⟩
    exact ⟨⟨_, _, _, canonicalFiles_nonempty planned size.1, canonicalFiles_apart planned⟩,
      canonicalPlan_ok.mpr ⟨size, files, planned, small, rfl, rfl, rfl⟩⟩

/-- Exactly the plans of well-formed and stray operations are accepted. -/
theorem accepted_planOf (hex : ∀ content, isDigest (digest content) = true) :
    AcceptsPlan host text digest plan ↔ PlanOf text (fun item => WellFormedOperation text digest item ∨ Stray text item) plan := by
  rw [accepted_iff]
  simp only [canonicalFiles_iff]
  constructor
  · rintro ⟨size, files, ⟨planned, distinct, -⟩, small⟩
    have each := exists_planned.mp ⟨files, planned⟩
    refine ⟨size, fun item member => ?_, fun item member => ?_, distinct, payload_planned planned ▸ small⟩
    · obtain ⟨file, path, -, accepted⟩ := each item member
      exact (canonicalFile_accepts hex).mp ⟨file, accepted⟩
    · obtain ⟨file, path, normalized, -⟩ := each item member
      exact ⟨path, normalized⟩
  · intro sound
    have each : ∀ item ∈ plan.operations, ∃ file, Plans text digest item file := by
      intro item member
      obtain ⟨path, normalized⟩ := sound.paths item member
      obtain ⟨file, accepted⟩ := (@canonicalFile_accepts text digest item path hex).mpr (sound.operations item member)
      exact ⟨file, path, normalized, accepted⟩
    obtain ⟨files, planned⟩ := exists_planned.mpr each
    exact ⟨sound.size, files, ⟨planned, sound.distinct, fun _ _ => List.not_mem_nil⟩, payload_planned planned ▸ sound.bytes⟩

theorem PlanOf.weaken {each other : FileOperation → Prop} (sound : PlanOf text each plan)
    (weaker : ∀ item ∈ plan.operations, each item → other item) : PlanOf text other plan :=
  ⟨sound.size, fun item member => weaker item member (sound.operations item member), sound.paths, sound.distinct, sound.bytes⟩

/-- Exactly the well-formed plans are accepted, unless an operation of another kind is among operations
that nothing else refuses. -/
theorem accepts_wellFormed_iff (hex : ∀ content, isDigest (digest content) = true) :
    (AcceptsPlan host text digest plan ↔ WellFormedPlan text digest plan) ↔
      (∀ item ∈ plan.operations, Operation.ofWord item.operation ≠ none) ∨
        ¬ PlanOf text (fun item => WellFormedOperation text digest item ∨ Stray text item) plan := by
  rw [accepted_planOf hex]
  have sound : WellFormedPlan text digest plan → PlanOf text (fun item => WellFormedOperation text digest item ∨ Stray text item) plan :=
    fun well => well.weaken fun _ _ => .inl
  constructor
  · intro same
    by_cases accepted : PlanOf text (fun item => WellFormedOperation text digest item ∨ Stray text item) plan
    · refine .inl fun item member unknown => ?_
      cases (same.mp accepted).operations item member with
      | create known => rw [known] at unknown; cases unknown
      | replace known => rw [known] at unknown; cases unknown
      | delete known => rw [known] at unknown; cases unknown
    · exact .inr accepted
  · rintro (known | refused)
    · refine ⟨fun accepted => accepted.weaken fun item member each => ?_, sound⟩
      exact each.resolve_right fun stray => known item member stray.kind
    · exact ⟨fun accepted => absurd accepted refused, fun well => absurd (sound well) refused⟩

end

namespace Disposable

theorem digest_hex (content : Bytes) : isDigest (digest content) = true := by
  unfold digest
  split
  · decide +kernel
  · split <;> decide +kernel

/-- An operation that is none of the three. -/
def moved : ExecutionPlan := ⟨"g", [⟨"MOVE", "a.txt", "", "ABSENT", none⟩]⟩

end Disposable

theorem accepts_wellFormed_plan : AcceptsPlan RecoveredTooLate.host Disposable.text Disposable.digest Disposable.plan ↔
    WellFormedPlan Disposable.text Disposable.digest Disposable.plan := by
  refine (accepts_wellFormed_iff Disposable.digest_hex).mpr (.inl fun item member => ?_)
  rcases List.mem_cons.mp member with rfl | later
  · decide
  · obtain rfl := List.mem_singleton.mp later
    decide

theorem accepts_moved : AcceptsPlan RecoveredTooLate.host Disposable.text Disposable.digest Disposable.moved ∧
    ¬ WellFormedPlan Disposable.text Disposable.digest Disposable.moved := by
  constructor
  · refine (accepted_planOf Disposable.digest_hex).mpr ⟨by decide, ?_, ?_, by decide, by decide⟩
    · intro item member
      obtain rfl := List.mem_singleton.mp member
      exact .inr ⟨rfl, rfl, by decide⟩
    · intro item member
      obtain rfl := List.mem_singleton.mp member
      exact ⟨_, rfl⟩
  · intro well
    cases well.operations _ List.mem_cons_self with
    | create known => exact absurd known (by decide)
    | replace known => exact absurd known (by decide)
    | delete known => exact absurd known (by decide)

end ControlPlane.Autonomy
