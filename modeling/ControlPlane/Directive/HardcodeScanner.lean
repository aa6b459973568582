import ControlPlane.Data.PythonTree

/-!
# The scanner for hardcoded passes

`ast_hardcode_scanner.py`: which bindings of `True` to a critical name it counts, which it does
not look at, and what a report without a count leaves open.
-/

namespace ControlPlane.Directive

open ControlPlane.Data

/-- `CRITICAL_SECURITY_VARIABLES` -/
def criticalSecurityVariables : List String :=
  ["trusted_head_signature_valid", "implementation_reachable_from_trusted_head", "backend_init_failure_rejected",
    "invalid_key_rejected", "unauthorized_key_rejected", "crypto_failure_rejected", "indeterminate_result_rejected",
    "valid_signature_exact_target_accepted", "modified_target_rejected", "wrong_commit_rejected", "wrong_key_rejected",
    "force_push_detected_and_rejected", "history_rewrite_rejected", "authenticated_commit_unreachable_rejected",
    "payload_changed_after_auth_rejected", "blob_changed_after_auth_rejected", "commit_substitution_rejected",
    "key_revoked_before_execution_rejected", "stale_authorization_rejected", "remote_fetch_failure_rejected",
    "remote_head_unresolved_rejected", "ancestry_indeterminate_rejected", "signature_revalidation_failure_rejected",
    "payload_revalidation_failure_rejected", "indeterminate_pre_exec_state_rejected", "strict_pass",
    "control_02_5_certified_pass", "control_02_5_status", "control_03_authorized", "remote_fail_closed",
    "strict_remote_ancestry", "no_critical_certification_field_hardcoded", "queue_fsync_verified",
    "queue_restart_integrity_verified", "queue_corruption_fail_closed", "queue_record_readback_verified",
    "real_signature_verification_tested", "real_crypto_test_backend"]

/-- `PASS_VARIABLES` -/
def passVariables : List String := ["control_02_5_certified_pass", "control_02_5_status", "control_03_authorized"]

/-- `STRICT_PASS_VARIABLES` -/
def strictPassVariables : List String := ["strict_pass"]

/-- `ast.parse`, with the text of what it raises, and `ast.walk`, which promises no order. -/
structure Python where
  parse : String → Except String PyNode
  walk : PyNode → List PyNode
  walk_perm : ∀ node, (walk node).Perm node.nodes

/-- A listed path: whether it exists, where asking does not raise, and what reading it gives. -/
structure SourceFile where
  path : String
  found : Option Bool
  content : Except String String

inductive Violation where
  | prohibitedHardcode (file : String) (line : Nat) (name : String)
  | dictLiteralProhibited (file : String) (line : Nat) (key : String)
  | astParseError (file error : String)
  deriving DecidableEq

structure ScanTally where
  totalHardcodedTrue : Nat := 0
  directPassCount : Nat := 0
  directStrictPassCount : Nat := 0
  directGateOverrideCount : Nat := 0
  detectedViolations : List Violation := []

structure ScanReport where
  criticalBooleanHardcodeScanComplete : Bool
  criticalHardcodedTrueCount : Nat
  directPassAssignmentCount : Nat
  directStrictPassAssignmentCount : Nat
  directGateOverrideCount : Nat
  noHardcodedCriticalPass : Bool
  violations : List Violation

/-- What both branches do with a prohibited value. -/
def ScanTally.count (tally : ScanTally) (name : String) (violation : Violation) : ScanTally where
  totalHardcodedTrue := tally.totalHardcodedTrue + 1
  directPassCount := if name ∈ passVariables then tally.directPassCount + 1 else tally.directPassCount
  directStrictPassCount := if name ∈ strictPassVariables then tally.directStrictPassCount + 1 else tally.directStrictPassCount
  directGateOverrideCount := tally.directGateOverrideCount + 1
  detectedViolations := tally.detectedViolations ++ [violation]

/-- The name of a target that is a name or an attribute. -/
def targetName? : PyNode → Option String
  | .name id => some id
  | .attribute _ attr => some attr
  | _ => none

/-- `val_is_prohibited` of an assignment: `True`, `"SSH"`, or a call with the default `"SSH"`. -/
def valueProhibited : PyNode → Bool
  | .constant value => value = .bool true || value = .str "SSH"
  | .call _ args keywords =>
    (args.drop 1 ++ (keywords.filter fun kw => kw.1 = some "default").map (·.2)).any fun default => default.text? = some "SSH"
  | _ => false

section

variable (path : String)

def scanTarget (value : PyNode) (lineno : Nat) (tally : ScanTally) (target : PyNode) : ScanTally :=
  match targetName? target with
  | some name =>
    if name ∈ criticalSecurityVariables ∧ valueProhibited value = true then
      tally.count name (.prohibitedHardcode path lineno name)
    else tally
  | none => tally

def scanEntry (lineno : Nat) (tally : ScanTally) (entry : Option PyNode × PyNode) : ScanTally :=
  match entry.1.bind PyNode.text? with
  | some key =>
    if key ≠ "" ∧ key ∈ criticalSecurityVariables ∧ entry.2.isTrue = true then
      tally.count key (.dictLiteralProhibited path lineno key)
    else tally
  | none => tally

def scanNode (tally : ScanTally) : PyNode → ScanTally
  | .assign targets value lineno => targets.foldl (scanTarget path value lineno) tally
  | .dict entries lineno => entries.foldl (scanEntry path lineno) tally
  | _ => tally

end

section

variable (python : Python)

/-- One path; nothing where `exists` raises. -/
def scanFile (tally : ScanTally) (file : SourceFile) : Option ScanTally :=
  match file.found with
  | none => none
  | some false => some tally
  | some true =>
    match file.content.bind python.parse with
    | .ok tree => some ((python.walk tree).foldl (scanNode file.path) tally)
    | .error error =>
      some { tally with detectedViolations := tally.detectedViolations ++ [.astParseError file.path error] }

def ScanTally.report (tally : ScanTally) : ScanReport where
  criticalBooleanHardcodeScanComplete := true
  criticalHardcodedTrueCount := tally.totalHardcodedTrue
  directPassAssignmentCount := tally.directPassCount
  directStrictPassAssignmentCount := tally.directStrictPassCount
  directGateOverrideCount := tally.directGateOverrideCount
  noHardcodedCriticalPass := tally.totalHardcodedTrue = 0
  violations := tally.detectedViolations

/-- `scan_ast_for_critical_hardcodes` -/
def scanAstForCriticalHardcodes (files : List SourceFile) : Option ScanReport :=
  (files.foldlM (scanFile python) {}).map ScanTally.report

/-- The tree of a path that is found and parsed. -/
def SourceFile.tree (file : SourceFile) : Option PyNode :=
  if file.found = some true then (file.content.bind python.parse).toOption else none

/-- Where the report is clean, every path was found and parsed, and nothing in it binds `True` to a critical name. -/
def CleanMeansClean (files : List SourceFile) : Prop :=
  ∀ report, scanAstForCriticalHardcodes python files = some report → report.noHardcodedCriticalPass = true →
    ∀ file ∈ files, ∃ tree, file.tree python = some tree ∧
      ∀ node ∈ tree.nodes, ∀ v ∈ criticalSecurityVariables, ¬ node.Binding v

end

/-! ### What is counted -/

/-- A prohibited value for a critical name or attribute, or `True` under a critical key of a display. -/
inductive Caught : PyNode → Prop
  | assigned {targets : List PyNode} {target value : PyNode} {lineno : Nat} {v : String} (member : target ∈ targets)
      (named : targetName? target = some v) (critical : v ∈ criticalSecurityVariables) (prohibited : valueProhibited value = true) :
      Caught (.assign targets value lineno)
  | literal {entries : List (Option PyNode × PyNode)} {key value : PyNode} {lineno : Nat} {v : String}
      (member : (some key, value) ∈ entries) (text : key.text? = some v) (critical : v ∈ criticalSecurityVariables)
      (literal : value.isTrue = true) : Caught (.dict entries lineno)

/-- `True` for a critical name by unpacking, as a key that is assigned to, with an annotation, by a walrus, or by a
keyword of `dict`. -/
inductive Overlooked : PyNode → Prop
  | assigned {targets : List PyNode} {target value : PyNode} {lineno : Nat} {v : String} (member : target ∈ targets)
      (apart : targetName? target = none) (critical : v ∈ criticalSecurityVariables) (binds : target.BindsTrue value v) :
      Overlooked (.assign targets value lineno)
  | annotated {target annotation value : PyNode} {v : String} (critical : v ∈ criticalSecurityVariables)
      (binds : target.BindsTrue value v) : Overlooked (.annAssign target annotation (some value))
  | walrus {target value : PyNode} {v : String} (critical : v ∈ criticalSecurityVariables) (binds : target.BindsTrue value v) :
      Overlooked (.namedExpr target value)
  | keyword {args : List PyNode} {keywords : List (Option String × PyNode)} {value : PyNode} {v : String}
      (critical : v ∈ criticalSecurityVariables) (member : (some v, value) ∈ keywords) (literal : value.isTrue = true) :
      Overlooked (.call (.name "dict") args keywords)

section

variable {python : Python} {path : String} {tally tally' : ScanTally} {node target value : PyNode} {lineno : Nat} {v : String}
  {file : SourceFile} {files : List SourceFile}

theorem prohibited_of_true (literal : value.isTrue = true) : valueProhibited value = true := by
  unfold PyNode.isTrue at literal
  split at literal
  · rfl
  · cases literal

/-- A target that the scanner looks at is bound as it reads it. -/
theorem bindsTrue_named (binds : target.BindsTrue value v) {w : String} (named : targetName? target = some w) :
    w = v ∧ value.isTrue = true := by
  cases binds with
  | name literal => exact ⟨(Option.some.inj named).symm, literal⟩
  | attr literal => exact ⟨(Option.some.inj named).symm, literal⟩
  | subscript => cases named
  | unpacked left =>
    unfold PyNode.elements? at left
    split at left
    · cases named
    · cases named
    · cases left

/-- Every binding of `True` to a critical name is counted or overlooked. -/
theorem binding_cases (binding : node.Binding v) (critical : v ∈ criticalSecurityVariables) : Caught node ∨ Overlooked node := by
  cases binding with
  | @assigned targets target value lineno _ member binds =>
    cases named : targetName? target with
    | none => exact .inr (.assigned member named critical binds)
    | some w =>
      obtain ⟨rfl, literal⟩ := bindsTrue_named binds named
      exact .inl (.assigned member named critical (prohibited_of_true literal))
  | annotated binds => exact .inr (.annotated critical binds)
  | walrus binds => exact .inr (.walrus critical binds)
  | literal member text literal => exact .inl (.literal member text critical literal)
  | keyword member literal => exact .inr (.keyword critical member literal)

theorem Overlooked.binding (overlooked : Overlooked node) : ∃ v ∈ criticalSecurityVariables, node.Binding v := by
  cases overlooked with
  | assigned member apart critical binds => exact ⟨_, critical, .assigned member binds⟩
  | annotated critical binds => exact ⟨_, critical, .annotated binds⟩
  | walrus critical binds => exact ⟨_, critical, .walrus binds⟩
  | keyword critical member literal => exact ⟨_, critical, .keyword member literal⟩

/-! ### What a scan adds up -/

/-- A fold that counts the elements with a property is zero exactly if there was nothing and nothing has it. -/
theorem fold_total {α : Type} {step : ScanTally → α → ScanTally} {P : α → Prop}
    (stays : ∀ tally a, (step tally a).totalHardcodedTrue = 0 ↔ tally.totalHardcodedTrue = 0 ∧ ¬ P a) (as : List α) :
    (as.foldl step tally).totalHardcodedTrue = 0 ↔ tally.totalHardcodedTrue = 0 ∧ ∀ a ∈ as, ¬ P a := by
  induction as generalizing tally with
  | nil => simp
  | cons a as ih =>
    rw [List.foldl_cons, ih, stays, List.forall_mem_cons, and_assoc]

theorem count_total (name : String) (violation : Violation) : (tally.count name violation).totalHardcodedTrue ≠ 0 :=
  Nat.succ_ne_zero _

theorem scanTarget_total (tally : ScanTally) (target : PyNode) :
    (scanTarget path value lineno tally target).totalHardcodedTrue = 0 ↔ tally.totalHardcodedTrue = 0 ∧
      ¬ ∃ v, targetName? target = some v ∧ v ∈ criticalSecurityVariables ∧ valueProhibited value = true := by
  unfold scanTarget
  cases named : targetName? target with
  | none => simp
  | some name =>
    by_cases hit : name ∈ criticalSecurityVariables ∧ valueProhibited value = true
    · simp [hit, count_total]
    · simp only [hit, ↓reduceIte, Option.some.injEq, exists_eq_left', not_false_eq_true, and_true]

theorem scanEntry_total (tally : ScanTally) (entry : Option PyNode × PyNode) :
    (scanEntry path lineno tally entry).totalHardcodedTrue = 0 ↔ tally.totalHardcodedTrue = 0 ∧
      ¬ ∃ v, entry.1.bind PyNode.text? = some v ∧ v ∈ criticalSecurityVariables ∧ entry.2.isTrue = true := by
  have named : ∀ key ∈ criticalSecurityVariables, key ≠ "" := by decide
  unfold scanEntry
  cases text : entry.1.bind PyNode.text? with
  | none => simp
  | some key =>
    by_cases hit : key ∈ criticalSecurityVariables ∧ entry.2.isTrue = true
    · simp [hit, named key hit.1, count_total]
    · simp only [hit, and_false, ↓reduceIte, Option.some.injEq, exists_eq_left', not_false_eq_true, and_true]

theorem scanNode_total (tally : ScanTally) (node : PyNode) :
    (scanNode path tally node).totalHardcodedTrue = 0 ↔ tally.totalHardcodedTrue = 0 ∧ ¬ Caught node := by
  unfold scanNode
  split
  · rename_i targets value lineno
    rw [fold_total scanTarget_total]
    refine and_congr_right fun _ => ⟨fun none caught => ?_, fun free target member caught => ?_⟩
    · cases caught with
      | assigned member named critical prohibited => exact none _ member ⟨_, named, critical, prohibited⟩
    · obtain ⟨v, named, critical, prohibited⟩ := caught
      exact free (.assigned member named critical prohibited)
  · rename_i entries lineno
    rw [fold_total scanEntry_total]
    refine and_congr_right fun _ => ⟨fun none caught => ?_, fun free entry member caught => ?_⟩
    · cases caught with
      | literal member text critical literal => exact none _ member ⟨_, text, critical, literal⟩
    · obtain ⟨key, value⟩ := entry
      obtain ⟨v, text, critical, literal⟩ := caught
      obtain ⟨node, rfl, read⟩ := Option.bind_eq_some_iff.mp text
      exact free (.literal member read critical literal)
  · rename_i other other'
    have free : ¬ Caught node := by
      intro caught
      cases caught with
      | assigned => exact other _ _ _ rfl
      | literal => exact other' _ _ rfl
    exact ⟨fun none => ⟨none, free⟩, fun both => both.1⟩

/-- A file adds to the count exactly if its tree has something that is counted. -/
theorem scanFile_total (scanned : scanFile python tally file = some tally') :
    tally'.totalHardcodedTrue = 0 ↔ tally.totalHardcodedTrue = 0 ∧
      ∀ tree, file.tree python = some tree → ∀ node ∈ tree.nodes, ¬ Caught node := by
  unfold scanFile at scanned
  unfold SourceFile.tree
  split at scanned
  · cases scanned
  · rename_i absent
    rw [← Option.some.inj scanned]
    simp [absent]
  · rename_i present
    split at scanned
    · rename_i tree parsed
      have counts : ∀ tally node, (scanNode file.path tally node).totalHardcodedTrue = 0 ↔
          tally.totalHardcodedTrue = 0 ∧ ¬ Caught node := scanNode_total
      rw [← Option.some.inj scanned, fold_total counts]
      refine and_congr_right fun _ => ?_
      simp only [present, if_true, parsed, Except.toOption, Option.some.injEq, forall_eq']
      exact ⟨fun free node member => free node ((python.walk_perm tree).mem_iff.mpr member),
        fun free node member => free node ((python.walk_perm tree).mem_iff.mp member)⟩
    · rename_i error failed
      rw [← Option.some.inj scanned]
      simp [present, failed, Except.toOption]

theorem scanFiles_total (scanned : files.foldlM (scanFile python) tally = some tally') :
    tally'.totalHardcodedTrue = 0 ↔ tally.totalHardcodedTrue = 0 ∧
      ∀ file ∈ files, ∀ tree, file.tree python = some tree → ∀ node ∈ tree.nodes, ¬ Caught node := by
  induction files generalizing tally with
  | nil =>
    rw [← Option.some.inj scanned]
    simp
  | cons file files ih =>
    obtain ⟨mid, first, rest⟩ := Option.bind_eq_some_iff.mp scanned
    rw [ih rest, scanFile_total first, List.forall_mem_cons, and_assoc]

theorem scanFiles_some : (∃ tally', files.foldlM (scanFile python) tally = some tally') ↔ ∀ file ∈ files, file.found ≠ none := by
  induction files generalizing tally with
  | nil => simp
  | cons file files ih =>
    rw [List.forall_mem_cons, List.foldlM_cons]
    cases scanned : scanFile python tally file with
    | none =>
      have raises : file.found = none := by
        unfold scanFile at scanned
        split at scanned
        · assumption
        · cases scanned
        · split at scanned <;> cases scanned
      simp [raises]
    | some mid =>
      have asked : file.found ≠ none := by
        intro raises
        unfold scanFile at scanned
        rw [raises] at scanned
        cases scanned
      simp only [Option.bind_eq_bind, Option.bind_some, ih, asked, ne_eq, not_false_eq_true, true_and]

/-! ### What a clean report means -/

/-- A clean report is right exactly if asking for a path raises, or something is counted, or all is found, parsed and
free of what is overlooked. -/
theorem clean_means_clean_iff (python : Python) (files : List SourceFile) :
    CleanMeansClean python files ↔ (∃ file ∈ files, file.found = none) ∨
      (∃ file ∈ files, ∃ tree, file.tree python = some tree ∧ ∃ node ∈ tree.nodes, Caught node) ∨
      ∀ file ∈ files, ∃ tree, file.tree python = some tree ∧ ∀ node ∈ tree.nodes, ¬ Overlooked node := by
  constructor
  · intro clean
    by_cases raises : ∃ file ∈ files, file.found = none
    · exact .inl raises
    by_cases caught : ∃ file ∈ files, ∃ tree, file.tree python = some tree ∧ ∃ node ∈ tree.nodes, Caught node
    · exact .inr (.inl caught)
    obtain ⟨tally, scanned⟩ : ∃ tally, files.foldlM (scanFile python) {} = some tally :=
      scanFiles_some.mpr fun file member none => raises ⟨file, member, none⟩
    have zero := (scanFiles_total scanned).mpr ⟨rfl, fun file member tree parsed node inside hit =>
      caught ⟨file, member, tree, parsed, node, inside, hit⟩⟩
    have report : scanAstForCriticalHardcodes python files = some tally.report := by
      rw [scanAstForCriticalHardcodes, scanned, Option.map_some]
    refine .inr (.inr fun file member => ?_)
    obtain ⟨tree, parsed, free⟩ := clean _ report (decide_eq_true zero) file member
    refine ⟨tree, parsed, fun node inside overlooked => ?_⟩
    obtain ⟨v, critical, binding⟩ := overlooked.binding
    exact free node inside v critical binding
  · intro condition report scanned clean file member
    obtain ⟨tally, folded, rfl⟩ := Option.map_eq_some_iff.mp scanned
    obtain ⟨-, uncaught⟩ := (scanFiles_total folded).mp (of_decide_eq_true clean)
    rcases condition with ⟨other, among, raises⟩ | ⟨other, among, tree, parsed, node, inside, caught⟩ | free
    · exact absurd raises (scanFiles_some.mp ⟨tally, folded⟩ other among)
    · exact absurd caught (uncaught other among tree parsed node inside)
    · obtain ⟨tree, parsed, seen⟩ := free file member
      refine ⟨tree, parsed, fun node inside v critical binding => ?_⟩
      rcases binding_cases binding critical with caught | overlooked
      · exact uncaught file member tree parsed node inside caught
      · exact seen node inside overlooked

/-- `strict_pass: bool = True` -/
def annotatedPass : PyNode := .annAssign (.name "strict_pass") (.name "bool") (some (.constant (.bool true)))

def annotatedText : String := "strict_pass: bool = True\n"

def annotatedPython : Python where
  parse text := if text = annotatedText then .ok (.other [annotatedPass]) else .error "invalid syntax"
  walk := PyNode.nodes
  walk_perm _ := .refl _

def annotatedFile : SourceFile := ⟨"gates.py", some true, .ok annotatedText⟩

/-- The annotated assignment is not looked at. -/
theorem clean_annotated : ¬ CleanMeansClean annotatedPython [annotatedFile] := by
  intro clean
  have tree : annotatedFile.tree annotatedPython = some (.other [annotatedPass]) := rfl
  have nodes : (PyNode.other [annotatedPass]).nodes =
      [.other [annotatedPass], annotatedPass, .name "strict_pass", .name "bool", .constant (.bool true)] := rfl
  have report : ((scanAstForCriticalHardcodes annotatedPython [annotatedFile]).map (·.noHardcodedCriticalPass)) = some true := rfl
  obtain ⟨report, scanned, passed⟩ := Option.map_eq_some_iff.mp report
  obtain ⟨tree', parsed, free⟩ := clean report scanned passed annotatedFile (List.mem_singleton_self _)
  obtain rfl := Option.some.inj (tree.symm.trans parsed)
  exact free annotatedPass (by rw [nodes]; simp) "strict_pass" (by decide) (.annotated (.name rfl))

end

end ControlPlane.Directive
