import ControlPlane.StateMachine.EvidenceOrder
import ControlPlane.Data.JsonLines
import ControlPlane.Data.Json.Ratio

/-!
# What is observed of a project

`git_observer.py`, `process_observer.py`, `evidence_collector.py` and `project_observer.py`: what
git, the process table and the evidence files say of a project, and what the evaluator makes of it.
-/

namespace ControlPlane.Data.Dict

variable {κ ν : Type} [DecidableEq κ] {keys : List κ} {k : κ} {v : ν} {f : κ → ν}

theorem get?_collected {d : Dict κ ν} :
    ((keys.map fun k => (k, f k)).foldl (fun d e => d.set e.1 e.2) d).get? k = if k ∈ keys then some (f k) else d.get? k := by
  induction keys generalizing d with
  | nil => simp
  | cons first rest ih =>
    rw [List.map_cons, List.foldl_cons, ih, get?_set]
    by_cases later : k ∈ rest
    · simp [later]
    · by_cases here : first = k
      · simp [here]
      · simp [later, here, Ne.symm here]

/-- What is put in for each key is found there, and nothing else. -/
theorem mem_collected : (k, v) ∈ ofList (keys.map fun k => (k, f k)) ↔ k ∈ keys ∧ v = f k := by
  rw [← get?_iff (distinct_ofList _), ofList, get?_collected, get?_nil]
  split <;> simp_all [eq_comm]

end ControlPlane.Data.Dict

namespace ControlPlane.Engine

open ControlPlane.Data StateMachine

/-! ### Git -/

/-- What `_run_git` returns. -/
structure GitReply where
  returncode : Int
  stdout : String
  stderr : String
  timeout : Bool

/-- What `observe_repo` returns, and the commands that it has given to git. -/
structure GitObservation where
  gitAvailable : Bool := false
  branch : Option String := none
  localHead : Option String := none
  remoteHead : Option String := none
  remoteBranchExists : Bool := false
  worktreeClean : Bool := true
  remoteQueryCommand : Option String := none
  remoteQueryRef : Option String := none
  remoteQueryReturncode : Option Int := none
  remoteQueryTimeout : Bool := false
  remoteQueryStderrCategory : String := "UNKNOWN"
  observerErrors : List String := []
  commands : List (List String) := []

def allowedGitCommands : List String :=
  ["rev-parse", "branch", "status", "ls-remote", "show", "cat-file", "verify-commit", "merge-base"]

def disallowedGitCommands : List String :=
  ["fetch", "pull", "checkout", "reset", "clean", "add", "commit", "gc", "maintenance"]

/-- The text without white space at its ends. -/
def stripped (t : String) : String := String.ofList (strip t.toList)

/-- `str.split()` -/
def splitWords (line : List Char) : List (List Char) := (line.splitOnP isSpace).filter fun word => !word.isEmpty

/-- The hash in front of a reference, from the first line that names it. -/
def remoteLine (ref stdout : String) : Option String :=
  (splitlines (strip stdout.toList)).findSome? fun line =>
    match splitWords line with
    | hash :: name :: _ => if name = ref.toList then some (String.ofList hash) else none
    | _ => none

/-- The category of a query that git refuses. -/
def failureCategory (stderr : String) : String :=
  if mentions stderr "Authentication failed" || mentions stderr "Permission denied" then "AUTH_FAILURE"
  else if mentions stderr "Could not resolve host" || mentions stderr "Failed to connect" then "NETWORK_FAILURE"
  else "GIT_FAILURE"

/-- The answer of `ls-remote` about the reference. -/
def GitObservation.queried (o : GitObservation) (ref : String) (reply : GitReply) : GitObservation :=
  let asked := { o with remoteQueryReturncode := some reply.returncode, remoteQueryTimeout := reply.timeout }
  if reply.timeout then
    { asked with
      remoteQueryStderrCategory := "TIMEOUT"
      observerErrors := o.observerErrors ++ [s!"Remote query for {ref} timed out (10.0s)"] }
  else if reply.returncode ≠ 0 then
    { asked with
      remoteQueryStderrCategory := failureCategory reply.stderr
      observerErrors := o.observerErrors ++ ["Remote query failed: " ++ stripped reply.stderr] }
  else
    match remoteLine ref reply.stdout with
    | some hash => { asked with remoteHead := some hash, remoteBranchExists := true, remoteQueryStderrCategory := "VERIFIED" }
    | none =>
      { asked with
        remoteQueryStderrCategory := "BRANCH_NOT_FOUND"
        observerErrors := o.observerErrors ++ [s!"Remote branch {ref} not found on origin"] }

/-- `f"refs/heads/\x7bbranch_clean\x7d"` -/
def headRef (branch : String) : String := "refs/heads/" ++ branch

/-- What is known of a branch before the remote is asked. -/
def askedLocally (path branch : String) (git : List String → GitReply) : GitObservation :=
  let head := (git ["rev-parse", "HEAD"]).stdout
  { gitAvailable := true
    branch := some branch
    localHead := if head = "" then none else some (stripped head)
    worktreeClean := (stripped (git ["status", "--porcelain"]).stdout).isEmpty
    remoteQueryCommand := some s!"git -C {path} ls-remote --heads origin {headRef branch}"
    remoteQueryRef := some (headRef branch)
    commands := [["rev-parse", "--abbrev-ref", "HEAD"], ["rev-parse", "HEAD"], ["status", "--porcelain"],
      ["ls-remote", "--heads", "origin", headRef branch]] }

/-- `observe_repo`; every command that it gives to git passes the two lists. -/
def observeRepo (path : String) (hasRepository : Bool) (git : List String → GitReply) : GitObservation :=
  if hasRepository = false then { observerErrors := ["Directory or .git repository does not exist"] }
  else
    let abbreviated := (git ["rev-parse", "--abbrev-ref", "HEAD"]).stdout
    if abbreviated = "" then { gitAvailable := true, commands := [["rev-parse", "--abbrev-ref", "HEAD"]] }
    else
      let ref := headRef (stripped abbreviated)
      (askedLocally path (stripped abbreviated) git).queried ref (git ["ls-remote", "--heads", "origin", ref])

/-! ### Processes -/

structure ProcessRow where
  processId : Option Int
  commandLine : String

/-- `check_process_running`: the expected name that was found, and where. -/
def checkProcessRunning (lower : String → String) (processes : List ProcessRow) (expected : List String) :
    Option (String × Option Int) :=
  processes.findSome? fun p => expected.findSome? fun name =>
    if mentions (lower p.commandLine) (lower name) then some (name, p.processId) else none

/-! ### Evidence -/

/-- A file of evidence: how long ago it was written, and its text where it can be read. -/
structure EvidenceFile where
  age : ℚ
  content : Option String

/-- The suffix of a file's name, with its dot. -/
def suffixOf (path : String) : List Char :=
  let name := (path.toList.reverse.takeWhile (· ≠ '/')).reverse
  let behind := (name.reverse.takeWhile (· ≠ '.')).reverse
  if 0 < behind.length ∧ behind.length + 1 < name.length then '.' :: behind else []

/-- `collect_file_evidence` -/
def collectFileEvidence (floats : Json.Floats) (lower : String → String) (files : String → Option EvidenceFile) (path : String) :
    EvidenceItem :=
  match files path with
  | none => { fileExists := false, ageSeconds := none, parsedData := .null }
  | some ⟨age, some content⟩ =>
    { fileExists := true
      ageSeconds := some (max 0 age)
      parsedData := if lower (String.ofList (suffixOf path)) = ".json" then (Json.loads floats content).getD .null
        else .dict [("raw_text", .str content)] }
  | some ⟨_, none⟩ => { fileExists := true, ageSeconds := none, parsedData := .null }

/-- `collect_project_evidence` -/
def collectProjectEvidence (floats : Json.Floats) (lower : String → String) (files : String → Option EvidenceFile)
    (paths : List String) : Dict String EvidenceItem :=
  Dict.ofList (paths.map fun path => (path, collectFileEvidence floats lower files path))

/-! ### Projects -/

/-- An entry of `REGISTERED_PROJECTS`. -/
structure ProjectConfig where
  id : String
  name : String
  rootPath : String
  expectedProcessNames : List String
  defaultProcessExpected : Bool
  heartbeatStaleThreshold : PyFloat
  stateFiles : List String

/-- What is there to be observed. -/
structure Surroundings where
  hasRepository : Bool
  git : List String → GitReply
  processes : List ProcessRow
  files : String → Option EvidenceFile

/-- What is made of texts: the numbers in them, and their lower case. -/
structure Texts where
  floats : Json.Floats
  lower : String → String

/-- What `observe` returns. -/
structure Observation where
  observed : Observed
  git : GitObservation
  processPid : Option Int
  observerErrors : List String
  externalActivity : Bool

def GitObservation.info (o : GitObservation) : GitInfo :=
  ⟨o.branch, o.remoteHead, o.localHead, o.remoteBranchExists, o.remoteQueryStderrCategory⟩

/-- A file that was written within the last minute. -/
def EvidenceItem.recent (item : EvidenceItem) : Bool := item.fileExists && item.ageSeconds.any (· < 60)

def observe (t : Texts) (p : ProjectConfig) (s : Surroundings) : Observation :=
  let git := observeRepo p.rootPath s.hasRepository s.git
  let running := checkProcessRunning t.lower s.processes p.expectedProcessNames
  let evidence := collectProjectEvidence t.floats t.lower s.files p.stateFiles
  { observed :=
      { project := p.name
        gitInfo := git.info
        processExpected := p.defaultProcessExpected
        processRunning := running.isSome
        unexpectedProcess := !p.defaultProcessExpected && running.isSome
        matchedProcessName := textOrNone (running.map (·.1))
        evidenceMap := evidence
        distinct := Dict.distinct_ofList _ }
    git
    processPid := running.bind (·.2)
    observerErrors := git.observerErrors
    externalActivity := running.isSome || evidence.any fun e => EvidenceItem.recent e.2 }

/-! ### What git is asked and what it answers -/

section

variable {path : String} {hasRepository : Bool} {git : List String → GitReply}

theorem queried_local (o : GitObservation) (ref : String) (reply : GitReply) :
    (o.queried ref reply).branch = o.branch ∧ (o.queried ref reply).localHead = o.localHead ∧
      (o.queried ref reply).commands = o.commands := by
  unfold GitObservation.queried
  dsimp only
  repeat' split
  all_goals exact ⟨rfl, rfl, rfl⟩

/-- Git is given commands that read only. -/
theorem commands_allowed {command : List String} (ran : command ∈ (observeRepo path hasRepository git).commands) :
    ∃ name arguments, command = name :: arguments ∧ name ∈ allowedGitCommands ∧ name ∉ disallowedGitCommands := by
  unfold observeRepo at ran
  split at ran
  · cases ran
  dsimp only at ran
  split at ran
  · obtain rfl := List.mem_singleton.mp ran
    exact ⟨_, _, rfl, by decide, by decide⟩
  · rw [(queried_local _ _ _).2.2] at ran
    simp only [askedLocally, List.mem_cons, List.not_mem_nil, or_false] at ran
    rcases ran with rfl | rfl | rfl | rfl <;> exact ⟨_, _, rfl, by decide, by decide⟩

/-- The branch that is checked out, where git prints one. -/
def checkedOut (hasRepository : Bool) (git : List String → GitReply) : Option String :=
  let abbreviated := (git ["rev-parse", "--abbrev-ref", "HEAD"]).stdout
  if hasRepository = false ∨ abbreviated = "" then none else some (stripped abbreviated)

/-- The remote answers that its branch of this name is at this commit. -/
def RemoteAt (git : List String → GitReply) (branch hash : String) : Prop :=
  let reply := git ["ls-remote", "--heads", "origin", headRef branch]
  reply.timeout = false ∧ reply.returncode = 0 ∧ remoteLine (headRef branch) reply.stdout = some hash

theorem RemoteAt.unique {branch hash hash' : String} (first : RemoteAt git branch hash) (second : RemoteAt git branch hash') :
    hash' = hash :=
  Option.some.inj (second.2.2.symm.trans first.2.2)

/-- What the answer about a reference comes to. -/
theorem queried_cases (o : GitObservation) (ref : String) (reply : GitReply) :
    (∃ hash, reply.timeout = false ∧ reply.returncode = 0 ∧ remoteLine ref reply.stdout = some hash ∧
      (o.queried ref reply).remoteHead = some hash ∧ (o.queried ref reply).remoteBranchExists = true ∧
      (o.queried ref reply).remoteQueryStderrCategory = "VERIFIED" ∧ (o.queried ref reply).observerErrors = o.observerErrors) ∨
    ((∀ hash, ¬ (reply.timeout = false ∧ reply.returncode = 0 ∧ remoteLine ref reply.stdout = some hash)) ∧
      (o.queried ref reply).remoteHead = o.remoteHead ∧ (o.queried ref reply).remoteBranchExists = o.remoteBranchExists ∧
      (o.queried ref reply).remoteQueryStderrCategory ∈
        ["TIMEOUT", "AUTH_FAILURE", "NETWORK_FAILURE", "GIT_FAILURE", "BRANCH_NOT_FOUND"] ∧
      ∃ error, (o.queried ref reply).observerErrors = o.observerErrors ++ [error]) := by
  unfold GitObservation.queried
  dsimp only
  split
  · rename_i late
    have unanswered : ∀ hash, ¬ (reply.timeout = false ∧ reply.returncode = 0 ∧ remoteLine ref reply.stdout = some hash) := by
      rintro hash ⟨inTime, -⟩
      rw [inTime] at late
      cases late
    exact .inr ⟨unanswered, rfl, rfl, by simp, _, rfl⟩
  rename_i inTime
  have inTime : reply.timeout = false := Bool.eq_false_iff.mpr inTime
  split
  · rename_i failed
    have category : failureCategory reply.stderr ∈
        ["TIMEOUT", "AUTH_FAILURE", "NETWORK_FAILURE", "GIT_FAILURE", "BRANCH_NOT_FOUND"] := by
      unfold failureCategory
      split
      · simp
      · split <;> simp
    exact .inr ⟨fun hash answered => failed answered.2.1, rfl, rfl, category, _, rfl⟩
  rename_i succeeded
  cases found : remoteLine ref reply.stdout with
  | some hash => exact .inl ⟨hash, inTime, not_not.mp succeeded, rfl, rfl, rfl, rfl, rfl⟩
  | none =>
    have unanswered : ∀ hash, ¬ (reply.timeout = false ∧ reply.returncode = 0 ∧ (none : Option String) = some hash) := by
      rintro hash ⟨-, -, same⟩
      cases same
    exact .inr ⟨unanswered, rfl, rfl, by simp, _, rfl⟩

/-- A hash in front of a reference is a word. -/
theorem remoteLine_filled {ref stdout hash : String} (found : remoteLine ref stdout = some hash) : hash ≠ "" := by
  obtain ⟨line, -, named⟩ := List.exists_of_findSome?_eq_some found
  split at named
  · rename_i word name rest words
    split at named
    · have filled : word ∈ splitWords line := by rw [words]; exact List.mem_cons_self
      obtain rfl := Option.some.inj named
      rintro empty
      have none : word = [] := by simpa using empty
      subst none
      simpa [splitWords] using List.of_mem_filter filled
    · cases named
  · cases named

theorem observeRepo_cases (path : String) (hasRepository : Bool) (git : List String → GitReply) :
    (observeRepo path hasRepository git).branch = checkedOut hasRepository git ∧
    ((∃ branch hash, checkedOut hasRepository git = some branch ∧ RemoteAt git branch hash ∧
        (observeRepo path hasRepository git).remoteHead = some hash ∧
        (observeRepo path hasRepository git).remoteQueryStderrCategory = "VERIFIED") ∨
      (∀ branch hash, checkedOut hasRepository git = some branch → ¬ RemoteAt git branch hash) ∧
        (observeRepo path hasRepository git).remoteHead = none ∧
        (observeRepo path hasRepository git).remoteQueryStderrCategory ≠ "VERIFIED") := by
  unfold observeRepo checkedOut
  by_cases absent : hasRepository = false
  · simp [absent]
  rw [if_neg absent]
  dsimp only
  by_cases unprinted : (git ["rev-parse", "--abbrev-ref", "HEAD"]).stdout = ""
  · simp [unprinted]
  rw [if_neg unprinted, if_neg (by tauto)]
  generalize stripped (git ["rev-parse", "--abbrev-ref", "HEAD"]).stdout = branch
  refine ⟨(queried_local _ _ _).1, ?_⟩
  rcases queried_cases (askedLocally path branch git) (headRef branch) (git ["ls-remote", "--heads", "origin", headRef branch])
    with ⟨hash, inTime, succeeded, found, head, -, category, -⟩ | ⟨unanswered, head, -, category, -⟩
  · exact .inl ⟨branch, hash, rfl, ⟨inTime, succeeded, found⟩, head, category⟩
  · refine .inr ⟨?_, head, ?_⟩
    · rintro _ hash same
      obtain rfl := Option.some.inj same
      exact unanswered hash
    · intro verified
      rw [verified] at category
      simp at category

end

/-! ### The head that counts as verified -/

section

variable {r r' : Reading} {e : String × EvidenceItem} {data : Record} {route : String}

theorem declareIf_head {status : Json} {level : Level} : (r.declareIf route status level).localHead = r.localHead := by
  unfold Reading.declareIf
  split <;> rfl

theorem stamped_head : (r.stamped route data).localHead = r.localHead := by
  unfold Reading.stamped
  dsimp only
  repeat' split
  all_goals rfl

/-- A head that is known is not taken from the evidence. -/
theorem tiered_head (known : r.localHead.truthy = true) (read : r.tiered route data = some r') : r'.localHead = r.localHead := by
  unfold Reading.tiered at read
  cases kind : kindOf route <;> rw [kind] at read <;> dsimp only at read
  case agentStatus =>
    unfold Reading.agentStatus at read
    dsimp only at read
    split at read
    · obtain ⟨pairs, -, rfl⟩ := Option.map_eq_some_iff.mp read
      exact declareIf_head
    · obtain rfl := Option.some.inj read
      exact declareIf_head
  case projectState =>
    obtain rfl := Option.some.inj read
    unfold Reading.projectState
    dsimp only
    split
    · rw [either, if_pos known]
    · rfl
  case currentStage =>
    obtain rfl := Option.some.inj read
    exact declareIf_head
  case watcherState =>
    obtain rfl := Option.some.inj read
    unfold Reading.watcherState
    split <;> rfl
  case other =>
    obtain rfl := Option.some.inj read
    unfold Reading.otherFile
    split <;> rfl

theorem readItem_head (known : r.localHead.truthy = true) (read : readItem r e = some r') : r'.localHead = r.localHead := by
  unfold readItem at read
  split at read
  · obtain rfl := Option.some.inj read
    rfl
  split at read
  · rename_i data content
    have same : ((r.seen e.1 e.2).stamped e.1 data).localHead = r.localHead := stamped_head
    exact (tiered_head (same.symm ▸ known) read).trans same
  · obtain rfl := Option.some.inj read
    rfl

/-- The head that git prints is the head of the state, whatever the evidence says. -/
theorem readAll_head {l : List (String × EvidenceItem)} (known : r.localHead.truthy = true)
    (read : l.foldlM readItem r = some r') : r'.localHead = r.localHead := by
  induction l generalizing r with
  | nil =>
    obtain rfl := Option.some.inj read
    rfl
  | cons e rest ih =>
    rw [List.foldlM_cons] at read
    obtain ⟨r₁, first, others⟩ := Option.bind_eq_some_iff.mp read
    have kept := readItem_head known first
    exact (ih (kept.symm ▸ known) others).trans kept

end

/-- The head that git prints. -/
def printedHead (git : List String → GitReply) : String := stripped (git ["rev-parse", "HEAD"]).stdout

section

variable {py : Interpreter} {ev : Evaluator} {order : SetOrder Declaration} {t : Texts}
  {p : ProjectConfig} {s : Surroundings} {n : NormalizedProjectState}

theorem queryStatus_verified {git : GitInfo} {head : Json} :
    queryStatus git head = .verified ↔ git.remoteQueryStderrCategory = "VERIFIED" := by
  unfold queryStatus
  split
  all_goals try simp_all
  split <;> simp_all

theorem headsDiffer_false {git : GitInfo} {head : Json} {hash : String} (found : git.remoteHead = some hash) (filled : hash ≠ "") :
    headsDiffer git head = false ↔ head.truthy = false ∨ head = .str hash := by
  have truthy : (textOrNone (some hash)).truthy = true := by simp [textOrNone, Json.truthy, filled]
  simp only [headsDiffer, found, truthy, Bool.and_true, Bool.and_eq_false_iff, decide_eq_false_iff_not, not_not]
  refine or_congr_right ?_
  cases head <;> simp [Json.str?]

/-- An evaluation reads the evidence and puts the state together. -/
theorem evaluate_reads {o : Observed} (shown : evaluate py ev order o = some n) :
    ∃ r declarations, readEvidence o = some r ∧ n = normalized py ev o r declarations := by
  obtain ⟨r, read, rest⟩ := Option.bind_eq_some_iff.mp shown
  obtain ⟨unique, -, same⟩ := Option.bind_eq_some_iff.mp rest
  exact ⟨r, _, read, (Option.some.inj same).symm⟩

theorem observe_head {branch : String} (printed : checkedOut s.hasRepository s.git = some branch) (filled : printedHead s.git ≠ "") :
    (observe t p s).observed.gitInfo.localHead = some (printedHead s.git) := by
  have local_ : (observeRepo p.rootPath s.hasRepository s.git).localHead = some (printedHead s.git) := by
    unfold checkedOut at printed
    dsimp only at printed
    split at printed
    · cases printed
    rename_i there
    rw [not_or] at there
    unfold observeRepo
    rw [if_neg there.1]
    dsimp only
    rw [if_neg there.2, (queried_local _ _ _).2.1]
    have spoken : (s.git ["rev-parse", "HEAD"]).stdout ≠ "" := by
      intro empty
      rw [printedHead, empty] at filled
      exact filled (by decide)
    exact if_neg spoken
  exact local_

/-- When the values of a state count as verified. -/
structure Triples (git : GitInfo) (n : NormalizedProjectState) : Prop where
  head : n.verifiedHead.verificationStatus = .verified ↔
    git.remoteQueryStderrCategory = "VERIFIED" ∧ headsDiffer git n.localHead = false
  remote : n.verifiedHead.remoteVerifiedValue = textOrNone git.remoteHead
  stage : n.verifiedStage.verificationStatus = .verified ↔ n.verifiedHead.verificationStatus = .verified
  status : n.verifiedStatus.verificationStatus = .verified ↔
    n.verifiedHead.verificationStatus = .verified ∧ n.stateConflict = false
  shown : n.verifiedStatus.remoteVerifiedValue ≠ .null ↔ n.verifiedStatus.verificationStatus = .verified

theorem triples {o : Observed} {r : Reading} {declarations : List Declaration} :
    Triples o.gitInfo (normalized py ev o r declarations) where
  head := by
    dsimp only [normalized]
    cases differ : headsDiffer o.gitInfo r.localHead <;> simp [queryStatus_verified]
  remote := rfl
  stage := by
    dsimp only [normalized, verifiedField]
    split <;> simp_all
  status := by
    dsimp only [normalized, verifiedField]
    cases (contradictions o declarations).1 <;> simp
  shown := by
    dsimp only [normalized, verifiedField]
    generalize (if (contradictions o declarations).1 = true then VerificationStatus.conflict else _) = status
    by_cases verified : status = .verified <;> simp [verified]

/-- The head of a project counts as verified when its remote answers with the very head that is
known locally, and its stage and its status only then; the head that git prints is the one that
is compared, whatever the evidence says. -/
theorem verified_head_iff (shown : evaluate py ev order (observe t p s).observed = some n) :
    (n.verifiedHead.verificationStatus = .verified ↔
      ∃ branch hash, checkedOut s.hasRepository s.git = some branch ∧ RemoteAt s.git branch hash ∧
        (n.localHead.truthy = false ∨ n.localHead = .str hash)) ∧
    (∀ branch, checkedOut s.hasRepository s.git = some branch → printedHead s.git ≠ "" →
      n.localHead = .str (printedHead s.git)) ∧
    (∀ hash, n.verifiedHead.remoteVerifiedValue = .str hash ↔
      ∃ branch, checkedOut s.hasRepository s.git = some branch ∧ RemoteAt s.git branch hash) ∧
    (n.verifiedStage.verificationStatus = .verified ↔ n.verifiedHead.verificationStatus = .verified) ∧
    (n.verifiedStatus.remoteVerifiedValue ≠ .null ↔
      n.verifiedHead.verificationStatus = .verified ∧ n.stateConflict = false) := by
  obtain ⟨r, declarations, read, rfl⟩ := evaluate_reads shown
  have counted : Triples (observe t p s).observed.gitInfo (normalized py ev (observe t p s).observed r declarations) := triples
  have printed : ∀ branch, checkedOut s.hasRepository s.git = some branch → printedHead s.git ≠ "" →
      r.localHead = .str (printedHead s.git) := by
    intro branch out filled
    have known : textOrNone (observe t p s).observed.gitInfo.localHead = .str (printedHead s.git) := by
      rw [observe_head out filled]
      rfl
    have truthy : (textOrNone (observe t p s).observed.gitInfo.localHead).truthy = true := by simp [known, Json.truthy, filled]
    exact (readAll_head truthy read).trans known
  refine ⟨counted.head.trans ?_, printed, fun hash => ?_, counted.stage, counted.shown.trans counted.status⟩
  · rcases (observeRepo_cases p.rootPath s.hasRepository s.git).2 with ⟨branch, hash, out, there, head, category⟩ | ⟨unanswered, -, category⟩
    · have same : headsDiffer (observe t p s).observed.gitInfo r.localHead = false ↔
          r.localHead.truthy = false ∨ r.localHead = .str hash := headsDiffer_false head (remoteLine_filled there.2.2)
      refine (and_iff_right category).trans (same.trans ⟨fun known => ⟨branch, hash, out, there, known⟩, ?_⟩)
      rintro ⟨branch', hash', out', there', known⟩
      obtain rfl := Option.some.inj (out.symm.trans out')
      rwa [there.unique there'] at known
    · refine iff_of_false (fun both => category both.1) ?_
      rintro ⟨branch, hash, out, there, -⟩
      exact unanswered branch hash out there
  · rw [counted.remote]
    rcases (observeRepo_cases p.rootPath s.hasRepository s.git).2 with ⟨branch, hash', out, there, head, -⟩ | ⟨unanswered, head, -⟩
    · have head : (observe t p s).observed.gitInfo.remoteHead = some hash' := head
      rw [head]
      constructor
      · intro same
        obtain rfl := Json.str.inj same
        exact ⟨branch, out, there⟩
      · rintro ⟨branch', out', there'⟩
        obtain rfl := Option.some.inj (out.symm.trans out')
        rw [there.unique there']
        rfl
    · have head : (observe t p s).observed.gitInfo.remoteHead = none := head
      rw [head]
      refine iff_of_false (fun same => by cases same) ?_
      rintro ⟨branch, out, there⟩
      exact unanswered branch hash out there

/-! ### The status -/

/-- A process of the project runs: some command line mentions an expected name. -/
def Runs (t : Texts) (p : ProjectConfig) (s : Surroundings) : Prop :=
  ∃ process ∈ s.processes, ∃ name ∈ p.expectedProcessNames, mentions (t.lower process.commandLine) (t.lower name) = true

theorem running_iff : (observe t p s).observed.processRunning = true ↔ Runs t p s := by
  have found : (observe t p s).observed.processRunning = (checkProcessRunning t.lower s.processes p.expectedProcessNames).isSome := rfl
  rw [found, checkProcessRunning, List.findSome?_isSome_iff]
  refine exists_congr fun process => and_congr_right fun _ => ?_
  rw [List.findSome?_isSome_iff]
  refine exists_congr fun name => and_congr_right fun _ => ?_
  split <;> simp_all

/-- The statuses that only the evidence leads to. -/
theorem byEvidence_status (py : Interpreter) (o : Observed) (action : Json) (winning : Option Declaration) :
    ((byEvidence py o action winning).status = .idleValid ∨ (byEvidence py o action winning).status = .developing ∨
      (byEvidence py o action winning).status = .completed) ∧
    ((byEvidence py o action winning).status = .completed → o.project = "ORACLE-AI") := by
  unfold byEvidence
  dsimp only
  split
  · split
    · exact ⟨.inr (.inr rfl), fun _ => by assumption⟩
    · exact ⟨.inl rfl, fun other => by cases other⟩
  · exact ⟨.inr (.inl rfl), fun other => by cases other⟩
  · exact ⟨.inl rfl, fun other => by cases other⟩

/-- A file of the project asks for a human. -/
def Asks (t : Texts) (p : ProjectConfig) (s : Surroundings) : Prop :=
  ∃ path ∈ p.stateFiles, humanBy (path, collectFileEvidence t.floats t.lower s.files path) = true

theorem mem_evidence {e : String × EvidenceItem} : e ∈ (observe t p s).observed.evidenceMap ↔
    ∃ path ∈ p.stateFiles, e = (path, collectFileEvidence t.floats t.lower s.files path) := by
  obtain ⟨path, item⟩ := e
  refine Dict.mem_collected.trans ⟨?_, ?_⟩
  · rintro ⟨listed, rfl⟩
    exact ⟨path, listed, rfl⟩
  · rintro ⟨other, listed, same⟩
    obtain ⟨rfl, rfl⟩ := Prod.mk.inj same
    exact ⟨listed, rfl⟩

theorem asks_iff : (observe t p s).observed.human = true ↔ Asks t p s := by
  refine List.any_eq_true.trans ⟨?_, ?_⟩
  · rintro ⟨e, member, asks⟩
    obtain ⟨path, listed, rfl⟩ := mem_evidence.mp member
    exact ⟨path, listed, asks⟩
  · rintro ⟨path, listed, asks⟩
    exact ⟨_, mem_evidence.mpr ⟨path, listed, rfl⟩, asks⟩

theorem fileExists_iff {path : String} : (collectFileEvidence t.floats t.lower s.files path).fileExists = false ↔ s.files path = none := by
  unfold collectFileEvidence
  split <;> simp_all

/-- What a state reports, in terms of what is there to be observed. -/
structure Reported (t : Texts) (ev : Evaluator) (p : ProjectConfig) (s : Surroundings) (n : NormalizedProjectState) :
    Prop where
  running : n.verdict.status = .running ↔ p.defaultProcessExpected = true ∧ Runs t p s
  humanRequired : n.verdict.status = .humanRequired ↔ p.defaultProcessExpected = false ∧ Asks t p s
  unknown : n.verdict.status = .unknown ↔ p.defaultProcessExpected = false ∧ ∀ path ∈ p.stateFiles, s.files path = none
  stale : n.verdict.status = .stale ↔ p.defaultProcessExpected = true ∧ ¬ Runs t p s ∨
    p.defaultProcessExpected = false ∧ ¬ Asks t p s ∧ overThreshold ev n.heartbeatAgeSeconds = true
  completed : n.verdict.status = .completed → p.name = "ORACLE-AI" ∧ p.defaultProcessExpected = false
  unexpected : p.defaultProcessExpected = false → Runs t p s →
    n.stateConflict = true ∧ "unexpected_process" ∈ n.conflictingSources ∧ n.verifiedStatus.remoteVerifiedValue = .null

/-- The precedence of the verdict: the process, the human, the evidence and its age. -/
def precedence (expected running asks bare old : Bool) (settled : CanonicalState) : CanonicalState :=
  if expected then (if running then .running else .stale)
  else if asks then .humanRequired
  else if bare then .unknown
  else if old then .stale
  else settled

theorem verdict_status {o : Observed} {r : Reading} {unique : List Declaration} : (verdict py ev o r unique).status =
    precedence o.processExpected o.processRunning r.humanReq r.evidenceSources.isEmpty
      (overThreshold ev (heartbeatAge py ev r.lastHeartbeat)) (byEvidence py o r.nextAction (winner unique)).status := by
  unfold verdict precedence
  cases o.processExpected
  · simp only [Bool.false_and, Bool.false_eq_true, if_false]
    split_ifs <;> rfl
  · cases o.processRunning <;> rfl

/-- Which observation each status stands for, where nothing is asked or old without evidence. -/
theorem precedence_iff {e r asks bare old : Bool} {settled : CanonicalState}
    (plain : settled = .idleValid ∨ settled = .developing ∨ settled = .completed)
    (empty : bare = true → asks = false ∧ old = false) :
    (precedence e r asks bare old settled = .running ↔ e = true ∧ r = true) ∧
    (precedence e r asks bare old settled = .humanRequired ↔ e = false ∧ asks = true) ∧
    (precedence e r asks bare old settled = .unknown ↔ e = false ∧ bare = true) ∧
    (precedence e r asks bare old settled = .stale ↔
      e = true ∧ r = false ∨ e = false ∧ asks = false ∧ old = true) ∧
    (precedence e r asks bare old settled = .completed → e = false ∧ settled = .completed) := by
  unfold precedence
  cases e
  · cases asks <;> cases bare <;> cases old <;> rcases plain with rfl | rfl | rfl <;> simp_all
  · cases r <;> simp

/-- A file that is not there asks for nobody and has no time. -/
theorem absent_files {o : Observed} (absent : ∀ e ∈ o.evidenceMap, e.2.fileExists = false) :
    o.human = false ∧ o.stamps = [] := by
  refine ⟨List.any_eq_false.mpr fun e member => ?_, List.filterMap_eq_nil_iff.mpr fun e member => ?_⟩
  · simp [humanBy, absent e member]
  · simp [stampBy, contentOf, absent e member]

theorem absent_iff : (∀ e ∈ (observe t p s).observed.evidenceMap, e.2.fileExists = false) ↔ ∀ path ∈ p.stateFiles, s.files path = none := by
  constructor
  · intro absent path listed
    exact fileExists_iff.mp (absent _ (mem_evidence.mpr ⟨path, listed, rfl⟩))
  · intro absent e member
    obtain ⟨path, listed, rfl⟩ := mem_evidence.mp member
    exact fileExists_iff.mpr (absent path listed)

theorem sources_iff : (observe t p s).observed.reading.evidenceSources.isEmpty = true ↔ ∀ path ∈ p.stateFiles, s.files path = none := by
  rw [List.isEmpty_iff, ← absent_iff]
  refine List.filterMap_eq_nil_iff.trans (forall₂_congr fun e _ => ?_)
  cases there : e.2.fileExists <;> simp [sourceBy, there]

theorem unexpected_conflict {o : Observed} {unique : List Declaration} (unexpected : o.unexpectedProcess = true) :
    (contradictions o unique).1 = true ∧ "unexpected_process" ∈ (contradictions o unique).2 := by
  unfold contradictions
  dsimp only
  rw [unexpected]
  exact ⟨Bool.or_true _, mem_added.mpr (.inr ⟨rfl, rfl⟩)⟩

theorem shows_of_evaluate {o : Observed} (shown : evaluate py ev order o = some n) : Shows py ev order o n := by
  have outcome : (evaluate py ev order o = none ∧ o.Raises) ∨
      ¬ o.Raises ∧ ∃ n, evaluate py ev order o = some n ∧ Shows py ev order o n := evaluate_shows
  rw [shown] at outcome
  rcases outcome with ⟨raised, -⟩ | ⟨-, n', same, shows⟩
  · cases raised
  · obtain rfl := Option.some.inj same
    exact shows

/-- Without files nobody is asked for, and no heartbeat is old. -/
theorem absent_reported (shows : Shows py ev order (observe t p s).observed n) (absent : ∀ path ∈ p.stateFiles, s.files path = none) :
    (observe t p s).observed.reading.humanReq = false ∧ overThreshold ev n.heartbeatAgeSeconds = false := by
  obtain ⟨unasked, timeless⟩ := absent_files (absent_iff.mpr absent)
  refine ⟨unasked, ?_⟩
  rw [shows.age, timeless]
  rfl

/-- A process that runs unexpectedly is a conflict, and the status counts as verified nowhere. -/
theorem unexpected_reported (shown : evaluate py ev order (observe t p s).observed = some n) (none : p.defaultProcessExpected = false)
    (running : Runs t p s) :
    n.stateConflict = true ∧ "unexpected_process" ∈ n.conflictingSources ∧ n.verifiedStatus.remoteVerifiedValue = .null := by
  have shows := shows_of_evaluate shown
  have unexpected : (observe t p s).observed.unexpectedProcess = true := by
    have both : (observe t p s).observed.unexpectedProcess = (!p.defaultProcessExpected && (observe t p s).observed.processRunning) := rfl
    rw [both, none, running_iff.mpr running]
    rfl
  obtain ⟨conflicting, source⟩ : n.stateConflict = true ∧ "unexpected_process" ∈ n.conflictingSources := by
    rw [shows.stateConflict, shows.conflictingSources]
    exact unexpected_conflict unexpected
  have counted : n.verifiedStatus.remoteVerifiedValue ≠ .null ↔
      n.verifiedHead.verificationStatus = .verified ∧ n.stateConflict = false := by
    obtain ⟨r, declarations, -, rfl⟩ := evaluate_reads shown
    exact triples.shown.trans triples.status
  refine ⟨conflicting, source, by_contra fun valued => ?_⟩
  have free := (counted.mp valued).2
  rw [conflicting] at free
  cases free

/-- The status that a state reports. -/
theorem observation_reported (shown : evaluate py ev order (observe t p s).observed = some n) : Reported t ev p s n := by
  have shows := shows_of_evaluate shown
  have table := (congrArg Verdict.status shows.verdict).trans verdict_status
  have age : n.heartbeatAgeSeconds = heartbeatAge py ev (observe t p s).observed.reading.lastHeartbeat := shows.age
  rw [← age] at table
  have asked : (observe t p s).observed.reading.humanReq = true ↔ Asks t p s := asks_iff
  have sources : (observe t p s).observed.reading.evidenceSources.isEmpty = true ↔ ∀ path ∈ p.stateFiles, s.files path = none :=
    sources_iff
  have runs : (observe t p s).observed.processRunning = true ↔ Runs t p s := running_iff
  have evidence := byEvidence_status py (observe t p s).observed (observe t p s).observed.reading.nextAction
    (winner (order.arrange (observe t p s).observed.declarations))
  obtain ⟨running, human, unknown, stale, completed⟩ := precedence_iff (e := (observe t p s).observed.processExpected)
    (r := (observe t p s).observed.processRunning) evidence.1 fun bare => absent_reported shows (sources.mp bare)
  rw [← table] at running human unknown stale completed
  refine ⟨running.trans (and_congr_right' runs), human.trans (and_congr_right' asked), unknown.trans (and_congr_right' sources),
    ?_, ?_, unexpected_reported shown⟩
  · have idle : (observe t p s).observed.processRunning = false ↔ ¬ Runs t p s := by rw [← runs, Bool.not_eq_true]
    have unasked : (observe t p s).observed.reading.humanReq = false ↔ ¬ Asks t p s := by rw [← asked, Bool.not_eq_true]
    exact stale.trans (or_congr (and_congr_right' idle) (and_congr_right' (and_congr_left' unasked)))
  · intro done
    obtain ⟨none, settled⟩ := completed done
    exact ⟨evidence.2 settled, none⟩

end

/-- A watcher that is expected and runs, in a repository that its remote is in step with. -/
def watched : ProjectConfig := ⟨"micro", "MICRO-MARKET-ORACLE", "projects/micro", ["watcher"], true, .fin 300, ["control/PROJECT_STATE.json"]⟩

def inStep : Surroundings where
  hasRepository := true
  git command :=
    if command = ["rev-parse", "--abbrev-ref", "HEAD"] then ⟨0, "main\n", "", false⟩
    else if command = ["rev-parse", "HEAD"] then ⟨0, "1f3a\n", "", false⟩
    else if command = ["status", "--porcelain"] then ⟨0, "", "", false⟩
    else ⟨0, "1f3a\trefs/heads/main\n", "", false⟩
  processes := [⟨some 7, "python run_watcher.py"⟩]
  files _ := none

/-- Texts that are in lower case already. -/
def lowerCase : Texts := ⟨Json.ratioFloats, id⟩

/-- An order that leaves a set as it comes. -/
def asItComes : SetOrder Declaration := ⟨id, fun _ => .refl _⟩

theorem verified_head_iff_inStep : ∃ n, evaluate samplePy fiveMinutes asItComes (observe lowerCase watched inStep).observed = some n ∧
    n.verifiedHead.verificationStatus = .verified := by
  obtain ⟨n, shown⟩ : ∃ n, evaluate samplePy fiveMinutes asItComes (observe lowerCase watched inStep).observed = some n := ⟨_, rfl⟩
  obtain ⟨verified, printed, -⟩ := verified_head_iff shown
  have branch : checkedOut inStep.hasRepository inStep.git = some "main" := by decide +kernel
  have head : printedHead inStep.git = "1f3a" := by decide +kernel
  refine ⟨n, shown, verified.mpr ⟨"main", "1f3a", branch, ⟨by decide, by decide, by decide +kernel⟩, .inr ?_⟩⟩
  rw [printed "main" branch (by rw [head]; decide), head]

theorem observation_reported_inStep : ∃ n, evaluate samplePy fiveMinutes asItComes (observe lowerCase watched inStep).observed = some n ∧
    n.verdict.status = .running := by
  obtain ⟨n, shown⟩ : ∃ n, evaluate samplePy fiveMinutes asItComes (observe lowerCase watched inStep).observed = some n := ⟨_, rfl⟩
  refine ⟨n, shown, (observation_reported shown).running.mpr ⟨rfl, ?_⟩⟩
  exact ⟨_, List.mem_cons_self, "watcher", List.mem_cons_self, by decide +kernel⟩

end ControlPlane.Engine
