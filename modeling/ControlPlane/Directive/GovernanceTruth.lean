import ControlPlane.Data.Json.Equal
import Mathlib.Algebra.Order.Ring.Rat

/-!
# The governance evidence

`github_governance_truth.py`: a snapshot of what GitHub answered is read back, and the protection of
`main` is derived from it. The snapshot carries the answer of the API, and next to it what its writer
says of itself.
-/

namespace ControlPlane.Directive.Governance

open ControlPlane.Data

/-- What the interpreter computes. -/
structure Interpreter where
  floats : Json.Floats
  /-- `datetime.fromisoformat` of a text that names its zone; another one raises here or where it is subtracted -/
  fromisoformat : String → Option ℚ
  upper : String → String
  str : Json → String

inductive ParseError where
  | missingFile
  | emptyFile
  | missingFetchedAt
  | stale
  | unqueried
  /-- `MALFORMED_EVIDENCE` with the text of an exception -/
  | malformed
  deriving DecidableEq

inductive BlockStatus where
  | fail
  | waitingHuman
  | pass
  deriving DecidableEq

/-- `ci_bootstrap_commit_sha` -/
def bootstrapSha : String := "ab96ee76479209f90152dc94b576a447823198b6"

/-- What is returned about the pull request. -/
structure PullFacts where
  ciPrCreated : Bool := false
  ciPrNumber : String := "NONE"
  ciPrUrl : Json := .str "https://github.com/marcelodiazsanmartin-star/AI-CONTROL-PLANE/pull/new/control-02-10r-1b-ci-bootstrap"
  remotePrExistenceVerified : Bool := false
  prState : String := "UNVERIFIED"
  prBaseBranch : Json := .str "main"
  prHeadBranch : Json := .str "control-02-10r-1b-ci-bootstrap"
  prHeadSha : Json := .str bootstrapSha

/-- What is returned about the workflow runs. -/
structure RunFacts where
  ciWorkflowExecutedOnGithub : Bool := false
  githubWorkflowRunId : String := "NONE"
  githubWorkflowEvent : Json := .str "NONE"
  githubWorkflowHeadSha : Json := .str bootstrapSha
  githubWorkflowStatus : Json := .str "NONE"
  githubWorkflowConclusion : Json := .str "NONE"
  githubWorkflowUrl : Json := .null
  ciStatusCheckName : String := "UNVERIFIED_UNTIL_REAL_RUN"
  ciStatusCheckPass : Bool := false
  remoteStatusCheckVerified : Bool := false
  remoteCiPass : Bool := false

/-- What is returned about `main`. -/
structure MainFacts where
  governanceEvidenceValid : Bool := false
  prRequiredForMain : Bool := false
  reviewRequiredForMain : Bool := false
  statusChecksRequiredForMain : Bool := false
  requiredStatusCheck : String := "NONE"
  forcePushBlocked : Bool := false
  branchDeletionBlocked : Bool := false
  directPushRestricted : Bool := false
  adminBypassRestricted : Bool := false
  directPushProtectionVerified : Bool := false
  uncontrolledDirectPushCompliant : Bool := true
  uncontrolledDirectPushRejected : Bool := false

/-- What the answer of the API gives. -/
structure ApiFacts where
  pull : PullFacts := {}
  run : RunFacts := {}
  main : MainFacts := {}

/-- The dictionary that is returned, as far as it is not constant. -/
structure Result where
  parseError : Option ParseError := none
  independentGithubStateFetched : Bool := false
  apiQuerySuccess : Bool := false
  freshGithubGovernanceState : Bool := false
  githubApiAuthAvailable : Bool := false
  githubApiAuthMethod : Json := .str "NONE"
  api : ApiFacts := {}
  humanReviewRequiredForCriticalChanges : Bool := true
  mainProtectionEffective : Bool := false
  ciBootstrapPrGovernedMerge : Bool := false
  postMergeApiQuerySuccess : Bool := false
  postMergeMainProtectionEffective : Bool := false
  postMergeRequiredStatusCheckPresent : Bool := false
  postMergeDirectPushRestricted : Bool := false
  githubGovernanceBlocker : Bool := true
  localTestsFailed : Nat := 0
  localTestsSkipped : Nat := 0
  humanActionRequired : Bool := true
  criticalGateFailure : Bool := true
  strictPass : Bool := false
  humanActionType : String := "GH_CLI_INSTALL_OR_AUTH"
  block1bR2Status : BlockStatus := .waitingHuman
  block1bR3Status : BlockStatus := .waitingHuman
  block1cStatus : BlockStatus := .waitingHuman

/-- A step of the parser: it raises with what was set before. -/
abbrev Parse (α : Type) := Except α α

/-- `d.get(k, {})`, where it has fields of its own. -/
def inner? (d : Record) (k : String) : Option Record :=
  match d.get? k with
  | none => some []
  | some (.dict e) => some e
  | some _ => none

/-- `d.get(k, [])` as a list that is gone through; another value is passed over. -/
def items (d : Record) (k : String) : List Json :=
  match d.get? k with
  | some (.list xs) => xs
  | _ => []

/-- `v in options` -/
def isOneOf (v : Json) (options : List Json) : Bool := options.any v.equal

/-! ### Pull requests and runs -/

/-- A pull request that the parser looks for. -/
def isCiPull (head pr : Record) : Bool :=
  isOneOf (head.field "ref") [.str "control-02-10r-1b-ci-bootstrap", .str "control-02-10r-1b-r3-semantic-fix",
    .str "control-02-10r-1c-final-provenance"] ||
  isOneOf (pr.field "number") [.int 1, .int 2, .int 3]

def takePull (py : Interpreter) (head pr : Record) : Parse PullFacts :=
  let found : PullFacts := {
    ciPrCreated := true
    ciPrNumber := py.str (pr.field "number")
    ciPrUrl := pr.field "html_url"
    remotePrExistenceVerified := true }
  match (pr.get? "state").getD (.str "OPEN") with
  | .str state =>
    let stated := { found with prState := py.upper state }
    match inner? pr "base" with
    | some base => .ok { stated with
        prBaseBranch := base.field "ref", prHeadBranch := head.field "ref", prHeadSha := head.field "sha" }
    | none => .error stated
  | _ => .error found

def parsePulls (py : Interpreter) : List Json → Parse PullFacts
  | [] => .ok {}
  | .dict pr :: rest =>
    match inner? pr "head" with
    | some head => if isCiPull head pr then takePull py head pr else parsePulls py rest
    | none => .error {}
  | _ :: _ => .error {}

def isCiRun (prHeadSha : Json) (run : Record) : Bool :=
  isOneOf (run.field "head_branch") [.str "control-02-10r-1b-ci-bootstrap", .str "control-02-10r-1c-final-provenance"] ||
  isOneOf (run.field "head_sha") [.str bootstrapSha, prHeadSha]

def succeeded (run : Record) : Bool := (run.field "conclusion").equal (.str "success")

def takeRun (py : Interpreter) (r : RunFacts) (run : Record) : RunFacts :=
  let executed := { r with ciWorkflowExecutedOnGithub := true }
  let shown := if succeeded run || executed.githubWorkflowRunId = "NONE" then { executed with
      githubWorkflowRunId := py.str (run.field "id")
      githubWorkflowEvent := run.field "event"
      githubWorkflowHeadSha := run.field "head_sha"
      githubWorkflowStatus := run.field "status"
      githubWorkflowConclusion := run.field "conclusion"
      githubWorkflowUrl := run.field "html_url" }
    else executed
  if succeeded run then { shown with
      ciStatusCheckName := "test", ciStatusCheckPass := true, remoteStatusCheckVerified := true, remoteCiPass := true }
  else shown

def parseRuns (py : Interpreter) (prHeadSha : Json) (r : RunFacts) : List Json → Parse RunFacts
  | [] => .ok r
  | .dict run :: rest =>
    if isCiRun prHeadSha run then
      if succeeded run then .ok (takeRun py r run) else parseRuns py prHeadSha (takeRun py r run) rest
    else parseRuns py prHeadSha r rest
  | _ :: _ => .error r

/-- The list of runs, where the answer has one. -/
def runsOf (api : Record) : List Json :=
  match (api.get? "runs").getD (.dict []) with
  | .dict runs => items runs "workflow_runs"
  | _ => []

/-! ### Protection -/

/-- The protection object that is recognized as one. -/
def protectionOf (api : Record) : Option Record :=
  match api.get? "protection" with
  | some (.dict p) => if (Dict.get? p "url").isSome || (Dict.get? p "required_status_checks").isSome then some p else none
  | _ => none

/-- `bool(p.get(k, {}).get("enabled", False))` -/
def enabled? (p : Record) (k : String) : Option Bool := (inner? p k).map fun e => (e.field "enabled").truthy

/-- `count > 0`, where the count is a number. -/
def positive? (count : Json) : Option Bool := count.number?.map fun n => decide (PyFloat.fin 0 < n)

def takeProtection (apiQuerySuccess : Bool) (p : Record) : Parse MainFacts :=
  let required : MainFacts := { prRequiredForMain := true }
  match (inner? p "required_pull_request_reviews").bind fun reviews =>
      positive? ((reviews.get? "required_approving_review_count").getD (.int 0)) with
  | none => .error required
  | some reviewed =>
    let checked := { required with
      reviewRequiredForMain := reviewed
      statusChecksRequiredForMain := (p.get? "required_status_checks").isSome
      requiredStatusCheck := "test" }
    match enabled? p "allow_force_pushes" with
    | none => .error checked
    | some forced =>
      let blocked := { checked with forcePushBlocked := !forced }
      match enabled? p "allow_deletions" with
      | none => .error blocked
      | some deletable =>
        let restricted := { blocked with branchDeletionBlocked := !deletable, directPushRestricted := true }
        match enabled? p "enforce_admins" with
        | none => .error restricted
        | some enforced => .ok { restricted with
            adminBypassRestricted := enforced
            directPushProtectionVerified := true
            uncontrolledDirectPushCompliant := false
            uncontrolledDirectPushRejected := true
            governanceEvidenceValid := apiQuerySuccess }

def parseProtection (apiQuerySuccess : Bool) (api : Record) : Parse MainFacts :=
  match protectionOf api with
  | some p => takeProtection apiQuerySuccess p
  | none => .ok {}

/-- `git_remote_governance`, where it is a dictionary. -/
def attestation (data : Record) : Option Record :=
  match data.get? "git_remote_governance" with
  | some (.dict m) => some m
  | _ => none

/-- The facts as the snapshot states them of itself. -/
def takeAttestation (facts : MainFacts) (m : Record) : MainFacts :=
  { facts with
    prRequiredForMain := (m.field "pr_required").truthy
    reviewRequiredForMain := (m.field "review_required").truthy
    statusChecksRequiredForMain := (m.field "checks_required").truthy
    forcePushBlocked := (m.field "force_push_blocked").truthy
    branchDeletionBlocked := (m.field "branch_delete_blocked").truthy
    directPushRestricted := (m.field "direct_push_restricted").truthy
    adminBypassRestricted := (m.field "admin_bypass_restricted").truthy
    directPushProtectionVerified := (m.field "direct_push_restricted").truthy
    uncontrolledDirectPushCompliant := !(m.field "direct_push_restricted").truthy
    uncontrolledDirectPushRejected := (m.field "direct_push_restricted").truthy
    governanceEvidenceValid := true }

/-- What the snapshot says of itself takes the place of what the API answered. -/
def attested (r : Result) (data : Record) : Result :=
  match attestation data with
  | some m => { r with api.main := takeAttestation r.api.main m }
  | none => r

/-! ### The verdict -/

/-- `main_protection_effective` -/
def effective (r : Result) : Bool :=
  r.api.main.governanceEvidenceValid && r.api.main.prRequiredForMain && r.api.main.statusChecksRequiredForMain &&
    r.api.main.forcePushBlocked && r.api.main.branchDeletionBlocked && r.api.main.directPushRestricted &&
    r.api.main.adminBypassRestricted && r.humanReviewRequiredForCriticalChanges

/-- Whether the first pull request says when it was merged. -/
def firstMerged (pulls : List Json) : Bool :=
  match pulls with
  | .dict pr :: _ => (Record.field pr "merged_at").truthy
  | _ => false

def merge (r : Result) (pulls : List Json) : Result :=
  if r.api.pull.prState = "MERGED" || r.api.pull.prState = "CLOSED" || firstMerged pulls then { r with
    ciBootstrapPrGovernedMerge := true
    postMergeApiQuerySuccess := r.apiQuerySuccess
    postMergeMainProtectionEffective := r.mainProtectionEffective
    postMergeRequiredStatusCheckPresent := r.api.main.statusChecksRequiredForMain
    postMergeDirectPushRestricted := r.api.main.directPushRestricted }
  else r

/-- `pass_rule` -/
def passRule (r : Result) : Bool :=
  r.api.pull.ciPrCreated && r.api.pull.remotePrExistenceVerified && r.api.run.ciWorkflowExecutedOnGithub && r.api.run.ciStatusCheckPass &&
    r.githubApiAuthAvailable && r.apiQuerySuccess && r.api.main.governanceEvidenceValid && r.mainProtectionEffective &&
    r.api.main.prRequiredForMain && r.api.main.statusChecksRequiredForMain && r.api.main.forcePushBlocked &&
    r.api.main.branchDeletionBlocked && r.api.main.directPushRestricted && r.api.main.adminBypassRestricted &&
    r.api.main.directPushProtectionVerified && r.api.main.uncontrolledDirectPushRejected &&
    !r.api.main.uncontrolledDirectPushCompliant && r.ciBootstrapPrGovernedMerge && r.postMergeMainProtectionEffective &&
    r.api.run.remoteCiPass && decide (r.localTestsFailed = 0) && decide (r.localTestsSkipped = 0)

def decided (r : Result) : Result :=
  if passRule r then { r with
    block1bR2Status := .pass
    block1bR3Status := .pass
    humanActionRequired := false
    criticalGateFailure := false
    strictPass := true
    humanActionType := "NONE" }
  else { r with
    block1bR2Status := .waitingHuman
    block1bR3Status := .waitingHuman
    humanActionRequired := true
    criticalGateFailure := true
    humanActionType := "ENABLE_MAIN_RULESET" }

/-- The fields that are derived from the facts. -/
def derived (r : Result) (pulls : List Json) : Result :=
  { merge { r with mainProtectionEffective := effective r } pulls with
    independentGithubStateFetched := true
    githubGovernanceBlocker := !effective r }

/-- From the facts to the verdict. -/
def conclude (r : Result) (pulls : List Json) : Result := decided (derived r pulls)

/-! ### The parser -/

/-- The flags of the query. -/
def queried (data : Record) : Result where
  independentGithubStateFetched := (data.field "api_query_success").truthy || (data.field "git_ls_remote_verified").truthy
  apiQuerySuccess := (data.field "api_query_success").truthy
  freshGithubGovernanceState := (data.field "api_query_success").truthy
  parseError :=
    if !(data.field "api_query_success").truthy && !(data.field "git_remote_governance").truthy then some .unqueried else none
  githubApiAuthAvailable := (data.field "github_api_auth_available").truthy
  githubApiAuthMethod := (data.get? "github_api_auth_method").getD (.str "NONE")

/-- `api_data`, where it is a dictionary that is not empty. -/
def apiData (data : Record) : Option Record :=
  match data.get? "api_data" with
  | some (.dict api) => if api.isEmpty then none else some api
  | _ => none

/-- What the answer of the API shows. -/
def parseApi (py : Interpreter) (data : Record) : Parse ApiFacts :=
  match apiData data with
  | none => .ok {}
  | some api =>
    match parsePulls py (items api "pulls") with
    | .error pull => .error { pull := pull }
    | .ok pull =>
      match parseRuns py pull.prHeadSha {} (runsOf api) with
      | .error run => .error { pull := pull, run := run }
      | .ok run =>
        match parseProtection (data.field "api_query_success").truthy api with
        | .error main => .error ⟨pull, run, main⟩
        | .ok main => .ok ⟨pull, run, main⟩

/-- The list of pull requests, where the answer has one. -/
def pullsOf (data : Record) : List Json :=
  match apiData data with
  | some api => items api "pulls"
  | none => []

/-- A file that is rejected before anything is read of it. -/
def rejected (error : ParseError) : Result :=
  { parseError := some error, block1bR2Status := .fail, block1cStatus := .fail }

/-- `except Exception` -/
def raised (r : Result) : Result := { r with parseError := some .malformed, block1bR2Status := .fail }

/-- How the head of a snapshot is found. -/
inductive Freshness where
  | rejected (error : ParseError)
  | raises
  | fresh
  deriving DecidableEq

def freshness (py : Interpreter) (now maxAge : ℚ) (data : Record) : Freshness :=
  if !(data.field "fetched_at").truthy then .rejected .missingFetchedAt
  else
    match (data.field "fetched_at").str?.bind py.fromisoformat with
    | none => .raises
    | some fetched => if maxAge < now - fetched then .rejected .stale else .fresh

def parseSnapshot (py : Interpreter) (now maxAge : ℚ) (data : Record) : Result :=
  match freshness py now maxAge data with
  | .rejected error => rejected error
  | .raises => raised {}
  | .fresh =>
    match parseApi py data with
    | .error facts => raised { queried data with api := facts }
    | .ok facts => conclude (attested { queried data with api := facts } data) (pullsOf data)

/-- `bytes.strip()` leaves nothing. -/
def blank (content : String) : Bool := content.toList.all fun c => c ∈ [' ', '\t', '\n', '\r', '\x0b', '\x0c']

/-- The snapshot in a file, where it holds a dictionary. -/
def snapshot (py : Interpreter) (content : Option String) : Option Record :=
  match content with
  | some text =>
    if blank text then none else
      match Json.loads py.floats text with
      | some (.dict data) => some data
      | _ => none
  | none => none

/-- `parse_github_governance_evidence` -/
def parse (py : Interpreter) (now maxAge : ℚ) (content : Option String) : Result :=
  match content with
  | none => rejected .missingFile
  | some text =>
    if blank text then rejected .emptyFile
    else
      match Json.loads py.floats text with
      | some (.dict data) => parseSnapshot py now maxAge data
      | _ => raised {}

end ControlPlane.Directive.Governance
