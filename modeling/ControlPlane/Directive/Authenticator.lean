import ControlPlane.Directive.Checkpoints
import ControlPlane.Directive.DurableQueue
import ControlPlane.Directive.SignerAuthorization

/-!
# The directive authenticator

`authenticate` and `revalidate_before_execution` of `authenticator.py`: what they ask of git and
of the clock, and in which order.
-/

namespace ControlPlane.Directive

open ControlPlane.Data

/-- The functions of the standard library on what is authenticated. -/
structure AuthHost extends Host where
  /-- `hashlib.sha256(data).hexdigest()` -/
  sha256Bytes : ByteArray → String
  sha256_named : ∀ data, sha256Bytes data ≠ "" ∧ sha256Bytes data ≠ "UNKNOWN_HASH"
  /-- `hashlib.sha1(data).hexdigest()` -/
  sha1Bytes : ByteArray → String
  upper : String → String
  upper_ascii : ∀ s, (s.toList.all fun c => c.toNat < 128) = true → upper s = String.ofList (s.toList.map Char.toUpper)
  isoformat : Instant → String
  /-- `parse_iso` -/
  parseIso : String → Option Int
  parse_iso : ∀ t, parseIso (isoformat t) = some t.val
  /-- `f"\x7bseconds:.1f\x7d"` -/
  shownSeconds : ℚ → String

/-- What git answers; the text of the exception where a call raises. -/
structure GitAnswers extends CommitAnswers where
  /-- A `.git` is found. -/
  repository : Bool
  /-- `git cat-file -e sha^{commit}` -/
  commitExists : String → Except String Int
  lsRemote : Except String Completed
  /-- `git merge-base --is-ancestor` -/
  isAncestor : String → String → Option Int
  /-- `git show commit:path` -/
  showFile : String → String → Except String (Int × ByteArray)
  /-- `git rev-parse commit:path` -/
  revParse : String → String → Except String Completed

structure AuthSettings where
  approvedSourceRepository : String := "AI-CONTROL-PLANE"
  approvedSourceBranch : String := "main"
  requireCommitSignatureVerification : Bool := true
  trustedSignerAllowlist : Allowlist
  /-- In seconds. -/
  maxClockSkew : ℚ := 300
  skew_nonneg : 0 ≤ maxClockSkew

def allowedActionClasses : List String :=
  ["STATUS_REQUEST", "AUDIT_REQUEST", "READ_ONLY_ANALYSIS", "GENERATE_REPORT", "RUN_CONTROL_PLANE_TESTS",
    "RUN_READ_ONLY_OBSERVATION", "PREPARE_NEXT_STAGE", "NO_OP"]

def prohibitedMutatingActions : List String :=
  ["RESTART_PROJECT", "STOP_PROJECT", "KILL_PROCESS", "MODIFY_STRATEGY", "CHANGE_PARAMETERS", "WRITE_TO_ORACLE", "WRITE_TO_MICRO",
    "DELETE_DATA", "RESET_GIT", "CHECKOUT_PROJECT_BRANCH", "ENABLE_REAL_MONEY", "SEND_ORDER", "EXECUTE_TRADE", "MODIFY_CREDENTIALS"]

def actionsRequiringHumanApproval : List String :=
  ["REAL_MONEY_ENABLE", "CREDENTIAL_CHANGE", "DESTRUCTIVE_OPERATION", "STRATEGY_CHANGE", "HIGH_RISK_ARCHITECTURE_CHANGE"]

/-- `auth_metadata` -/
structure SourceMetadata where
  directiveId : String
  payloadCommitSha : String
  payloadBlobSha : String := "UNKNOWN_BLOB"
  payloadSha256 : String := "UNKNOWN_HASH"
  remoteBranchHeadSha : String := "UNKNOWN_REMOTE"
  trustedRemote : String
  trustedBranch : String
  signaturePresent : Bool := false
  signatureValid : Bool := false
  signerIdentity : String := ""
  signerAllowed : Bool := false
  remoteAncestryVerified : Bool := false

/-- What `authenticate` returns. -/
structure SourceAuthentication where
  status : ValidationStatus
  reason : String
  requiresHumanWait : Bool
  metadata : SourceMetadata

section

variable (host : AuthHost)

/-- `compute_payload_bytes_and_hash`, but for the bytes: the two digests of the committed document without its envelope, or of the bytes
as they are where they hold no document. -/
def computePayloadHash (rawBytes : ByteArray) : String × String :=
  let payloadBytes := match (String.fromUTF8? rawBytes).bind (Json.loads host.floats) with
    | some (.dict data) => (Json.dumps host.floats.repr { sortKeys := true } (.dict (data.filter fun e => e.1 ≠ "envelope"))).toUTF8
    | _ => rawBytes
  (host.sha256Bytes payloadBytes, host.sha1Bytes (("blob " ++ toString payloadBytes.size ++ "\x00").toUTF8 ++ payloadBytes))

end

section

variable (settings : AuthSettings) (git : GitAnswers)

/-- `query_remote_branch_head` -/
def queryRemoteBranchHead : Except String String :=
  match git.lsRemote with
  | .error e => .error ("REMOTE_BRANCH_UNAVAILABLE: git ls-remote failed: " ++ e)
  | .ok res =>
    let missing := "REMOTE_BRANCH_UNAVAILABLE: origin/main unreachable via git ls-remote"
    if res.returncode = 0 then
      match (tokens res.stdout.toList).head? with
      | some sha => if sha.length = 40 then .ok (String.ofList sha) else .error missing
      | none => .error missing
    else .error missing

/-- The policy on signatures refuses. -/
def signatureRefusal (verdict : SignatureVerdict) (short : String) : Option (ValidationStatus × String) :=
  let invalid := (ValidationStatus.commitSignatureInvalid, s!"COMMIT_SIGNATURE_INVALID: Commit {short} signature is invalid")
  let untrusted := (ValidationStatus.untrustedCommitSigner,
    s!"UNTRUSTED_COMMIT_SIGNER: Signer '{verdict.signerIdentity}' is not in TRUSTED_SIGNER_ALLOWLIST")
  if settings.requireCommitSignatureVerification then
    if !verdict.signaturePresent then
      some (.commitSignatureMissing, s!"COMMIT_SIGNATURE_MISSING: Commit {short} is not cryptographically signed")
    else if !verdict.signatureValid then some invalid
    else if !verdict.signerAllowed then some untrusted
    else none
  else if verdict.signaturePresent && !verdict.signatureValid then some invalid
  else if !verdict.signerAllowed then some untrusted
  else none

end

/-- `rel_git_path` -/
def gitPath (payload : DirectivePayload) (fileName : Option String) : String :=
  "directives/inbox/" ++ fileName.getD (payload.directiveId ++ ".json")

/-- `commit_sha[:7]` -/
def shortSha (sha : String) : String := String.ofList (sha.toList.take 7)

/-- A claimed digest is there, and another one. -/
def contradicts (claimed unknown actual : String) : Bool := claimed ≠ "" && claimed ≠ unknown && claimed ≠ actual

section

variable (host : AuthHost) (settings : AuthSettings) (git : GitAnswers) (now : Int)

/-- Steps 8 to 10: the clock, the action and the human gate. -/
def judgePayload (payload : DirectivePayload) (metadata : SourceMetadata) : SourceAuthentication :=
  match host.parseIso payload.createdAt, host.parseIso payload.expiresAt with
  | some created, some expires =>
    let futureSkew : ℚ := (created - now) / 1000000
    let actionType := host.upper payload.actionType
    if settings.maxClockSkew < futureSkew then
      ⟨.clockSkewExceeded, s!"CLOCK_SKEW_EXCEEDED: Directive created_at is {host.shownSeconds futureSkew}s in future (max allowed {host.shown (.float (.fin settings.maxClockSkew))}s)",
        false, metadata⟩
    else if expires < now then ⟨.expired, s!"EXPIRED: Directive expired at {payload.expiresAt}", false, metadata⟩
    else if actionType ∈ prohibitedMutatingActions then
      ⟨.actionNotAllowed, s!"ACTION_NOT_ALLOWED: Prohibited mutating action '{actionType}' rejected in CONTROL-02.5", false, metadata⟩
    else if actionType ∉ allowedActionClasses ∧ actionType ∉ actionsRequiringHumanApproval then
      ⟨.actionNotAllowed, s!"ACTION_NOT_ALLOWED: Unknown or unauthorized action_type '{actionType}'", false, metadata⟩
    else if payload.requiresHumanApproval ∨ actionType ∈ actionsRequiringHumanApproval then
      ⟨.authentic, s!"WAITING_HUMAN: Directive requires human approval for action '{actionType}'", true, metadata⟩
    else ⟨.authentic, "AUTHENTIC: Directive source authenticated and validated successfully", false, metadata⟩
  | _, _ => ⟨.schemaInvalid, "SCHEMA_INVALID: Invalid created_at or expires_at ISO timestamp", false, metadata⟩

/-- Step 7: the committed file, or the answer where it is refused. -/
def extractBlob (envelope : DirectiveEnvelope) (path : String) (metadata : SourceMetadata) : Except SourceAuthentication SourceMetadata :=
  let short := shortSha envelope.payloadCommitSha
  let failed (metadata : SourceMetadata) (e : String) : Except SourceAuthentication SourceMetadata :=
    .error ⟨.failClosedGithubUnavailable, s!"FAIL_CLOSED: Failed extracting committed blob from Git: {e}", false, metadata⟩
  match git.showFile envelope.payloadCommitSha path with
  | .error e => failed metadata e
  | .ok (returncode, committedBytes) =>
    if returncode = 0 then
      let (sha256, blob) := computePayloadHash host committedBytes
      let metadata := { metadata with payloadSha256 := sha256, payloadBlobSha := blob }
      match git.revParse envelope.payloadCommitSha path with
      | .error e => failed metadata e
      | .ok res =>
        let metadata := if res.returncode = 0 then { metadata with payloadBlobSha := String.ofList (strip res.stdout.toList) } else metadata
        if contradicts envelope.payloadSha256 "UNKNOWN_HASH" sha256 then
          .error ⟨.contentMismatch, s!"CONTENT_MISMATCH: Envelope payload_sha256 mismatch against committed blob in {short}", false, metadata⟩
        else if contradicts envelope.payloadBlobSha "UNKNOWN_BLOB" metadata.payloadBlobSha then
          .error ⟨.contentMismatch, s!"CONTENT_MISMATCH: Envelope payload_blob_sha mismatch against committed blob in {short}", false, metadata⟩
        else .ok metadata
    else
      .error ⟨.commitExistsButDirectiveAbsent,
        s!"COMMIT_EXISTS_BUT_DIRECTIVE_ABSENT: Directive file '{path}' does not exist in commit {short}", false, metadata⟩

/-- Steps 1 to 6: the source, the commit, the remote head and the signature. -/
def verifySource (envelope : DirectiveEnvelope) (metadata : SourceMetadata) : Except SourceAuthentication SourceMetadata :=
  let commitSha := envelope.payloadCommitSha
  let short := shortSha commitSha
  if envelope.trustedRemote ≠ settings.approvedSourceRepository then
    .error ⟨.invalidSource, s!"INVALID_SOURCE: Repository '{envelope.trustedRemote}' is not approved", false, metadata⟩
  else if envelope.trustedBranch ≠ settings.approvedSourceBranch then
    .error ⟨.notInApprovedBranch, s!"NOT_IN_APPROVED_BRANCH: Branch '{envelope.trustedBranch}' is not approved", false, metadata⟩
  else if commitSha = "" ∨ commitSha = "UNKNOWN_SHA" then
    .error ⟨.commitNotFound, "COMMIT_NOT_FOUND: payload_commit_sha is missing", false, metadata⟩
  else if git.repository = false then
    .error ⟨.failClosedGithubUnavailable, "FAIL_CLOSED: Git repository directory not found", false, metadata⟩
  else
    match git.commitExists commitSha with
    | .error e => .error ⟨.failClosedGithubUnavailable, s!"FAIL_CLOSED: Git commit check failed: {e}", false, metadata⟩
    | .ok returncode =>
      if returncode ≠ 0 then
        .error ⟨.commitNotFound, s!"COMMIT_NOT_FOUND: Commit {short} does not exist in repository", false, metadata⟩
      else
        match queryRemoteBranchHead git with
        | .error reason => .error ⟨.remoteBranchUnavailable, reason, false, metadata⟩
        | .ok head =>
          let metadata := { metadata with remoteBranchHeadSha := head }
          if git.isAncestor commitSha head ≠ some 0 then
            .error ⟨.payloadCommitNotReachable,
              s!"PAYLOAD_COMMIT_NOT_REACHABLE: Commit {short} is not reachable from remote branch head {shortSha head}", false, metadata⟩
          else
            let verdict := verifyCommitSignature git.toCommitAnswers settings.trustedSignerAllowlist commitSha
            let metadata := { metadata with
              remoteAncestryVerified := true, signaturePresent := verdict.signaturePresent, signatureValid := verdict.signatureValid,
              signerIdentity := verdict.signerIdentity, signerAllowed := verdict.signerAllowed }
            match signatureRefusal settings verdict short with
            | some (status, reason) => .error ⟨status, reason, false, metadata⟩
            | none => .ok metadata

/-- `auth_metadata` before anything is checked. -/
def initialMetadata (payload : DirectivePayload) (envelope : DirectiveEnvelope) : SourceMetadata where
  directiveId := payload.directiveId
  payloadCommitSha := envelope.payloadCommitSha
  trustedRemote := envelope.trustedRemote
  trustedBranch := envelope.trustedBranch

/-- `authenticate` -/
def authenticate (payload : DirectivePayload) (envelope : DirectiveEnvelope) (fileName : Option String) : SourceAuthentication :=
  match verifySource settings git envelope (initialMetadata payload envelope) with
  | .error refused => refused
  | .ok metadata =>
    match extractBlob host git envelope (gitPath payload fileName) metadata with
    | .error refused => refused
    | .ok metadata => judgePayload host settings now payload metadata

/-! ### `revalidate_before_execution` -/

/-- `reval_meta` -/
structure RevalidationMetadata where
  freshFetchPerformed : Bool := false
  remoteHeadResolved : Bool := false
  remoteHeadSha : String := "UNKNOWN"
  commitReachable : Bool := false
  signatureValid : Bool := false
  signerAllowed : Bool := false
  signerIdentity : String := ""
  payloadSha256 : String := "UNKNOWN"
  payloadHashMatch : Bool := false
  snapshotMatch : Bool := false
  executionBindingVerified : Bool := false

/-- `revalidate_before_execution`; `fetched` where `git fetch` was asked for and did not raise. -/
def revalidateBeforeExecution (payload : DirectivePayload) (envelope : DirectiveEnvelope) (snapshot : SourceMetadata)
    (fileName : Option String) (fetched : Bool) : Bool × String × RevalidationMetadata :=
  let meta₀ : RevalidationMetadata := { freshFetchPerformed := fetched }
  match queryRemoteBranchHead git with
  | .error reason => (false, s!"REMOTE_UNRESOLVED: {reason}", meta₀)
  | .ok head =>
    let meta₁ := { meta₀ with remoteHeadResolved := true, remoteHeadSha := head }
    let commitSha := envelope.payloadCommitSha
    let short := shortSha commitSha
    if git.isAncestor commitSha head ≠ some 0 then
      (false, s!"FORCE_PUSH_OR_UNREACHABLE: Commit {short} is not reachable from remote head {shortSha head}", meta₁)
    else
      let verdict := verifyCommitSignature git.toCommitAnswers settings.trustedSignerAllowlist commitSha
      let meta₂ := { meta₁ with
        commitReachable := true, signatureValid := verdict.signatureValid, signerAllowed := verdict.signerAllowed,
        signerIdentity := verdict.signerIdentity }
      if settings.requireCommitSignatureVerification ∧ (verdict.signaturePresent = false ∨ verdict.signatureValid = false) then
        (false, s!"SIGNATURE_INVALID: Pre-execution signature revalidation failed for {short}", meta₂)
      else if settings.requireCommitSignatureVerification ∧ verdict.signerAllowed = false then
        (false, s!"KEY_REVOKED_OR_UNAUTHORIZED: Pre-execution signer '{verdict.signerIdentity}' is not allowed", meta₂)
      else
        match git.showFile commitSha (gitPath payload fileName) with
        | .error e => (false, s!"BLOB_EXTRACTION_FAILED: {e}", meta₂)
        | .ok (returncode, committedBytes) =>
          if returncode ≠ 0 then (false, s!"BLOB_ABSENT: Directive file absent in commit {short}", meta₂)
          else
            let sha256 := (computePayloadHash host committedBytes).1
            let meta₃ := { meta₂ with payloadSha256 := sha256 }
            if contradicts snapshot.payloadSha256 "UNKNOWN_HASH" sha256 then
              (false, s!"PAYLOAD_HASH_MISMATCH: Pre-execution hash {String.ofList (sha256.toList.take 10)} != Ingestion hash {String.ofList (snapshot.payloadSha256.toList.take 10)}", meta₃)
            else
              let meta₄ := { meta₃ with payloadHashMatch := true }
              if snapshot.payloadCommitSha ≠ "" ∧ snapshot.payloadCommitSha ≠ commitSha then (false, "COMMIT_SUBSTITUTION_DETECTED", meta₄)
              else if snapshot.signerIdentity ≠ "" ∧ snapshot.signerIdentity ≠ verdict.signerIdentity then
                (false, "SIGNER_MISMATCH_DETECTED", meta₄)
              else
                (true, "PRE_EXECUTION_REVALIDATED: Directive pre-execution TOCTOU revalidation passed",
                  { meta₄ with snapshotMatch := true, executionBindingVerified := true })

end

/-! ### What authenticates -/

/-- The envelope, the remote and the commit's signature are in order. -/
structure SourceVerified (settings : AuthSettings) (git : GitAnswers) (envelope : DirectiveEnvelope) (head : String) : Prop where
  remote : envelope.trustedRemote = settings.approvedSourceRepository
  branch : envelope.trustedBranch = settings.approvedSourceBranch
  named : envelope.payloadCommitSha ≠ "" ∧ envelope.payloadCommitSha ≠ "UNKNOWN_SHA"
  repository : git.repository = true
  present : git.commitExists envelope.payloadCommitSha = .ok 0
  resolved : queryRemoteBranchHead git = .ok head
  reachable : git.isAncestor envelope.payloadCommitSha head = some 0
  signed : signatureRefusal settings (verifyCommitSignature git.toCommitAnswers settings.trustedSignerAllowlist envelope.payloadCommitSha)
    (shortSha envelope.payloadCommitSha) = none

/-- The committed file is there, and the envelope does not contradict it. -/
structure BlobMatched (host : AuthHost) (git : GitAnswers) (envelope : DirectiveEnvelope) (path : String) (bytes : ByteArray)
    (res : Completed) : Prop where
  committed : git.showFile envelope.payloadCommitSha path = .ok (0, bytes)
  parsed : git.revParse envelope.payloadCommitSha path = .ok res
  sha256 : contradicts envelope.payloadSha256 "UNKNOWN_HASH" (computePayloadHash host bytes).1 = false
  blob : contradicts envelope.payloadBlobSha "UNKNOWN_BLOB"
    (if res.returncode = 0 then String.ofList (strip res.stdout.toList) else (computePayloadHash host bytes).2) = false

/-- The times and the action of a payload are admitted. -/
structure PayloadAdmitted (host : AuthHost) (settings : AuthSettings) (now : Int) (payload : DirectivePayload) (created expires : Int) :
    Prop where
  starts : host.parseIso payload.createdAt = some created
  ends : host.parseIso payload.expiresAt = some expires
  skew : ((created - now : ℚ) / 1000000) ≤ settings.maxClockSkew
  unexpired : now ≤ expires
  permitted : host.upper payload.actionType ∉ prohibitedMutatingActions
  known : host.upper payload.actionType ∈ allowedActionClasses ∨ host.upper payload.actionType ∈ actionsRequiringHumanApproval

section

variable {host : AuthHost} {settings : AuthSettings} {git : GitAnswers} {now : Int} {payload : DirectivePayload}
  {envelope : DirectiveEnvelope} {path : String} {fileName : Option String} {m m' : SourceMetadata}

/-- The metadata once the source is verified. -/
def sourceMetadata (settings : AuthSettings) (git : GitAnswers) (payload : DirectivePayload) (envelope : DirectiveEnvelope) (head : String) :
    SourceMetadata :=
  let verdict := verifyCommitSignature git.toCommitAnswers settings.trustedSignerAllowlist envelope.payloadCommitSha
  { initialMetadata payload envelope with
    remoteBranchHeadSha := head, remoteAncestryVerified := true,
    signaturePresent := verdict.signaturePresent, signatureValid := verdict.signatureValid, signerIdentity := verdict.signerIdentity,
    signerAllowed := verdict.signerAllowed }

/-- The metadata once the committed file is matched. -/
def blobMetadata (host : AuthHost) (m : SourceMetadata) (bytes : ByteArray) (res : Completed) : SourceMetadata :=
  { m with
    payloadSha256 := (computePayloadHash host bytes).1
    payloadBlobSha := if res.returncode = 0 then String.ofList (strip res.stdout.toList) else (computePayloadHash host bytes).2 }

theorem verifySource_ok : verifySource settings git envelope (initialMetadata payload envelope) = .ok m ↔
    ∃ head, SourceVerified settings git envelope head ∧ m = sourceMetadata settings git payload envelope head := by
  unfold verifySource
  dsimp only
  constructor
  · intro verified
    split at verified
    · cases verified
    rename_i remote
    split at verified
    · cases verified
    rename_i branch
    split at verified
    · cases verified
    rename_i named
    split at verified
    · cases verified
    rename_i repository
    split at verified
    · cases verified
    rename_i returncode present
    split at verified
    · cases verified
    rename_i exited
    split at verified
    · cases verified
    rename_i head resolved
    split at verified
    · cases verified
    rename_i reachable
    split at verified
    · cases verified
    rename_i signed
    exact ⟨head, ⟨not_not.mp remote, not_not.mp branch, not_or.mp named, (Bool.not_eq_false _).mp repository,
      not_not.mp exited ▸ present, resolved, not_not.mp reachable, signed⟩, (Except.ok.inj verified).symm⟩
  · rintro ⟨head, verified, rfl⟩
    rw [if_neg (not_not.mpr verified.remote), if_neg (not_not.mpr verified.branch), if_neg (not_or.mpr verified.named),
      if_neg (by rw [verified.repository]; decide), verified.present]
    dsimp only
    rw [if_neg (not_not.mpr rfl), verified.resolved]
    dsimp only
    rw [if_neg (not_not.mpr verified.reachable), verified.signed]
    rfl

theorem resolved_head {res : Completed} {sha : List Char} (answered : git.lsRemote = .ok res) (exited : res.returncode = 0)
    (first : (tokens res.stdout.toList).head? = some sha) (whole : sha.length = 40) : queryRemoteBranchHead git = .ok (String.ofList sha) := by
  unfold queryRemoteBranchHead
  rw [answered]
  dsimp only
  rw [if_pos exited, first]
  dsimp only
  rw [if_pos whole]

/-- What git says of the blob, or what was computed of it. -/
theorem parsed_blob (m : SourceMetadata) (bytes : ByteArray) (res : Completed) :
    (if res.returncode = 0 then
      { m with payloadSha256 := (computePayloadHash host bytes).1, payloadBlobSha := String.ofList (strip res.stdout.toList) }
    else { m with payloadSha256 := (computePayloadHash host bytes).1, payloadBlobSha := (computePayloadHash host bytes).2 }) =
      blobMetadata host m bytes res := by
  unfold blobMetadata
  by_cases exited : res.returncode = 0
  · rw [if_pos exited, if_pos exited]
  · rw [if_neg exited, if_neg exited]

theorem extractBlob_ok : extractBlob host git envelope path m = .ok m' ↔
    ∃ bytes res, BlobMatched host git envelope path bytes res ∧ m' = blobMetadata host m bytes res := by
  unfold extractBlob
  dsimp only
  constructor
  · intro extracted
    split at extracted
    · cases extracted
    rename_i returncode bytes committed
    split at extracted
    · rename_i exited
      split at extracted
      · cases extracted
      rename_i res parsed
      rw [parsed_blob] at extracted
      split at extracted
      · cases extracted
      rename_i sha256
      split at extracted
      · cases extracted
      rename_i blob
      exact ⟨bytes, res, ⟨exited ▸ committed, parsed, Bool.not_eq_true _ ▸ sha256, Bool.not_eq_true _ ▸ blob⟩,
        (Except.ok.inj extracted).symm⟩
    · cases extracted
  · rintro ⟨bytes, res, matched, rfl⟩
    rw [matched.committed]
    dsimp only
    rw [if_pos rfl, matched.parsed]
    dsimp only
    have blob : contradicts envelope.payloadBlobSha "UNKNOWN_BLOB" (blobMetadata host m bytes res).payloadBlobSha = false := matched.blob
    rw [parsed_blob, matched.sha256, blob]
    rfl

theorem judgePayload_authentic : (judgePayload host settings now payload m).status = .authentic ↔
    ∃ created expires, PayloadAdmitted host settings now payload created expires := by
  unfold judgePayload
  constructor
  · intro judged
    split at judged
    · rename_i created expires starts ends
      dsimp only at judged
      split at judged
      · cases judged
      rename_i skew
      split at judged
      · cases judged
      rename_i unexpired
      split at judged
      · cases judged
      rename_i permitted
      split at judged
      · cases judged
      rename_i known
      refine ⟨created, expires, starts, ends, not_lt.mp skew, not_lt.mp unexpired, permitted, ?_⟩
      by_cases allowed : host.upper payload.actionType ∈ allowedActionClasses
      · exact .inl allowed
      · exact .inr (not_not.mp fun human => known ⟨allowed, human⟩)
    · cases judged
  · rintro ⟨created, expires, admitted⟩
    rw [admitted.starts, admitted.ends]
    dsimp only
    have known : ¬ (host.upper payload.actionType ∉ allowedActionClasses ∧ host.upper payload.actionType ∉ actionsRequiringHumanApproval) :=
      fun unknown => admitted.known.elim unknown.1 unknown.2
    rw [if_neg (not_lt.mpr admitted.skew), if_neg (not_lt.mpr admitted.unexpired), if_neg admitted.permitted, if_neg known]
    split
    · rfl
    · rfl

theorem judgePayload_metadata : (judgePayload host settings now payload m).metadata = m := by
  unfold judgePayload
  split
  · dsimp only
    split
    · rfl
    split
    · rfl
    split
    · rfl
    split
    · rfl
    split
    · rfl
    · rfl
  · rfl

theorem signatureRefusal_status {verdict : SignatureVerdict} {short : String} {refusal : ValidationStatus × String}
    (refused : signatureRefusal settings verdict short = some refusal) : refusal.1 ≠ .authentic := by
  unfold signatureRefusal at refused
  dsimp only at refused
  split at refused
  · split at refused
    · cases refused
      exact ValidationStatus.noConfusion
    split at refused
    · cases refused
      exact ValidationStatus.noConfusion
    split at refused
    · cases refused
      exact ValidationStatus.noConfusion
    · cases refused
  · split at refused
    · cases refused
      exact ValidationStatus.noConfusion
    split at refused
    · cases refused
      exact ValidationStatus.noConfusion
    · cases refused

theorem verifySource_refused {a : SourceAuthentication} (refused : verifySource settings git envelope m = .error a) :
    a.status ≠ .authentic ∧ a.requiresHumanWait = false := by
  unfold verifySource at refused
  dsimp only at refused
  iterate 4
    split at refused
    · cases refused
      exact ⟨ValidationStatus.noConfusion, rfl⟩
  split at refused
  · cases refused
    exact ⟨ValidationStatus.noConfusion, rfl⟩
  split at refused
  · cases refused
    exact ⟨ValidationStatus.noConfusion, rfl⟩
  split at refused
  · cases refused
    exact ⟨ValidationStatus.noConfusion, rfl⟩
  split at refused
  · cases refused
    exact ⟨ValidationStatus.noConfusion, rfl⟩
  split at refused
  · rename_i status reason signed
    cases refused
    exact ⟨signatureRefusal_status signed, rfl⟩
  · cases refused

theorem extractBlob_refused {a : SourceAuthentication} (refused : extractBlob host git envelope path m = .error a) :
    a.status ≠ .authentic ∧ a.requiresHumanWait = false := by
  unfold extractBlob at refused
  dsimp only at refused
  split at refused
  · cases refused
    exact ⟨ValidationStatus.noConfusion, rfl⟩
  split at refused
  · split at refused
    · cases refused
      exact ⟨ValidationStatus.noConfusion, rfl⟩
    rw [parsed_blob] at refused
    split at refused
    · cases refused
      exact ⟨ValidationStatus.noConfusion, rfl⟩
    split at refused
    · cases refused
      exact ⟨ValidationStatus.noConfusion, rfl⟩
    · cases refused
  · cases refused
    exact ⟨ValidationStatus.noConfusion, rfl⟩

/-- What is authentic, and with which metadata. -/
theorem authenticate_authentic : (authenticate host settings git now payload envelope fileName).status = .authentic ∧
      (authenticate host settings git now payload envelope fileName).metadata = m ↔
    ∃ head bytes res created expires, SourceVerified settings git envelope head ∧
      BlobMatched host git envelope (gitPath payload fileName) bytes res ∧ PayloadAdmitted host settings now payload created expires ∧
        m = blobMetadata host (sourceMetadata settings git payload envelope head) bytes res := by
  unfold authenticate
  constructor
  · rintro ⟨authentic, same⟩
    split at authentic
    · rename_i refused
      exact absurd authentic (verifySource_refused refused).1
    · rename_i m₁ verified
      rw [verified] at same
      dsimp only at same
      split at authentic
      · rename_i refused
        exact absurd authentic (extractBlob_refused refused).1
      · rename_i m₂ extracted
        rw [extracted] at same
        dsimp only at same
        obtain ⟨head, source, rfl⟩ := verifySource_ok.mp verified
        obtain ⟨bytes, res, matched, rfl⟩ := extractBlob_ok.mp extracted
        obtain ⟨created, expires, admitted⟩ := judgePayload_authentic.mp authentic
        exact ⟨head, bytes, res, created, expires, source, matched, admitted, same.symm.trans judgePayload_metadata⟩
  · rintro ⟨head, bytes, res, created, expires, source, matched, admitted, rfl⟩
    rw [verifySource_ok.mpr ⟨head, source, rfl⟩]
    dsimp only
    rw [extractBlob_ok.mpr ⟨bytes, res, matched, rfl⟩]
    exact ⟨judgePayload_authentic.mpr ⟨created, expires, admitted⟩, judgePayload_metadata⟩

end

end ControlPlane.Directive
