import ControlPlane.Directive.Authenticator

/-!
# What authentication binds

The authenticator compares the committed file with the envelope, and looks at nothing but the
times and the action of the payload.
-/

namespace ControlPlane.Directive

open ControlPlane.Data

section

variable (host : AuthHost) (settings : AuthSettings) (git : GitAnswers) (now : Instant)

/-- The document that is committed at a path. -/
def committedDocument (commitSha path : String) : Option Record :=
  match git.showFile commitSha path with
  | .ok (returncode, bytes) =>
    if returncode = 0 then
      match (String.fromUTF8? bytes).bind (Json.loads host.floats) with
      | some (.dict data) => some data
      | _ => none
    else none
  | .error _ => none

/-- Every payload that is authentic is the one that was committed. -/
def BindsPayload (envelope : DirectiveEnvelope) (fileName : String) : Prop :=
  ∀ payload, (authenticate host settings git now.val payload envelope (some fileName)).status = .authentic →
    ∃ data, committedDocument host git envelope.payloadCommitSha ("directives/inbox/" ++ fileName) = some data ∧
      DirectivePayload.fromDict host.toHost (.dict data) = .ok payload

end

section

variable {host : AuthHost} {settings : AuthSettings} {git : GitAnswers} {now : Instant} {envelope : DirectiveEnvelope} {fileName : String}

/-- A status request of this moment, for a project. -/
def statusRequest (host : AuthHost) (now : Instant) (targetProject : String) : DirectivePayload where
  directiveVersion := "2.0"
  directiveId := "DIR-1"
  project := "AI-CONTROL-PLANE"
  targetProject := targetProject
  targetStage := "CONTROL-03"
  actionType := "STATUS_REQUEST"
  action := "status"
  createdAt := host.isoformat now
  expiresAt := host.isoformat now
  issuedBy := "operator"
  requiresHumanApproval := false
  allowedScope := []
  preconditions := []
  successCriteria := []
  failurePolicy := "STOP"
  rollbackPolicy := "NONE"
  payload := []

theorem statusRequest_admitted (settings : AuthSettings) (targetProject : String) :
    PayloadAdmitted host settings now.val (statusRequest host now targetProject) now.val now.val where
  starts := host.parse_iso now
  ends := host.parse_iso now
  skew := by
    rw [sub_self, zero_div]
    exact settings.skew_nonneg
  unexpired := le_refl _
  permitted := by
    have capital : host.upper "STATUS_REQUEST" = "STATUS_REQUEST" := (host.upper_ascii _ (by decide)).trans (by decide)
    show host.upper "STATUS_REQUEST" ∉ prohibitedMutatingActions
    rw [capital]
    decide
  known := by
    have capital : host.upper "STATUS_REQUEST" = "STATUS_REQUEST" := (host.upper_ascii _ (by decide)).trans (by decide)
    left
    show host.upper "STATUS_REQUEST" ∈ allowedActionClasses
    rw [capital]
    decide

/-- Where something is authentic, two payloads are. -/
theorem unbound {head : String} {bytes : ByteArray} {res : Completed} (verified : SourceVerified settings git envelope head)
    (matched : BlobMatched host git envelope ("directives/inbox/" ++ fileName) bytes res) : ¬ BindsPayload host settings git now envelope fileName := by
  intro binds
  have authentic (targetProject : String) :
      (authenticate host settings git now.val (statusRequest host now targetProject) envelope (some fileName)).status = .authentic :=
    (authenticate_authentic.mpr ⟨head, bytes, res, _, _, verified, matched, statusRequest_admitted settings targetProject, rfl⟩).1
  obtain ⟨data, committed, first⟩ := binds _ (authentic "ORACLE-AI")
  obtain ⟨data', committed', second⟩ := binds _ (authentic "MICRO-MARKET-ORACLE")
  rw [Option.some.inj (committed'.symm.trans committed), first] at second
  have targets := congrArg DirectivePayload.targetProject (Except.ok.inj second)
  exact absurd targets (by decide : "ORACLE-AI" ≠ "MICRO-MARKET-ORACLE")

/-- Payloads are bound to the committed document exactly where none is authentic. -/
theorem binds_payload_iff (host : AuthHost) (settings : AuthSettings) (git : GitAnswers) (now : Instant) (envelope : DirectiveEnvelope)
    (fileName : String) :
    BindsPayload host settings git now envelope fileName ↔ ¬ ∃ head bytes res, SourceVerified settings git envelope head ∧
      BlobMatched host git envelope ("directives/inbox/" ++ fileName) bytes res := by
  constructor
  · rintro binds ⟨head, bytes, res, verified, matched⟩
    exact unbound verified matched binds
  · intro none payload authentic
    obtain ⟨head, bytes, res, _, _, verified, matched, -⟩ := authenticate_authentic.mp ⟨authentic, rfl⟩
    exact absurd ⟨head, bytes, res, verified, matched⟩ none

end

/-! ### A signed commit -/

def committedText : String :=
  "\x7b\"directive_id\": \"DIR-1\", \"target_project\": \"AI-CONTROL-PLANE\", \"action_type\": \"STATUS_REQUEST\", \"created_at\": \"2026-01-01T00:00:00+00:00\", \"expires_at\": \"2026-01-01T00:00:00+00:00\"\x7d"

theorem plainShown_str (s : String) : plainShown (.str s) = s := rfl

/-- The digests are those of this document. -/
def plainAuth : AuthHost where
  toHost := { sampleHost with shown := plainShown, shown_str := plainShown_str }
  sha256Bytes _ := "29020146c3c3d9f5afbe8daa101efde759d5d85a7664c23409fd868afc730b48"
  sha256_named _ := by decide
  sha1Bytes _ := "93c4b99029c97e991c2ebb830c1920856ca18439"
  upper s := String.ofList (s.toList.map Char.toUpper)
  upper_ascii _ _ := rfl
  isoformat := plainIso
  parseIso := plainFromIso
  parse_iso := plain_read
  shownSeconds _ := ""

def plainAuthSettings : AuthSettings where
  trustedSignerAllowlist := trustedSignerAllowlist
  skew_nonneg := by decide

def signedSha : String := "d670460b4b4aece5915caf5c68d12f560a9fe3e4"

def remoteSha : String := "1f7a7a472abf3dd9643fd615f6da379c4acb3e3a"

/-- A commit by the trusted signer, below the remote head. -/
def signedGit : GitAnswers where
  catFile _ := some ⟨0, "gpgsig -----BEGIN SSH SIGNATURE-----", ""⟩
  verifyCommit _ := some ⟨0, "", "Good \"git\" signature for w with ED25519 key SHA256:zYZi3+VxKz9ve+PJgTS2o8q+dvXSmzCwPZ2G3NYh41A\n"⟩
  repository := true
  commitExists _ := .ok 0
  lsRemote := .ok ⟨0, remoteSha ++ "\trefs/heads/main\n", ""⟩
  isAncestor _ _ := some 0
  showFile _ _ := .ok (0, committedText.toUTF8)
  revParse _ _ := .ok ⟨0, "e7aaf947e25a2ce6a833bf7f2177bbd4b03d8fc1\n", ""⟩

/-- It claims no digests. -/
def bareEnvelope : DirectiveEnvelope where
  directiveId := "DIR-1"
  payloadCommitSha := signedSha
  payloadBlobSha := ""
  payloadSha256 := ""
  trustedRemote := "AI-CONTROL-PLANE"
  trustedBranch := "main"

theorem signed_verified : SourceVerified plainAuthSettings signedGit bareEnvelope remoteSha where
  remote := rfl
  branch := rfl
  named := by decide
  repository := rfl
  present := rfl
  resolved := by
    have first : (tokens (remoteSha ++ "\trefs/heads/main\n").toList).head? = some remoteSha.toList := by decide
    have length : remoteSha.toList.length = 40 := by decide
    have head := @resolved_head signedGit ⟨0, remoteSha ++ "\trefs/heads/main\n", ""⟩ remoteSha.toList rfl rfl first length
    rw [String.ofList_toList] at head
    exact head
  reachable := rfl
  signed := by decide

theorem signed_matched (path : String) : BlobMatched plainAuth signedGit bareEnvelope path committedText.toUTF8
    ⟨0, "e7aaf947e25a2ce6a833bf7f2177bbd4b03d8fc1\n", ""⟩ where
  committed := rfl
  parsed := rfl
  sha256 := rfl
  blob := rfl

/-- Any payload with such times is authentic beside the signed commit. -/
theorem payload_unbound : ¬ BindsPayload plainAuth plainAuthSettings signedGit newYear bareEnvelope "DIR-1.json" :=
  unbound signed_verified (signed_matched _)

end ControlPlane.Directive
