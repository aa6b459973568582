import ControlPlane.Directive.SourceBinding

/-!
# Revalidation against authentication

`revalidate_before_execution` asks git again, but neither looks at the clock nor makes all checks
of `authenticate`.
-/

namespace ControlPlane.Directive

open ControlPlane.Data

/-- The metadata agree with the snapshot. -/
def SourceMetadata.Agrees (m snapshot : SourceMetadata) : Prop :=
  m.payloadCommitSha = snapshot.payloadCommitSha ∧ m.payloadSha256 = snapshot.payloadSha256 ∧ m.signerIdentity = snapshot.signerIdentity

/-- What `revalidate_before_execution` does not look at. -/
structure StillDue (host : AuthHost) (settings : AuthSettings) (git : GitAnswers) (now : Int) (payload : DirectivePayload)
    (envelope : DirectiveEnvelope) (fileName : Option String) : Prop where
  repository : git.repository = true
  present : git.commitExists envelope.payloadCommitSha = .ok 0
  /-- Where signatures are not required: the one that is there is valid, and its signer is allowed. -/
  signed : settings.requireCommitSignatureVerification = false → ∃ verdict : SignatureVerdict,
    verdict = verifyCommitSignature git.toCommitAnswers settings.trustedSignerAllowlist envelope.payloadCommitSha ∧
      (verdict.signaturePresent = true → verdict.signatureValid = true) ∧ verdict.signerAllowed = true
  blob : ∀ bytes, git.showFile envelope.payloadCommitSha (gitPath payload fileName) = .ok (0, bytes) →
    ∃ res, git.revParse envelope.payloadCommitSha (gitPath payload fileName) = .ok res ∧ contradicts envelope.payloadBlobSha "UNKNOWN_BLOB"
      (if res.returncode = 0 then String.ofList (strip res.stdout.toList) else (computePayloadHash host bytes).2) = false
  skew : ∀ created, host.parseIso payload.createdAt = some created → (created - now : ℚ) / 1000000 ≤ settings.maxClockSkew
  unexpired : ∀ expires, host.parseIso payload.expiresAt = some expires → now ≤ expires

section

variable {host : AuthHost} {settings : AuthSettings} {git : GitAnswers} {now : Int} {payload : DirectivePayload}
  {envelope : DirectiveEnvelope} {snapshot : SourceMetadata} {fileName : Option String} {fetched : Bool}

/-- What `revalidate_before_execution` has seen where it passes. -/
theorem revalidate_passed (passed : (revalidateBeforeExecution host settings git payload envelope snapshot fileName fetched).1 = true) :
    ∃ head bytes, queryRemoteBranchHead git = .ok head ∧ git.isAncestor envelope.payloadCommitSha head = some 0 ∧
      (settings.requireCommitSignatureVerification = true →
        (verifyCommitSignature git.toCommitAnswers settings.trustedSignerAllowlist envelope.payloadCommitSha).signaturePresent = true ∧
        (verifyCommitSignature git.toCommitAnswers settings.trustedSignerAllowlist envelope.payloadCommitSha).signatureValid = true ∧
        (verifyCommitSignature git.toCommitAnswers settings.trustedSignerAllowlist envelope.payloadCommitSha).signerAllowed = true) ∧
      git.showFile envelope.payloadCommitSha (gitPath payload fileName) = .ok (0, bytes) ∧
      contradicts snapshot.payloadSha256 "UNKNOWN_HASH" (computePayloadHash host bytes).1 = false ∧
      (snapshot.signerIdentity ≠ "" → snapshot.signerIdentity =
        (verifyCommitSignature git.toCommitAnswers settings.trustedSignerAllowlist envelope.payloadCommitSha).signerIdentity) := by
  unfold revalidateBeforeExecution at passed
  dsimp only at passed
  split at passed
  · cases passed
  rename_i head resolved
  split at passed
  · cases passed
  rename_i reachable
  split at passed
  · cases passed
  rename_i valid
  split at passed
  · cases passed
  rename_i allowed
  split at passed
  · cases passed
  rename_i returncode bytes committed
  split at passed
  · cases passed
  rename_i exited
  split at passed
  · cases passed
  rename_i hash
  split at passed
  · cases passed
  split at passed
  · cases passed
  rename_i signer
  refine ⟨head, bytes, resolved, not_not.mp reachable, fun required => ?_, not_not.mp exited ▸ committed, Bool.not_eq_true _ ▸ hash,
    fun named => ?_⟩
  · have sound := not_or.mp fun broken => valid ⟨required, broken⟩
    exact ⟨(Bool.not_eq_false _).mp sound.1, (Bool.not_eq_false _).mp sound.2,
      (Bool.not_eq_false _).mp fun denied => allowed ⟨required, denied⟩⟩
  · exact not_not.mp fun other => signer ⟨named, other⟩

/-- Where the policy has nothing to say, the signature is valid and its signer allowed, or there is none and none was asked for. -/
theorem signatureRefusal_none {verdict : SignatureVerdict} {short : String} : signatureRefusal settings verdict short = none ↔
    (settings.requireCommitSignatureVerification = true →
      verdict.signaturePresent = true ∧ verdict.signatureValid = true ∧ verdict.signerAllowed = true) ∧
      (settings.requireCommitSignatureVerification = false →
        (verdict.signaturePresent = true → verdict.signatureValid = true) ∧ verdict.signerAllowed = true) := by
  obtain ⟨present, valid, identity, allowed⟩ := verdict
  unfold signatureRefusal
  dsimp only
  cases settings.requireCommitSignatureVerification <;> cases present <;> cases valid <;> cases allowed <;> simp

theorem contradicts_false {claimed unknown actual : String} :
    contradicts claimed unknown actual = false ↔ claimed = "" ∨ claimed = unknown ∨ claimed = actual := by
  unfold contradicts
  by_cases empty : claimed = ""
  · simp [empty]
  · by_cases vague : claimed = unknown
    · simp [vague]
    · simp [empty, vague]

/-- A signer that is allowed has a name. -/
theorem signer_named {git : CommitAnswers} {allowlist : Allowlist} {commitSha : String}
    (allowed : (verifyCommitSignature git allowlist commitSha).signerAllowed = true) :
    (verifyCommitSignature git allowlist commitSha).signerIdentity ≠ "" := by
  unfold verifyCommitSignature at allowed ⊢
  dsimp only at allowed ⊢
  split at allowed
  · cases allowed
  split at allowed
  · rename_i res answered exited
    rw [if_pos exited]
    split at allowed
    · rename_i member
      rw [if_pos member]
      exact (allowlist.solid _ member).1
    · rename_i stranger
      rw [if_neg stranger]
      split at allowed
      · rename_i key found
        exact (allowlist.solid key (List.mem_of_find?_eq_some found)).1
      · cases allowed
  · cases allowed

end

/-- Behind a revalidation that passes, the directive is authentic with the same commit, content and signer exactly where all that it does not
look at is still in order. -/
theorem revalidation_iff (host : AuthHost) (settings : AuthSettings) (ingestion git : GitAnswers) (ingested now : Int)
    (payload : DirectivePayload) (envelope : DirectiveEnvelope) (fileName : Option String) (fetched : Bool) (snapshot : SourceMetadata)
    (authentic : (authenticate host settings ingestion ingested payload envelope fileName).status = .authentic ∧
      (authenticate host settings ingestion ingested payload envelope fileName).metadata = snapshot)
    (passed : (revalidateBeforeExecution host settings git payload envelope snapshot fileName fetched).1 = true) :
    ((authenticate host settings git now payload envelope fileName).status = .authentic ∧
      (authenticate host settings git now payload envelope fileName).metadata.Agrees snapshot) ↔
    StillDue host settings git now payload envelope fileName := by
  obtain ⟨head₀, bytes₀, res₀, created, expires, source, matched, admitted, rfl⟩ := authenticate_authentic.mp authentic
  obtain ⟨head, bytes, resolved, reachable, required, committed, hash, signer⟩ := revalidate_passed passed
  have allowed₀ : (verifyCommitSignature ingestion.toCommitAnswers settings.trustedSignerAllowlist envelope.payloadCommitSha).signerAllowed =
      true := by
    obtain ⟨strict, lax⟩ := signatureRefusal_none.mp source.signed
    cases policy : settings.requireCommitSignatureVerification with
    | true => exact (strict policy).2.2
    | false => exact (lax policy).2
  have signers := signer (signer_named allowed₀)
  have hashes : (computePayloadHash host bytes₀).1 = (computePayloadHash host bytes).1 := by
    obtain ⟨named, known⟩ : (computePayloadHash host bytes₀).1 ≠ "" ∧ (computePayloadHash host bytes₀).1 ≠ "UNKNOWN_HASH" :=
      host.sha256_named _
    rcases contradicts_false.mp hash with empty | vague | same
    · exact absurd empty named
    · exact absurd vague known
    · exact same
  constructor
  · rintro ⟨again, -⟩
    obtain ⟨head', bytes', res', created', expires', source', matched', admitted', -⟩ := authenticate_authentic.mp ⟨again, rfl⟩
    refine ⟨source'.repository, source'.present, fun lax => ⟨_, rfl, (signatureRefusal_none.mp source'.signed).2 lax⟩,
      fun other shown => ⟨res', matched'.parsed, ?_⟩, fun start starts => ?_, fun stop ends => ?_⟩
    · obtain rfl : bytes' = other := by
        have same := Except.ok.inj (matched'.committed.symm.trans shown)
        exact (Prod.mk.inj same).2
      exact matched'.blob
    · obtain rfl := Option.some.inj (admitted'.starts.symm.trans starts)
      exact admitted'.skew
    · obtain rfl := Option.some.inj (admitted'.ends.symm.trans ends)
      exact admitted'.unexpired
  · intro due
    obtain ⟨res, parsed, blob⟩ := due.blob bytes committed
    have signed : signatureRefusal settings (verifyCommitSignature git.toCommitAnswers settings.trustedSignerAllowlist envelope.payloadCommitSha)
        (shortSha envelope.payloadCommitSha) = none := by
      refine signatureRefusal_none.mpr ⟨required, fun lax => ?_⟩
      obtain ⟨verdict, rfl, sound⟩ := due.signed lax
      exact sound
    have source' : SourceVerified settings git envelope head :=
      ⟨source.remote, source.branch, source.named, due.repository, due.present, resolved, reachable, signed⟩
    have matched' : BlobMatched host git envelope (gitPath payload fileName) bytes res :=
      ⟨committed, parsed, hashes ▸ matched.sha256, blob⟩
    have admitted' : PayloadAdmitted host settings now payload created expires :=
      ⟨admitted.starts, admitted.ends, due.skew created admitted.starts, due.unexpired expires admitted.ends, admitted.permitted, admitted.known⟩
    obtain ⟨again, metadata⟩ := authenticate_authentic.mpr ⟨head, bytes, res, created, expires, source', matched', admitted', rfl⟩
    rw [metadata]
    exact ⟨again, rfl, hashes.symm, signers.symm⟩

/-! ### A day later -/

def signedSnapshot : SourceMetadata :=
  blobMetadata plainAuth (sourceMetadata plainAuthSettings signedGit (statusRequest plainAuth newYear "AI-CONTROL-PLANE") bareEnvelope remoteSha)
    committedText.toUTF8 ⟨0, "e7aaf947e25a2ce6a833bf7f2177bbd4b03d8fc1\n", ""⟩

theorem signed_authentic :
    (authenticate plainAuth plainAuthSettings signedGit newYear.val (statusRequest plainAuth newYear "AI-CONTROL-PLANE") bareEnvelope
      (some "DIR-1.json")).status = .authentic ∧
    (authenticate plainAuth plainAuthSettings signedGit newYear.val (statusRequest plainAuth newYear "AI-CONTROL-PLANE") bareEnvelope
      (some "DIR-1.json")).metadata = signedSnapshot :=
  authenticate_authentic.mpr ⟨remoteSha, _, _, _, _, signed_verified, signed_matched _,
    statusRequest_admitted plainAuthSettings "AI-CONTROL-PLANE", rfl⟩

theorem signed_revalidates :
    (revalidateBeforeExecution plainAuth plainAuthSettings signedGit (statusRequest plainAuth newYear "AI-CONTROL-PLANE") bareEnvelope
      signedSnapshot (some "DIR-1.json") true).1 = true := by
  obtain ⟨present, valid, allowed⟩ := (signatureRefusal_none.mp signed_verified.signed).1 rfl
  have hash : contradicts signedSnapshot.payloadSha256 "UNKNOWN_HASH" (computePayloadHash plainAuth committedText.toUTF8).1 = false :=
    contradicts_false.mpr (.inr (.inr rfl))
  unfold revalidateBeforeExecution
  rw [signed_verified.resolved]
  dsimp only
  have shown : signedGit.showFile bareEnvelope.payloadCommitSha
      (gitPath (statusRequest plainAuth newYear "AI-CONTROL-PLANE") (some "DIR-1.json")) = .ok (0, committedText.toUTF8) := rfl
  have commit : signedSnapshot.payloadCommitSha = bareEnvelope.payloadCommitSha := rfl
  have signer : signedSnapshot.signerIdentity = (verifyCommitSignature signedGit.toCommitAnswers plainAuthSettings.trustedSignerAllowlist
      bareEnvelope.payloadCommitSha).signerIdentity := rfl
  rw [if_neg (not_not.mpr signed_verified.reachable), present, valid, allowed, if_neg (by simp), if_neg (by simp), shown]
  dsimp only
  rw [if_neg (not_not.mpr rfl), hash, if_neg Bool.false_ne_true, if_neg (fun other => other.2 commit), if_neg (fun other => other.2 signer)]

/-- The directive has expired since. -/
theorem revalidation_expired :
    (revalidateBeforeExecution plainAuth plainAuthSettings signedGit (statusRequest plainAuth newYear "AI-CONTROL-PLANE") bareEnvelope
      signedSnapshot (some "DIR-1.json") true).1 = true ∧
    (authenticate plainAuth plainAuthSettings signedGit (newYear.val + 86400000000) (statusRequest plainAuth newYear "AI-CONTROL-PLANE")
      bareEnvelope (some "DIR-1.json")).status ≠ .authentic := by
  refine ⟨signed_revalidates, fun again => ?_⟩
  obtain ⟨_, _, _, created, expires, -, -, admitted, -⟩ := authenticate_authentic.mp ⟨again, rfl⟩
  have ends : some newYear.val = some expires := (plainAuth.parse_iso newYear).symm.trans admitted.ends
  have due := admitted.unexpired
  rw [← Option.some.inj ends] at due
  exact absurd due (by decide)

/-- At the same moment it is still due. -/
theorem revalidation_due :
    (authenticate plainAuth plainAuthSettings signedGit newYear.val (statusRequest plainAuth newYear "AI-CONTROL-PLANE") bareEnvelope
        (some "DIR-1.json")).status = .authentic ∧
      StillDue plainAuth plainAuthSettings signedGit newYear.val (statusRequest plainAuth newYear "AI-CONTROL-PLANE") bareEnvelope
        (some "DIR-1.json") :=
  ⟨signed_authentic.1, (revalidation_iff plainAuth plainAuthSettings signedGit signedGit newYear.val newYear.val _ bareEnvelope (some "DIR-1.json")
    true signedSnapshot signed_authentic signed_revalidates).mp ⟨signed_authentic.1, by rw [signed_authentic.2]; exact ⟨rfl, rfl, rfl⟩⟩⟩

end ControlPlane.Directive
