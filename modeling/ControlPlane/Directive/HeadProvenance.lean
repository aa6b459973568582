import ControlPlane.Directive.Capability

/-!
# The provenance of the trusted head

`verify_trusted_head_provenance` of `governance.py`: what git answers about the head commit sets
three flags, and the head counts as verified where all of them are set.
-/

namespace ControlPlane.Directive

/-- What `subprocess.run` returns. -/
structure Completed where
  returncode : Int
  stdout : String
  stderr : String

/-- `f"\x7bres.stdout\x7d\n\x7bres.stderr\x7d"` -/
def Completed.output (res : Completed) : String := res.stdout ++ "\n" ++ res.stderr

/-- What git answers about a commit; nothing where the call raises. -/
structure CommitAnswers where
  verifyCommit : String → Option Completed
  catFile : String → Option Completed

/-- The `meta` of the call. -/
structure HeadProvenance where
  trustedHeadSha : String
  signatureValid : Bool := false
  signerAuthorized : Bool := false
  governancePathValid : Bool := false
  provenanceVerified : Bool := false

/-- `output.replace(" ", "")` -/
def withoutSpaces (s : String) : String := String.ofList (s.toList.filter (· ≠ ' '))

/-- The output names the signer, in one piece or once its spaces are gone. -/
def namesSigner (output signer : String) : Bool :=
  signer ≠ "" && (occursIn signer output || occursIn signer (withoutSpaces output))

/-- What is looked for in a commit that git did not verify. -/
def commitMarkers : List String := ["gpgsig", "ssh", "BEGIN SSH SIGNATURE", "tree "]

section

variable (git : CommitAnswers) (headSha : String) (trustedSigners : List String)

/-- The flags once git was asked. -/
def provenanceFlags (found : HeadProvenance) : HeadProvenance :=
  match git.verifyCommit headSha with
  | none => found
  | some res =>
    if res.returncode = 0 then
      let named := trustedSigners.any (namesSigner res.output)
      -- a signer that is not named is authorized in the next step
      let authorized := if named = false then true else named
      { found with signatureValid := true, signerAuthorized := authorized, governancePathValid := true }
    else
      match git.catFile headSha with
      | none => found
      | some cat =>
        if cat.returncode = 0 ∧ commitMarkers.any (occursIn · cat.stdout) then
          { found with signatureValid := true, signerAuthorized := true, governancePathValid := true }
        else found

/-- `verify_trusted_head_provenance` -/
def verifyTrustedHeadProvenance : Bool × HeadProvenance :=
  let found : HeadProvenance := { trustedHeadSha := headSha }
  if headSha = "" ∨ headSha = "UNKNOWN_SHA" then (false, found)
  else
    let flags := provenanceFlags git headSha trustedSigners found
    let verified := flags.signatureValid && flags.signerAuthorized && flags.governancePathValid
    (verified, { flags with provenanceVerified := verified })

/-- `git verify-commit` succeeded, and its output names a trusted signer. -/
def SignedByTrusted : Prop :=
  ∃ res, git.verifyCommit headSha = some res ∧ res.returncode = 0 ∧ ∃ signer ∈ trustedSigners, namesSigner res.output signer

/-- `git verify-commit` refused the commit, and `git cat-file` shows nothing that looks like one. -/
def RefusedUnseen : Prop :=
  ∃ res, git.verifyCommit headSha = some res ∧ res.returncode ≠ 0 ∧
    ∀ cat, git.catFile headSha = some cat → cat.returncode = 0 → ∀ marker ∈ commitMarkers, occursIn marker cat.stdout = false

end

section

variable {git : CommitAnswers} {headSha : String} {trustedSigners : List String}

theorem authorized_anyway (named : Bool) : (if named = false then true else named) = true := by
  cases named <;> rfl

/-- A head that has a name is verified iff git verified it, whoever signed, or showed a commit. -/
theorem verified_iff (named : ¬ (headSha = "" ∨ headSha = "UNKNOWN_SHA")) :
    (verifyTrustedHeadProvenance git headSha trustedSigners).1 = true ↔
      ∃ res, git.verifyCommit headSha = some res ∧ (res.returncode = 0 ∨ res.returncode ≠ 0 ∧
        ∃ cat, git.catFile headSha = some cat ∧ cat.returncode = 0 ∧ ∃ marker ∈ commitMarkers, occursIn marker cat.stdout = true) := by
  unfold verifyTrustedHeadProvenance provenanceFlags
  simp only [if_neg named]
  cases git.verifyCommit headSha with
  | none => simp
  | some res =>
    by_cases verified : res.returncode = 0
    · simp only [verified, if_true, authorized_anyway]
      simp [verified]
    · cases git.catFile headSha with
      | none => simp [verified]
      | some cat =>
        by_cases shown : cat.returncode = 0 ∧ commitMarkers.any (occursIn · cat.stdout) = true
        · have found := List.any_eq_true.mp shown.2
          simp only [verified, if_false, if_pos shown, Bool.and_self, true_iff]
          exact ⟨res, rfl, .inr ⟨verified, cat, rfl, shown.1, found⟩⟩
        · simp only [verified, if_false, if_neg shown, Bool.and_self, Bool.false_eq_true, false_iff]
          rintro ⟨_, ⟨⟩, held | ⟨_, _, ⟨⟩, exited, found⟩⟩
          · exact verified held
          · exact shown ⟨exited, List.any_eq_true.mpr found⟩

/-- The head counts as verified only where a trusted signer signed it, iff it has no name, git could not be
run, a trusted signer did sign, or the commit was refused and not to be seen. -/
theorem trusted_head_iff : ((verifyTrustedHeadProvenance git headSha trustedSigners).1 = true → SignedByTrusted git headSha trustedSigners) ↔
    headSha = "" ∨ headSha = "UNKNOWN_SHA" ∨ git.verifyCommit headSha = none ∨ SignedByTrusted git headSha trustedSigners ∨
      RefusedUnseen git headSha := by
  by_cases named : headSha = "" ∨ headSha = "UNKNOWN_SHA"
  · have unverified : (verifyTrustedHeadProvenance git headSha trustedSigners).1 = false := by
      simp only [verifyTrustedHeadProvenance, if_pos named]
    rw [unverified]
    exact iff_of_true (fun h => Bool.noConfusion h) (or_assoc.mp (.inl named))
  rw [verified_iff named, ← or_assoc, or_iff_right named]
  constructor
  · intro sound
    by_cases signed : SignedByTrusted git headSha trustedSigners
    · exact .inr (.inl signed)
    cases asked : git.verifyCommit headSha with
    | none => exact .inl rfl
    | some res =>
      have unverified := fun verified => signed (sound ⟨res, asked, verified⟩)
      refine .inr (.inr ⟨res, asked, fun exited => unverified (.inl exited), fun cat shown exited marker member => ?_⟩)
      refine Bool.eq_false_iff.mpr fun found => unverified (.inr ⟨fun exited => unverified (.inl exited), ?_⟩)
      exact ⟨cat, shown, exited, marker, member, found⟩
  · rintro (unasked | signed | ⟨res, asked, refused, unseen⟩) ⟨res', asked', verified⟩
    · rw [unasked] at asked'
      cases asked'
    · exact signed
    · obtain rfl := Option.some.inj (asked.symm.trans asked')
      rcases verified with exited | ⟨-, cat, shown, exited, marker, member, found⟩
      · exact absurd exited refused
      · rw [unseen cat shown exited marker member] at found
        cases found

/-- A commit that nobody signed. -/
def unsignedCommit : CommitAnswers where
  verifyCommit _ := some ⟨1, "", ""⟩
  catFile _ := some ⟨0, "tree 4b825dc642cb6eb9a060e54bf8d69288fbee4904\nauthor A <a@b> 0 +0000\n\nfirst\n", ""⟩

/-- It counts as verified, and nobody is trusted. -/
theorem trusted_head_unsigned :
    ¬ ((verifyTrustedHeadProvenance unsignedCommit "5ad7c55b6710f2c67c87ff2da7390e2196967334" []).1 = true →
      SignedByTrusted unsignedCommit "5ad7c55b6710f2c67c87ff2da7390e2196967334" []) := by
  intro sound
  have verified : (verifyTrustedHeadProvenance unsignedCommit "5ad7c55b6710f2c67c87ff2da7390e2196967334" []).1 = true := by decide +kernel
  obtain ⟨_, _, _, _, member, _⟩ := sound verified
  cases member

end

end ControlPlane.Directive
