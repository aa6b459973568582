import ControlPlane.Directive.HeadProvenance

/-!
# Signer authorization

`DirectiveAuthenticator.verify_commit_signature`: four patterns look for the signer in what
`git verify-commit` prints, and then every word of it may be a trusted key.
-/

namespace ControlPlane.Directive

open ControlPlane.Data

/-! ### Patterns -/

/-- `re.search`: the first position at which the pattern takes something. -/
def search (pattern : List Char → Option (List Char)) : List Char → Option (List Char)
  | [] => pattern []
  | c :: rest => (pattern (c :: rest)).or (search pattern rest)

/-- What is behind a literal text. -/
def literal (text : String) (cs : List Char) : Option (List Char) :=
  if text.toList.isPrefixOf cs then some (cs.drop text.length) else none

/-- The characters of a class, at least one, and what is behind them. -/
def several (holds : Char → Bool) (cs : List Char) : Option (List Char × List Char) :=
  if cs.takeWhile holds = [] then none else some (cs.takeWhile holds, cs.dropWhile holds)

/-- `[A-Fa-f0-9]` -/
def isHex (c : Char) : Bool := c.isDigit || ('a' ≤ c && c ≤ 'f') || ('A' ≤ c && c ≤ 'F')

/-- `using (?:PGP|RSA|ED25519|ECDSA) key ([A-Fa-f0-9]+)` -/
def usingKey (cs : List Char) : Option (List Char) := do
  let kind ← literal "using " cs
  let behind ← (literal "PGP" kind).or ((literal "RSA" kind).or ((literal "ED25519" kind).or (literal "ECDSA" kind)))
  let key ← literal " key " behind
  (several isHex key).map (·.1)

/-- `Key fingerprint = ([A-Fa-f0-9\s]+)` -/
def keyFingerprint (cs : List Char) : Option (List Char) := do
  let key ← literal "Key fingerprint = " cs
  (several (fun c => isHex c || isSpace c) key).map (·.1)

/-- `with [A-Za-z0-9\-]+ key (SHA256:[A-Za-z0-9+/=]+)` -/
def withKey (cs : List Char) : Option (List Char) := do
  let kind ← literal "with " cs
  let (_, behind) ← several (fun c => c.isAlphanum || c = '-') kind
  let key ← literal " key " behind
  let digest ← literal "SHA256:" key
  (several (fun c => c.isAlphanum || c = '+' || c = '/' || c = '=') digest).map fun taken => "SHA256:".toList ++ taken.1

/-- `Good signature from "([^"]+)"` -/
def goodSignature (cs : List Char) : Option (List Char) := do
  let owner ← literal "Good signature from \"" cs
  let (name, behind) ← several (· ≠ '"') owner
  if behind = [] then none else some name

/-- The signer by the first pattern that is found. -/
def signerIdentity (output : String) : String :=
  let found := (search usingKey output.toList).or ((search keyFingerprint output.toList).or
    ((search withKey output.toList).or (search goodSignature output.toList)))
  match found with
  | some group => String.ofList (strip (group.filter (· ≠ ' ')))
  | none => "VERIFIED_KEY_UNKNOWN_ID"

/-! ### The verification -/

/-- `str.split` at white space. -/
def tokens (cs : List Char) : List (List Char) := (cs.splitOnP isSpace).filter (· ≠ [])

/-- What is looked for in a commit that has a signature. -/
def signatureMarkers : List String := ["gpgsig", "gpgsig-sha256", "-----BEGIN PGP SIGNATURE-----", "-----BEGIN SSH SIGNATURE-----"]

/-- Keys that can stand in the allowlist: texts in one piece. -/
structure Allowlist where
  keys : List String
  solid : ∀ key ∈ keys, key ≠ "" ∧ ∀ c ∈ key.toList, isSpace c = false

/-- What `verify_commit_signature` returns. -/
structure SignatureVerdict where
  signaturePresent : Bool
  signatureValid : Bool
  signerIdentity : String
  signerAllowed : Bool

/-- `verify_commit_signature` -/
def verifyCommitSignature (git : CommitAnswers) (allowlist : Allowlist) (commitSha : String) : SignatureVerdict :=
  let present := (git.catFile commitSha).any fun cat => cat.returncode = 0 && signatureMarkers.any (occursIn · cat.stdout)
  match git.verifyCommit commitSha with
  | none => ⟨present, false, "", false⟩
  | some res =>
    if res.returncode = 0 then
      let identity := signerIdentity res.output
      if identity ∈ allowlist.keys then ⟨true, true, identity, true⟩
      else match allowlist.keys.find? fun key => key ≠ "" && key.toList ∈ tokens res.output.toList with
        | some key => ⟨true, true, key, true⟩
        | none => ⟨true, true, identity, false⟩
    else ⟨present, false, "", false⟩

/-- What git prints about a signature, but for the text that the owner of the key chose; the key that git
names stands before that text or behind it. -/
structure Report where
  returncode : Int
  stdout : String
  opening : String
  closing : String
  key : String
  named : (∃ u c v, opening.toList = u ++ c :: v ∧ isSpace c = true ∧ key.toList ∈ tokens u) ∨
    ∃ u c v, closing.toList = u ++ c :: v ∧ isSpace c = true ∧ key.toList ∈ tokens v

def Report.printed (report : Report) (owner : String) : Completed :=
  ⟨report.returncode, report.stdout, report.opening ++ owner ++ report.closing⟩

/-- A signer is allowed by the key that git names, whatever the owner's text. -/
def ByKeyAlone (allowlist : Allowlist) (report : Report) : Prop :=
  ∀ git commitSha owner, git.verifyCommit commitSha = some (report.printed owner) →
    ((verifyCommitSignature git allowlist commitSha).signerAllowed = true → report.key ∈ allowlist.keys) ∧
    ∀ git' owner', git'.verifyCommit commitSha = some (report.printed owner') →
      (verifyCommitSignature git allowlist commitSha).signerAllowed = (verifyCommitSignature git' allowlist commitSha).signerAllowed

/-! ### Words -/

section

variable {s t w : List Char} {c : Char}

theorem tokens_append (space : isSpace c = true) : tokens (s ++ c :: t) = tokens s ++ tokens t := by
  unfold tokens
  rw [List.splitOnP_append_cons s t space, List.filter_append]

theorem tokens_solid (given : w ≠ []) (solid : ∀ c ∈ w, isSpace c = false) : tokens w = [w] := by
  unfold tokens
  rw [List.splitOnP_eq_singleton solid]
  simp [given]

end

section

variable {git : CommitAnswers} {allowlist : Allowlist} {commitSha owner : String} {report : Report} {res : Completed} {key : String}

/-- A key that is a word of the output allows the signer. -/
theorem allowed_of_token (asked : git.verifyCommit commitSha = some res) (verified : res.returncode = 0) (trusted : key ∈ allowlist.keys)
    (word : key.toList ∈ tokens res.output.toList) : (verifyCommitSignature git allowlist commitSha).signerAllowed = true := by
  unfold verifyCommitSignature
  simp only [asked, if_pos verified]
  by_cases identified : signerIdentity res.output ∈ allowlist.keys
  · rw [if_pos identified]
  · rw [if_neg identified]
    cases found : allowlist.keys.find? fun key => key ≠ "" && key.toList ∈ tokens res.output.toList with
    | some key => rfl
    | none =>
      refine absurd ?_ (List.find?_eq_none.mp found key trusted)
      rw [Bool.and_eq_true, decide_eq_true_eq, decide_eq_true_eq]
      exact ⟨(allowlist.solid key trusted).1, word⟩

theorem refused_of_failed (asked : git.verifyCommit commitSha = some res) (failed : res.returncode ≠ 0) :
    (verifyCommitSignature git allowlist commitSha).signerAllowed = false := by
  unfold verifyCommitSignature
  simp only [asked, if_neg failed]

theorem refused_of_empty (empty : allowlist.keys = []) : (verifyCommitSignature git allowlist commitSha).signerAllowed = false := by
  unfold verifyCommitSignature
  simp only [empty, List.not_mem_nil, if_false, List.find?_nil]
  cases git.verifyCommit commitSha with
  | none => rfl
  | some res => by_cases verified : res.returncode = 0 <;> simp [verified]

theorem tokens_printed : tokens (report.printed owner).output.toList =
    tokens report.stdout.toList ++ tokens (report.opening.toList ++ owner.toList ++ report.closing.toList) := by
  have text : (report.printed owner).output.toList =
      report.stdout.toList ++ '\n' :: (report.opening.toList ++ owner.toList ++ report.closing.toList) := by
    simp [Completed.output, Report.printed]
  rw [text, tokens_append (by decide)]

/-- The key that git names is a word of the output, whatever the owner's text. -/
theorem named_token : report.key.toList ∈ tokens (report.printed owner).output.toList := by
  rw [tokens_printed]
  refine List.mem_append_right _ ?_
  rcases report.named with ⟨u, c, v, before, space, member⟩ | ⟨u, c, v, behind, space, member⟩
  · rw [before, List.append_assoc, List.append_assoc, List.cons_append, tokens_append space]
    exact List.mem_append_left _ member
  · rw [behind, ← List.append_assoc, tokens_append space]
    exact List.mem_append_right _ member

/-- The owner's text may have any key for a word. -/
theorem chosen_token (given : key ≠ "") (solid : ∀ c ∈ key.toList, isSpace c = false) :
    key.toList ∈ tokens (report.printed (" " ++ key ++ " ")).output.toList := by
  have text : report.opening.toList ++ (" " ++ key ++ " ").toList ++ report.closing.toList =
      report.opening.toList ++ ' ' :: (key.toList ++ ' ' :: report.closing.toList) := by
    simp
  have letters : key.toList ≠ [] := fun empty => given (String.toList_eq_nil_iff.mp empty)
  rw [tokens_printed, text, tokens_append (by decide), tokens_append (by decide), tokens_solid letters solid]
  exact List.mem_append_right _ (List.mem_append_right _ (List.mem_append_left _ (List.mem_singleton_self _)))

end

/-- The owner's text has no say iff git did not verify the commit, nobody is trusted, or the key is. -/
theorem signer_allowed_iff (allowlist : Allowlist) (report : Report) :
    ByKeyAlone allowlist report ↔ report.returncode ≠ 0 ∨ allowlist.keys = [] ∨ report.key ∈ allowlist.keys := by
  constructor
  · intro law
    by_contra open_
    obtain ⟨verified, trusting, untrusted⟩ : report.returncode = 0 ∧ allowlist.keys ≠ [] ∧ report.key ∉ allowlist.keys := by
      simpa only [not_or, ne_eq, not_not] using open_
    obtain ⟨key, member⟩ := List.exists_mem_of_ne_nil _ trusting
    obtain ⟨given, solid⟩ := allowlist.solid key member
    let git : CommitAnswers := ⟨fun _ => some (report.printed (" " ++ key ++ " ")), fun _ => none⟩
    have allowed : (verifyCommitSignature git allowlist "").signerAllowed = true :=
      allowed_of_token rfl verified member (chosen_token given solid)
    exact untrusted ((law git "" _ rfl).1 allowed)
  · rintro (failed | empty | trusted) git commitSha owner asked
    · have refused : (verifyCommitSignature git allowlist commitSha).signerAllowed = false := refused_of_failed asked failed
      refine ⟨fun allowed => ?_, fun git' owner' asked' => ?_⟩
      · rw [refused] at allowed
        cases allowed
      · rw [refused, refused_of_failed asked' failed]
    · refine ⟨fun allowed => ?_, fun git' owner' _ => ?_⟩
      · rw [refused_of_empty empty] at allowed
        cases allowed
      · rw [refused_of_empty empty, refused_of_empty empty]
    · by_cases verified : report.returncode = 0
      · refine ⟨fun _ => trusted, fun git' owner' asked' => ?_⟩
        rw [allowed_of_token asked verified trusted named_token, allowed_of_token asked' verified trusted named_token]
      · have refused : (verifyCommitSignature git allowlist commitSha).signerAllowed = false := refused_of_failed asked verified
        refine ⟨fun _ => trusted, fun git' owner' asked' => ?_⟩
        rw [refused, refused_of_failed asked' verified]

/-- `TRUSTED_SIGNER_ALLOWLIST` -/
def trustedSignerAllowlist : Allowlist where
  keys := ["SHA256:zYZi3+VxKz9ve+PJgTS2o8q+dvXSmzCwPZ2G3NYh41A"]
  solid key member := by
    obtain rfl := List.mem_singleton.mp member
    have solid : "SHA256:zYZi3+VxKz9ve+PJgTS2o8q+dvXSmzCwPZ2G3NYh41A".toList.all (fun c => !isSpace c) = true := by decide +kernel
    exact ⟨by decide, fun c letter => Bool.not_eq_true' _ ▸ List.all_eq_true.mp solid c letter⟩

/-- A good signature by a key that is not trusted. -/
def strangerReport : Report where
  returncode := 0
  stdout := ""
  opening := "gpg: using RSA key 0123456789ABCDEF\ngpg: Good signature from \""
  closing := "\"\n"
  key := "0123456789ABCDEF"
  named := .inl ⟨"gpg: using RSA key 0123456789ABCDEF".toList, '\n', "gpg: Good signature from \"".toList,
    by decide +kernel⟩

def strangerGit (owner : String) : CommitAnswers := ⟨fun _ => some (strangerReport.printed owner), fun _ => none⟩

/-- A stranger is allowed by naming a trusted key in the user id. -/
theorem signer_allowed_named : strangerReport.key ∉ trustedSignerAllowlist.keys ∧
    (verifyCommitSignature (strangerGit "Eve") trustedSignerAllowlist "c0").signerAllowed = false ∧
    (verifyCommitSignature (strangerGit "Eve SHA256:zYZi3+VxKz9ve+PJgTS2o8q+dvXSmzCwPZ2G3NYh41A E") trustedSignerAllowlist
      "c0").signerAllowed = true := by
  decide +kernel

end ControlPlane.Directive
