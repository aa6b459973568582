import ControlPlane.Directive.ApprovalLifecycle
import ControlPlane.Directive.Capability

/-!
# Identifiers derived from a text

`derive_directive_identity`, `derive_approval_request_id` and the hash of an authorization token: each
hashes its fields, joined by colons. What is hashed tells the fields apart as long as no colon can be
taken for one of those that join them.
-/

namespace ControlPlane.Directive

open ControlPlane.Data

/-! ### The fields -/

/-- The arguments of `derive_directive_identity`. -/
structure DirectiveFields where
  payloadCommitSha : String
  payloadSha256 : String
  signerFingerprint : String
  trustedBranch : String := "main"
  directiveType : String := "STANDARD"
  deriving DecidableEq

/-- The arguments of `derive_approval_request_id`. -/
structure ApprovalFields where
  directiveId : String
  capabilityId : String
  parameterHash : String
  target : String
  riskClass : String
  createdAt : ℚ
  deriving DecidableEq

/-- The fields that an `ExecutionAuthorizationToken` is bound to. -/
structure TokenFields where
  directiveId : String
  capabilityId : String
  parameterHash : String
  target : String
  riskClass : RiskClass
  approvalId : Option String := none
  createdAt : ℚ
  deriving DecidableEq

/-- The `meta` of `derive_directive_identity`. -/
structure DirectiveIdentity where
  directiveIdDerived : Bool := false
  directiveIdBoundToPayload : Bool := false
  directiveIdBoundToCommit : Bool := false
  directiveIdBoundToSigner : Bool := false
  directiveId : Option String := none

/-- `raw_seed` -/
def DirectiveFields.seed (f : DirectiveFields) : String :=
  f.payloadCommitSha ++ ":" ++ f.payloadSha256 ++ ":" ++ f.signerFingerprint ++ ":" ++ f.trustedBranch ++ ":" ++ f.directiveType

/-- The fields that may not be empty. -/
def DirectiveFields.Given (f : DirectiveFields) : Prop :=
  f.payloadCommitSha ≠ "" ∧ f.payloadSha256 ≠ "" ∧ f.signerFingerprint ≠ ""

instance (f : DirectiveFields) : Decidable f.Given := inferInstanceAs (Decidable (_ ∧ _ ∧ _))

section

variable (host : Host)

/-- `derive_directive_identity` -/
def deriveDirectiveIdentity (f : DirectiveFields) : Bool × DirectiveIdentity :=
  if f.Given then
    (true, {
      directiveIdDerived := true
      directiveIdBoundToPayload := true
      directiveIdBoundToCommit := true
      directiveIdBoundToSigner := true
      directiveId := some ("DIR-" ++ String.ofList ((host.sha256 f.seed).toList.take 32)) })
  else (false, {})

def ApprovalFields.seed (f : ApprovalFields) : String :=
  approvalSeed host f.directiveId f.capabilityId f.parameterHash f.target f.riskClass f.createdAt

def ApprovalFields.requestId (f : ApprovalFields) : String :=
  deriveApprovalRequestId host f.directiveId f.capabilityId f.parameterHash f.target f.riskClass f.createdAt

/-- `raw`, in `_compute_token_hash` -/
def TokenFields.seed (f : TokenFields) : String :=
  f.directiveId ++ ":" ++ f.capabilityId ++ ":" ++ f.parameterHash ++ ":" ++ f.target ++ ":" ++ f.riskClass.value ++ ":" ++
    f.approvalId.getD "None" ++ ":" ++ String.ofList (host.floats.repr f.createdAt)

/-- `ExecutionAuthorizationToken(..)` -/
def TokenFields.token (f : TokenFields) : ExecutionAuthorizationToken where
  directiveId := f.directiveId
  capabilityId := f.capabilityId
  parameterHash := f.parameterHash
  target := f.target
  riskClass := f.riskClass.value
  approvalId := f.approvalId.elim .null .str
  createdAt := f.createdAt
  tokenHash := host.sha256 (f.seed host)

/-- The token of a request that passed is one of these, where its approval is named by a text. -/
theorem tokenFor_fields {created : ℚ} {r : AuthorizationRequest} {approvalId : Option String} (none : host.shown .null = "None")
    (named : (if needsApproval r.capabilityId then Record.field (r.humanApprovalData.getD []) "approval_id" else .null) =
      approvalId.elim .null .str) :
    tokenFor host created r = TokenFields.token host ⟨r.directiveId, r.capabilityId, paramHash host r.parameters, r.requestedTarget,
      (deriveRiskClass r.capabilityId r.selfDeclaredRisk).1, approvalId, created⟩ := by
  unfold tokenFor TokenFields.token TokenFields.seed
  rw [named]
  cases approvalId with
  | none =>
    simp only [Option.elim_none, Option.getD_none, none]
  | some a => simp only [Option.elim_some, Option.getD_some, host.shown_str]

/-- No other text has the digest of this one. -/
def HashedAlone (text : String) : Prop := ∀ t, host.sha256 t = host.sha256 text → t = text

/-- Or the first 128 bits of it. -/
def PrefixAlone (text : String) : Prop :=
  ∀ t, (host.sha256 t).toList.take 32 = (host.sha256 text).toList.take 32 → t = text

end

/-! ### Approvals -/

section

variable {host : Host}

/-- No field of the request has a colon. -/
def ApprovalFields.Plain (f : ApprovalFields) : Prop :=
  ∀ t ∈ [f.directiveId, f.capabilityId, f.parameterHash, f.target, f.riskClass], ':' ∉ t.toList

theorem approval_words (f : ApprovalFields) : words (f.seed host) =
    [f.directiveId, f.capabilityId, f.parameterHash, f.target, f.riskClass, String.ofList (host.floats.repr f.createdAt)].flatMap words := by
  simp [ApprovalFields.seed, approvalSeed]

theorem repr_text_plain (q : ℚ) : ':' ∉ (String.ofList (host.floats.repr q)).toList := by
  rw [String.toList_ofList]
  exact repr_plain host.floats q

theorem approval_plain {f : ApprovalFields} (plain : f.Plain) : ∀ t ∈ [f.directiveId, f.capabilityId, f.parameterHash, f.target,
    f.riskClass, String.ofList (host.floats.repr f.createdAt)], ':' ∉ t.toList := by
  intro t member
  have last := @repr_text_plain host f.createdAt
  simp only [ApprovalFields.Plain, List.forall_mem_cons] at plain
  obtain ⟨d, c, p, t', r, -⟩ := plain
  simp only [List.mem_cons, List.not_mem_nil, or_false] at member
  rcases member with rfl | rfl | rfl | rfl | rfl | rfl <;> assumption

theorem approval_read {f g : ApprovalFields} (plain : f.Plain) (same : g.seed host = f.seed host) : g = f := by
  have split := (approval_words g).symm.trans ((congrArg words same).trans (approval_words f))
  have read := flatMap_words_inj (approval_plain plain) split rfl
  obtain ⟨d, c, p, t, r, n⟩ := f
  obtain ⟨d', c', p', t', r', n'⟩ := g
  simp only [List.cons.injEq, and_true] at read
  obtain ⟨rfl, rfl, rfl, rfl, rfl, shown⟩ := read
  have now : n' = n := repr_injective host.floats (by simpa using congrArg String.toList shown)
  rw [now]

/-- A colon in a field can be taken for one that joins it to its neighbour. -/
theorem approval_shift {f : ApprovalFields} (colon : ¬ f.Plain) : ∃ g, g ≠ f ∧ g.seed host = f.seed host := by
  obtain ⟨d, c, p, t, r, n⟩ := f
  by_cases inD : ':' ∈ d.toList
  · obtain ⟨x, y, rfl, -⟩ := colon_split inD
    refine ⟨⟨x, y ++ ":" ++ c, p, t, r, n⟩, fun same => split_ne_left (congrArg ApprovalFields.directiveId same), ?_⟩
    simp [ApprovalFields.seed, approvalSeed, String.append_assoc]
  by_cases inC : ':' ∈ c.toList
  · obtain ⟨x, y, rfl, -⟩ := colon_split inC
    refine ⟨⟨d, x, y ++ ":" ++ p, t, r, n⟩, fun same => split_ne_left (congrArg ApprovalFields.capabilityId same), ?_⟩
    simp [ApprovalFields.seed, approvalSeed, String.append_assoc]
  by_cases inP : ':' ∈ p.toList
  · obtain ⟨x, y, rfl, -⟩ := colon_split inP
    refine ⟨⟨d, c, x, y ++ ":" ++ t, r, n⟩, fun same => split_ne_left (congrArg ApprovalFields.parameterHash same), ?_⟩
    simp [ApprovalFields.seed, approvalSeed, String.append_assoc]
  by_cases inT : ':' ∈ t.toList
  · obtain ⟨x, y, rfl, -⟩ := colon_split inT
    refine ⟨⟨d, c, p, x, y ++ ":" ++ r, n⟩, fun same => split_ne_left (congrArg ApprovalFields.target same), ?_⟩
    simp [ApprovalFields.seed, approvalSeed, String.append_assoc]
  by_cases inR : ':' ∈ r.toList
  · obtain ⟨x, y, rfl, -⟩ := colon_split inR
    refine ⟨⟨d, c, p, t ++ ":" ++ x, y, n⟩, fun same => split_ne_right (congrArg ApprovalFields.riskClass same), ?_⟩
    simp [ApprovalFields.seed, approvalSeed, String.append_assoc]
  · refine absurd ?_ colon
    simp [ApprovalFields.Plain, inD, inC, inP, inT, inR]

theorem approval_iff {f : ApprovalFields} (alone : PrefixAlone host (f.seed host)) :
    (∀ g : ApprovalFields, g.requestId host = f.requestId host → g = f) ↔ f.Plain := by
  constructor
  · intro determined
    by_contra colon
    obtain ⟨g, other, same⟩ := @approval_shift host f colon
    exact other (determined g (congrArg (approvalId host) same))
  · intro plain g same
    have digits := congrArg String.toList same
    simp only [ApprovalFields.requestId, deriveApprovalRequestId, approvalId, String.toList_append, String.toList_ofList] at digits
    exact approval_read plain (alone _ (List.append_cancel_left digits))

/-! ### Tokens -/

/-- The text of `approval_id`. -/
def TokenFields.approvalText (f : TokenFields) : String := f.approvalId.getD "None"

/-- No field of the token has a colon but its approval, which is named, and in which no risk class stands before a colon. -/
structure TokenFields.Plain (f : TokenFields) : Prop where
  plain : ∀ t ∈ [f.directiveId, f.capabilityId, f.parameterHash, f.target], ':' ∉ t.toList
  named : f.approvalId ≠ none ∧ f.approvalId ≠ some "None"
  risks : ∀ risk : RiskClass, occursIn (":" ++ risk.value ++ ":") (":" ++ f.approvalText) = false

theorem risk_plain (risk : RiskClass) : ':' ∉ risk.value.toList := by
  cases risk <;> decide

theorem risk_inj {risk risk' : RiskClass} (same : risk.value.toList = risk'.value.toList) : risk = risk' := by
  cases risk <;> cases risk' <;> first | rfl | exact absurd same (by decide)

theorem token_words (f : TokenFields) : words (f.seed host) =
    [f.directiveId, f.capabilityId, f.parameterHash, f.target].flatMap words ++ f.riskClass.value.toList ::
      (words f.approvalText ++ [host.floats.repr f.createdAt]) := by
  have shown := words_plain (@repr_text_plain host f.createdAt)
  have risk := words_plain (risk_plain f.riskClass)
  rw [String.toList_ofList] at shown
  simp [TokenFields.seed, TokenFields.approvalText, shown, risk]

/-- Where another risk class could have been read in the text of the approval. -/
theorem risk_occurs {text u : String} {us : List (List Char)} {risk : RiskClass}
    (split : words text = us ++ risk.value.toList :: words u) : occursIn (":" ++ risk.value ++ ":") (":" ++ text) = true := by
  have joined : words text = us ++ words (risk.value ++ ":" ++ u) := by
    rw [words_append, words_plain (risk_plain risk)]
    exact split
  refine decide_eq_true ?_
  rcases behind_words joined with ⟨-, rfl⟩ | ⟨x, rfl⟩
  · exact ⟨[], u.toList, by simp⟩
  · exact ⟨(":" ++ x).toList, u.toList, by simp⟩

theorem token_read {f g : TokenFields} (plain : f.Plain) (same : g.seed host = f.seed host) : g = f := by
  have split := (token_words g).symm.trans ((congrArg words same).trans (token_words f))
  simp only [← List.cons_append, ← List.append_assoc] at split
  obtain ⟨front, shown⟩ := List.append_inj' split rfl
  have now : g.createdAt = f.createdAt := repr_injective host.floats (List.singleton_inj.mp shown)
  have few : ([f.directiveId, f.capabilityId, f.parameterHash, f.target].flatMap words).length = 4 := length_flatMap_words plain.plain
  have many := length_le_flatMap_words [g.directiveId, g.capabilityId, g.parameterHash, g.target]
  have aligned : [g.directiveId, g.capabilityId, g.parameterHash, g.target].flatMap words =
      [f.directiveId, f.capabilityId, f.parameterHash, f.target].flatMap words ∧
      g.riskClass.value.toList :: words g.approvalText = f.riskClass.value.toList :: words f.approvalText := by
    rcases List.append_eq_append_iff.mp front with ⟨zs, longer, rest⟩ | ⟨zs, longer, rest⟩
    · have none : zs = [] := by
        have length := congrArg List.length longer
        rw [List.length_append, few] at length
        exact List.length_eq_zero_iff.mp (by simp only [List.length_cons, List.length_nil] at many; omega)
      rw [none, List.append_nil] at longer
      rw [none, List.nil_append] at rest
      exact ⟨longer.symm, rest⟩
    · cases zs with
      | nil =>
        rw [List.append_nil] at longer
        exact ⟨longer, rest.symm⟩
      | cons z zs =>
        have occurs := risk_occurs (List.cons.inj rest).2
        rw [plain.risks g.riskClass] at occurs
        cases occurs
  have read := flatMap_words_inj plain.plain aligned.1 rfl
  have risk := risk_inj (List.cons.inj aligned.2).1
  have approval : g.approvalId = f.approvalId := by
    have text : g.approvalText = f.approvalText := words_inj.mp (List.cons.inj aligned.2).2
    unfold TokenFields.approvalText at text
    obtain ⟨given, other⟩ := plain.named
    obtain ⟨a, named⟩ := Option.ne_none_iff_exists'.mp given
    rw [named] at text other ⊢
    cases named' : g.approvalId with
    | none =>
      rw [named'] at text
      exact absurd (congrArg some text.symm) other
    | some a' =>
      rw [named'] at text
      exact congrArg some text
  obtain ⟨d, c, p, t, r, a, n⟩ := f
  obtain ⟨d', c', p', t', r', a', n'⟩ := g
  simp only [List.cons.injEq, and_true] at read
  obtain ⟨rfl, rfl, rfl, rfl⟩ := read
  subst risk approval now
  rfl

theorem token_shift {f : TokenFields} (loose : ¬ f.Plain) : ∃ g, g ≠ f ∧ g.seed host = f.seed host := by
  obtain ⟨d, c, p, t, r, a, n⟩ := f
  by_cases inD : ':' ∈ d.toList
  · obtain ⟨x, y, rfl, -⟩ := colon_split inD
    refine ⟨⟨x, y ++ ":" ++ c, p, t, r, a, n⟩, fun same => split_ne_left (congrArg TokenFields.directiveId same), ?_⟩
    simp [TokenFields.seed, String.append_assoc]
  by_cases inC : ':' ∈ c.toList
  · obtain ⟨x, y, rfl, -⟩ := colon_split inC
    refine ⟨⟨d, x, y ++ ":" ++ p, t, r, a, n⟩, fun same => split_ne_left (congrArg TokenFields.capabilityId same), ?_⟩
    simp [TokenFields.seed, String.append_assoc]
  by_cases inP : ':' ∈ p.toList
  · obtain ⟨x, y, rfl, -⟩ := colon_split inP
    refine ⟨⟨d, c, x, y ++ ":" ++ t, r, a, n⟩, fun same => split_ne_left (congrArg TokenFields.parameterHash same), ?_⟩
    simp [TokenFields.seed, String.append_assoc]
  by_cases inT : ':' ∈ t.toList
  · obtain ⟨x, y, rfl, -⟩ := colon_split inT
    refine ⟨⟨d, c, p ++ ":" ++ x, y, r, a, n⟩, fun same => split_ne_right (congrArg TokenFields.target same), ?_⟩
    simp [TokenFields.seed, String.append_assoc]
  by_cases unnamed : a = none
  · subst unnamed
    exact ⟨⟨d, c, p, t, r, some "None", n⟩, by simp, rfl⟩
  by_cases none : a = some "None"
  · subst none
    exact ⟨⟨d, c, p, t, r, .none, n⟩, by simp, rfl⟩
  by_cases risks : ∀ risk : RiskClass, occursIn (":" ++ risk.value ++ ":") (":" ++ a.getD "None") = false
  · exact absurd ⟨by simp [inD, inC, inP, inT], ⟨unnamed, none⟩, risks⟩ loose
  · obtain ⟨risk, occurs⟩ := not_forall.mp risks
    obtain ⟨x, y, found⟩ := of_decide_eq_true (Bool.not_eq_false _ ▸ occurs)
    have text : ":" ++ a.getD "None" = String.ofList x ++ ":" ++ risk.value ++ ":" ++ String.ofList y := by
      rw [← String.toList_inj, ← found]
      simp
    refine ⟨⟨d, c, p, t ++ ":" ++ r.value ++ String.ofList x, risk, some (String.ofList y), n⟩, fun same => ?_, ?_⟩
    · have target := congrArg (fun f => f.target.toList.length) same
      simp at target
    · have joined (rest : String) :
          ":" ++ (a.getD "None" ++ rest) = String.ofList x ++ (":" ++ (risk.value ++ (":" ++ (String.ofList y ++ rest)))) := by
        rw [← String.append_assoc, text]
        simp only [String.append_assoc]
      simp only [TokenFields.seed, Option.getD_some, String.append_assoc]
      rw [joined]

theorem token_iff {f : TokenFields} (alone : HashedAlone host (f.seed host)) :
    (∀ g : TokenFields, (g.token host).tokenHash = (f.token host).tokenHash → g = f) ↔ f.Plain := by
  constructor
  · intro determined
    by_contra loose
    obtain ⟨g, other, same⟩ := @token_shift host f loose
    exact other (determined g (congrArg host.sha256 same))
  · intro plain g same
    exact token_read plain (alone _ same)

/-! ### Directives -/

/-- No colon can be taken for another one: the commit has none behind its first character, the payload hash and the
signer none unless they are nothing else, and the branch and the type none. -/
structure DirectiveFields.Plain (f : DirectiveFields) : Prop where
  commit : ':' ∉ f.payloadCommitSha.toList.tail
  payload : ':' ∉ f.payloadSha256.toList ∨ f.payloadSha256 = ":"
  signer : ':' ∉ f.signerFingerprint.toList ∨ f.signerFingerprint = ":"
  branch : ':' ∉ f.trustedBranch.toList
  type : ':' ∉ f.directiveType.toList

theorem filled_words {t : String} (given : t ≠ "") : Filled [] (words t) :=
  ⟨words_ne_nil t, fun empty => given (words_empty_iff.mp empty)⟩

/-- The words of a field that has no colon or is one. -/
theorem words_colon {t : String} (plain : ':' ∉ t.toList ∨ t = ":") :
    ∃ x, (words t = [x] ∨ words t = [[], x]) ∧ (words t = [x] ∨ words t = [[], []]) := by
  rcases plain with plain | rfl
  · exact ⟨_, .inl (words_plain plain), .inl (words_plain plain)⟩
  · have two : words ":" = [[], []] := by decide
    exact ⟨[], .inr two, .inr two⟩

theorem directive_words (f : DirectiveFields) : words f.seed = words f.payloadCommitSha ++ (words f.payloadSha256 ++
    (words f.signerFingerprint ++ (words f.trustedBranch ++ words f.directiveType))) := by
  simp [DirectiveFields.seed]

theorem directive_read {f g : DirectiveFields} (given : g.Given) (plain : f.Plain) (same : g.seed = f.seed) : g = f := by
  have split := (directive_words f).symm.trans ((congrArg words same.symm).trans (directive_words g))
  obtain ⟨commit, payload, signer⟩ := given
  obtain ⟨w, first⟩ := words_tail plain.commit
  obtain ⟨p, second, second'⟩ := words_colon plain.payload
  obtain ⟨s, third, third'⟩ := words_colon plain.signer
  have branch := words_ne_nil g.trustedBranch
  have type := words_ne_nil g.directiveType
  rw [words_plain plain.branch, words_plain plain.type, List.singleton_append] at split
  -- a group that is longer than its field leaves the later ones too few words
  rcases group_longer first (filled_words commit) split with ⟨one, split⟩ | ⟨z, late, split⟩
  · rcases group_longer second (filled_words payload) split with ⟨two, split⟩ | ⟨z, late, split⟩
    · rcases group_longer third (filled_words signer) split with ⟨three, split⟩ | ⟨z, late, split⟩
      · obtain ⟨four, five⟩ := groups_two branch type split
        rw [← words_plain plain.branch] at four
        rw [← words_plain plain.type] at five
        rw [words_inj] at one two three four five
        obtain ⟨c, p, s, b, t⟩ := f
        obtain ⟨c', p', s', b', t'⟩ := g
        subst one two three four five
        rfl
      · exact absurd split (groups_late late branch type)
    · obtain ⟨z', late', split⟩ := group_late third' (filled_words signer) late split
      exact absurd split (groups_late late' branch type)
  · obtain ⟨z', late', split⟩ := group_late second' (filled_words payload) late split
    obtain ⟨z'', late'', split⟩ := group_late third' (filled_words signer) late' split
    exact absurd split (groups_late late'' branch type)

theorem directive_shift {f : DirectiveFields} (given : f.Given) (loose : ¬ f.Plain) : ∃ g : DirectiveFields, g.Given ∧ g ≠ f ∧ g.seed = f.seed := by
  obtain ⟨c, p, s, b, t⟩ := f
  obtain ⟨commit, payload, signer⟩ := given
  have longer {x y : String} : x ++ ":" ++ y ≠ "" := fun empty => by simpa using congrArg String.toList empty
  by_cases inT : ':' ∈ t.toList
  · obtain ⟨x, y, rfl, -⟩ := colon_split inT
    refine ⟨⟨c, p, s, b ++ ":" ++ x, y⟩, ⟨commit, payload, signer⟩,
      fun same => split_ne_right (congrArg DirectiveFields.directiveType same), ?_⟩
    simp [DirectiveFields.seed, String.append_assoc]
  by_cases inB : ':' ∈ b.toList
  · obtain ⟨x, y, rfl, -⟩ := colon_split inB
    refine ⟨⟨c, p, s, x, y ++ ":" ++ t⟩, ⟨commit, payload, signer⟩,
      fun same => split_ne_left (congrArg DirectiveFields.trustedBranch same), ?_⟩
    simp [DirectiveFields.seed, String.append_assoc]
  by_cases inS : ':' ∈ s.toList ∧ s ≠ ":"
  · obtain ⟨colon, other⟩ := inS
    obtain ⟨x, y, rfl, -⟩ := colon_split colon
    by_cases front : x = ""
    · subst front
      have given : y ≠ "" := fun empty => other (by simp [empty])
      refine ⟨⟨c, p ++ ":" ++ "", y, b, t⟩, ⟨commit, longer, given⟩,
        fun same => split_ne_right (congrArg DirectiveFields.signerFingerprint same), ?_⟩
      simp only [DirectiveFields.seed, String.append_assoc, String.empty_append]
    · refine ⟨⟨c, p, x, y ++ ":" ++ b, t⟩, ⟨commit, payload, front⟩,
        fun same => split_ne_left (congrArg DirectiveFields.signerFingerprint same), ?_⟩
      simp [DirectiveFields.seed, String.append_assoc]
  by_cases inP : ':' ∈ p.toList ∧ p ≠ ":"
  · obtain ⟨colon, other⟩ := inP
    obtain ⟨x, y, rfl, -⟩ := colon_split colon
    by_cases front : x = ""
    · subst front
      have given : y ≠ "" := fun empty => other (by simp [empty])
      refine ⟨⟨c ++ ":" ++ "", y, s, b, t⟩, ⟨longer, given, signer⟩,
        fun same => split_ne_right (congrArg DirectiveFields.payloadSha256 same), ?_⟩
      simp only [DirectiveFields.seed, String.append_assoc, String.empty_append]
    · refine ⟨⟨c, x, y ++ ":" ++ s, b, t⟩, ⟨commit, front, longer⟩,
        fun same => split_ne_left (congrArg DirectiveFields.payloadSha256 same), ?_⟩
      simp [DirectiveFields.seed, String.append_assoc]
  by_cases inC : ':' ∈ c.toList.tail
  · obtain ⟨x, y, rfl, front⟩ := tail_split inC
    refine ⟨⟨x, y ++ ":" ++ p, s, b, t⟩, ⟨front, longer, signer⟩,
      fun same => split_ne_left (congrArg DirectiveFields.payloadCommitSha same), ?_⟩
    simp [DirectiveFields.seed, String.append_assoc]
  · exact absurd ⟨inC, or_iff_not_imp_left.mpr fun colon => by simpa [not_not.mp colon] using inP,
      or_iff_not_imp_left.mpr fun colon => by simpa [not_not.mp colon] using inS, inB, inT⟩ loose

theorem derived_id {f : DirectiveFields} (given : f.Given) :
    (deriveDirectiveIdentity host f).2.directiveId = some ("DIR-" ++ String.ofList ((host.sha256 f.seed).toList.take 32)) := by
  rw [deriveDirectiveIdentity, if_pos given]

theorem derived_given {f : DirectiveFields} {id : String} (derived : (deriveDirectiveIdentity host f).2.directiveId = some id) : f.Given := by
  by_contra missing
  rw [deriveDirectiveIdentity, if_neg missing] at derived
  cases derived

theorem directive_iff {f : DirectiveFields} (given : f.Given) (alone : PrefixAlone host f.seed) :
    (∀ g, (deriveDirectiveIdentity host g).2.directiveId = (deriveDirectiveIdentity host f).2.directiveId → g = f) ↔ f.Plain := by
  constructor
  · intro determined
    by_contra loose
    obtain ⟨g, given', other, same⟩ := directive_shift given loose
    exact other (determined g (by rw [derived_id given, derived_id given', same]))
  · intro plain g same
    rw [derived_id given] at same
    have given' := derived_given same
    rw [derived_id given'] at same
    have digits := congrArg String.toList (Option.some.inj same)
    simp only [String.toList_append, String.toList_ofList] at digits
    exact directive_read given' plain (alone _ (List.append_cancel_left digits))

end

/-- Each identifier determines its fields, among all that it could have been derived from, iff they are plain. -/
theorem identities_iff (host : Host) :
    (∀ f : DirectiveFields, f.Given → PrefixAlone host f.seed →
      ((∀ g, (deriveDirectiveIdentity host g).2.directiveId = (deriveDirectiveIdentity host f).2.directiveId → g = f) ↔ f.Plain)) ∧
    (∀ f : ApprovalFields, PrefixAlone host (f.seed host) →
      ((∀ g : ApprovalFields, g.requestId host = f.requestId host → g = f) ↔ f.Plain)) ∧
    ∀ f : TokenFields, HashedAlone host (f.seed host) →
      ((∀ g : TokenFields, (g.token host).tokenHash = (f.token host).tokenHash → g = f) ↔ f.Plain) :=
  ⟨fun _ given alone => directive_iff given alone, fun _ alone => approval_iff alone, fun _ alone => token_iff alone⟩

/-- A colon in the name of the branch, and one in the type. -/
def branchColon : DirectiveFields := ⟨"c1", "p1", "k1", "main:a", "b"⟩
def typeColon : DirectiveFields := ⟨"c1", "p1", "k1", "main", "a:b"⟩

/-- Two directives have one identity, whatever is taken for the hash. -/
theorem identities_colon : ∃ f g : DirectiveFields, f.Given ∧ g.Given ∧ f ≠ g ∧
    ∀ host : Host, (deriveDirectiveIdentity host f).2.directiveId = (deriveDirectiveIdentity host g).2.directiveId := by
  have seed : branchColon.seed = typeColon.seed := by decide
  have given : branchColon.Given ∧ typeColon.Given := by decide
  refine ⟨branchColon, typeColon, given.1, given.2, by decide, fun host => ?_⟩
  rw [derived_id given.1, derived_id given.2, seed]

def plainDirective : DirectiveFields := { payloadCommitSha := "c1", payloadSha256 := "p1", signerFingerprint := "k1" }
def plainApproval : ApprovalFields := ⟨"DIR-1", "CAP-1", "h1", "T", "CRITICAL", 0⟩
def plainToken : TokenFields := ⟨"DIR-1", "CAP-1", "h1", "T", .critical, some "APP-1", 0⟩

/-- The texts that are hashed, with their digests. -/
def digests : Dict String String :=
  [("c1:p1:k1:main:STANDARD", "d3a36ef7cabf341cfe9ae4b982de5b0cf6fbbb3c387c27410a1df6b51160ce04"),
    ("DIR-1:CAP-1:h1:T:CRITICAL:0.0", "f0ec23d234c22a25c1970c3972bd836c500b31da3b3e7b226d1f4aeefaff2034"),
    ("DIR-1:CAP-1:h1:T:CRITICAL:APP-1:0.0", "1a89835038f7bb867e8699897805a59f2afebfa60b07008e2b161efebd57fef8")]

def digestingHost : Host := { sampleHost with sha256 := fun t => (digests.get? t).getD "" }

theorem digest_cases (t : String) : (t, digestingHost.sha256 t) ∈ digests ∨ digestingHost.sha256 t = "" := by
  have digest : digestingHost.sha256 t = (digests.get? t).getD "" := rfl
  rw [digest]
  cases found : digests.get? t with
  | none => exact .inr rfl
  | some digest => exact .inl (Dict.mem_of_get? found)

theorem alone_plain : PrefixAlone digestingHost plainDirective.seed ∧ PrefixAlone digestingHost (plainApproval.seed digestingHost) ∧
    HashedAlone digestingHost (plainToken.seed digestingHost) := by
  have directive : plainDirective.seed = "c1:p1:k1:main:STANDARD" := by decide
  have approval : plainApproval.seed digestingHost = "DIR-1:CAP-1:h1:T:CRITICAL:0.0" := by decide
  have token : plainToken.seed digestingHost = "DIR-1:CAP-1:h1:T:CRITICAL:APP-1:0.0" := by decide
  rw [directive, approval, token]
  refine ⟨fun t same => ?_, fun t same => ?_, fun t same => ?_⟩
  all_goals
    rcases digest_cases t with known | unknown
    · simp only [digests, List.mem_cons, Prod.mk.injEq, List.not_mem_nil, or_false] at known
      rcases known with ⟨text, digest⟩ | ⟨text, digest⟩ | ⟨text, digest⟩
      all_goals first | exact text | exact absurd (digest ▸ same) (by decide)
    · exact absurd (unknown ▸ same) (by decide)

/-- Each kind of fields, none of which has a colon. -/
theorem identities_plain : plainDirective.Given ∧
    (∀ g, (deriveDirectiveIdentity digestingHost g).2.directiveId = (deriveDirectiveIdentity digestingHost plainDirective).2.directiveId →
      g = plainDirective) ∧
    (∀ g : ApprovalFields, g.requestId digestingHost = plainApproval.requestId digestingHost → g = plainApproval) ∧
    ∀ g : TokenFields, (g.token digestingHost).tokenHash = (plainToken.token digestingHost).tokenHash → g = plainToken := by
  have given : plainDirective.Given := by decide
  obtain ⟨directive, approval, token⟩ := identities_iff digestingHost
  obtain ⟨first, second, third⟩ := alone_plain
  refine ⟨given, (directive _ given first).mpr ?_, (approval _ second).mpr ?_, (token _ third).mpr ?_⟩
  · exact ⟨by decide, .inl (by decide), .inl (by decide), by decide, by decide⟩
  · simp [ApprovalFields.Plain, plainApproval]
  · refine ⟨by simp [plainToken], by decide, fun risk => ?_⟩
    cases risk <;> decide

end ControlPlane.Directive
