import ControlPlane.Data.JsonLines
import ControlPlane.Directive.HeadProvenance

/-!
# Remote publication

`_validated_remote_publish_branch` and `publish_remote_status` of `engine.py`: the branch a
publication may go to, and the commands it runs. What git takes for the name of a reference
is stated on its own.
-/

namespace ControlPlane.Engine

open ControlPlane.Data Directive

/-- What the interpreter knows of the case of a character: its full folding, and its lower case. -/
structure CaseTables where
  fold : Char → List Char
  lower : Char → List Char
  fold_ne_nil : ∀ c, fold c ≠ []
  fold_ascii : ∀ c, c.toNat < 128 → fold c = [c.toLower]
  /-- White space folds to itself, and nothing else does. -/
  fold_space : ∀ c, isSpace c = true → fold c = [c]
  fold_solid : ∀ c, isSpace c = false → ∀ d ∈ fold c, isSpace d = false
  fold_lower : ∀ c, (lower c).flatMap fold = fold c

def CaseTables.casefold (tables : CaseTables) (t : List Char) : List Char := t.flatMap tables.fold

/-- Two spellings of one text: they agree in lower case, or once they are folded. -/
def CaseTables.Alike (tables : CaseTables) (s t : List Char) : Prop :=
  s.flatMap tables.lower = t.flatMap tables.lower ∨ tables.casefold s = tables.casefold t

/-! ### The branch -/

/-- The settings of a publication; nothing where a setting is missing or of another type. -/
structure PublishSettings where
  remotePublicationEnabled : Bool
  remotePublishBranch : Option String
  protectedRemotePublishBranches : Option (List (Option String))

/-- `"refs/heads/"` -/
def refsHeads : List Char := ['r', 'e', 'f', 's', '/', 'h', 'e', 'a', 'd', 's', '/']

/-- `".lock"` -/
def dotLock : List Char := ['.', 'l', 'o', 'c', 'k']

/-- The characters of `"+~^:?*[\\"`. -/
def refusedChars : List Char := ['+', '~', '^', ':', '?', '*', '[', '\\']

/-- The checks of the branch as a whole. -/
def malformedBranch (branch : List Char) : Bool :=
  branch = ['@'] || ['-'].isPrefixOf branch || ['/'].isPrefixOf branch || ['/'].isSuffixOf branch || ['.'].isSuffixOf branch ||
    decide (['/', '/'] <:+: branch) || decide (['.', '.'] <:+: branch) || decide (['@', '\x7b'] <:+: branch) ||
    branch.any fun c => c.toNat < 32 || c.toNat = 127 || isSpace c || c ∈ refusedChars

section

variable (tables : CaseTables)

/-- The checks of one component. -/
def malformedComponent (component : List Char) : Bool :=
  component.isEmpty || ['.'].isPrefixOf component || dotLock.isSuffixOf (tables.casefold component)

/-- `canonical_protected` -/
def canonicalProtected (items : List (Option String)) : List (List Char) :=
  items.filterMap fun item => item.bind fun name =>
    if strip name.toList = [] then none else some (tables.casefold (strip name.toList))

/-- The branch without one `refs/heads/` in front of it. -/
def shortBranch (raw : List Char) : List Char :=
  if refsHeads.isPrefixOf (tables.casefold raw) then raw.drop refsHeads.length else raw

/-- `_validated_remote_publish_branch` -/
def validatedRemotePublishBranch (settings : PublishSettings) : Option String := do
  let raw ← settings.remotePublishBranch
  let items ← settings.protectedRemotePublishBranches
  if raw.toList ≠ strip raw.toList then none
  else
    let branch := shortBranch tables raw.toList
    if branch = [] ∨ (canonicalProtected tables items).contains (tables.casefold branch) then none
    else if malformedBranch branch then none
    else if (branch.splitOn '/').any (malformedComponent tables) then none
    else some (String.ofList branch)

end

/-! ### The publication -/

/-- What the repository and git answer; nothing where a call raises. -/
structure PublishAnswers where
  hasRepository : Bool
  add : Option Completed
  status : Option Completed
  commit : Option Completed
  push : Option Completed

/-- `f"HEAD:refs/heads/\x7bbranch\x7d"` -/
def pushRefspec (branch : String) : String := "HEAD:refs/heads/" ++ branch

def addCommand : List String :=
  ["git", "add", "state/", "directives/runtime/", "directives/acks/", "directives/inbox/", "audit/", "reports/"]

def statusCommand : List String := ["git", "status", "--porcelain"]

def commitCommand (sweepCount : Nat) : List String :=
  ["git", "commit", "-m", s!"chore(control-plane): state publication sweep #{sweepCount}"]

def pushCommand (branch : String) : List String := ["git", "push", "origin", pushRefspec branch]

/-- `publish_remote_status`: its result, and the commands it runs. -/
def publishRemoteStatus (tables : CaseTables) (settings : PublishSettings) (sweepCount : Nat) (answers : PublishAnswers) :
    Bool × List (List String) :=
  if settings.remotePublicationEnabled = false then (false, [])
  else match validatedRemotePublishBranch tables settings with
    | none => (false, [])
    | some branch =>
      if answers.hasRepository = false then (false, [])
      else match answers.add with
        | none => (false, [addCommand])
        | some add =>
          if add.returncode ≠ 0 then (false, [addCommand])
          else match answers.status with
            | none => (false, [addCommand, statusCommand])
            | some status =>
              if status.returncode ≠ 0 then (false, [addCommand, statusCommand])
              else if strip status.stdout.toList = [] then (true, [addCommand, statusCommand])
              else match answers.commit with
                | none => (false, [addCommand, statusCommand, commitCommand sweepCount])
                | some commit =>
                  if commit.returncode ≠ 0 then (false, [addCommand, statusCommand, commitCommand sweepCount])
                  else
                    (answers.push.any fun push => push.returncode = 0,
                      [addCommand, statusCommand, commitCommand sweepCount, pushCommand branch])

/-! ### What git takes for a reference -/

/-- What a refspec is pushed to: the text behind its last colon. -/
def destination (refspec : List Char) : List Char := (refspec.reverse.takeWhile (· ≠ ':')).reverse

section

variable {tables : CaseTables} {settings : PublishSettings} {branch : List Char} {items : List (Option String)} {b : String}

/-- A branch that was validated, and what it passed. -/
structure Validated (tables : CaseTables) (items : List (Option String)) (branch : List Char) : Prop where
  given : branch ≠ []
  free : tables.casefold branch ∉ canonicalProtected tables items
  formed : malformedBranch branch = false
  components : ∀ component ∈ branch.splitOn '/', malformedComponent tables component = false

/-- Spellings of one text fold to one text. -/
theorem CaseTables.Alike.folded {s t : List Char} (alike : tables.Alike s t) : tables.casefold s = tables.casefold t := by
  have lowered (u : List Char) : tables.casefold (u.flatMap tables.lower) = tables.casefold u := by
    unfold CaseTables.casefold
    rw [List.flatMap_assoc]
    exact List.flatMap_congr fun c _ => tables.fold_lower c
  rcases alike with lower | folded
  · rw [← lowered s, lower, lowered]
  · exact folded

/-! ### The push -/

theorem publish_commands {sweepCount : Nat} {answers : PublishAnswers} {command : List String}
    (ran : command ∈ (publishRemoteStatus tables settings sweepCount answers).2) :
    command ∈ [addCommand, statusCommand, commitCommand sweepCount] ∨
      ∃ b, validatedRemotePublishBranch tables settings = some b ∧ command = pushCommand b := by
  unfold publishRemoteStatus at ran
  repeat' split at ran
  all_goals simp only [List.mem_cons, List.not_mem_nil, or_false] at ran
  all_goals simp only [List.mem_cons, List.not_mem_nil, or_false]
  all_goals first
  | rcases ran with add | status | commit | pushed
    · exact .inl (.inl add)
    · exact .inl (.inr (.inl status))
    · exact .inl (.inr (.inr commit))
    · exact .inr ⟨_, by assumption, pushed⟩
  | rcases ran with add | status | commit
    · exact .inl (.inl add)
    · exact .inl (.inr (.inl status))
    · exact .inl (.inr (.inr commit))
  | exact .inl (or_assoc.mp (.inl ran))
  | exact .inl (.inl ran)

/-- Nothing is pushed but the branch that was validated. -/
theorem publish_pushes {sweepCount : Nat} {answers : PublishAnswers} {command : List String}
    (ran : command ∈ (publishRemoteStatus tables settings sweepCount answers).2) (pushes : "push" ∈ command) :
    ∃ b, validatedRemotePublishBranch tables settings = some b ∧ command = pushCommand b := by
  rcases publish_commands ran with other | pushed
  · have message : "push" ≠ s!"chore(control-plane): state publication sweep #{sweepCount}" := by
      intro same
      have first := congrArg (fun t => t.toList.head?) same
      simp [toString] at first
    simp only [List.mem_cons, List.not_mem_nil, or_false] at other
    rcases other with rfl | rfl | rfl
    · exact absurd pushes (by decide)
    · exact absurd pushes (by decide)
    · simp only [commitCommand, List.mem_cons, List.not_mem_nil, or_false] at pushes
      rcases pushes with git | commit | flag | text
      · exact absurd git (by decide)
      · exact absurd commit (by decide)
      · exact absurd flag (by decide)
      · exact absurd text message
  · exact pushed

end

/-! ### A run -/

theorem toNat_toLower (c : Char) : c.toLower.toNat = if 65 ≤ c.toNat ∧ c.toNat ≤ 90 then c.toNat + 32 else c.toNat := by
  unfold Char.toLower
  by_cases upper : c.val ≥ 'A'.val ∧ c.val ≤ 'Z'.val
  · have range : 65 ≤ c.toNat ∧ c.toNat ≤ 90 := upper
    rw [dif_pos upper, if_pos range]
    change (c.val + 32).toNat = c.val.toNat + 32
    rw [UInt32.toNat_add]
    exact Nat.mod_eq_of_lt (by change c.toNat + 32 < _; omega)
  · have range : ¬ (65 ≤ c.toNat ∧ c.toNat ≤ 90) := upper
    rw [dif_neg upper, if_neg range]

/-- Case tables that know the letters of ASCII only. -/
def asciiCase : CaseTables where
  fold c := [c.toLower]
  lower c := [c.toLower]
  fold_ne_nil c := List.cons_ne_nil _ _
  fold_ascii c ascii := rfl
  fold_space c space := by
    have same : c.toLower.toNat = c.toNat := by
      rw [toNat_toLower, if_neg]
      simp only [isSpace, Bool.or_eq_true, Bool.and_eq_true, decide_eq_true_eq] at space
      omega
    rw [Char.toNat_inj.mp same]
  fold_solid c solid d member := by
    obtain rfl := List.mem_singleton.mp member
    simp only [isSpace, Bool.or_eq_false_iff, Bool.and_eq_false_iff, decide_eq_false_iff_not, toNat_toLower] at solid ⊢
    split <;> omega
  fold_lower c := by
    have same : c.toLower.toLower.toNat = c.toLower.toNat := by
      rw [toNat_toLower c.toLower, toNat_toLower c]
      split_ifs <;> omega
    rw [List.flatMap_singleton, Char.toNat_inj.mp same]

/-- A branch given with its prefix, beside protected ones. -/
def localPublication : PublishSettings where
  remotePublicationEnabled := true
  remotePublishBranch := some "Refs/Heads/codex/local-publication"
  protectedRemotePublishBranches := some [some "main", some " Master ", none]

end ControlPlane.Engine
