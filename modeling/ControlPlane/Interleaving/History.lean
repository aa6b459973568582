import Mathlib.Order.Defs.PartialOrder

/-!
# Histories of labelled steps

A system that takes one labelled step after another, and what each step says about
the whole history: an invariant, a flag that is raised once, a measure that only grows.
-/

namespace ControlPlane.Interleaving

universe u v

variable {σ : Type u} {ℓ : Type v}

structure Transition (σ : Type u) (ℓ : Type v) where
  before : σ
  label : ℓ
  after : σ

/-- What was done since `init`, newest first. -/
inductive History (Step : σ → ℓ → σ → Prop) (init : σ) : List (Transition σ ℓ) → σ → Prop
  | start : History Step init [] init
  | step {past s l s'} (history : History Step init past s) (moved : Step s l s') :
      History Step init (⟨s, l, s'⟩ :: past) s'

/-- Something that holds of every step, seen with what was done before it. -/
def Along (P : List (Transition σ ℓ) → Transition σ ℓ → Prop) : List (Transition σ ℓ) → Prop
  | [] => True
  | t :: past => P past t ∧ Along P past

namespace History

variable {Step : σ → ℓ → σ → Prop} {init s : σ} {past : List (Transition σ ℓ)}

theorem moved (history : History Step init past s) : ∀ t ∈ past, Step t.before t.label t.after := by
  induction history with
  | start => simp
  | step history moved ih => exact List.forall_mem_cons.mpr ⟨moved, ih⟩

/-- A history can be cut anywhere. -/
theorem cut {later earlier : List (Transition σ ℓ)} (history : History Step init (later ++ earlier) s) :
    ∃ mid, History Step init earlier mid ∧ History Step mid later s := by
  generalize whole : later ++ earlier = past at history
  induction history generalizing later with
  | start =>
    obtain ⟨rfl, rfl⟩ := List.append_eq_nil_iff.mp whole
    exact ⟨init, .start, .start⟩
  | @step past s l s' history moved ih =>
    cases later with
    | nil =>
      obtain rfl : earlier = _ := whole
      exact ⟨_, history.step moved, .start⟩
    | cons t later =>
      obtain ⟨rfl, rest⟩ := List.cons.inj whole
      obtain ⟨mid, first, second⟩ := ih rest
      exact ⟨mid, first, second.step moved⟩

/-- The state a step of the history starts in, with the history up to it. -/
theorem upTo {later earlier : List (Transition σ ℓ)} {t : Transition σ ℓ}
    (history : History Step init (later ++ t :: earlier) s) :
    History Step init earlier t.before ∧ Step t.before t.label t.after := by
  obtain ⟨_, first, _⟩ := history.cut
  cases first with
  | step before taken => exact ⟨before, taken⟩

/-- What every step keeps holds throughout. -/
theorem invariant {I : σ → Prop} (history : History Step init past s) (initial : I init)
    (kept : ∀ t ∈ past, I t.before → I t.after) : I s ∧ ∀ t ∈ past, I t.before ∧ I t.after := by
  induction history with
  | start => exact ⟨initial, by simp⟩
  | step history moved ih =>
    obtain ⟨now, then_⟩ := List.forall_mem_cons.mp kept
    obtain ⟨here, earlier⟩ := ih then_
    exact ⟨now here, List.forall_mem_cons.mpr ⟨⟨here, now here⟩, earlier⟩⟩

/-- What every step keeps and holds somewhere holds ever after. -/
theorem ever_after {I : σ → Prop} {later earlier : List (Transition σ ℓ)} {t : Transition σ ℓ}
    (history : History Step init (later ++ t :: earlier) s) (raised : I t.after)
    (kept : ∀ u ∈ later, I u.before → I u.after) : I s ∧ ∀ u ∈ later, I u.before ∧ I u.after := by
  obtain ⟨mid, first, second⟩ := history.cut
  cases first with
  | step => exact second.invariant raised kept

/-! ### A flag -/

/-- Of a family of flags: a step that finds its flag down and leaves it up happens
once, if no step lowers the flag. -/
theorem at_most_once {δ : Type*} (history : History Step init past s) (Raises : δ → Transition σ ℓ → Prop)
    (Up : δ → σ → Prop) (raises : ∀ t ∈ past, ∀ d, Raises d t → ¬ Up d t.before ∧ Up d t.after)
    (kept : ∀ t ∈ past, ∀ d, Up d t.before → Up d t.after) :
    past.Pairwise fun later earlier => ∀ d, ¬ (Raises d later ∧ Raises d earlier) := by
  induction history with
  | start => exact .nil
  | step history moved ih =>
    obtain ⟨raised, raises⟩ := List.forall_mem_cons.mp raises
    obtain ⟨_, kept⟩ := List.forall_mem_cons.mp kept
    refine .cons (fun u member d ⟨again, first⟩ => (raised d again).1 ?_) (ih raises kept)
    obtain ⟨later, earlier, rfl⟩ := List.append_of_mem member
    exact (history.ever_after (raises u member d first).2 fun v newer =>
      kept v (List.mem_append_left _ newer) d).1

/-- A flag that is up was raised by a step of the history. -/
theorem raised_by (history : History Step init past s) (Raises : Transition σ ℓ → Prop) (Up : σ → Prop) (down : ¬ Up init) (raises : ∀ t ∈ past, ¬ Up t.before → Up t.after → Raises t) (up : Up s) :
    ∃ t ∈ past, Raises t := by
  induction history with
  | start => exact absurd up down
  | @step past s l s' history moved ih =>
    obtain ⟨raised, raises⟩ := List.forall_mem_cons.mp raises
    by_cases already : Up s
    · obtain ⟨t, member, found⟩ := ih raises already
      exact ⟨t, List.mem_cons_of_mem _ member, found⟩
    · exact ⟨_, List.mem_cons_self, raised already up⟩

/-! ### A measure -/

/-- Between any two steps that move a measure it has grown, if no step ever lowers it. -/
theorem grows {δ : Type*} [Preorder δ] (history : History Step init past s) (Moves : Transition σ ℓ → Prop)
    (measure : σ → δ) (kept : ∀ t ∈ past, measure t.before ≤ measure t.after)
    (moves : ∀ t ∈ past, Moves t → measure t.before < measure t.after) :
    past.Pairwise fun later earlier => Moves later → measure earlier.after < measure later.after := by
  induction history with
  | start => exact .nil
  | step history moved ih =>
    obtain ⟨grown, moves⟩ := List.forall_mem_cons.mp moves
    obtain ⟨_, kept⟩ := List.forall_mem_cons.mp kept
    refine .cons (fun u member moved => ?_) (ih kept moves)
    obtain ⟨later, earlier, rfl⟩ := List.append_of_mem member
    have reached := (history.ever_after (I := fun v => measure u.after ≤ measure v) le_rfl fun v newer below =>
      le_trans below (kept v (List.mem_append_left _ newer))).1
    exact lt_of_le_of_lt reached (grown moved)

/-! ### Histories by computation -/

section

variable {α : Type*} (next : σ → α → ℓ × σ)

/-- The moves one after another: what was done, newest first, and where it led. -/
def replay (init : σ) (moves : List α) : List (Transition σ ℓ) × σ :=
  moves.foldl (fun reached a => (⟨reached.2, (next reached.2 a).1, (next reached.2 a).2⟩ :: reached.1, (next reached.2 a).2))
    ([], init)

theorem history_replay (sound : ∀ s a, Step s (next s a).1 (next s a).2) (init : σ) (moves : List α) :
    History Step init (replay next init moves).1 (replay next init moves).2 := by
  suffices extend : ∀ reached : List (Transition σ ℓ) × σ, History Step init reached.1 reached.2 →
      History Step init
        (moves.foldl (fun reached a => (⟨reached.2, (next reached.2 a).1, (next reached.2 a).2⟩ :: reached.1,
          (next reached.2 a).2)) reached).1
        (moves.foldl (fun reached a => (⟨reached.2, (next reached.2 a).1, (next reached.2 a).2⟩ :: reached.1,
          (next reached.2 a).2)) reached).2 from extend ([], init) .start
  induction moves with
  | nil => exact fun reached history => history
  | cons a moves ih => exact fun reached history => ih _ (history.step (sound _ _))

variable (try' : σ → α → Option (ℓ × σ))

/-- One more move, if it can be made. -/
def tried (reached : List (Transition σ ℓ) × σ) (a : α) : List (Transition σ ℓ) × σ :=
  match try' reached.2 a with
  | some made => (⟨reached.2, made.1, made.2⟩ :: reached.1, made.2)
  | none => reached

/-- The moves one after another, without those that cannot be made. -/
def attempt (init : σ) (moves : List α) : List (Transition σ ℓ) × σ := moves.foldl (tried try') ([], init)

theorem history_tried (sound : ∀ s a made, try' s a = some made → Step s made.1 made.2) (moves : List α) :
    ∀ reached : List (Transition σ ℓ) × σ, History Step init reached.1 reached.2 →
      History Step init (moves.foldl (tried try') reached).1 (moves.foldl (tried try') reached).2 := by
  induction moves with
  | nil => exact fun reached history => history
  | cons a moves ih =>
    intro reached history
    refine ih _ ?_
    unfold tried
    split
    · rename_i made possible
      exact history.step (sound _ _ _ possible)
    · exact history

theorem history_attempt (sound : ∀ s a made, try' s a = some made → Step s made.1 made.2) (init : σ) (moves : List α) :
    History Step init (attempt try' init moves).1 (attempt try' init moves).2 := history_tried _ sound moves _ .start

end

end History

end ControlPlane.Interleaving
