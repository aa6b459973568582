import ControlPlane.Interleaving.Program
import Mathlib.Data.List.Chain
import Mathlib.Data.Set.Defs
import Mathlib.Order.Defs.Unbundled

/-!
# Interleaved runs

Many programs share one state. At each step one of them, chosen by nobody in
particular, issues its next statement; programs may start at any time and may
stop between any two statements (a crash). `Run` records what was executed,
newest first.
-/

namespace ControlPlane.Interleaving

variable {ε : Type} {F : Type → Type} {ι σ α β : Type}

/-- How a statement acts on the shared state, given one answer of the environment. -/
structure Machine (ε : Type) (F : Type → Type) (ι σ : Type) where
  exec : {β : Type} → F β → ι → σ → σ × Except ε β

/-- One executed statement: what was issued, what the environment answered, and
the state it was issued in. -/
structure Taken (F : Type → Type) (ι σ : Type) : Type 1 where
  {β : Type}
  stmt : F β
  input : ι
  before : σ

namespace Machine

variable (m : Machine ε F ι σ)

def after (t : Taken F ι σ) : σ := (m.exec t.stmt t.input t.before).1

/-- `trace` leads from `init` to `s`: each statement starts where the one before it ended. -/
def Linked (init : σ) : List (Taken F ι σ) → σ → Prop
  | [], s => s = init
  | t :: trace, s => s = m.after t ∧ Linked init trace t.before

end Machine

structure Config (ε : Type) (F : Type → Type) (σ : Type) : Type 1 where
  state : σ
  threads : List (Program ε F Unit)

/-- The states of a run, newest first. -/
def states (trace : List (Taken F ι σ)) (s : σ) : List σ := s :: trace.map (·.before)

@[simp] theorem states_nil (s : σ) : states ([] : List (Taken F ι σ)) s = [s] := rfl

@[simp] theorem states_cons (t : Taken F ι σ) (trace : List (Taken F ι σ)) (s : σ) :
    states (t :: trace) s = s :: states trace t.before := rfl

/-- `P` holds at every step of a run, which it sees together with all earlier steps. -/
def EachStep (P : List (Taken F ι σ) → Taken F ι σ → Prop) : List (Taken F ι σ) → Prop
  | [] => True
  | t :: trace => P trace t ∧ EachStep P trace

instance EachStep.decidable (P : List (Taken F ι σ) → Taken F ι σ → Prop) [∀ trace t, Decidable (P trace t)] :
    ∀ trace, Decidable (EachStep P trace)
  | [] => isTrue trivial
  | _ :: trace => @instDecidableAnd _ _ _ (EachStep.decidable P trace)

theorem EachStep.at {P : List (Taken F ι σ) → Taken F ι σ → Prop} {later earlier : List (Taken F ι σ)} {t : Taken F ι σ}
    (each : EachStep P (later ++ t :: earlier)) : P earlier t ∧ EachStep P earlier := by
  induction later with
  | nil => exact each
  | cons _ later ih => exact ih each.2

/-- Runs in which every thread is one of `clients`. -/
inductive Run (m : Machine ε F ι σ) (clients : Set (Program ε F Unit)) (init : σ) :
    List (Taken F ι σ) → Config ε F σ → Prop
  | start : Run m clients init [] ⟨init, []⟩
  | spawn {trace c p} (run : Run m clients init trace c) (client : p ∈ clients) :
      Run m clients init trace { c with threads := p :: c.threads }
  | step {trace c i} {β : Type} {s : F β} {next : Except ε β → Program ε F Unit} (x : ι)
      (run : Run m clients init trace c) (ready : c.threads[i]? = some (.call s next)) :
      Run m clients init (⟨s, x, c.state⟩ :: trace)
        ⟨(m.exec s x c.state).1, c.threads.set i (next (m.exec s x c.state).2)⟩
  | crash {trace c} (i : Nat) (run : Run m clients init trace c) :
      Run m clients init trace { c with threads := c.threads.eraseIdx i }

/-! ### Schedules

A schedule is a run written down: who moves next, and what the environment answers. -/

inductive Event (ε : Type) (F : Type → Type) (ι : Type) : Type 1 where
  | spawn (p : Program ε F Unit)
  | step (i : Nat) (x : ι)
  | crash (i : Nat)

/-- One event; a step of a thread that has nothing to issue is skipped. -/
def Machine.move (m : Machine ε F ι σ) :
    Event ε F ι → List (Taken F ι σ) × Config ε F σ → List (Taken F ι σ) × Config ε F σ
  | .spawn p, (trace, c) => (trace, { c with threads := p :: c.threads })
  | .step i x, (trace, c) =>
    match c.threads[i]? with
    | some (.call s next) => (⟨s, x, c.state⟩ :: trace,
        ⟨(m.exec s x c.state).1, c.threads.set i (next (m.exec s x c.state).2)⟩)
    | _ => (trace, c)
  | .crash i, (trace, c) => (trace, { c with threads := c.threads.eraseIdx i })

def Machine.play (m : Machine ε F ι σ) (init : σ) (events : List (Event ε F ι)) :
    List (Taken F ι σ) × Config ε F σ :=
  events.foldl (fun reached e => m.move e reached) ([], ⟨init, []⟩)

section

variable {m : Machine ε F ι σ} {clients : Set (Program ε F Unit)} {init : σ}
  {trace : List (Taken F ι σ)} {c : Config ε F σ}

theorem Run.move (run : Run m clients init trace c) {e : Event ε F ι}
    (client : ∀ p, e = .spawn p → p ∈ clients) :
    Run m clients init (m.move e (trace, c)).1 (m.move e (trace, c)).2 := by
  cases e with
  | spawn p => exact run.spawn (client p rfl)
  | crash i => exact run.crash i
  | step i x =>
    simp only [Machine.move]
    split
    · exact run.step x ‹_›
    · exact run

theorem Run.play {events : List (Event ε F ι)} (client : ∀ p, .spawn p ∈ events → p ∈ clients) :
    Run m clients init (m.play init events).1 (m.play init events).2 := by
  suffices extend : ∀ reached : List (Taken F ι σ) × Config ε F σ, Run m clients init reached.1 reached.2 →
      Run m clients init (events.foldl (fun r e => m.move e r) reached).1
        (events.foldl (fun r e => m.move e r) reached).2 from extend _ .start
  induction events with
  | nil => exact fun _ run => run
  | cons e events ih =>
    intro reached run
    refine ih (fun p member => client p (List.mem_cons_of_mem _ member)) _ ?_
    exact run.move fun p same => client p (same ▸ List.mem_cons_self)

theorem Run.linked (run : Run m clients init trace c) : m.Linked init trace c.state := by
  induction run with
  | start => rfl
  | spawn _ _ ih => exact ih
  | step x _ _ ih => exact ⟨rfl, ih⟩
  | crash _ _ ih => exact ih

namespace Machine.Linked

variable {s : σ}

/-- A predicate kept by every executed statement holds of every state. -/
theorem invariant {I : σ → Prop} (linked : m.Linked init trace s) (initial : I init)
    (kept : ∀ t ∈ trace, I t.before → I (m.after t)) : ∀ u ∈ states trace s, I u := by
  induction trace generalizing s with
  | nil =>
    obtain rfl : s = init := linked
    simpa using initial
  | cons t trace ih =>
    obtain ⟨rfl, linked⟩ := linked
    have earlier := ih linked fun u member => kept u (List.mem_cons_of_mem _ member)
    intro u member
    rcases List.mem_cons.mp member with rfl | older
    · exact kept t List.mem_cons_self (earlier _ List.mem_cons_self)
    · exact earlier u older

/-- A run can be cut anywhere. -/
theorem append {later earlier : List (Taken F ι σ)} (linked : m.Linked init (later ++ earlier) s) :
    ∃ mid, m.Linked init earlier mid ∧ m.Linked mid later s := by
  induction later generalizing s with
  | nil => exact ⟨s, linked, rfl⟩
  | cons t later ih =>
    obtain ⟨rfl, linked⟩ := linked
    obtain ⟨mid, first, rest⟩ := ih linked
    exact ⟨mid, first, rfl, rest⟩

theorem before_mem {t : Taken F ι σ} (member : t ∈ trace) : t.before ∈ states trace s :=
  List.mem_cons_of_mem _ (List.mem_map_of_mem member)

theorem after_mem {t : Taken F ι σ} (linked : m.Linked init trace s) (member : t ∈ trace) :
    m.after t ∈ states trace s := by
  induction trace generalizing s with
  | nil => simp at member
  | cons head trace ih =>
    obtain ⟨rfl, linked⟩ := linked
    rcases List.mem_cons.mp member with rfl | older
    · exact List.mem_cons_self
    · exact List.mem_cons_of_mem _ (ih linked older)

/-- A preorder that every statement moves along relates any two states of the run,
and it does so only if every statement moves along it. -/
theorem pairwise_iff {R : σ → σ → Prop} [IsTrans σ R] (linked : m.Linked init trace s) :
    (∀ t ∈ trace, R t.before (m.after t)) ↔
      (states trace s).Pairwise (fun later earlier => R earlier later) := by
  induction trace generalizing s with
  | nil => simp
  | cons t trace ih =>
    obtain ⟨rfl, linked⟩ := linked
    rw [states_cons, List.pairwise_cons, ← ih linked, List.forall_mem_cons]
    constructor
    · rintro ⟨moved, rest⟩
      refine ⟨fun u member => ?_, rest⟩
      rcases List.mem_cons.mp member with rfl | older
      · exact moved
      · have chained := (ih linked).mp rest
        exact IsTrans.trans _ _ _ ((List.pairwise_cons.mp chained).1 u older) moved
    · rintro ⟨moved, rest⟩
      exact ⟨moved _ List.mem_cons_self, rest⟩

/-- What every statement moves along leads from where any statement ended to where a
later one starts. -/
theorem pairwise_steps {R : σ → σ → Prop} [IsTrans σ R] (linked : m.Linked init trace s) (refl : ∀ u, R u u)
    (moves : ∀ t ∈ trace, R t.before (m.after t)) : trace.Pairwise fun later earlier => R (m.after earlier) later.before := by
  induction trace generalizing s with
  | nil => exact .nil
  | cons t trace ih =>
    obtain ⟨rfl, linked⟩ := linked
    have earlier : ∀ u ∈ trace, R u.before (m.after u) := fun u member => moves u (List.mem_cons_of_mem _ member)
    refine .cons (fun u member => ?_) (ih linked earlier)
    rcases List.mem_cons.mp (after_mem linked member) with same | older
    · exact same ▸ refl _
    · exact (List.pairwise_cons.mp (linked.pairwise_iff.mp earlier)).1 _ older

end Machine.Linked

end

end ControlPlane.Interleaving
