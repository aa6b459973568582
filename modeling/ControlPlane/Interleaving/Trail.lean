import ControlPlane.Interleaving.Crash

/-!
# The statements of one run

A program that is left alone, with what it executed on the way, oldest first. The rules
take a trail apart as the procedure was put together.
-/

namespace ControlPlane.Interleaving

variable {ε : Type} {F : Type → Type} {ι σ α β : Type}

/-- From `s`, with nobody else moving, the program executes `steps` and ends in `s'` with answer `b`. -/
def Machine.Trail (m : Machine ε F ι σ) : Program ε F α → σ → List (Taken F ι σ) → σ → α → Prop
  | .pure a, s, steps, s', b => steps = [] ∧ s' = s ∧ b = a
  | .call st k, s, steps, s', b => ∃ x rest, steps = ⟨st, x, s⟩ :: rest ∧
      m.Trail (k (m.exec st x s).2) (m.exec st x s).1 rest s' b

/-- The statement raised. -/
def Machine.Raised (m : Machine ε F ι σ) (t : Taken F ι σ) : Prop := ∃ e, (m.exec t.stmt t.input t.before).2 = .error e

namespace Machine

variable {m : Machine ε F ι σ} {s s' : σ} {a : α} {steps : List (Taken F ι σ)} {e : ε}

theorem Trail.ends {p : Program ε F α} (ran : m.Trail p s steps s' a) : m.Ends p s s' a := by
  induction p generalizing s steps with
  | pure b => exact ran.2
  | call st k ih =>
    obtain ⟨x, rest, _, ran⟩ := ran
    exact ⟨x, ih _ ran⟩

theorem Ends.trail {p : Program ε F α} (ends : m.Ends p s s' a) : ∃ steps, m.Trail p s steps s' a := by
  induction p generalizing s with
  | pure b => exact ⟨[], rfl, ends⟩
  | call st k ih =>
    obtain ⟨x, ends⟩ := ends
    obtain ⟨rest, ran⟩ := ih _ ends
    exact ⟨_, x, rest, rfl, ran⟩

theorem trail_program_bind {p : Program ε F α} {k : α → Program ε F β} {b : β} : m.Trail (p.bind k) s steps s' b ↔
    ∃ first s₁ a rest, steps = first ++ rest ∧ m.Trail p s first s₁ a ∧ m.Trail (k a) s₁ rest s' b := by
  induction p generalizing s steps with
  | pure a =>
    constructor
    · exact fun ran => ⟨[], s, a, steps, rfl, ⟨rfl, rfl, rfl⟩, ran⟩
    · rintro ⟨_, _, _, _, rfl, ⟨rfl, rfl, rfl⟩, ran⟩
      exact ran
  | call st k ih =>
    simp only [Program.bind, Trail, ih]
    constructor
    · rintro ⟨x, _, rfl, first, s₁, a, rest, rfl, one, other⟩
      exact ⟨_, s₁, a, rest, rfl, ⟨x, first, rfl, one⟩, other⟩
    · rintro ⟨_, s₁, a, rest, rfl, ⟨x, first, rfl, one⟩, other⟩
      exact ⟨x, _, rfl, first, s₁, a, rest, rfl, one, other⟩

/-- What every statement that the program can issue satisfies, its steps do. -/
theorem Trail.all {P : {β : Type} → F β → Prop} {p : Program ε F α} (ran : m.Trail p s steps s' a) (all : p.All P) :
    ∀ t ∈ steps, P t.stmt := by
  induction p generalizing s steps with
  | pure b =>
    obtain ⟨rfl, _⟩ := ran
    exact fun t member => absurd member List.not_mem_nil
  | call st k ih =>
    obtain ⟨x, rest, rfl, ran⟩ := ran
    exact List.forall_mem_cons.mpr ⟨all.1, ih _ ran (all.2 _)⟩

/-- What every step keeps stays. -/
theorem Trail.keeps {I : σ → Prop} {p : Program ε F α} (ran : m.Trail p s steps s' a)
    (each : ∀ t ∈ steps, I t.before → I (m.after t)) (before : I s) : I s' := by
  induction p generalizing s steps with
  | pure b =>
    obtain ⟨_, rfl, _⟩ := ran
    exact before
  | call st k ih =>
    obtain ⟨x, rest, rfl, ran⟩ := ran
    obtain ⟨here, later⟩ := List.forall_mem_cons.mp each
    exact ih _ ran later (here before)

/-! ### Procedures -/

/-- A procedure in two parts ends in the first or in the second. -/
theorem trail_bind {p : Procedure ε F α} {k : α → Procedure ε F β} {r : Except ε β} :
    m.Trail (p >>= k).run s steps s' r ↔ (∃ e, r = .error e ∧ m.Trail p.run s steps s' (.error e)) ∨
      ∃ first s₁ a rest, steps = first ++ rest ∧ m.Trail p.run s first s₁ (.ok a) ∧ m.Trail (k a).run s₁ rest s' r := by
  refine trail_program_bind.trans ⟨?_, ?_⟩
  · rintro ⟨first, s₁, a, rest, rfl, one, other⟩
    cases a with
    | ok a => exact .inr ⟨first, s₁, a, rest, rfl, one, other⟩
    | error e =>
      obtain ⟨rfl, rfl, rfl⟩ := other
      rw [List.append_nil]
      exact .inl ⟨e, rfl, one⟩
  · rintro (⟨e, rfl, ran⟩ | ⟨first, s₁, a, rest, rfl, one, other⟩)
    · exact ⟨steps, s', .error e, [], (List.append_nil _).symm, ran, rfl, rfl, rfl⟩
    · exact ⟨first, s₁, .ok a, rest, rfl, one, other⟩

theorem trail_ask {st : F α} {r : Except ε α} : m.Trail (Procedure.ask st).run s steps s' r ↔
    ∃ x, steps = [⟨st, x, s⟩] ∧ m.exec st x s = (s', r) := by
  constructor
  · rintro ⟨x, rest, rfl, rfl, state, answer⟩
    exact ⟨x, rfl, Prod.ext state.symm answer.symm⟩
  · rintro ⟨x, rfl, ran⟩
    exact ⟨x, [], rfl, rfl, (congrArg Prod.fst ran).symm, (congrArg Prod.snd ran).symm⟩

theorem trail_lift {x r : Except ε α} :
    m.Trail (Procedure.lift x : Procedure ε F α).run s steps s' r ↔ steps = [] ∧ s' = s ∧ r = x := by
  cases x <;> exact Iff.rfl

/-- A check takes no step. -/
theorem trail_lift_bind {x : Except ε α} {k : α → Procedure ε F β} {r : Except ε β} :
    m.Trail (Procedure.lift x >>= k).run s steps s' r ↔ (∃ e, x = .error e ∧ steps = [] ∧ s' = s ∧ r = .error e) ∨
      ∃ a, x = .ok a ∧ m.Trail (k a).run s steps s' r := by
  rw [trail_bind]
  constructor
  · rintro (⟨e, rfl, raised⟩ | ⟨first, s₁, a, rest, rfl, checked, ran⟩)
    · obtain ⟨rfl, rfl, same⟩ := trail_lift.mp raised
      exact .inl ⟨e, same.symm, rfl, rfl, rfl⟩
    · obtain ⟨rfl, rfl, same⟩ := trail_lift.mp checked
      exact .inr ⟨a, same.symm, ran⟩
  · rintro (⟨e, rfl, rfl, rfl, rfl⟩ | ⟨a, rfl, ran⟩)
    · exact .inl ⟨e, rfl, rfl, rfl, rfl⟩
    · exact .inr ⟨[], s, a, steps, rfl, ⟨rfl, rfl, rfl⟩, ran⟩

theorem trail_pure {r : Except ε α} :
    m.Trail (pure a : Procedure ε F α).run s steps s' r ↔ steps = [] ∧ s' = s ∧ r = .ok a := Iff.rfl

theorem trail_throw {r : Except ε α} :
    m.Trail (throw e : Procedure ε F α).run s steps s' r ↔ steps = [] ∧ s' = s ∧ r = .error e := Iff.rfl

/-- What comes of a procedure whose failure is caught. -/
theorem trail_attempt {p : Procedure ε F α} {r : Except ε (Except ε α)} :
    m.Trail p.attempt.run s steps s' r ↔ ∃ r', r = .ok r' ∧ m.Trail p.run s steps s' r' := by
  refine trail_program_bind.trans ⟨?_, ?_⟩
  · rintro ⟨first, s₁, r', rest, rfl, ran, rfl, rfl, rfl⟩
    rw [List.append_nil]
    exact ⟨r', rfl, ran⟩
  · rintro ⟨r', rfl, ran⟩
    exact ⟨steps, s', r', [], (List.append_nil _).symm, ran, rfl, rfl, rfl⟩

end Machine

end ControlPlane.Interleaving
