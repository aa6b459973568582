import ControlPlane.Interleaving.Alone

/-!
# A program cut short

Where a program can be when the process dies: in some state, about to issue some
statement, or at its end. A statement itself is never cut.
-/

namespace ControlPlane.Interleaving

variable {ε : Type} {F : Type → Type} {ι σ α β : Type}

/-- The statement a program was about to issue: none once it has ended. -/
abbrev Pending (F : Type → Type) := Option ((β : Type) × F β)

/-- From `s`, left alone, the program can be found in `s'` with `next` to come. -/
def Machine.Stops (m : Machine ε F ι σ) : Program ε F α → σ → σ → Pending F → Prop
  | .pure _, s, s', next => s' = s ∧ next = none
  | .call st k, s, s', next =>
    s' = s ∧ next = some ⟨_, st⟩ ∨ ∃ x, m.Stops (k (m.exec st x s).2) (m.exec st x s).1 s' next

/-- The run itself, cut after so many statements. -/
def Machine.cut [Inhabited ι] (m : Machine ε F ι σ) : Program ε F α → Nat → List ι → σ → σ × Pending F
  | .pure _, _, _, s => (s, none)
  | .call st _, 0, _, s => (s, some ⟨_, st⟩)
  | .call st k, n + 1, xs, s =>
    let (s, b) := m.exec st (xs.headD default) s
    m.cut (k b) n xs.tail s

namespace Machine

variable {m : Machine ε F ι σ} {s s' : σ} {a : α} {next : Pending F}

theorem stops_cut [Inhabited ι] {p : Program ε F α} (n : Nat) (xs : List ι) :
    m.Stops p s (m.cut p n xs s).1 (m.cut p n xs s).2 := by
  induction p generalizing n xs s with
  | pure a => exact ⟨rfl, rfl⟩
  | call st k ih =>
    cases n with
    | zero => exact .inl ⟨rfl, rfl⟩
    | succ n => exact .inr ⟨_, ih _ _ _⟩

theorem Ends.stops {p : Program ε F α} (ends : m.Ends p s s' a) : m.Stops p s s' none := by
  induction p generalizing s with
  | pure b => exact ⟨ends.1, rfl⟩
  | call st k ih =>
    obtain ⟨x, ends⟩ := ends
    exact .inr ⟨x, ih _ ends⟩

/-- At its end it has ended. -/
theorem Stops.ends {p : Program ε F α} (stops : m.Stops p s s' none) : ∃ a, m.Ends p s s' a := by
  induction p generalizing s with
  | pure b => exact ⟨b, stops.1, rfl⟩
  | call st k ih =>
    rcases stops with ⟨_, impossible⟩ | ⟨x, stops⟩
    · cases impossible
    · obtain ⟨a, ends⟩ := ih _ stops
      exact ⟨a, x, ends⟩

theorem stops_bind {p : Program ε F α} {k : α → Program ε F β} : m.Stops (p.bind k) s s' next ↔
    (∃ st, next = some st ∧ m.Stops p s s' (some st)) ∨ ∃ s₁ a, m.Ends p s s₁ a ∧ m.Stops (k a) s₁ s' next := by
  induction p generalizing s with
  | pure a =>
    constructor
    · exact fun stops => .inr ⟨s, a, ⟨rfl, rfl⟩, stops⟩
    · rintro (⟨_, _, _, impossible⟩ | ⟨_, _, ⟨rfl, rfl⟩, stops⟩)
      · cases impossible
      · exact stops
  | call st k ih =>
    simp only [Program.bind, Stops, Ends, ih]
    constructor
    · rintro (⟨rfl, rfl⟩ | ⟨x, ⟨st', rfl, stops⟩ | ⟨s₁, a, first, rest⟩⟩)
      · exact .inl ⟨_, rfl, .inl ⟨rfl, rfl⟩⟩
      · exact .inl ⟨st', rfl, .inr ⟨x, stops⟩⟩
      · exact .inr ⟨s₁, a, ⟨x, first⟩, rest⟩
    · rintro (⟨st', rfl, ⟨rfl, same⟩ | ⟨x, stops⟩⟩ | ⟨s₁, a, ⟨x, first⟩, rest⟩)
      · exact .inl ⟨rfl, same⟩
      · exact .inr ⟨x, .inl ⟨st', rfl, stops⟩⟩
      · exact .inr ⟨x, .inr ⟨s₁, a, first, rest⟩⟩

/-- What every statement of the program keeps is there wherever it is cut. -/
theorem Stops.keeps {I : σ → Prop} {p : Program ε F α} (stops : m.Stops p s s' next)
    (all : p.All fun st => ∀ x u, I u → I (m.exec st x u).1) (before : I s) : I s' := by
  induction p generalizing s with
  | pure b =>
    obtain ⟨rfl, _⟩ := stops
    exact before
  | call st k ih =>
    rcases stops with ⟨rfl, _⟩ | ⟨x, stops⟩
    · exact before
    · exact ih _ stops (all.2 _) (all.1 x s before)

/-! ### Procedures -/

/-- The procedure can be cut in `s'`, with `next` to come. -/
def Cut (m : Machine ε F ι σ) (p : Procedure ε F α) (s s' : σ) (next : Pending F) : Prop := m.Stops p.run s s' next

/-- No statement of the procedure changes anything. -/
def Still (m : Machine ε F ι σ) (p : Procedure ε F α) : Prop := Procedure.All (fun st => ∀ x s, (m.exec st x s).1 = s) p

theorem Still.stops {p : Procedure ε F α} (still : m.Still p) (stops : m.Cut p s s' next) : s' = s :=
  stops.keeps (I := (· = s)) (still.mono fun _ same x _ here => (same x _).trans here) rfl

theorem Still.ends {p : Procedure ε F α} {r : Except ε α} (still : m.Still p) (ends : m.Ends p.run s s' r) : s' = s :=
  still.stops ends.stops

variable {e : ε}

theorem cut_bind {p : Procedure ε F α} {k : α → Procedure ε F β} : m.Cut (p >>= k) s s' next ↔
    (∃ st, next = some st ∧ m.Cut p s s' (some st)) ∨ (∃ e, next = none ∧ m.Raises p s s' e) ∨
      ∃ s₁ a, m.Returns p s s₁ a ∧ m.Cut (k a) s₁ s' next := by
  refine stops_bind.trans (or_congr_right ⟨?_, ?_⟩)
  · rintro ⟨s₁, r, ends, rest⟩
    cases r with
    | ok a => exact .inr ⟨s₁, a, ends, rest⟩
    | error e =>
      obtain ⟨rfl, rfl⟩ := rest
      exact .inl ⟨e, rfl, ends⟩
  · rintro (⟨e, rfl, ends⟩ | ⟨s₁, a, ends, rest⟩)
    · exact ⟨s', .error e, ends, rfl, rfl⟩
    · exact ⟨s₁, .ok a, ends, rest⟩

/-- A prefix that changes nothing: cut inside it, nothing has happened. -/
theorem Still.cut_bind {p : Procedure ε F α} {k : α → Procedure ε F β} (still : m.Still p)
    (stops : m.Cut (p >>= k) s s' next) : s' = s ∨ ∃ a, m.Returns p s s a ∧ m.Cut (k a) s s' next := by
  rcases Machine.cut_bind.mp stops with ⟨st, _, within⟩ | ⟨e, _, raised⟩ | ⟨s₁, a, returned, rest⟩
  · exact .inl (still.stops within)
  · exact .inl (still.ends raised)
  · obtain rfl := still.ends returned
    exact .inr ⟨a, returned, rest⟩

/-- A prefix that changes nothing: raised inside it, nothing has happened. -/
theorem Still.raises_bind {p : Procedure ε F α} {k : α → Procedure ε F β} (still : m.Still p)
    (raises : m.Raises (p >>= k) s s' e) : s' = s ∨ ∃ a, m.Returns p s s a ∧ m.Raises (k a) s s' e := by
  rcases Machine.raises_bind.mp raises with raised | ⟨s₁, a, returned, rest⟩
  · exact .inl (still.ends raised)
  · obtain rfl := still.ends returned
    exact .inr ⟨a, returned, rest⟩

/-- What comes after the procedure is an answer. -/
theorem cut_then_pure {b : β} {p : Procedure ε F α} : m.Cut (p >>= fun _ => pure b) s s' next ↔ m.Cut p s s' next := by
  rw [Machine.cut_bind]
  constructor
  · rintro (⟨st, rfl, within⟩ | ⟨e, rfl, raised⟩ | ⟨s₁, a, returned, rfl, rfl⟩)
    · exact within
    · exact raised.stops
    · exact returned.stops
  · intro cut
    cases next with
    | some st => exact .inl ⟨st, rfl, cut⟩
    | none =>
      obtain ⟨r, ends⟩ := Machine.Stops.ends cut
      cases r with
      | ok a => exact .inr (.inr ⟨s', a, ends, rfl, rfl⟩)
      | error e => exact .inr (.inl ⟨e, rfl, ends⟩)

theorem returns_then_pure {b c : β} {p : Procedure ε F α} :
    m.Returns (p >>= fun _ => pure b) s s' c ↔ c = b ∧ ∃ a, m.Returns p s s' a := by
  rw [returns_bind]
  constructor
  · rintro ⟨s₁, a, returned, same⟩
    obtain ⟨rfl, rfl⟩ := returns_pure.mp same
    exact ⟨rfl, a, returned⟩
  · rintro ⟨rfl, a, returned⟩
    exact ⟨s', a, returned, returns_pure.mpr ⟨rfl, rfl⟩⟩

theorem raises_then_pure {b : β} {p : Procedure ε F α} : m.Raises (p >>= fun _ => pure b) s s' e ↔ m.Raises p s s' e := by
  rw [raises_bind]
  exact ⟨fun raised => raised.elim id fun ⟨_, _, _, refused⟩ => absurd refused raises_pure, .inl⟩

@[simp] theorem cut_ask {st : F α} : m.Cut (Procedure.ask st) s s' next ↔
    s' = s ∧ next = some ⟨α, st⟩ ∨ next = none ∧ ∃ x, (m.exec st x s).1 = s' := by
  refine or_congr_right ⟨?_, ?_⟩
  · rintro ⟨x, same, ended⟩
    exact ⟨ended, x, same.symm⟩
  · rintro ⟨ended, x, same⟩
    exact ⟨x, same.symm, ended⟩

@[simp] theorem cut_pure : m.Cut (pure a : Procedure ε F α) s s' next ↔ s' = s ∧ next = none := Iff.rfl

@[simp] theorem cut_throw : m.Cut (throw e : Procedure ε F α) s s' next ↔ s' = s ∧ next = none := Iff.rfl

@[simp] theorem cut_lift {x : Except ε α} : m.Cut (Procedure.lift x : Procedure ε F α) s s' next ↔ s' = s ∧ next = none := by
  cases x <;> exact Iff.rfl

end Machine

end ControlPlane.Interleaving
