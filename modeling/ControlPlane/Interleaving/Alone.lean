import ControlPlane.Interleaving.Run

/-!
# A program left alone

What a program can do from a state when nobody else moves: the answers of the
environment are the only choice. `Returns` is the same for a procedure that ends
without raising, and its rules take a procedure apart as it was put together.
-/

namespace ControlPlane.Interleaving

variable {ε : Type} {F G : Type → Type} {ι σ α β : Type}

/-- From `s`, with nobody else moving, the program can end in `s'` with answer `a`. -/
def Machine.Ends (m : Machine ε F ι σ) : Program ε F α → σ → σ → α → Prop
  | .pure a, s, s', b => s' = s ∧ b = a
  | .call st next, s, s', b => ∃ x, m.Ends (next (m.exec st x s).2) (m.exec st x s).1 s' b

namespace Program

theorem bind_assoc {γ : Type} {p : Program ε F α} {f : α → Program ε F β} {g : β → Program ε F γ} :
    (p.bind f).bind g = p.bind fun a => (f a).bind g := by
  induction p with
  | pure a => rfl
  | call s next ih => exact congrArg (Program.call s) (funext ih)

theorem bind_pure {p : Program ε F α} : p.bind .pure = p := by
  induction p with
  | pure a => rfl
  | call s next ih => exact congrArg (Program.call s) (funext ih)

theorem interp_bind {impl : {β : Type} → G β → Program ε F (Except ε β)} {p : Program ε G α} {f : α → Program ε G β} :
    (p.bind f).interp impl = (p.interp impl).bind fun a => (f a).interp impl := by
  induction p with
  | pure a => rfl
  | call g next ih =>
    simp only [bind, interp, bind_assoc]
    exact congrArg _ (funext ih)

end Program

variable {m : Machine ε F ι σ} {s s' : σ} {a : α} {b : β}

theorem Machine.ends_bind {p : Program ε F α} {k : α → Program ε F β} :
    m.Ends (p.bind k) s s' b ↔ ∃ s₁ a, m.Ends p s s₁ a ∧ m.Ends (k a) s₁ s' b := by
  induction p generalizing s with
  | pure a =>
    constructor
    · exact fun ends => ⟨s, a, ⟨rfl, rfl⟩, ends⟩
    · rintro ⟨_, _, ⟨rfl, rfl⟩, ends⟩
      exact ends
  | call st next ih =>
    simp only [Program.bind, Machine.Ends, ih]
    constructor
    · rintro ⟨x, s₁, a, first, rest⟩
      exact ⟨s₁, a, ⟨x, first⟩, rest⟩
    · rintro ⟨s₁, a, ⟨x, first⟩, rest⟩
      exact ⟨x, s₁, a, first, rest⟩

/-- What every statement of the program keeps, the program keeps. -/
theorem Machine.Ends.keeps {I : σ → Prop} {p : Program ε F α} (ends : m.Ends p s s' a)
    (all : p.All fun st => ∀ x u, I u → I (m.exec st x u).1) (before : I s) : I s' := by
  induction p generalizing s with
  | pure b =>
    obtain ⟨rfl, _⟩ := ends
    exact before
  | call st next ih =>
    obtain ⟨x, ends⟩ := ends
    exact ih _ ends (all.2 _) (all.1 x s before)

/-- The run itself: each statement takes the next answer of the environment, and
the default one when they run out. -/
def Machine.alone [Inhabited ι] (m : Machine ε F ι σ) : Program ε F α → List ι → σ → σ × α
  | .pure a, _, s => (s, a)
  | .call st next, xs, s =>
    let (s, b) := m.exec st (xs.headD default) s
    m.alone (next b) xs.tail s

theorem Machine.ends_alone [Inhabited ι] {p : Program ε F α} (xs : List ι) :
    m.Ends p s (m.alone p xs s).1 (m.alone p xs s).2 := by
  induction p generalizing xs s with
  | pure a => exact ⟨rfl, rfl⟩
  | call st next ih => exact ⟨_, ih _ _⟩

/-! ### Procedures that return -/

/-- The procedure can return `a`. -/
def Machine.Returns (m : Machine ε F ι σ) (p : Procedure ε F α) (s s' : σ) (a : α) : Prop := m.Ends p.run s s' (.ok a)

/-- The procedure can raise `e`. -/
def Machine.Raises (m : Machine ε F ι σ) (p : Procedure ε F α) (s s' : σ) (e : ε) : Prop := m.Ends p.run s s' (.error e)

/-- A procedure over operations, run by the procedures behind them. -/
def Procedure.interp (impl : {β : Type} → G β → Procedure ε F β) (p : Procedure ε G α) : Procedure ε F α :=
  ExceptT.mk (p.run.interp fun g => (impl g).run)

namespace Procedure

variable {impl : {β : Type} → G β → Procedure ε F β}

@[simp] theorem interp_pure : interp impl (pure a : Procedure ε G α) = pure a := rfl

@[simp] theorem interp_throw {e : ε} : interp impl (throw e : Procedure ε G α) = throw e := rfl

@[simp] theorem interp_ask {g : G β} : interp impl (ask g) = impl g := Program.bind_pure

@[simp] theorem interp_bind {p : Procedure ε G α} {k : α → Procedure ε G β} :
    interp impl (p >>= k) = interp impl p >>= fun a => interp impl (k a) := by
  refine Program.interp_bind.trans (congrArg _ (funext fun r => ?_))
  cases r <;> rfl

@[simp] theorem interp_attempt {p : Procedure ε G α} : interp impl (attempt p) = attempt (interp impl p) :=
  Program.interp_bind

end Procedure

namespace Machine

@[simp] theorem returns_pure {c : α} : m.Returns (pure a : Procedure ε F α) s s' c ↔ s' = s ∧ c = a := by
  constructor
  · rintro ⟨rfl, same⟩
    exact ⟨rfl, Except.ok.inj same⟩
  · rintro ⟨rfl, rfl⟩
    exact ⟨rfl, rfl⟩

@[simp] theorem returns_throw {e : ε} : ¬ m.Returns (throw e : Procedure ε F α) s s' a :=
  fun ⟨_, same⟩ => nomatch same

theorem ends_ask {st : F α} {r : Except ε α} :
    m.Ends (Procedure.ask st).run s s' r ↔ ∃ x, m.exec st x s = (s', r) := by
  refine exists_congr fun x => ⟨?_, ?_⟩
  · rintro ⟨state, answer⟩
    exact Prod.ext state.symm answer.symm
  · intro same
    exact ⟨(congrArg Prod.fst same).symm, (congrArg Prod.snd same).symm⟩

theorem returns_ask {st : F α} : m.Returns (Procedure.ask st) s s' a ↔ ∃ x, m.exec st x s = (s', .ok a) := ends_ask

/-- What comes of a procedure whose failure is caught. -/
@[simp] theorem returns_attempt {p : Procedure ε F α} {r : Except ε α} :
    m.Returns p.attempt s s' r ↔ m.Ends p.run s s' r := by
  refine ends_bind.trans ⟨?_, ?_⟩
  · rintro ⟨_, _, ends, rfl, same⟩
    cases same
    exact ends
  · exact fun ends => ⟨s', r, ends, rfl, rfl⟩

@[simp] theorem returns_bind {p : Procedure ε F α} {k : α → Procedure ε F β} :
    m.Returns (p >>= k) s s' b ↔ ∃ s₁ a, m.Returns p s s₁ a ∧ m.Returns (k a) s₁ s' b := by
  refine ends_bind.trans ⟨?_, ?_⟩
  · rintro ⟨s₁, r, first, rest⟩
    cases r with
    | ok a => exact ⟨s₁, a, first, rest⟩
    | error e => exact nomatch rest.2
  · rintro ⟨s₁, a, first, rest⟩
    exact ⟨s₁, .ok a, first, rest⟩

@[simp] theorem returns_lift {x : Except ε α} :
    m.Returns (Procedure.lift x : Procedure ε F α) s s' a ↔ s' = s ∧ x = .ok a := by
  cases x with
  | ok b => exact returns_pure.trans (and_congr_right' ⟨fun same => same ▸ rfl, fun same => (Except.ok.inj same).symm⟩)
  | error e => exact iff_of_false returns_throw nofun

/-! ### Procedures that raise -/

variable {e : ε}

@[simp] theorem raises_pure {a : α} : ¬ m.Raises (pure a : Procedure ε F α) s s' e :=
  fun ⟨_, same⟩ => nomatch same

@[simp] theorem raises_throw {e' : ε} : m.Raises (throw e : Procedure ε F α) s s' e' ↔ s' = s ∧ e' = e := by
  constructor
  · rintro ⟨rfl, same⟩
    exact ⟨rfl, Except.error.inj same⟩
  · rintro ⟨rfl, rfl⟩
    exact ⟨rfl, rfl⟩

theorem raises_ask {st : F α} : m.Raises (Procedure.ask st) s s' e ↔ ∃ x, m.exec st x s = (s', .error e) := ends_ask

@[simp] theorem raises_lift {x : Except ε α} :
    m.Raises (Procedure.lift x : Procedure ε F α) s s' e ↔ s' = s ∧ x = .error e := by
  cases x with
  | ok b => exact iff_of_false raises_pure nofun
  | error e' =>
    exact raises_throw.trans (and_congr_right' ⟨fun same => same ▸ rfl, fun same => (Except.error.inj same).symm⟩)

@[simp] theorem raises_bind {p : Procedure ε F α} {k : α → Procedure ε F β} :
    m.Raises (p >>= k) s s' e ↔ m.Raises p s s' e ∨ ∃ s₁ a, m.Returns p s s₁ a ∧ m.Raises (k a) s₁ s' e := by
  refine ends_bind.trans ⟨?_, ?_⟩
  · rintro ⟨s₁, r, first, rest⟩
    cases r with
    | ok a => exact .inr ⟨s₁, a, first, rest⟩
    | error e' =>
      obtain ⟨rfl, same⟩ := rest
      cases same
      exact .inl first
  · rintro (first | ⟨s₁, a, first, rest⟩)
    · exact ⟨s', .error e, first, rfl, rfl⟩
    · exact ⟨s₁, .ok a, first, rest⟩

/-- A procedure in two parts ends in the first or in the second. -/
theorem ends_then {p : Procedure ε F α} {k : α → Procedure ε F β} {r : Except ε β} :
    m.Ends (p >>= k).run s s' r ↔ (∃ e, r = .error e ∧ m.Raises p s s' e) ∨
      ∃ s₁ a, m.Returns p s s₁ a ∧ m.Ends (k a).run s₁ s' r := by
  cases r with
  | ok b =>
    refine returns_bind.trans ⟨.inr, ?_⟩
    rintro (⟨_, impossible, _⟩ | later)
    · cases impossible
    · exact later
  | error e =>
    refine raises_bind.trans (or_congr_left ⟨fun raised => ⟨e, rfl, raised⟩, ?_⟩)
    rintro ⟨_, same, raised⟩
    cases same
    exact raised

/-! ### Procedures that leave the state alone -/

/-- Whatever the procedure does, it changes nothing. -/
def Quiet (m : Machine ε F ι σ) (p : Procedure ε F α) : Prop := ∀ s s' r, m.Ends p.run s s' r → s' = s

/-- If the procedure raises, it has changed nothing. -/
def RaisesCleanly (m : Machine ε F ι σ) (p : Procedure ε F α) : Prop := ∀ s s' e, m.Raises p s s' e → s' = s

theorem quiet_pure {a : α} : m.Quiet (pure a : Procedure ε F α) := fun _ _ _ ends => ends.1

theorem quiet_throw {e : ε} : m.Quiet (throw e : Procedure ε F α) := fun _ _ _ ends => ends.1

theorem quiet_lift {x : Except ε α} : m.Quiet (Procedure.lift x : Procedure ε F α) := by
  cases x with
  | ok a => exact quiet_pure
  | error e => exact quiet_throw

theorem quiet_ask {st : F α} (reads : ∀ x s, (m.exec st x s).1 = s) : m.Quiet (Procedure.ask st) := by
  intro s s' r ends
  obtain ⟨x, ran⟩ := ends_ask.mp ends
  exact (congrArg Prod.fst ran).symm.trans (reads x s)

theorem Quiet.bind {p : Procedure ε F α} {k : α → Procedure ε F β} (first : m.Quiet p) (rest : ∀ a, m.Quiet (k a)) :
    m.Quiet (p >>= k) := by
  intro s s' r ends
  obtain ⟨s₁, a, ends, later⟩ := ends_bind.mp ends
  obtain rfl := first s s₁ a ends
  cases a with
  | ok a => exact rest a _ _ _ later
  | error e => exact later.1

theorem Quiet.raisesCleanly {p : Procedure ε F α} (quiet : m.Quiet p) : m.RaisesCleanly p :=
  fun s s' e raises => quiet s s' (.error e) raises

/-- Only the last statement that writes may refuse. -/
theorem RaisesCleanly.bind {p : Procedure ε F α} {k : α → Procedure ε F β} (first : m.Quiet p)
    (rest : ∀ a, m.RaisesCleanly (k a)) : m.RaisesCleanly (p >>= k) := by
  intro s s' e raises
  rcases raises_bind.mp raises with refused | ⟨s₁, a, returned, refused⟩
  · exact first s s' _ refused
  · obtain rfl := first s s₁ _ returned
    exact rest a _ _ _ refused

theorem RaisesCleanly.then_pure {p : Procedure ε F α} {f : α → β} (clean : m.RaisesCleanly p) :
    m.RaisesCleanly (p >>= fun a => pure (f a)) := by
  intro s s' e raises
  rcases raises_bind.mp raises with refused | ⟨_, _, _, refused⟩
  · exact clean s s' e refused
  · exact absurd refused raises_pure

theorem raisesCleanly_ask {st : F α} (atomic : ∀ x s e, (m.exec st x s).2 = .error e → (m.exec st x s).1 = s) :
    m.RaisesCleanly (Procedure.ask st) := by
  intro s s' e raises
  obtain ⟨x, ran⟩ := raises_ask.mp raises
  exact (congrArg Prod.fst ran).symm.trans (atomic x s e (congrArg Prod.snd ran))

/-! ### Procedures that leave no choice -/

/-- The environment's answer matters to no statement of the procedure. -/
def Steady (m : Machine ε F ι σ) (p : Procedure ε F α) : Prop :=
  Procedure.All (fun st => ∀ x y s, m.exec st x s = m.exec st y s) p

theorem Steady.unique {p : Procedure ε F α} {s₁ s₂ : σ} {r₁ r₂ : Except ε α} (steady : m.Steady p)
    (first : m.Ends p.run s s₁ r₁) (second : m.Ends p.run s s₂ r₂) : s₁ = s₂ ∧ r₁ = r₂ := by
  suffices general : ∀ (q : Program ε F (Except ε α)) (s : σ), q.All (fun st => ∀ x y s, m.exec st x s = m.exec st y s) →
      m.Ends q s s₁ r₁ → m.Ends q s s₂ r₂ → s₁ = s₂ ∧ r₁ = r₂ from general p.run s steady first second
  intro q
  induction q with
  | pure a =>
    rintro s _ ⟨rfl, rfl⟩ ⟨rfl, rfl⟩
    exact ⟨rfl, rfl⟩
  | call st next ih =>
    rintro s ⟨here, later⟩ ⟨x, one⟩ ⟨y, other⟩
    rw [here y x] at other
    exact ih _ _ (later _) one other

end Machine

end ControlPlane.Interleaving
