import ControlPlane.Interleaving.Alone

/-!
# What a program surely does

A program left alone, whatever the environment answers: `Surely` holds of the postconditions
that every run ends in. Which answers are possible may depend on the state. The rules take a
procedure apart as it was put together.
-/

namespace ControlPlane.Interleaving

variable {ε : Type} {F G : Type → Type} {ι σ α β : Type}

/-- From `s`, with nobody else moving and every answer within `A`, the program ends where `Q` holds. -/
def Machine.Surely (m : Machine ε F ι σ) (A : ι → σ → Prop) : Program ε F α → σ → (σ → α → Prop) → Prop
  | .pure a, s, Q => Q s a
  | .call st next, s, Q => ∀ x, A x s → m.Surely A (next (m.exec st x s).2) (m.exec st x s).1 Q

theorem Procedure.bind_assoc {γ : Type} {p : Procedure ε F α} {f : α → Procedure ε F β} {g : β → Procedure ε F γ} :
    p >>= f >>= g = p >>= fun a => f a >>= g := by
  refine Program.bind_assoc.trans (congrArg _ (funext fun r => ?_))
  cases r <;> rfl

namespace Machine

variable {m : Machine ε F ι σ} {A : ι → σ → Prop} {s : σ} {p : Program ε F α} {Q R : σ → α → Prop}

theorem Surely.mono (surely : m.Surely A p s Q) (weaker : ∀ s a, Q s a → R s a) : m.Surely A p s R := by
  induction p generalizing s with
  | pure a => exact weaker s a surely
  | call st next ih => exact fun x possible => ih _ (surely x possible)

/-- An environment that may answer less. -/
theorem Surely.under {A' : ι → σ → Prop} (surely : m.Surely A p s Q) (fewer : ∀ x s, A' x s → A x s) : m.Surely A' p s Q := by
  induction p generalizing s with
  | pure a => exact surely
  | call st next ih => exact fun x possible => ih _ (surely x (fewer x s possible))

theorem surely_bind {k : α → Program ε F β} {Q : σ → β → Prop} :
    m.Surely A (p.bind k) s Q ↔ m.Surely A p s fun s a => m.Surely A (k a) s Q := by
  induction p generalizing s with
  | pure a => exact Iff.rfl
  | call st next ih => exact forall₂_congr fun x possible => ih _

theorem Surely.and (first : m.Surely A p s Q) (second : m.Surely A p s R) : m.Surely A p s fun s a => Q s a ∧ R s a := by
  induction p generalizing s with
  | pure a => exact ⟨first, second⟩
  | call st next ih => exact fun x possible => ih _ (first x possible) (second x possible)

/-- What surely holds of no state in particular holds, where the environment can always answer. -/
theorem Surely.holds {P : Prop} (surely : m.Surely A p s fun _ _ => P) (answers : ∀ s, ∃ x, A x s) : P := by
  induction p generalizing s with
  | pure a => exact surely
  | call st next ih =>
    obtain ⟨x, possible⟩ := answers s
    exact ih _ (surely x possible)

/-- What holds wherever the program can end. -/
theorem surely_of_ends (all : ∀ s' a, m.Ends p s s' a → Q s' a) : m.Surely A p s Q := by
  induction p generalizing s with
  | pure a => exact all s a ⟨rfl, rfl⟩
  | call st next ih => exact fun x _ => ih _ fun s' a ends => all s' a ⟨x, ends⟩

/-! ### Procedures -/

variable {c : Procedure ε F α} {e : ε} {Q : σ → Except ε α → Prop}

theorem surely_pure {a : α} : m.Surely A (pure a : Procedure ε F α).run s Q ↔ Q s (.ok a) := Iff.rfl

theorem surely_throw : m.Surely A (throw e : Procedure ε F α).run s Q ↔ Q s (.error e) := Iff.rfl

theorem surely_ask {st : F α} :
    m.Surely A (Procedure.ask st).run s Q ↔ ∀ x, A x s → Q (m.exec st x s).1 (m.exec st x s).2 := Iff.rfl

theorem surely_lift {x : Except ε α} : m.Surely A (Procedure.lift x : Procedure ε F α).run s Q ↔ Q s x := by
  cases x <;> exact Iff.rfl

theorem surely_attempt {Q : σ → Except ε (Except ε α) → Prop} :
    m.Surely A (Procedure.attempt c).run s Q ↔ m.Surely A c.run s fun s r => Q s (.ok r) := surely_bind

/-- What comes after is looked at where the first part returned, and nowhere else. -/
theorem surely_andThen {k : α → Procedure ε F β} {Q : σ → Except ε β → Prop} :
    m.Surely A (c >>= k).run s Q ↔ m.Surely A c.run s fun s r =>
      (∀ a, r = .ok a → m.Surely A (k a).run s Q) ∧ ∀ e, r = .error e → Q s (.error e) := by
  refine surely_bind.trans ⟨fun surely => surely.mono fun s r held => ?_, fun surely => surely.mono fun s r held => ?_⟩
  · constructor
    · intro a same
      subst same
      exact held
    · intro e same
      subst same
      exact held
  · cases r with
    | ok a => exact held.1 a rfl
    | error e => exact held.2 e rfl

theorem Surely.andThen {k : α → Procedure ε F β} {Q : σ → Except ε α → Prop} {R : σ → Except ε β → Prop}
    (first : m.Surely A c.run s Q) (returns : ∀ s a, Q s (.ok a) → m.Surely A (k a).run s R)
    (raises : ∀ s e, Q s (.error e) → R s (.error e)) : m.Surely A (c >>= k).run s R :=
  surely_andThen.mpr (first.mono fun s _ held =>
    ⟨fun a same => returns s a (same ▸ held), fun e same => raises s e (same ▸ held)⟩)

/-- A first part that has one outcome. -/
theorem surely_then {k : α → Procedure ε F β} {R : σ → Except ε β → Prop} {a : α}
    (first : m.Surely A c.run s fun s' r => s' = s ∧ r = .ok a) (rest : m.Surely A (k a).run s R) :
    m.Surely A (c >>= k).run s R := by
  refine first.andThen (fun s' b done => ?_) fun s' e done => ?_
  · obtain ⟨rfl, same⟩ := done
    obtain rfl := Except.ok.inj same
    exact rest
  · cases done.2

/-! ### Procedures that surely return -/

/-- Left alone, the procedure returns `a`. -/
def Will (m : Machine ε F ι σ) (A : ι → σ → Prop) (p : Procedure ε F α) (s : σ) (a : α) : Prop :=
  m.Surely A p.run s fun _ r => r = .ok a

theorem will_pure {a b : α} : m.Will A (pure b : Procedure ε F α) s a ↔ b = a :=
  ⟨fun will => Except.ok.inj will, fun same => congrArg Except.ok same⟩

theorem will_lift {x : Except ε α} {k : α → Procedure ε F β} {b : β} :
    m.Will A (Procedure.lift x >>= k) s b ↔ ∃ a, x = .ok a ∧ m.Will A (k a) s b := by
  refine surely_andThen.trans (surely_lift.trans ?_)
  cases x with
  | ok a =>
    constructor
    · exact fun will => ⟨a, rfl, will.1 a rfl⟩
    · rintro ⟨_, same, will⟩
      obtain rfl := Except.ok.inj same
      refine ⟨fun a' same => ?_, fun e impossible => by cases impossible⟩
      obtain rfl := Except.ok.inj same
      exact will
  | error e =>
    constructor
    · intro will
      cases will.2 e rfl
    · rintro ⟨_, impossible, _⟩
      cases impossible

/-- A statement with one outcome. -/
theorem will_ask {st : F α} {k : α → Procedure ε F β} {b : β} {s₁ : σ} {r : Except ε α} (answers : ∃ x, A x s)
    (one : ∀ x, A x s → m.exec st x s = (s₁, r)) :
    m.Will A (Procedure.ask st >>= k) s b ↔ ∃ a, r = .ok a ∧ m.Will A (k a) s₁ b := by
  have asked {Q : σ → Except ε α → Prop} : m.Surely A (Procedure.ask st).run s Q ↔ Q s₁ r := by
    refine surely_ask.trans ⟨fun surely => ?_, fun held x possible => ?_⟩
    · obtain ⟨x, possible⟩ := answers
      have held := surely x possible
      rw [one x possible] at held
      exact held
    · rw [one x possible]
      exact held
  refine surely_andThen.trans (asked.trans ?_)
  cases r with
  | ok a =>
    constructor
    · exact fun will => ⟨a, rfl, will.1 a rfl⟩
    · rintro ⟨_, same, will⟩
      obtain rfl := Except.ok.inj same
      refine ⟨fun a' same => ?_, fun e impossible => by cases impossible⟩
      obtain rfl := Except.ok.inj same
      exact will
  | error e =>
    constructor
    · intro will
      cases will.2 e rfl
    · rintro ⟨_, impossible, _⟩
      cases impossible

/-! ### Procedures that only look -/

/-- Whatever is answered, the state stays and the outcome is `r`. -/
def Gives (m : Machine ε F ι σ) (p : Procedure ε F α) (s : σ) (r : Except ε α) : Prop :=
  m.Surely (fun _ _ => True) p.run s fun s' r' => s' = s ∧ r' = r

theorem gives_pure {a : α} : m.Gives (pure a : Procedure ε F α) s (.ok a) := ⟨rfl, rfl⟩

theorem gives_throw : m.Gives (throw e : Procedure ε F α) s (.error e) := ⟨rfl, rfl⟩

theorem gives_lift {x : Except ε α} : m.Gives (Procedure.lift x : Procedure ε F α) s x := surely_lift.mpr ⟨rfl, rfl⟩

theorem gives_ask {st : F α} {r : Except ε α} (same : ∀ x, m.exec st x s = (s, r)) : m.Gives (Procedure.ask st) s r :=
  surely_ask.mpr fun x _ => Prod.mk.inj (same x)

theorem Gives.bind {k : α → Procedure ε F β} {a : α} {r : Except ε β} (first : m.Gives c s (.ok a)) (rest : m.Gives (k a) s r) :
    m.Gives (c >>= k) s r := surely_then first rest

theorem Gives.exists_bind {k : α → Procedure ε F β} {a : α} {P : β → Prop} (first : m.Gives c s (.ok a))
    (rest : ∃ b, m.Gives (k a) s (.ok b) ∧ P b) : ∃ b, m.Gives (c >>= k) s (.ok b) ∧ P b := by
  obtain ⟨b, rest, holds⟩ := rest
  exact ⟨b, first.bind rest, holds⟩

theorem Gives.raise {k : α → Procedure ε F β} (first : m.Gives c s (.error e)) : m.Gives (c >>= k) s (.error e) := by
  refine Surely.andThen first (fun s' a done => ?_) fun s' e' done => ?_
  · cases done.2
  · exact ⟨done.1, congrArg Except.error (Except.error.inj done.2)⟩

theorem Gives.attempt {r : Except ε α} (gives : m.Gives c s r) : m.Gives (Procedure.attempt c) s (.ok r) :=
  surely_attempt.mpr (Surely.mono gives fun _ _ done => ⟨done.1, congrArg Except.ok done.2⟩)

end Machine

end ControlPlane.Interleaving
