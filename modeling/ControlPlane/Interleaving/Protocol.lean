import ControlPlane.Interleaving.Run

/-!
# What a program knows between two statements

A statement may be safe only because an earlier statement of the same program
checked something. A `Protocol` says what each statement needs (`Requires`) and
how the shared state can move meanwhile (`Rely`); `Meets` follows a program and
carries, from each answer to the next statement, an assertion that survives every
move. If every client meets its protocol, every executed statement of every
interleaving finds what it needs.
-/

namespace ControlPlane.Interleaving

variable {ε : Type} {F G : Type → Type} {ι σ α β : Type}

structure Protocol (m : Machine ε F ι σ) where
  Inv : σ → Prop
  Rely : σ → σ → Prop
  /-- The statements a run may execute. -/
  Admissible : Taken F ι σ → Prop
  /-- What a statement needs of the state it is executed in. -/
  Requires : Taken F ι σ → Prop
  kept : ∀ t, Inv t.before → Admissible t → Requires t →
    Inv (m.after t) ∧ Rely t.before (m.after t)

namespace Protocol

variable {m : Machine ε F ι σ} (P : Protocol m)

/-- `A` survives every move of the other threads. -/
def Stable (A : σ → Prop) : Prop := ∀ s s', P.Inv s → P.Rely s s' → A s → A s'

/-- Started where `A` holds, the program only issues statements that find what they
need, and ends where `Q` holds of its result. -/
def Meets (A : σ → Prop) : Program ε F α → (α → σ → Prop) → Prop
  | .pure a, Q => ∀ s, P.Inv s → A s → Q a s
  | .call st next, Q => ∀ x s, P.Inv s → A s → P.Admissible ⟨st, x, s⟩ →
      P.Requires ⟨st, x, s⟩ ∧ ∃ A', P.Stable A' ∧ A' (m.exec st x s).1 ∧
        Meets A' (next (m.exec st x s).2) Q

/-- A statement that needs nothing. -/
def Free (st : F β) : Prop := ∀ x s, P.Requires ⟨st, x, s⟩

def Anything : α → σ → Prop := fun _ _ => True

variable {P} {A B : σ → Prop} {p : Program ε F α} {Q R : α → σ → Prop}

theorem stable_true : P.Stable fun _ => True := fun _ _ _ _ h => h

theorem Stable.and (hA : P.Stable A) (hB : P.Stable B) : P.Stable fun s => A s ∧ B s :=
  fun s s' inv moves ⟨a, b⟩ => ⟨hA s s' inv moves a, hB s s' inv moves b⟩

theorem Meets.mono (meets : P.Meets A p Q) (pre : ∀ s, P.Inv s → B s → A s)
    (post : ∀ a s, P.Inv s → Q a s → R a s) : P.Meets B p R := by
  induction p generalizing A B with
  | pure a => exact fun s inv b => post a s inv (meets s inv (pre s inv b))
  | call st next ih =>
    intro x s inv b admissible
    obtain ⟨needs, A', stable, holds, rest⟩ := meets x s inv (pre s inv b) admissible
    exact ⟨needs, A', stable, holds, ih _ rest fun _ _ h => h⟩

theorem Meets.weaken (meets : P.Meets A p Q) (pre : ∀ s, P.Inv s → B s → A s) : P.Meets B p Q :=
  meets.mono pre fun _ _ _ h => h

theorem meets_pure {a : α} (h : ∀ s, P.Inv s → A s → Q a s) : P.Meets A (.pure a) Q := h

theorem Meets.bind {k : α → Program ε F β} {R : β → σ → Prop} (first : P.Meets A p Q)
    (rest : ∀ a, P.Meets (Q a) (k a) R) : P.Meets A (p.bind k) R := by
  induction p generalizing A with
  | pure a => exact (rest a).weaken first
  | call st next ih =>
    intro x s inv holds admissible
    obtain ⟨needs, A', stable, holds', meets⟩ := first x s inv holds admissible
    exact ⟨needs, A', stable, holds', ih _ meets⟩

/-- A program of statements that need nothing keeps whatever is stable. -/
theorem meets_of_free (stable : P.Stable A) (free : p.All P.Free) : P.Meets A p fun _ => A := by
  induction p with
  | pure a => exact fun _ _ h => h
  | call st next ih =>
    intro x s inv holds admissible
    have needs := free.1 x s
    have moved := (P.kept ⟨st, x, s⟩ inv admissible needs).2
    exact ⟨needs, A, stable, stable s _ inv moved holds, ih _ (free.2 _)⟩

theorem meets_free (free : p.All P.Free) : P.Meets (fun _ => True) p Anything :=
  meets_of_free stable_true free

/-! ### Programs that may fail -/

/-- `Meets` for a program that may fail: `Q` is promised only of a normal return. -/
def MeetsE (P : Protocol m) (A : σ → Prop) (p : Procedure ε F α) (Q : α → σ → Prop) : Prop :=
  P.Meets A p.run fun r s => ∀ a, r = .ok a → Q a s

theorem meetsE_pure {a : α} (h : ∀ s, P.Inv s → A s → Q a s) :
    P.MeetsE A (Pure.pure a : Procedure ε F α) Q := by
  intro s inv holds b same
  cases same
  exact h s inv holds

theorem meetsE_throw {e : ε} : P.MeetsE A (throw e : Procedure ε F α) Q := by
  intro s _ _ b same
  cases same

theorem MeetsE.bind {p : Procedure ε F α} {k : α → Procedure ε F β} {R : β → σ → Prop}
    (first : P.MeetsE A p Q) (rest : ∀ a, P.MeetsE (Q a) (k a) R) : P.MeetsE A (p >>= k) R := by
  refine Meets.bind (p := p.run) first fun r => ?_
  cases r with
  | ok a => exact (rest a).weaken fun s inv h => h a rfl
  | error e =>
    intro s _ _ b same
    cases same

theorem MeetsE.mono {p : Procedure ε F α} (meets : P.MeetsE A p Q)
    (pre : ∀ s, P.Inv s → B s → A s) (post : ∀ a s, P.Inv s → Q a s → R a s) : P.MeetsE B p R :=
  Meets.mono meets pre fun _ s inv h a same => post a s inv (h a same)

theorem meetsE_of_free {p : Procedure ε F α} (stable : P.Stable A)
    (free : Procedure.All P.Free p) :
    P.MeetsE A p fun _ => A :=
  Meets.mono (meets_of_free stable free) (fun _ _ h => h) fun _ _ _ h _ _ => h

/-- One statement, with a stable postcondition on a normal answer. -/
theorem meetsE_ask {st : F α} (stable : ∀ b, P.Stable (Q b))
    (runs : ∀ x s, P.Inv s → A s → P.Admissible ⟨st, x, s⟩ →
      P.Requires ⟨st, x, s⟩ ∧ ∀ b, (m.exec st x s).2 = .ok b → Q b (m.exec st x s).1) :
    P.MeetsE A (Procedure.ask st) Q := by
  intro x s inv holds admissible
  obtain ⟨needs, post⟩ := runs x s inv holds admissible
  have kept : P.Stable fun u => ∀ b, (m.exec st x s).2 = .ok b → Q b u :=
    fun u u' inv moved h b same => stable b u u' inv moved (h b same)
  exact ⟨needs, _, kept, post, fun _ _ h => h⟩

theorem MeetsE.tryCatch {p : Procedure ε F α} {h : ε → Procedure ε F α} (first : P.MeetsE A p Q)
    (handler : ∀ e, P.MeetsE (fun _ => True) (h e) Q) : P.MeetsE A (tryCatch p h) Q := by
  refine Meets.bind (p := p.run) first fun r => ?_
  cases r with
  | ok a => exact fun s _ holds => holds
  | error e => exact Meets.weaken (handler e) fun _ _ _ => trivial

/-- What is promised of a normal return is promised of an attempt that succeeds. -/
theorem MeetsE.attempt {p : Procedure ε F α} (meets : P.MeetsE A p Q) :
    P.MeetsE A p.attempt fun r s => ∀ a, r = .ok a → Q a s :=
  Meets.bind (p := p.run) meets fun _ => by
    intro s _ holds b same
    cases same
    exact holds

theorem Meets.interp {impl : {β : Type} → G β → Program ε F (Except ε β)}
    (each : ∀ {β : Type} (g : G β), P.Meets (fun _ => True) (impl g) Anything) (p : Program ε G α) :
    P.Meets (fun _ => True) (p.interp impl) Anything := by
  induction p with
  | pure a => exact fun _ _ _ => trivial
  | call g next ih => exact (each g).bind fun b => (ih b).weaken fun _ _ _ => trivial

/-! ### Every interleaving meets the protocol -/

variable {clients : Set (Program ε F Unit)} {init : σ} {trace : List (Taken F ι σ)} {c : Config ε F σ}

theorem run_keeps (initial : P.Inv init)
    (meets : ∀ p ∈ clients, P.Meets (fun _ => True) p Anything)
    (run : Run m clients init trace c) (admissible : ∀ t ∈ trace, P.Admissible t) :
    P.Inv c.state ∧ (∀ t ∈ trace, P.Inv t.before ∧ P.Requires t) ∧
      ∀ p ∈ c.threads, ∃ A, P.Stable A ∧ A c.state ∧ P.Meets A p Anything := by
  induction run with
  | start => exact ⟨initial, by simp, by simp⟩
  | @spawn trace c p run client ih =>
    obtain ⟨inv, taken, threads⟩ := ih admissible
    refine ⟨inv, taken, fun q member => ?_⟩
    rcases List.mem_cons.mp member with rfl | old
    · exact ⟨_, stable_true, trivial, meets _ client⟩
    · exact threads q old
  | @crash trace c i run ih =>
    obtain ⟨inv, taken, threads⟩ := ih admissible
    exact ⟨inv, taken, fun q member => threads q (List.mem_of_mem_eraseIdx member)⟩
  | @step trace c i _ s next x run ready ih =>
    obtain ⟨now, earlier⟩ := List.forall_mem_cons.mp admissible
    obtain ⟨inv, taken, threads⟩ := ih earlier
    obtain ⟨A, _, holds, meets⟩ := threads _ (List.mem_of_getElem? ready)
    obtain ⟨needs, A', stable', holds', meets'⟩ := meets x c.state inv holds now
    obtain ⟨inv', moved⟩ := P.kept ⟨s, x, c.state⟩ inv now needs
    refine ⟨inv', List.forall_mem_cons.mpr ⟨⟨inv, needs⟩, taken⟩, fun q member => ?_⟩
    rcases List.mem_or_eq_of_mem_set member with old | rfl
    · obtain ⟨B, stableB, holdsB, meetsB⟩ := threads q old
      exact ⟨B, stableB, stableB _ _ inv moved holdsB, meetsB⟩
    · exact ⟨A', stable', holds', meets'⟩

end Protocol

end ControlPlane.Interleaving
