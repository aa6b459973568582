/-!
# Programs over atomic statements

A `Program ε F α` issues statements of the family `F` one at a time and chooses
what comes next from their answers; a statement answers or raises an `ε`.
Nothing here says what a statement does: `Interleaving.Run` executes many
programs against one shared state.
-/

namespace ControlPlane.Interleaving

/-- A program: either finished, or one statement and what follows each answer. -/
inductive Program (ε : Type) (F : Type → Type) (α : Type) : Type 1 where
  | pure (a : α)
  | call {β : Type} (s : F β) (next : Except ε β → Program ε F α)

namespace Program

variable {ε : Type} {F G : Type → Type} {α β γ : Type}

def bind : Program ε F α → (α → Program ε F β) → Program ε F β
  | .pure a, f => f a
  | .call s next, f => .call s fun b => (next b).bind f

instance : Monad (Program ε F) where
  pure := .pure
  bind := bind

/-- The program that issues one statement and returns its answer. -/
def issue (s : F β) : Program ε F (Except ε β) := .call s .pure

/-- Replace every statement of `G` by a program over `F`. -/
def interp (impl : {β : Type} → G β → Program ε F (Except ε β)) : Program ε G α → Program ε F α
  | .pure a => .pure a
  | .call g next => (impl g).bind fun b => (next b).interp impl

/-- Every statement the program can ever issue satisfies `P`. -/
def All (P : {β : Type} → F β → Prop) : Program ε F α → Prop
  | .pure _ => True
  | .call s next => P s ∧ ∀ b, (next b).All P

section All

variable {P Q : {β : Type} → F β → Prop}

theorem all_issue {s : F β} (h : P s) : (issue s : Program ε F (Except ε β)).All P := ⟨h, fun _ => trivial⟩

theorem All.bind {p : Program ε F α} {k : α → Program ε F β} (hp : p.All P) (hk : ∀ a, (k a).All P) :
    (p.bind k).All P := by
  induction p with
  | pure a => exact hk a
  | call s next ih => exact ⟨hp.1, fun b => ih b (hp.2 b)⟩

theorem all_of_forall (h : ∀ {β : Type} (s : F β), P s) (p : Program ε F α) : p.All P := by
  induction p with
  | pure a => trivial
  | call s next ih => exact ⟨h s, ih⟩

theorem All.mono {p : Program ε F α} (h : ∀ {β : Type} (s : F β), P s → Q s) (hp : p.All P) : p.All Q := by
  induction p with
  | pure a => trivial
  | call s next ih => exact ⟨h s hp.1, fun b => ih b (hp.2 b)⟩

theorem All.interp {impl : {β : Type} → G β → Program ε F (Except ε β)}
    (h : ∀ {β : Type} (g : G β), (impl g).All P) (p : Program ε G α) : (p.interp impl).All P := by
  induction p with
  | pure a => trivial
  | call g next ih => exact (h g).bind ih

/-- The statements of the program, each replaced by a program. -/
theorem All.interp_of {R : {β : Type} → G β → Prop} {impl : {β : Type} → G β → Program ε F (Except ε β)}
    {p : Program ε G α} (all : p.All R) (each : ∀ {β : Type} (g : G β), R g → (impl g).All P) :
    (p.interp impl).All P := by
  induction p with
  | pure a => trivial
  | call g next ih => exact (each g all.1).bind fun b => ih b (all.2 b)

end All

end Program

/-! ### Programs that raise

`Procedure ε F` is the monad of the operations: `throw` leaves the operation, and
a statement that raises does too unless it is caught. -/

abbrev Procedure (ε : Type) (F : Type → Type) (α : Type) : Type 1 := ExceptT ε (Program ε F) α

namespace Procedure

open Program

variable {ε : Type} {F : Type → Type} {α β : Type}

def ask (s : F β) : Procedure ε F β := ExceptT.mk (issue s)

/-- A check that issues no statement. -/
def lift : Except ε α → Procedure ε F α
  | .ok a => pure a
  | .error e => throw e

/-- `try`, with the exception as an answer. -/
def attempt (p : Procedure ε F α) : Procedure ε F (Except ε α) := ExceptT.mk (p.run.bind fun r => .pure (.ok r))

section All

variable {P : {β : Type} → F β → Prop}

/-- Every statement the procedure can ever issue satisfies `P`. -/
def All (P : {β : Type} → F β → Prop) (p : Procedure ε F α) : Prop := p.run.All P

theorem all_pure (a : α) : All P (Pure.pure a : Procedure ε F α) := trivial

theorem all_throw (e : ε) : All P (throw e : Procedure ε F α) := trivial

theorem all_lift (x : Except ε α) : All P (lift x : Procedure ε F α) := by
  cases x with
  | ok a => exact all_pure a
  | error e => exact all_throw e

theorem all_ask {s : F β} (h : P s) : All P (ask s : Procedure ε F β) := ⟨h, fun _ => trivial⟩

theorem All.bind {p : Procedure ε F α} {k : α → Procedure ε F β} (hp : All P p) (hk : ∀ a, All P (k a)) :
    All P (p >>= k) := by
  refine Program.All.bind (p := p.run) hp fun r => ?_
  cases r with
  | ok a => exact hk a
  | error e => trivial

theorem All.tryCatch {p : Procedure ε F α} {h : ε → Procedure ε F α} (hp : All P p)
    (hh : ∀ e, All P (h e)) : All P (tryCatch p h) := by
  refine Program.All.bind (p := p.run) hp fun r => ?_
  cases r with
  | ok a => trivial
  | error e => exact hh e

end All

end Procedure

end ControlPlane.Interleaving
