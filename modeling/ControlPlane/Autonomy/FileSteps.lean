import ControlPlane.Autonomy.AllOrNothing
import ControlPlane.Data.TreeFrame
import ControlPlane.Interleaving.Trail

/-!
# What the steps of the controller change

Every step of `apply` on its trail: the names it can change, and which temporary files
were created, put in place or removed.
-/

namespace ControlPlane.Autonomy

open Data Interleaving Procedure

abbrev FileStep := Interleaving.Taken Act Call World

/-- The file that the call creates. -/
def opened {α : Type} : Act α → Option Name
  | .inr (.open_ x) => some x
  | _ => none

/-- The file that the call puts in another place, or removes. -/
def cleared {α : Type} : Act α → Option Name
  | .inr (.link x _) | .inr (.unlink x _) | .inr (.replace x _) => some x
  | _ => none

/-- A call that leaves the tree alone. -/
def rests {α : Type} : Act α → Bool
  | .inl _ => true
  | .inr s => looks (.inr s : Act α)

/-- A call that leaves every name alone, and writes to no other file. -/
def fills {α : Type} (i : Nat) : Act α → Bool
  | .inr (.write j _) => j = i
  | s => rests s

/-- What the call needs of the tree in order to stay within the names. -/
def Permits {α : Type} (S : Name → Prop) (t : Tree Name Bytes) : FileCall α → Prop
  | .open_ x => S x
  | .write i _ => ∀ y, t.names y = some (.file i) → S y
  | .link x y => S x ∧ S y ∧ t.Own S x
  | .unlink x _ => S x ∧ t.Own S x
  | .replace x y => S x ∧ S y ∧ t.Own S y ∧ ∃ i, t.names x = some (.file i)
  | _ => True

section

variable {α : Type} (m : Machine Err Act Call World) (S : Name → Prop)

/-- The step changes these names only, and creates and clears no others. -/
structure Minds (t : FileStep) : Prop where
  within : Tree.Within S t.before.tree (m.after t).tree
  opened : ∀ y, Autonomy.opened t.stmt = some y → S y
  cleared : ∀ y, Autonomy.cleared t.stmt = some y → S y

/-- The file was created, and never put in place or removed. -/
def Left (steps : List FileStep) (y : Name) : Prop :=
  (∃ t ∈ steps, opened t.stmt = some y ∧ ¬ m.Raised t) ∧ ∀ t ∈ steps, cleared t.stmt = some y → m.Raised t

end

/-- A file appears under a free name. -/
def Appears (x : Name) (t t' : Tree Name Bytes) : Prop :=
  t.names x = none ∧ ∃ i, (∀ y, t.names y ≠ some (.file i)) ∧ t'.names = Function.update t.names x (some (.file i))

/-! ### Single steps -/

section

variable {α β : Type} {site : Site} {trusted : {α : Type} → Act α → Bool} {m : Machine Err Act Call World}
  {S S' : Name → Prop} {w w' : World} {steps steps' : List FileStep} {t : FileStep} {x y : Name} {r : Answer α} {c : Call}

theorem Minds.mono (minds : Minds m S t) (wider : ∀ y, S y → S' y) : Minds m S' t :=
  ⟨⟨fun y outside => minds.within.same y fun inside => outside (wider y inside), minds.within.links⟩,
    fun y same => wider y (minds.opened y same), fun y same => wider y (minds.cleared y same)⟩

theorem rests_tree {s : Act α} (resting : rests s) : ((site.controller trusted).exec s c w).1.tree = w.tree := by
  cases s with
  | inl s =>
    show (site.exec trusted (.inl s) c w).1.tree = w.tree
    unfold Site.exec
    split
    · rfl
    · split <;> rfl
  | inr s => rw [exec_still resting]

theorem rests_of_looks {s : Act α} (looking : looks s) : rests s := by
  cases s with
  | inl s => rfl
  | inr s => exact looking

theorem Looks.rests {p : Files α} (looking : Looks p) : Procedure.All (fun s => Autonomy.rests s) p :=
  Program.All.mono (fun _ => rests_of_looks) looking

/-- The statements of the database leave the tree alone. -/
theorem rests_store {p : Store α} : Procedure.All (fun s => Autonomy.rests s) (Files.store p) :=
  Program.All.interp_of (Program.all_of_forall (fun _ => trivial) p.run) fun _ _ => all_ask rfl

theorem rests_names {s : Act α} (resting : rests s) : opened s = none ∧ cleared s = none := by
  cases s with
  | inl s => exact ⟨rfl, rfl⟩
  | inr s => cases s <;> first | exact ⟨rfl, rfl⟩ | cases resting

theorem rests_minds (resting : rests t.stmt) : Minds (site.controller trusted) S t := by
  obtain ⟨opens, clears⟩ := rests_names resting
  refine ⟨?_, fun y same => ?_, fun y same => ?_⟩
  · rw [Machine.after, rests_tree resting]
    exact .refl _
  · rw [opens] at same
    cases same
  · rw [clears] at same
    cases same

theorem change_raises {change : Except Errno (Tree Name Bytes)} {e : Err} {u : World}
    (raised : w.change change = (u, .error e)) : u = w := by
  cases change with
  | ok tree => cases raised
  | error errno => exact (Prod.mk.inj raised).1.symm

/-- A call that fails has done nothing. -/
theorem call_raises {s : FileCall α} {e : Err} (raised : site.call s w = (w', .error e)) : w' = w := by
  by_cases looking : looks (.inr s : Act α)
  · exact (congrArg Prod.fst raised).symm.trans (call_looks looking w)
  · cases s with
    | open_ x =>
      simp only [Site.call] at raised
      split at raised
      · cases raised
      · exact (Prod.mk.inj raised).1.symm
    | write i content => cases raised
    | link x y => exact change_raises raised
    | unlink x missingOk =>
      simp only [Site.call] at raised
      split at raised
      · cases raised
      · exact change_raises raised
    | replace x y => exact change_raises raised
    | _ => exact absurd rfl looking

/-- A call on a file was carried out, or raised and has changed no name. -/
theorem file_ran {s : FileCall α} (ran : (site.controller trusted).exec (.inr s) c w = (w', r)) :
    (∃ a, r = .ok a ∧ site.call s w = (w', .ok a)) ∨ ∃ e, r = .error e ∧ w'.tree.names = w.tree.names := by
  have performed : site.call s w = (w', r) ∨ ∃ e, r = .error e ∧ w' = Site.spoil (.inr s) c w := by
    change site.exec trusted (.inr s) c w = _ at ran
    unfold Site.exec at ran
    split at ran
    · exact .inl ran
    · split at ran
      · exact .inl ran
      · obtain ⟨rfl, rfl⟩ := Prod.mk.inj ran
        exact .inr ⟨_, rfl, rfl⟩
  rcases performed with called | ⟨e, rfl, rfl⟩
  · cases r with
    | ok a => exact .inl ⟨a, rfl, called⟩
    | error e =>
      exact .inr ⟨e, rfl, by rw [call_raises called]⟩
  · refine .inr ⟨e, rfl, ?_⟩
    cases s <;> rfl

theorem change_within {change : Except Errno (Tree Name Bytes)}
    (within : ∀ tree, change = .ok tree → Tree.Within S w.tree tree) : Tree.Within S w.tree (w.change change).1.tree := by
  cases change with
  | ok tree => exact within tree rfl
  | error errno => exact .refl _

/-- A call that is permitted stays within the names, whether it fails or not. -/
theorem call_minds {s : FileCall α} (permits : Permits S w.tree s) (c : Call) :
    Minds (site.controller trusted) S ⟨.inr s, c, w⟩ := by
  by_cases looking : looks (.inr s : Act α)
  · exact rests_minds looking
  have called : Tree.Within S w.tree (site.call s w).1.tree := by
    cases s with
    | open_ x =>
      simp only [Site.call]
      split
      · rename_i tree created
        exact Tree.create_within permits created
      · exact .refl _
    | write i content => exact Tree.write_within permits
    | link x y => exact change_within fun tree linked => Tree.link_within permits.2.1 permits.2.2 linked
    | unlink x missingOk =>
      simp only [Site.call]
      split
      · exact .refl _
      · refine change_within fun tree unlinked => ?_
        rw [(Tree.unlink_ok unlinked).1]
        exact Tree.removed_within permits.1 permits.2
    | replace x y =>
      obtain ⟨inside, target, own, i, named⟩ := permits
      refine change_within fun tree replaced => ?_
      rcases Tree.replace_ok replaced with rfl | ⟨apart, rfl⟩
      · exact .refl _
      · exact Tree.moved_within inside target own named
    | _ => exact absurd rfl looking
  have spoilt : Tree.Within S w.tree (Site.spoil (.inr s) c w).tree := by
    cases s with
    | write i content => exact Tree.write_within permits
    | _ => exact .refl _
  refine ⟨?_, ?_, ?_⟩
  · show Tree.Within S w.tree (site.exec trusted (.inr s) c w).1.tree
    unfold Site.exec
    split
    · exact called
    · split
      · exact called
      · exact spoilt
  · intro y same
    cases s <;> cases same
    exact permits
  · intro y same
    cases s <;> cases same <;> exact permits.1

/-! ### Left behind -/

theorem left_append_left (apart : ∀ t ∈ steps', opened t.stmt ≠ some y ∧ cleared t.stmt ≠ some y) :
    Left m (steps ++ steps') y ↔ Left m steps y := by
  constructor
  · intro ⟨⟨t, member, opens, returned⟩, clears⟩
    refine ⟨⟨t, ?_, opens, returned⟩, fun u inside => clears u (List.mem_append_left _ inside)⟩
    exact (List.mem_append.mp member).resolve_right fun later => (apart t later).1 opens
  · intro ⟨⟨t, member, opens, returned⟩, clears⟩
    refine ⟨⟨t, List.mem_append_left _ member, opens, returned⟩, fun u inside same => ?_⟩
    rcases List.mem_append.mp inside with earlier | later
    · exact clears u earlier same
    · exact absurd same (apart u later).2

theorem left_append_right (apart : ∀ t ∈ steps, opened t.stmt ≠ some y ∧ cleared t.stmt ≠ some y) :
    Left m (steps ++ steps') y ↔ Left m steps' y := by
  constructor
  · intro ⟨⟨t, member, opens, returned⟩, clears⟩
    refine ⟨⟨t, ?_, opens, returned⟩, fun u inside => clears u (List.mem_append_right _ inside)⟩
    exact (List.mem_append.mp member).resolve_left fun earlier => (apart t earlier).1 opens
  · intro ⟨⟨t, member, opens, returned⟩, clears⟩
    refine ⟨⟨t, List.mem_append_right _ member, opens, returned⟩, fun u inside same => ?_⟩
    rcases List.mem_append.mp inside with earlier | later
    · exact absurd same (apart u earlier).2
    · exact clears u later same

theorem not_left (none : ∀ t ∈ steps, opened t.stmt ≠ some y) : ¬ Left m steps y :=
  fun ⟨⟨t, member, opens, _⟩, _⟩ => none t member opens

theorem not_left_of_cleared (removed : ∃ t ∈ steps, cleared t.stmt = some y ∧ ¬ m.Raised t) : ¬ Left m steps y := by
  obtain ⟨t, member, clears, returned⟩ := removed
  exact fun left => returned (left.2 t member clears)

theorem rests_apart {y : Name} (resting : ∀ t ∈ steps, rests t.stmt) :
    ∀ t ∈ steps, opened t.stmt ≠ some y ∧ cleared t.stmt ≠ some y := by
  intro t member
  obtain ⟨opens, clears⟩ := rests_names (resting t member)
  rw [opens, clears]
  exact ⟨fun impossible => (Option.some_ne_none _ impossible.symm).elim, fun impossible => (Option.some_ne_none _ impossible.symm).elim⟩

theorem minds_apart (minds : ∀ t ∈ steps, Minds m S t) (outside : ¬ S y) :
    ∀ t ∈ steps, opened t.stmt ≠ some y ∧ cleared t.stmt ≠ some y :=
  fun t member => ⟨fun same => outside ((minds t member).opened y same), fun same => outside ((minds t member).cleared y same)⟩

/-! ### Trails -/

theorem trail_rests {p : Files α} (resting : Procedure.All (fun s => rests s) p)
    (ran : (site.controller trusted).Trail p.run w steps w' r) : w'.tree = w.tree ∧ ∀ t ∈ steps, rests t.stmt := by
  have all : ∀ t ∈ steps, rests t.stmt := ran.all resting
  exact ⟨ran.keeps (I := fun u => u.tree = w.tree) (fun t member same => (rests_tree (all t member)).trans same) rfl, all⟩

/-- A part that leaves the tree alone: the trail is over, or goes on after it. -/
theorem trail_rests_bind {p : Files β} {k : β → Files α} (resting : Procedure.All (fun s => rests s) p)
    (ran : (site.controller trusted).Trail (p >>= k).run w steps w' r) :
    ((∃ e, r = .error e) ∧ (∀ t ∈ steps, rests t.stmt) ∧ w'.tree = w.tree) ∨
      ∃ first w₁ a rest, steps = first ++ rest ∧ (∀ t ∈ first, rests t.stmt) ∧ w₁.tree = w.tree ∧
        (site.controller trusted).Returns p w w₁ a ∧ (site.controller trusted).Trail (k a).run w₁ rest w' r := by
  rw [Machine.trail_bind] at ran
  obtain ⟨e, rfl, raised⟩ | ⟨first, w₁, a, rest, rfl, returned, ran⟩ := ran
  · obtain ⟨tree, all⟩ := trail_rests resting raised
    exact .inl ⟨⟨e, rfl⟩, all, tree⟩
  · obtain ⟨tree, all⟩ := trail_rests resting returned
    exact .inr ⟨first, w₁, a, rest, rfl, all, tree, returned.ends, ran⟩

theorem trail_file {s : FileCall α} (ran : (site.controller trusted).Trail (Files.file s).run w steps w' r) :
    ∃ c, steps = [⟨.inr s, c, w⟩] ∧ (site.controller trusted).exec (.inr s) c w = (w', r) := Machine.trail_ask.mp ran

theorem exec_fills {s : Act α} {i : Nat} (filling : fills i s) (own : ∀ y, w.tree.names y = some (.file i) → S y) :
    ((site.controller trusted).exec s c w).1.tree.names = w.tree.names ∧
      Minds (site.controller trusted) S ⟨s, c, w⟩ ∧ opened s = none ∧ cleared s = none := by
  by_cases resting : rests s
  · exact ⟨by rw [rests_tree resting], rests_minds resting, rests_names resting⟩
  · cases s with
    | inl s => exact absurd rfl resting
    | inr s =>
      cases s with
      | write j content =>
        obtain rfl : j = i := of_decide_eq_true filling
        refine ⟨?_, call_minds (s := .write j content) own c, rfl, rfl⟩
        generalize ran : (site.controller trusted).exec (.inr (.write j content)) c w = result
        obtain ⟨w', r⟩ := result
        obtain ⟨a, rfl, called⟩ | ⟨e, rfl, names⟩ := file_ran ran
        · obtain ⟨rfl, _⟩ := Prod.mk.inj called
          rfl
        · exact names
      | _ => exact absurd filling resting

theorem trail_fills {p : Program Err Act α} {a : α} {i : Nat} (own : ∀ y, w.tree.names y = some (.file i) → S y)
    (filling : p.All fun s => fills i s) (ran : (site.controller trusted).Trail p w steps w' a) :
    w'.tree.names = w.tree.names ∧
      ∀ t ∈ steps, Minds (site.controller trusted) S t ∧ opened t.stmt = none ∧ cleared t.stmt = none := by
  induction p generalizing w steps with
  | pure b =>
    obtain ⟨rfl, rfl, _⟩ := ran
    exact ⟨rfl, fun t member => absurd member List.not_mem_nil⟩
  | call s k ih =>
    obtain ⟨c, rest, rfl, ran⟩ := ran
    obtain ⟨names, here⟩ := exec_fills (c := c) filling.1 own
    obtain ⟨names', later⟩ := ih _ (names ▸ own) (filling.2 _) ran
    exact ⟨names'.trans names, List.forall_mem_cons.mpr ⟨here, later⟩⟩

/-- Nothing but the file itself, which appears once it is opened. -/
theorem trail_writeNew {content : Option Bytes} {r : Answer Unit} (inside : S x)
    (ran : (site.controller trusted).Trail (Files.writeNew x content).run w steps w' r) :
    (∀ t ∈ steps, Minds (site.controller trusted) S t ∧ cleared t.stmt = none) ∧
      ((∃ e, r = .error e) ∧ w'.tree.names = w.tree.names ∧
          (∀ t ∈ steps, opened t.stmt ≠ none → (site.controller trusted).Raised t) ∨
        Appears x w.tree w'.tree ∧ (∃ t ∈ steps, opened t.stmt = some x ∧ ¬ (site.controller trusted).Raised t) ∧
          (r = .ok () → content.isSome)) := by
  rw [Files.writeNew, Machine.trail_bind] at ran
  obtain ⟨e, rfl, raised⟩ | ⟨first, w₁, descriptor, rest, rfl, created, ran⟩ := ran
  · obtain ⟨c, rfl, opening⟩ := trail_file raised
    obtain ⟨_, impossible, _⟩ | ⟨_, _, names⟩ := file_ran opening
    · cases impossible
    refine ⟨List.forall_mem_singleton.mpr ⟨call_minds (s := .open_ x) inside c, rfl⟩, .inl ⟨⟨e, rfl⟩, names, ?_⟩⟩
    exact List.forall_mem_singleton.mpr fun _ => ⟨e, congrArg Prod.snd opening⟩
  obtain ⟨tree, creates, rfl, rfl⟩ := returns_open created.ends
  obtain ⟨c, rfl, opening⟩ := trail_file created
  obtain ⟨free, names, _⟩ := Tree.create_ok creates
  have fresh : ∀ y, w.tree.names y ≠ some (.file w.tree.next) :=
    fun y named => Nat.lt_irrefl _ (w.tree.bounded y _ named)
  have own : ∀ y, tree.names y = some (.file w.tree.next) → S y := by
    intro y named
    by_cases same : y = x
    · exact same ▸ inside
    · rw [names, Function.update_of_ne same] at named
      exact absurd named (fresh y)
  have filling : Procedure.All (fun s => fills w.tree.next s) (do
      let written ← attempt (do
        let content ← lift (found content (.other "TypeError"))
        Files.file (.write w.tree.next content)
        Files.file (.fsync w.tree.next))
      Files.file (.close w.tree.next)
      lift written : Files Unit) := by
    refine All.bind (Program.All.bind ?_ fun _ => trivial) fun _ => All.bind (all_ask rfl) fun _ => all_lift _
    exact All.bind (all_lift _) fun _ => All.bind (all_ask (decide_eq_true rfl)) fun _ => all_ask rfl
  obtain ⟨kept, minds⟩ := trail_fills own filling ran
  refine ⟨List.forall_mem_cons.mpr ⟨⟨call_minds (s := .open_ x) inside c, rfl⟩, fun t member => ?_⟩,
    .inr ⟨⟨free, _, fresh, kept.trans names⟩, ⟨_, List.mem_cons_self, rfl, ?_⟩, ?_⟩⟩
  · exact ⟨(minds t member).1, (minds t member).2.2⟩
  · rintro ⟨e, raised⟩
    rw [opening] at raised
    cases raised
  · intro returned
    subst returned
    obtain ⟨_, written, tried, ends⟩ := Machine.returns_bind.mp ran.ends
    obtain ⟨_, _, _, ends⟩ := Machine.returns_bind.mp ends
    obtain ⟨_, rfl⟩ := Machine.returns_lift.mp ends
    obtain ⟨_, bytes, has, _⟩ := Machine.returns_bind.mp (Machine.returns_attempt.mp tried)
    rw [found_ok.mp (Machine.returns_lift.mp has).2]
    rfl

/-! ### One file -/

theorem Appears.named {t t' : Tree Name Bytes} (appears : Appears x t t') : ∃ i, t'.names x = some (.file i) := by
  obtain ⟨_, i, _, names⟩ := appears
  exact ⟨i, by rw [names, Function.update_self]⟩

theorem Appears.sole {t t' : Tree Name Bytes} (appears : Appears x t t') : t'.Sole x := by
  obtain ⟨free, i, fresh, names⟩ := appears
  intro j named y other
  rw [names, Function.update_self] at named
  cases named
  by_contra apart
  rw [names, Function.update_of_ne apart] at other
  exact fresh y other

theorem Appears.congr {t t' u : Tree Name Bytes} (appears : Appears x t t') (names : u.names = t'.names) : Appears x t u := by
  obtain ⟨free, i, fresh, named⟩ := appears
  exact ⟨free, i, fresh, names.trans named⟩

/-- What a temporary file is once it is removed again. -/
theorem Appears.removed {t t' : Tree Name Bytes} (appears : Appears x t t') : (t'.removed x).names = t.names := by
  obtain ⟨free, i, _, names⟩ := appears
  rw [Tree.removed_names, names, Function.update_idem, ← free, Function.update_eq_self]

theorem trail_still {s : FileCall α} {r : Answer α} (looking : looks (.inr s : Act α))
    (ran : (site.controller trusted).Trail (Files.file s).run w steps w' r) : w' = w ∧ ∀ t ∈ steps, rests t.stmt := by
  obtain ⟨c, rfl, executed⟩ := trail_file ran
  exact ⟨(congrArg Prod.fst executed).symm.trans (exec_still looking c w), List.forall_mem_singleton.mpr looking⟩

/-- The temporary file is removed, or its removal raises. -/
theorem trail_discard {t₀ : Tree Name Bytes} {missingOk : Bool} {r : Answer Unit} (appears : Appears x t₀ w.tree) (inside : S x)
    (ran : (site.controller trusted).Trail (Files.file (.unlink x missingOk)).run w steps w' r) :
    (∀ t ∈ steps, Minds (site.controller trusted) S t ∧ opened t.stmt = none) ∧
      (r = .ok () ∧ w'.tree.names = t₀.names ∧ (∃ t ∈ steps, cleared t.stmt = some x ∧ ¬ (site.controller trusted).Raised t) ∨
        (∃ e, r = .error e) ∧ w'.tree.names = w.tree.names ∧ ∀ t ∈ steps, (site.controller trusted).Raised t) := by
  obtain ⟨c, rfl, executed⟩ := trail_file ran
  refine ⟨List.forall_mem_singleton.mpr ⟨call_minds (s := .unlink x missingOk) ⟨inside, appears.sole.own inside⟩ c, rfl⟩, ?_⟩
  obtain ⟨_, rfl, called⟩ | ⟨e, rfl, names⟩ := file_ran executed
  · obtain ⟨i, named⟩ := appears.named
    simp only [Site.call, named, Option.isNone_some, Bool.and_false, Bool.false_eq_true, ↓reduceIte] at called
    obtain ⟨tree, unlinked, rfl⟩ := returns_change called
    obtain ⟨rfl, _⟩ := Tree.unlink_ok unlinked
    refine .inl ⟨rfl, appears.removed, _, List.mem_singleton.mpr rfl, rfl, ?_⟩
    rintro ⟨e, raised⟩
    rw [executed] at raised
    cases raised
  · exact .inr ⟨⟨e, rfl⟩, names, List.forall_mem_singleton.mpr ⟨e, congrArg Prod.snd executed⟩⟩

theorem trail_discard_throw {t₀ : Tree Name Bytes} {e : Err} (appears : Appears x t₀ w.tree) (inside : S x)
    (ran : (site.controller trusted).Trail (Files.file (.unlink x true) >>= fun _ => throw e : Files α).run w steps w' r) :
    (∃ e, r = .error e) ∧ (∀ t ∈ steps, Minds (site.controller trusted) S t ∧ opened t.stmt = none) ∧
      (w'.tree.names = t₀.names ∧ (∃ t ∈ steps, cleared t.stmt = some x ∧ ¬ (site.controller trusted).Raised t) ∨
        w'.tree.names = w.tree.names ∧ ∀ t ∈ steps, (site.controller trusted).Raised t) := by
  rw [Machine.trail_bind] at ran
  obtain ⟨e, rfl, raised⟩ | ⟨first, w₁, _, rest, rfl, removed, thrown⟩ := ran
  · obtain ⟨minds, ⟨impossible, _⟩ | ⟨_, names, raises⟩⟩ := trail_discard appears inside raised
    · cases impossible
    · exact ⟨⟨e, rfl⟩, minds, .inr ⟨names, raises⟩⟩
  · obtain ⟨rfl, rfl, rfl⟩ := Machine.trail_throw.mp thrown
    rw [List.append_nil]
    obtain ⟨minds, ⟨_, names, cleared⟩ | ⟨⟨_, impossible⟩, _⟩⟩ := trail_discard appears inside removed
    · exact ⟨⟨_, rfl⟩, minds, .inl ⟨names, cleared⟩⟩
    · cases impossible

/-- How the temporary file stands when its preparation is over. -/
inductive Prepared (m : Machine Err Act Call World) (content : Option Bytes) (T : Name) (steps : List FileStep)
    (t t' : Tree Name Bytes) : Answer Name → Prop
  | ready (appears : Appears T t t') (created : ∃ u ∈ steps, opened u.stmt = some T ∧ ¬ m.Raised u)
      (there : ∀ u ∈ steps, cleared u.stmt = none) (has : content.isSome) : Prepared m content T steps t t' (.ok T)
  | gone {e : Err} (names : t'.names = t.names) (clear : ¬ Left m steps T) : Prepared m content T steps t t' (.error e)
  | aside {e : Err} (appears : Appears T t t') (left : Left m steps T) : Prepared m content T steps t t' (.error e)

theorem trail_prepare {grantId : String} {content : Option Bytes} {r : Answer Name}
    (inside : S (Files.beside x grantId "tmp"))
    (ran : (site.controller trusted).Trail (Files.prepare grantId x content).run w steps w' r) :
    (∀ t ∈ steps, Minds (site.controller trusted) S t) ∧
      Prepared (site.controller trusted) content (Files.beside x grantId "tmp") steps w.tree w'.tree r := by
  generalize temporary : Files.beside x grantId "tmp" = T at inside
  simp only [Files.prepare, temporary] at ran
  rw [Machine.trail_bind] at ran
  obtain ⟨e, rfl, raised⟩ | ⟨looked, w₁, occupied, rest, rfl, saw, ran⟩ := ran
  · obtain ⟨rfl, resting⟩ := trail_still rfl raised
    exact ⟨fun t member => rests_minds (resting t member), .gone rfl (not_left fun t member => (rests_apart resting t member).1)⟩
  obtain ⟨rfl, resting⟩ := trail_still rfl saw
  have looked_minds : ∀ t ∈ looked, Minds (site.controller trusted) S t := fun t member => rests_minds (resting t member)
  rw [Machine.trail_lift_bind] at ran
  obtain ⟨e, _, rfl, rfl, rfl⟩ | ⟨_, _, ran⟩ := ran
  · rw [List.append_nil]
    exact ⟨looked_minds, .gone rfl (not_left fun t member => (rests_apart resting t member).1)⟩
  have apart := fun y => rests_apart (y := y) resting
  rw [Machine.trail_bind] at ran
  obtain ⟨e, rfl, raised⟩ | ⟨written, w₁, _, rest, rfl, wrote, ran⟩ := ran
  · obtain ⟨minds, ⟨_, names, raises⟩ | ⟨appears, created, _⟩⟩ := trail_writeNew inside raised
    · refine ⟨List.forall_mem_append.mpr ⟨looked_minds, fun t member => (minds t member).1⟩, .gone names ?_⟩
      rw [left_append_right (apart T)]
      rintro ⟨⟨t, member, opens, returned⟩, _⟩
      exact returned (raises t member (opens ▸ Option.some_ne_none _))
    · refine ⟨List.forall_mem_append.mpr ⟨looked_minds, fun t member => (minds t member).1⟩, .aside appears ?_⟩
      rw [left_append_right (apart T)]
      refine ⟨created, fun t member clears => ?_⟩
      rw [(minds t member).2] at clears
      cases clears
  obtain ⟨minds, ⟨⟨_, impossible⟩, _⟩ | ⟨appears, created, has⟩⟩ := trail_writeNew inside wrote
  · cases impossible
  have written_minds : ∀ t ∈ written, Minds (site.controller trusted) S t := fun t member => (minds t member).1
  have uncleared : ∀ t ∈ written, cleared t.stmt = none := fun t member => (minds t member).2
  rw [Machine.trail_bind] at ran
  obtain ⟨e, rfl, raised⟩ | ⟨checked, w₂, single, rest, rfl, saw, ran⟩ := ran
  · obtain ⟨rfl, resting'⟩ := trail_still rfl raised
    refine ⟨List.forall_mem_append.mpr ⟨looked_minds, List.forall_mem_append.mpr
      ⟨written_minds, fun t member => rests_minds (resting' t member)⟩⟩, .aside appears ?_⟩
    rw [left_append_right (apart T), left_append_left (rests_apart resting')]
    refine ⟨created, fun t member clears => ?_⟩
    rw [uncleared t member] at clears
    cases clears
  obtain ⟨rfl, resting'⟩ := trail_still rfl saw
  have checked_minds : ∀ t ∈ checked, Minds (site.controller trusted) S t := fun t member => rests_minds (resting' t member)
  split at ran
  · obtain ⟨rfl, rfl, rfl⟩ := Machine.trail_pure.mp ran
    refine ⟨List.forall_mem_append.mpr ⟨looked_minds, List.forall_mem_append.mpr ⟨written_minds,
      List.forall_mem_append.mpr ⟨checked_minds, List.forall_mem_nil _⟩⟩⟩, .ready appears ?_ ?_ (has rfl)⟩
    · obtain ⟨t, member, opens, returned⟩ := created
      exact ⟨t, by simp [member], opens, returned⟩
    · intro t member
      rcases List.mem_append.mp member with early | member
      · exact (rests_names (resting t early)).2
      rcases List.mem_append.mp member with middle | late
      · exact uncleared t middle
      · rw [List.append_nil] at late
        exact (rests_names (resting' t late)).2
  · obtain ⟨⟨e, rfl⟩, minds', outcome⟩ := trail_discard_throw appears inside ran
    refine ⟨List.forall_mem_append.mpr ⟨looked_minds, List.forall_mem_append.mpr ⟨written_minds,
      List.forall_mem_append.mpr ⟨checked_minds, fun t member => (minds' t member).1⟩⟩⟩, ?_⟩
    rcases outcome with ⟨names, t, member, removed⟩ | ⟨names, raises⟩
    · exact .gone names (not_left_of_cleared ⟨t, by simp [member], removed⟩)
    · refine .aside (appears.congr names) ?_
      rw [left_append_right (apart T)]
      obtain ⟨t, member, opens, returned⟩ := created
      refine ⟨⟨t, List.mem_append_left _ member, opens, returned⟩, fun u member clears => ?_⟩
      rcases List.mem_append.mp member with early | member
      · rw [uncleared u early] at clears
        cases clears
      rcases List.mem_append.mp member with middle | late
      · exact absurd clears (rests_apart resting' u middle).2
      · exact raises u late

theorem left_of_created (created : ∃ t ∈ steps, opened t.stmt = some y ∧ ¬ m.Raised t)
    (there : ∀ t ∈ steps, cleared t.stmt = none) (raises : ∀ t ∈ steps', cleared t.stmt = some y → m.Raised t) :
    Left m (steps ++ steps') y := by
  obtain ⟨t, member, opens, returned⟩ := created
  refine ⟨⟨t, List.mem_append_left _ member, opens, returned⟩, fun u inside clears => ?_⟩
  rcases List.mem_append.mp inside with early | late
  · rw [there u early] at clears
    cases clears
  · exact raises u late clears

theorem not_left_append (removed : ∃ t ∈ steps', cleared t.stmt = some y ∧ ¬ m.Raised t) : ¬ Left m (steps ++ steps') y := by
  obtain ⟨t, member, clears, returned⟩ := removed
  exact not_left_of_cleared ⟨t, List.mem_append_right _ member, clears, returned⟩

/-- A file is given a second name, or the call raises. -/
theorem trail_link {T : Name} {t₀ : Tree Name Bytes} {r : Answer Unit} (appears : Appears T t₀ w.tree) (target : S x) (inside : S T)
    (ran : (site.controller trusted).Trail (Files.file (.link T x)).run w steps w' r) :
    (∀ t ∈ steps, Minds (site.controller trusted) S t) ∧
      (r = .ok () ∧ w.tree.names x = none ∧ (∃ t ∈ steps, cleared t.stmt = some T ∧ ¬ (site.controller trusted).Raised t) ∧
          w'.tree.names = Function.update w.tree.names x (w.tree.names T) ∨
        (∃ e, r = .error e) ∧ w'.tree.names = w.tree.names ∧ ∀ t ∈ steps, (site.controller trusted).Raised t) := by
  obtain ⟨c, rfl, executed⟩ := trail_file ran
  refine ⟨List.forall_mem_singleton.mpr (call_minds (s := .link T x) ⟨inside, target, appears.sole.own inside⟩ c), ?_⟩
  obtain ⟨_, rfl, called⟩ | ⟨e, rfl, names⟩ := file_ran executed
  · obtain ⟨tree, linked, rfl⟩ := returns_change called
    obtain ⟨i, named, free, names, _⟩ := Tree.link_ok linked
    refine .inl ⟨rfl, free, ⟨_, List.mem_singleton.mpr rfl, rfl, ?_⟩, named ▸ names⟩
    rintro ⟨e, raised⟩
    rw [executed] at raised
    cases raised
  · exact .inr ⟨⟨e, rfl⟩, names, List.forall_mem_singleton.mpr ⟨e, congrArg Prod.snd executed⟩⟩

/-- A file is renamed over another, or the call raises. -/
theorem trail_replace {T : Name} {t₀ : Tree Name Bytes} {r : Answer Unit} (appears : Appears T t₀ w.tree) (target : S x)
    (inside : S T) (apart : T ≠ x) (own : w.tree.Own S x)
    (ran : (site.controller trusted).Trail (Files.file (.replace T x)).run w steps w' r) :
    (∀ t ∈ steps, Minds (site.controller trusted) S t) ∧
      (r = .ok () ∧ (∃ t ∈ steps, cleared t.stmt = some T ∧ ¬ (site.controller trusted).Raised t) ∧
          w'.tree.names = Function.update t₀.names x (w.tree.names T) ∨
        (∃ e, r = .error e) ∧ w'.tree.names = w.tree.names ∧ ∀ t ∈ steps, (site.controller trusted).Raised t) := by
  obtain ⟨c, rfl, executed⟩ := trail_file ran
  refine ⟨List.forall_mem_singleton.mpr (call_minds (s := .replace T x) ⟨inside, target, own, appears.named⟩ c), ?_⟩
  obtain ⟨_, rfl, called⟩ | ⟨e, rfl, names⟩ := file_ran executed
  · obtain ⟨tree, replaced, rfl⟩ := returns_change called
    refine .inl ⟨rfl, ⟨_, List.mem_singleton.mpr rfl, rfl, ?_⟩, ?_⟩
    · rintro ⟨e, raised⟩
      rw [executed] at raised
      cases raised
    · obtain rfl := Tree.replace_moved appears.sole apart replaced
      obtain ⟨free, _, _, names⟩ := appears
      rw [Tree.moved_names, Function.update_comm apart.symm, names, Function.update_idem, ← free, Function.update_eq_self]
  · exact .inr ⟨⟨e, rfl⟩, names, List.forall_mem_singleton.mpr ⟨e, congrArg Prod.snd executed⟩⟩

/-- How a file and its temporary one stand when the operation is over. -/
inductive Performed (m : Machine Err Act Call World) (planned : PlannedFile) (x T : Name) (steps : List FileStep)
    (t t' : Tree Name Bytes) : Answer Unit → Prop
  | done (node : Option (Node Name)) (names : t'.names = Function.update t.names x node) (clear : ¬ Left m steps T)
      (has : planned.row.operation = some .delete ∨ planned.content.isSome)
      (fresh : planned.row.operation = some .create → t.names x = none) : Performed m planned x T steps t t' (.ok ())
  | gone {e : Err} (names : t'.names = t.names) (clear : ¬ Left m steps T) : Performed m planned x T steps t t' (.error e)
  | aside {e : Err} (appears : Appears T t t') (left : Left m steps T) : Performed m planned x T steps t t' (.error e)
  | twice {e : Err} (free : t.names T = none) (same : t'.names x = t'.names T) (named : ∃ i, t'.names T = some (.file i))
      (clear : ¬ Left m steps T) : Performed m planned x T steps t t' (.error e)

theorem trail_perform {grantId : String} {planned : PlannedFile} {r : Answer Unit} (target : S x)
    (inside : S (Files.beside x grantId "tmp")) (sole : w.tree.Sole x)
    (ran : (site.controller trusted).Trail (Files.perform grantId planned x).run w steps w' r) :
    (∀ t ∈ steps, Minds (site.controller trusted) S t) ∧
      Performed (site.controller trusted) planned x (Files.beside x grantId "tmp") steps w.tree w'.tree r := by
  have apart : Files.beside x grantId "tmp" ≠ x := beside_ne
  have preparing (w₁) (steps) (r) (ran : (site.controller trusted).Trail
      (Files.prepare grantId x planned.content).run w steps w₁ r) := trail_prepare (S := S) inside ran
  generalize temporary : Files.beside x grantId "tmp" = T at inside apart preparing
  unfold Files.perform at ran
  split at ran
  · rename_i delete
    obtain ⟨c, rfl, executed⟩ := trail_file ran
    have clear : ¬ Left (site.controller trusted) [⟨.inr (.unlink x false), c, w⟩] T :=
      not_left (List.forall_mem_singleton.mpr fun impossible => by cases impossible)
    refine ⟨List.forall_mem_singleton.mpr (call_minds (s := .unlink x false) ⟨target, sole.own target⟩ c), ?_⟩
    obtain ⟨_, rfl, called⟩ | ⟨e, rfl, names⟩ := file_ran executed
    · simp only [Site.call, Bool.false_and, Bool.false_eq_true, ↓reduceIte] at called
      obtain ⟨tree, unlinked, rfl⟩ := returns_change called
      obtain ⟨rfl, _⟩ := Tree.unlink_ok unlinked
      exact .done none rfl clear (.inl delete) fun create => by rw [delete] at create; cases create
    · exact .gone names clear
  rename_i kept
  rw [Machine.trail_bind] at ran
  obtain ⟨e, rfl, raised⟩ | ⟨prepared, w₁, _, rest, rfl, ready, ran⟩ := ran
  · obtain ⟨minds, outcome⟩ := preparing _ _ _ raised
    refine ⟨minds, ?_⟩
    cases outcome with
    | gone names clear => exact .gone names clear
    | aside appears left => exact .aside appears left
  obtain ⟨minds, outcome⟩ := preparing _ _ _ ready
  cases outcome with
  | ready appears created there has =>
    have aside (more : List FileStep) (w' : World) (e : Err) (minds' : ∀ t ∈ more, Minds (site.controller trusted) S t)
        (raises : ∀ t ∈ more, cleared t.stmt = some T → (site.controller trusted).Raised t)
        (names : w'.tree.names = w₁.tree.names) :
        (∀ t ∈ prepared ++ more, Minds (site.controller trusted) S t) ∧
          Performed (site.controller trusted) planned x T (prepared ++ more) w.tree w'.tree (.error e) :=
      ⟨List.forall_mem_append.mpr ⟨minds, minds'⟩, .aside (appears.congr names) (left_of_created created there raises)⟩
    have undone (more : List FileStep) (w' : World) (e : Err) (minds' : ∀ t ∈ more, Minds (site.controller trusted) S t)
        (removed : ∃ t ∈ more, cleared t.stmt = some T ∧ ¬ (site.controller trusted).Raised t)
        (names : w'.tree.names = w.tree.names) :
        (∀ t ∈ prepared ++ more, Minds (site.controller trusted) S t) ∧
          Performed (site.controller trusted) planned x T (prepared ++ more) w.tree w'.tree (.error e) :=
      ⟨List.forall_mem_append.mpr ⟨minds, minds'⟩, .gone names (not_left_append removed)⟩
    split at ran
    · rename_i create
      rw [Machine.trail_bind] at ran
      obtain ⟨e, rfl, raised⟩ | ⟨looked, w₂, present, rest, rfl, saw, ran⟩ := ran
      · obtain ⟨rfl, resting⟩ := trail_still rfl raised
        exact aside _ _ _ (fun t member => rests_minds (resting t member))
          (fun t member clears => absurd clears (rests_apart resting t member).2) rfl
      obtain ⟨rfl, resting⟩ := trail_still rfl saw
      have minds₂ : ∀ t ∈ looked, Minds (site.controller trusted) S t := fun t member => rests_minds (resting t member)
      have uncleared := fun t member => (rests_apart (y := T) resting t member).2
      dsimp only at ran
      split at ran
      · obtain ⟨⟨e, rfl⟩, minds₃, ⟨names, t, member, removed⟩ | ⟨names, raises⟩⟩ :=
          trail_discard_throw (e := .blocked "CREATE target appeared") appears inside ran
        · refine undone _ _ _ (List.forall_mem_append.mpr ⟨minds₂, fun t member => (minds₃ t member).1⟩) ?_ names
          exact ⟨t, List.mem_append_right _ member, removed⟩
        · refine aside _ _ _ (List.forall_mem_append.mpr ⟨minds₂, fun t member => (minds₃ t member).1⟩) ?_ names
          exact List.forall_mem_append.mpr ⟨fun t member clears => absurd clears (uncleared t member),
            fun t member _ => raises t member⟩
      · rw [Machine.trail_bind] at ran
        obtain ⟨e, rfl, raised⟩ | ⟨linked, w₃, _, rest, rfl, given, ran⟩ := ran
        · obtain ⟨minds₃, ⟨impossible, _⟩ | ⟨_, names, raises⟩⟩ := trail_link appears target inside raised
          · cases impossible
          · refine aside _ _ _ (List.forall_mem_append.mpr ⟨minds₂, minds₃⟩) ?_ names
            exact List.forall_mem_append.mpr ⟨fun t member clears => absurd clears (uncleared t member),
              fun t member _ => raises t member⟩
        obtain ⟨minds₃, ⟨_, free, removed, names₃⟩ | ⟨⟨_, impossible⟩, _⟩⟩ := trail_link appears target inside given
        · obtain ⟨gone, i, fresh, names₁⟩ := appears
          have named : w₂.tree.names T = some (.file i) := by rw [names₁, Function.update_self]
          rw [names₁, Function.update_of_ne apart.symm] at free
          rw [named] at names₃
          have own : w₃.tree.Own S T := by
            intro j here y there
            rw [names₃, Function.update_of_ne apart, named] at here
            cases here
            by_cases same : y = x
            · exact same ▸ target
            rw [names₃, Function.update_of_ne same, names₁] at there
            by_cases own : y = T
            · exact own ▸ inside
            · rw [Function.update_of_ne own] at there
              exact absurd there (fresh y)
          obtain ⟨c, rfl, executed⟩ := trail_file ran
          have minds₄ : Minds (site.controller trusted) S ⟨.inr (.unlink T false), c, w₃⟩ :=
            call_minds (s := .unlink T false) ⟨inside, own⟩ c
          have clear : ¬ Left (site.controller trusted) (prepared ++ (looked ++ (linked ++ [⟨.inr (.unlink T false), c, w₃⟩]))) T := by
            obtain ⟨t, member, clears, returned⟩ := removed
            exact not_left_of_cleared ⟨t, by simp [member], clears, returned⟩
          refine ⟨List.forall_mem_append.mpr ⟨minds, List.forall_mem_append.mpr ⟨minds₂,
            List.forall_mem_append.mpr ⟨minds₃, List.forall_mem_singleton.mpr minds₄⟩⟩⟩, ?_⟩
          obtain ⟨_, rfl, called⟩ | ⟨e, rfl, names⟩ := file_ran executed
          · simp only [Site.call, Bool.false_and, Bool.false_eq_true, ↓reduceIte] at called
            obtain ⟨tree, unlinked, rfl⟩ := returns_change called
            obtain ⟨rfl, _⟩ := Tree.unlink_ok unlinked
            refine .done (some (.file i)) ?_ clear (.inr has) fun _ => free
            rw [Tree.removed_names, names₃, Function.update_comm apart.symm, names₁, Function.update_idem, ← gone,
              Function.update_eq_self]
          · have left : w'.tree.names T = some (.file i) := by
              rw [names, names₃, Function.update_of_ne apart, named]
            refine .twice gone ?_ ⟨i, left⟩ clear
            rw [left, names, names₃, Function.update_self]
        · cases impossible
    · rename_i create
      rw [Machine.trail_bind] at ran
      obtain ⟨e, rfl, raised⟩ | ⟨looked, w₂, ⟨current, original⟩, rest, rfl, saw, ran⟩ := ran
      · obtain ⟨rfl, resting⟩ := trail_still rfl raised
        exact aside _ _ _ (fun t member => rests_minds (resting t member))
          (fun t member clears => absurd clears (rests_apart resting t member).2) rfl
      obtain ⟨rfl, resting⟩ := trail_still rfl saw
      have minds₂ : ∀ t ∈ looked, Minds (site.controller trusted) S t := fun t member => rests_minds (resting t member)
      have uncleared := fun t member => (rests_apart (y := T) resting t member).2
      dsimp only at ran
      split at ran
      · obtain ⟨⟨e, rfl⟩, minds₃, ⟨names, t, member, removed⟩ | ⟨names, raises⟩⟩ :=
          trail_discard_throw (e := .blocked "REPLACE target changed") appears inside ran
        · refine undone _ _ _ (List.forall_mem_append.mpr ⟨minds₂, fun t member => (minds₃ t member).1⟩) ?_ names
          exact ⟨t, List.mem_append_right _ member, removed⟩
        · refine aside _ _ _ (List.forall_mem_append.mpr ⟨minds₂, fun t member => (minds₃ t member).1⟩) ?_ names
          exact List.forall_mem_append.mpr ⟨fun t member clears => absurd clears (uncleared t member),
            fun t member _ => raises t member⟩
      · have own : w₂.tree.Own S x := by
          obtain ⟨_, i, fresh, names₁⟩ := appears
          intro j here y there
          rw [names₁, Function.update_of_ne apart.symm] at here
          rw [names₁] at there
          by_cases same : y = T
          · exact same ▸ inside
          · rw [Function.update_of_ne same] at there
            exact sole j here y there ▸ target
        obtain ⟨minds₃, ⟨rfl, removed, names⟩ | ⟨⟨e, rfl⟩, names, raises⟩⟩ := trail_replace appears target inside apart own ran
        · refine ⟨List.forall_mem_append.mpr ⟨minds, List.forall_mem_append.mpr ⟨minds₂, minds₃⟩⟩,
            .done _ names ?_ (.inr has) fun created => absurd created create⟩
          obtain ⟨t, member, clears, returned⟩ := removed
          exact not_left_of_cleared ⟨t, by simp [member], clears, returned⟩
        · refine aside _ _ _ (List.forall_mem_append.mpr ⟨minds₂, minds₃⟩) ?_ names
          exact List.forall_mem_append.mpr ⟨fun t member clears => absurd clears (uncleared t member),
            fun t member _ => raises t member⟩

end

end ControlPlane.Autonomy
