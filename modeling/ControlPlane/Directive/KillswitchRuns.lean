import ControlPlane.Directive.Killswitch
import ControlPlane.Interleaving.History
import Mathlib.Logic.Function.Basic

/-!
# Killswitches on one state file

Any number of instances, and their calls down to the single file operations. An instance may die
between any two of them. What an instance holds in memory is what the calls make, and the file holds
what was written last, unless it was emptied since or another's text looks out behind it.
-/

namespace ControlPlane.Directive

open ControlPlane.Data ControlPlane.Interleaving

/-- The file operation that a call in progress does next. -/
inductive FileOperation where
  | opening
  | writing
  | logging

structure Busy where
  call : SwitchCall
  event : Incident
  stage : FileOperation

structure Switch where
  state : Json
  busy : Option Busy

structure Switches where
  instances : Nat → Option Switch
  file : Option (List Char)

def Switches.put (w : Switches) (i : Nat) (s : Option Switch) : Switches := { w with instances := Function.update w.instances i s }

/-- The state a call leads to. -/
def SwitchCall.target : SwitchCall → KillswitchState
  | .trigger .. => .triggered
  | .enterRecoveryPending .. => .recoveryPending
  | .executeControlledResume .. => .armed

inductive SwitchLabel where
  | opened (i : Nat)
  | began (i : Nat) (now : ℚ) (call : SwitchCall) (begun : Begun)
  | emptied (i : Nat)
  | wrote (i : Nat) (call : SwitchCall) (state : Record)
  | returned (i : Nat) (call : SwitchCall) (record : Record)
  | crashed (i : Nat)

/-- A call that gets through its checks is in progress, any other is over. -/
def Switches.begin (w : Switches) (i : Nat) (call : SwitchCall) : Begun → Switches
  | .changed state event => w.put i (some ⟨.dict state, some ⟨call, event, .opening⟩⟩)
  | _ => w

/-- The next operation of some instance. -/
inductive SwitchStep (host : Host) : Switches → SwitchLabel → Switches → Prop
  | opened {w : Switches} {i : Nat} (now : ℚ) (free : w.instances i = none) :
      SwitchStep host w (.opened i) (w.put i (some ⟨loadState host now w.file, none⟩))
  | began {w : Switches} {i : Nat} {state : Json} (now : ℚ) (call : SwitchCall) (here : w.instances i = some ⟨state, none⟩) :
      SwitchStep host w (.began i now call (beginCall host now state call)) (w.begin i call (beginCall host now state call))
  | emptied {w : Switches} {i : Nat} {state : Record} {call : SwitchCall} {event : Incident} (now : ℚ)
      (here : w.instances i = some ⟨.dict state, some ⟨call, event, .opening⟩⟩) :
      SwitchStep host w (.emptied i)
        { w.put i (some ⟨.dict (state.set "last_updated" (.float (.fin now))), some ⟨call, event, .writing⟩⟩) with file := some [] }
  | wrote {w : Switches} {i : Nat} {state : Record} {call : SwitchCall} {event : Incident}
      (here : w.instances i = some ⟨.dict state, some ⟨call, event, .writing⟩⟩) :
      SwitchStep host w (.wrote i call state)
        { w.put i (some ⟨.dict state, some ⟨call, event, .logging⟩⟩) with
          file := some (overwrite (w.file.getD []) (stateText host state)) }
  | returned {w : Switches} {i : Nat} {state : Json} {call : SwitchCall} {event : Incident} (ts : String) (auditFile : Option String)
      (here : w.instances i = some ⟨state, some ⟨call, event, .logging⟩⟩) :
      SwitchStep host w (.returned i call (incidentEvent host event ts auditFile)) (w.put i (some ⟨state, none⟩))
  | crashed {w : Switches} {i : Nat} {s : Switch} (here : w.instances i = some s) : SwitchStep host w (.crashed i) (w.put i none)

abbrev SwitchPast := List (Transition Switches SwitchLabel)

def noSwitches : Switches := ⟨fun _ => none, none⟩

/-- What the file holds. -/
inductive LastWrite where
  | never
  | torn
  | whole (call : SwitchCall) (state : Record)

/-- What is left of the old content behind a text that is written at its start. -/
def leftover (host : Host) (file : Option (List Char)) (state : Record) : List Char :=
  (file.getD []).drop (stateText host state).length

def lastWrite (host : Host) : SwitchPast → LastWrite
  | [] => .never
  | t :: past =>
    match t.label with
    | .emptied _ => .torn
    | .wrote _ call state => if (leftover host t.before.file state).all Json.isBlank then .whole call state else .torn
    | _ => lastWrite host past

/-! ### States -/

/-- A state as the calls make them. -/
structure StateOf (s : KillswitchState) (state : Record) : Prop where
  flat : Record.Flat state
  is : state.get? "killswitch_state" = some (.str s.value)
  active : ∃ v, state.get? "active_incident_id" = some v

variable {host : Host} {w w' : Switches} {past : SwitchPast} {l : SwitchLabel} {i j : Nat} {state state' : Record} {call : SwitchCall}
  {event : Incident} {s : KillswitchState} {now : ℚ} {inst : Switch} {busy : Busy}

theorem stateOf_default : StateOf .armed (defaultState now) where
  flat := by
    refine ⟨?_, ?_⟩
    · simp [Dict.Distinct, Dict.keys, defaultState]
    · intro e member
      simp only [defaultState, List.mem_cons, List.not_mem_nil, or_false] at member
      rcases member with rfl | rfl | rfl | rfl | rfl | rfl <;> trivial
  is := rfl
  active := ⟨_, rfl⟩

theorem StateOf.updated (of : StateOf s state) : StateOf s (state.set "last_updated" (.float (.fin now))) where
  flat := of.flat.set trivial
  is := by rw [Dict.get?_set_of_ne (by decide), of.is]
  active := by rw [Dict.get?_set_of_ne (by decide)]; exact of.active

/-- Execution is allowed in two of the states. -/
theorem StateOf.allowed (of : StateOf s state) : isExecutionAllowed (.dict state) = .ok (s = .disarmed ∨ s = .armed) := by
  unfold isExecutionAllowed
  dsimp only
  rw [of.is]
  cases s <;> rfl

theorem StateOf.blocked_iff (of : StateOf s state) : isExecutionAllowed (.dict state) = .ok false ↔ s ≠ .disarmed ∧ s ≠ .armed := by
  rw [of.allowed]
  simp

/-- A call that gets through its checks leads to its target. -/
theorem StateOf.began (of : StateOf s state) (begun : beginCall host now (.dict state) call = .changed state' event) :
    StateOf call.target state' := by
  obtain ⟨active, is⟩ := of.active
  cases call with
  | trigger reason actor details =>
    unfold beginCall beginTrigger at begun
    dsimp only at begun
    rw [of.is] at begun
    dsimp only at begun
    rw [KillswitchState.ofValue?_value] at begun
    cases begun
    refine ⟨?_, ?_, .str (deriveIncidentId host reason actor now), ?_⟩
    · iterate 5 refine Record.Flat.set ?_ trivial
      exact of.flat
    · simp [Dict.get?_set_of_ne, SwitchCall.target]
    · simp [Dict.get?_set_of_ne]
  | enterRecoveryPending resolved actor =>
    unfold beginCall beginRecovery at begun
    dsimp only at begun
    rw [of.is] at begun
    dsimp only at begun
    split at begun
    · cases begun
    split at begun
    · cases begun
    rw [is] at begun
    cases begun
    refine ⟨?_, ?_, active, ?_⟩
    · iterate 2 refine Record.Flat.set ?_ trivial
      exact of.flat
    · simp [Dict.get?_set_of_ne, SwitchCall.target]
    · simpa [Dict.get?_set_of_ne] using is
  | executeControlledResume incident approval revalidated actor =>
    unfold beginCall beginResume at begun
    dsimp only at begun
    rw [of.is] at begun
    dsimp only at begun
    split at begun
    · cases begun
    rw [is] at begun
    dsimp only at begun
    split at begun
    · cases begun
    split at begun
    · cases begun
    split at begun
    · cases begun
    split at begun
    · cases begun
    cases begun
    refine ⟨?_, ?_, .null, ?_⟩
    · iterate 3 refine Record.Flat.set ?_ trivial
      exact of.flat
    · simp [Dict.get?_set_of_ne, SwitchCall.target]
    · simp [Dict.get?_set_of_ne]

/-! ### The file -/

theorem skip_blank {rest : List Char} : Json.skip ('\n' :: rest) = [] ↔ rest.all Json.isBlank = true := by
  unfold Json.skip
  rw [List.dropWhile_eq_nil_iff, List.all_eq_true]
  constructor
  · intro all c member
    exact all c (List.mem_cons_of_mem _ member)
  · intro all c member
    rcases List.mem_cons.mp member with rfl | member
    · decide
    · exact all c member

/-- A state is read back if nothing but blanks stands behind it, and otherwise nothing can be read. -/
theorem loads_stateText {rest : List Char} (of : StateOf s state) :
    Json.loads host.floats (String.ofList (stateText host state ++ rest)) =
      if rest.all Json.isBlank then some (.dict state) else none := by
  have read := @Json.loads_text_append host.floats _ _ ('\n' :: rest) Json.spaced_default of.flat.keyed
    (Json.ended_cons (by decide))
  unfold stateText Json.lineOf
  rw [List.append_assoc, List.singleton_append, read]
  simp only [skip_blank]

/-- The file is as the last operation on it left it. -/
def FileHolds (host : Host) : LastWrite → Option (List Char) → Prop
  | .never, file => file = none
  | .torn, file => ∃ content, file = some content ∧ Json.loads host.floats (String.ofList content) = none
  | .whole call state, file => StateOf call.target state ∧
      ∃ content, file = some content ∧ Json.loads host.floats (String.ofList content) = some (.dict state)

/-- What an instance gets that is opened now. -/
def LastWrite.loaded (now : ℚ) : LastWrite → Record
  | .whole _ state => state
  | _ => defaultState now

def LastWrite.reached : LastWrite → KillswitchState
  | .whole call _ => call.target
  | _ => .armed

theorem FileHolds.load {last : LastWrite} {file : Option (List Char)} (holds : FileHolds host last file) :
    loadState host now file = .dict (last.loaded now) ∧ StateOf last.reached (last.loaded now) := by
  unfold loadState
  cases last with
  | never =>
    have absent : file = none := holds
    rw [absent]
    exact ⟨rfl, stateOf_default⟩
  | torn =>
    obtain ⟨content, is, unreadable⟩ := holds
    rw [is, Option.bind_some, unreadable]
    exact ⟨rfl, stateOf_default⟩
  | whole call state =>
    obtain ⟨of, content, is, read⟩ := holds
    rw [is, Option.bind_some, read]
    exact ⟨rfl, of⟩

theorem FileHolds.write {file : Option (List Char)} (of : StateOf call.target state) :
    FileHolds host (if (leftover host file state).all Json.isBlank then .whole call state else .torn)
      (some (overwrite (file.getD []) (stateText host state))) := by
  have read : Json.loads host.floats (String.ofList (stateText host state ++ leftover host file state)) = _ := loads_stateText of
  split
  · rename_i blank
    rw [if_pos blank] at read
    exact ⟨of, _, rfl, read⟩
  · rename_i other
    rw [if_neg other] at read
    exact ⟨_, rfl, read⟩

/-! ### Runs -/

/-- What every instance holds, and the file. -/
structure Running (host : Host) (past : SwitchPast) (w : Switches) : Prop where
  kept : ∀ i inst, w.instances i = some inst → ∃ s state, inst.state = .dict state ∧ StateOf s state ∧
    ∀ busy, inst.busy = some busy → s = busy.call.target
  file : FileHolds host (lastWrite host past) w.file

theorem switch_put_self {inst : Option Switch} : (w.put i inst).instances i = inst := Function.update_self ..

theorem switch_put_of_ne {inst : Option Switch} (other : j ≠ i) : (w.put i inst).instances j = w.instances j := Function.update_of_ne other ..

/-- One instance changes, and the others stay. -/
theorem Running.put {inst' : Option Switch} (running : Running host past w)
    (changed : ∀ inst, inst' = some inst → ∃ s state, inst.state = .dict state ∧ StateOf s state ∧
      ∀ busy, inst.busy = some busy → s = busy.call.target) :
    ∀ j inst, (w.put i inst').instances j = some inst → ∃ s state, inst.state = .dict state ∧ StateOf s state ∧
      ∀ busy, inst.busy = some busy → s = busy.call.target := by
  intro j inst found
  by_cases same : j = i
  · subst same
    rw [switch_put_self] at found
    exact changed inst found
  · rw [switch_put_of_ne same] at found
    exact running.kept j inst found

theorem Running.step (running : Running host past w) (step : SwitchStep host w l w') : Running host (⟨w, l, w'⟩ :: past) w' := by
  cases step with
  | opened now free =>
    obtain ⟨loaded, of⟩ : loadState host now w.file = _ ∧ _ := running.file.load
    refine ⟨running.put ?_, running.file⟩
    intro inst is
    cases is
    refine ⟨_, _, loaded, of, ?_⟩
    intro busy idle
    cases idle
  | began now call here =>
    obtain ⟨s, state, is, of, -⟩ := running.kept _ _ here
    dsimp only at is
    subst is
    cases begun : beginCall host now (.dict state) call with
    | raised fault => exact ⟨running.kept, running.file⟩
    | refused reason => exact ⟨running.kept, running.file⟩
    | changed state' event =>
      refine ⟨running.put ?_, running.file⟩
      intro inst is
      cases is
      refine ⟨_, state', rfl, of.began begun, ?_⟩
      intro busy is
      cases is
      rfl
  | emptied now here =>
    obtain ⟨s, state, is, of, target⟩ := running.kept _ _ here
    cases is
    have same := target _ rfl
    refine ⟨running.put ?_, [], rfl, rfl⟩
    intro inst is
    cases is
    refine ⟨s, _, rfl, of.updated, ?_⟩
    intro busy is
    cases is
    exact same
  | wrote here =>
    obtain ⟨s, state, is, of, target⟩ := running.kept _ _ here
    cases is
    have same := target _ rfl
    subst same
    refine ⟨running.put ?_, .write of⟩
    intro inst is
    cases is
    refine ⟨_, _, rfl, of, ?_⟩
    intro busy is
    cases is
    rfl
  | returned ts auditFile here =>
    obtain ⟨s, state, is, of, -⟩ := running.kept _ _ here
    refine ⟨running.put ?_, running.file⟩
    intro inst is'
    cases is'
    refine ⟨s, state, is, of, ?_⟩
    intro busy idle
    cases idle
  | crashed here =>
    refine ⟨running.put ?_, running.file⟩
    intro inst is
    cases is

theorem running (history : History (SwitchStep host) noSwitches past w) : Running host past w := by
  induction history with
  | start =>
    refine ⟨?_, rfl⟩
    intro i inst found
    cases found
  | step history step ih => exact ih.step step

/-! ### Runs by computation -/

inductive SwitchMove where
  | open' (i : Nat) (now : ℚ)
  | call (i : Nat) (now : ℚ) (call : SwitchCall)
  | proceed (i : Nat) (now : ℚ)
  | crash (i : Nat)

def trySwitch (host : Host) (w : Switches) : SwitchMove → Option (SwitchLabel × Switches)
  | .open' i now =>
    match w.instances i with
    | none => some (.opened i, w.put i (some ⟨loadState host now w.file, none⟩))
    | some _ => none
  | .call i now call =>
    match w.instances i with
    | some ⟨state, none⟩ => some (.began i now call (beginCall host now state call), w.begin i call (beginCall host now state call))
    | _ => none
  | .proceed i now =>
    match w.instances i with
    | some ⟨.dict state, some ⟨call, event, .opening⟩⟩ => some (.emptied i,
        { w.put i (some ⟨.dict (Dict.set state "last_updated" (.float (.fin now))), some ⟨call, event, .writing⟩⟩) with
          file := some [] })
    | some ⟨.dict state, some ⟨call, event, .writing⟩⟩ => some (.wrote i call state,
        { w.put i (some ⟨.dict state, some ⟨call, event, .logging⟩⟩) with
          file := some (overwrite (w.file.getD []) (stateText host state)) })
    | some ⟨state, some ⟨call, event, .logging⟩⟩ => some (.returned i call (incidentEvent host event "" none), w.put i (some ⟨state, none⟩))
    | _ => none
  | .crash i =>
    match w.instances i with
    | some _ => some (.crashed i, w.put i none)
    | none => none

theorem trySwitch_step (w : Switches) (move : SwitchMove) (made : SwitchLabel × Switches) (possible : trySwitch host w move = some made) :
    SwitchStep host w made.1 made.2 := by
  cases move with
  | open' i now =>
    unfold trySwitch at possible
    dsimp only at possible
    split at possible
    · rename_i free
      cases possible
      exact .opened now free
    · cases possible
  | call i now call =>
    unfold trySwitch at possible
    dsimp only at possible
    split at possible
    · rename_i state here
      cases possible
      exact .began now call here
    · cases possible
  | proceed i now =>
    unfold trySwitch at possible
    dsimp only at possible
    split at possible
    · rename_i here
      cases possible
      exact .emptied now here
    · rename_i here
      cases possible
      exact .wrote here
    · rename_i here
      cases possible
      exact .returned "" none here
    · cases possible
  | crash i =>
    unfold trySwitch at possible
    dsimp only at possible
    split at possible
    · rename_i here
      cases possible
      exact .crashed here
    · cases possible

end ControlPlane.Directive
