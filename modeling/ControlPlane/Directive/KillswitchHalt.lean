import ControlPlane.Directive.KillswitchRuns

/-!
# A triggered killswitch

From the write of a trigger until a resume returns, execution is blocked in every instance exactly if nobody
opens an instance on a file that is not a complete write of a trigger or a recovery, and no other instance is
armed when a trigger is written.
-/

namespace ControlPlane.Directive

open ControlPlane.Data ControlPlane.Interleaving

/-- A trigger was written, and no resume has returned since. -/
def Halted : SwitchPast → Prop
  | [] => False
  | t :: past =>
    match t.label with
    | .wrote _ call _ => call.target = .triggered ∨ Halted past
    | .returned _ call _ => call.target ≠ .armed ∧ Halted past
    | _ => Halted past

def Blocked (inst : Switch) : Prop := inst.busy = none → isExecutionAllowed inst.state = .ok false

/-- As long as execution is halted, every instance that is asked says so. -/
def StaysHalted (earlier : SwitchPast) (t : Transition Switches SwitchLabel) : Prop :=
  Halted (t :: earlier) → ∀ i inst, t.after.instances i = some inst → Blocked inst

/-- Instances are opened on complete writes that halt, and a trigger is written when no other instance is armed. -/
def HaltSafe (host : Host) (earlier : SwitchPast) (t : Transition Switches SwitchLabel) : Prop :=
  match t.label with
  | .opened _ => Halted earlier → ∃ call state, lastWrite host earlier = .whole call state ∧ call.target ≠ .armed
  | .wrote i call _ => call.target = .triggered → ∀ j inst, j ≠ i → t.before.instances j = some inst → Blocked inst
  | _ => True

variable {host : Host} {w w' : Switches} {past : SwitchPast} {l : SwitchLabel} {i j : Nat} {state : Record} {call : SwitchCall}
  {s : KillswitchState} {inst : Switch}

theorem blocked_iff (idle : inst.busy = none) (is : inst.state = .dict state) (of : StateOf s state) :
    Blocked inst ↔ s ≠ .disarmed ∧ s ≠ .armed := by
  unfold Blocked
  rw [is, of.blocked_iff]
  exact ⟨fun blocked => blocked idle, fun blocked _ => blocked⟩

theorem blocked_busy {busy : Busy} (is : inst.busy = some busy) : Blocked inst := by
  intro idle
  rw [is] at idle
  cases idle

/-- A call other than a resume leads to a state in which execution is blocked. -/
theorem target_blocked (other : call.target ≠ .armed) : call.target ≠ .disarmed ∧ call.target ≠ .armed := by
  cases call with
  | executeControlledResume => exact absurd rfl other
  | _ =>
    refine ⟨?_, other⟩
    intro same
    cases same

theorem halted_written (halted : Halted past) : lastWrite host past ≠ .never := by
  induction past with
  | nil => exact halted.elim
  | cons t past ih =>
    unfold Halted at halted
    unfold lastWrite
    cases label : t.label with
    | wrote i call state =>
      dsimp only
      split <;> intro same <;> cases same
    | emptied i =>
      intro same
      cases same
    | returned i call record =>
      rw [label] at halted
      exact ih halted.2
    | opened | began | crashed =>
      rw [label] at halted
      exact ih halted

/-- What an opened instance says. -/
theorem opened_blocked {now : ℚ} (running : Running host past w) (halted : Halted past) :
    Blocked ⟨loadState host now w.file, none⟩ ↔ ∃ call state, lastWrite host past = .whole call state ∧ call.target ≠ .armed := by
  obtain ⟨loaded, of⟩ : loadState host now w.file = _ ∧ _ := running.file.load
  have written : lastWrite host past ≠ .never := halted_written halted
  rw [blocked_iff rfl loaded of]
  cases last : lastWrite host past with
  | never => exact absurd last written
  | torn =>
    constructor
    · intro blocked
      exact absurd rfl blocked.2
    · intro complete
      obtain ⟨call, state, same, -⟩ := complete
      cases same
  | whole call state =>
    constructor
    · intro blocked
      exact ⟨call, state, rfl, blocked.2⟩
    · intro complete
      obtain ⟨call', state', same, other⟩ := complete
      cases same
      exact target_blocked other

/-- The instances other than this one are as before. -/
theorem blocked_put {inst' : Switch} (here : Blocked inst') (others : ∀ j inst, j ≠ i → w.instances j = some inst → Blocked inst) :
    ∀ j inst, (w.put i (some inst')).instances j = some inst → Blocked inst := by
  intro j inst found
  by_cases same : j = i
  · subst same
    rw [switch_put_self] at found
    cases found
    exact here
  · rw [switch_put_of_ne same] at found
    exact others j inst same found

/-- Whether execution stays halted is decided where an instance is opened and where a trigger is written. -/
theorem stays_halted_iff (running : Running host past w) (step : SwitchStep host w l w')
    (halted : Halted past → ∀ i inst, w.instances i = some inst → Blocked inst) :
    StaysHalted past ⟨w, l, w'⟩ ↔ HaltSafe host past ⟨w, l, w'⟩ := by
  unfold StaysHalted HaltSafe
  dsimp only
  cases step with
  | @opened i now free =>
    dsimp only
    constructor
    · intro stays still
      exact (opened_blocked running still).mp (stays still i _ switch_put_self)
    · intro complete still
      exact blocked_put ((opened_blocked running still).mpr (complete still)) fun j inst _ found => halted still j inst found
  | @began i state now call here =>
    refine iff_of_true ?_ trivial
    intro still
    cases beginCall host now state call with
    | raised fault => exact halted still
    | refused reason => exact halted still
    | changed state' event => exact blocked_put (blocked_busy rfl) fun j inst _ found => halted still j inst found
  | emptied now here =>
    refine iff_of_true ?_ trivial
    intro still
    exact blocked_put (blocked_busy rfl) fun j inst _ found => halted still j inst found
  | @wrote i state call event here =>
    dsimp only
    constructor
    · intro stays triggered j inst other found
      exact stays (.inl triggered) j inst ((switch_put_of_ne other).trans found)
    · intro others still
      refine blocked_put (blocked_busy rfl) ?_
      intro j inst other found
      rcases still with triggered | still
      · exact others triggered j inst other found
      · exact halted still j inst found
  | @returned i state call event ts auditFile here =>
    refine iff_of_true ?_ trivial
    intro still
    obtain ⟨other, still⟩ := still
    obtain ⟨s, state', is, of, target⟩ := running.kept _ _ here
    have same := target _ rfl
    dsimp only at is
    subst same is
    exact blocked_put ((blocked_iff rfl rfl of).mpr (target_blocked other)) fun j inst _ found => halted still j inst found
  | @crashed i inst here =>
    refine iff_of_true ?_ trivial
    intro still j inst found
    by_cases same : j = i
    · subst same
      rw [switch_put_self] at found
      cases found
    · rw [switch_put_of_ne same] at found
      exact halted still j inst found

theorem stayed (history : History (SwitchStep host) noSwitches past w) (stays : Along StaysHalted past) :
    Halted past → ∀ i inst, w.instances i = some inst → Blocked inst := by
  cases history with
  | start => exact fun halted => halted.elim
  | step history step => exact stays.1

/-- A triggered killswitch holds exactly in the runs that are safe for it. -/
theorem halt_holds_iff (history : History (SwitchStep host) noSwitches past w) :
    Along StaysHalted past ↔ Along (HaltSafe host) past := by
  induction history with
  | start => exact Iff.rfl
  | @step past w l w' history step ih =>
    constructor
    · intro along
      obtain ⟨here, before⟩ := along
      exact ⟨(stays_halted_iff (running history) step (stayed history before)).mp here, ih.mp before⟩
    · intro along
      obtain ⟨here, before⟩ := along
      have stays := ih.mpr before
      exact ⟨(stays_halted_iff (running history) step (stayed history stays)).mpr here, stays⟩

/-- A triggered killswitch dies on its way into recovery, and another instance is opened. -/
def diedInRecovery : List SwitchMove :=
  [.open' 0 0, .call 0 1 (.trigger "FAIL" "WATCHDOG" none), .proceed 0 1, .proceed 0 1, .proceed 0 1,
    .call 0 2 (.enterRecoveryPending true "SEC_ADMIN_1"), .proceed 0 2, .crash 0, .open' 1 3]

theorem halt_holds_iff_died : Along StaysHalted (History.attempt (trySwitch sampleHost) noSwitches diedInRecovery).1 ↔
    Along (HaltSafe sampleHost) (History.attempt (trySwitch sampleHost) noSwitches diedInRecovery).1 :=
  halt_holds_iff (History.history_attempt _ trySwitch_step _ _)

/-- It is armed. -/
theorem halt_lost : ¬ Along StaysHalted (History.attempt (trySwitch sampleHost) noSwitches diedInRecovery).1 := by
  intro stays
  obtain ⟨here, -⟩ := stays
  have halted : Halted (History.attempt (trySwitch sampleHost) noSwitches diedInRecovery).1 := ⟨by decide, .inl rfl⟩
  have blocked := here halted 1 ⟨.dict (defaultState 3), none⟩ rfl rfl
  cases blocked

end ControlPlane.Directive
