import ControlPlane.Data.SlidingWindow
import ControlPlane.Directive.AuditTrails
import ControlPlane.Interleaving.History

/-!
# Retry storms

`attempt_retry` of `recovery_engine.py`: the times of the calls for each directive, pruned to the
window at each call, and how many calls of a window they let through.
-/

namespace ControlPlane.Directive

open ControlPlane.Data ControlPlane.Interleaving

structure RetryLimits where
  maxRetries : Int
  retryWindowSeconds : Int

/-- `retry_history` -/
abbrev RetryTimes := Dict String (List ℚ)

/-- A call, with the time it reads, the time of its event, and whether the ledger takes the event. -/
structure RetryCall where
  directiveId : String
  now : ℚ
  eventTime : String
  recorded : Bool

structure RetryAnswer where
  authorized : Bool
  attemptCount : Nat
  reason : String
  deriving DecidableEq

/-- The times afterwards, the event, and the answer; there is none where the ledger raises. -/
structure RetryOutcome where
  times : RetryTimes
  event : RecoveryAudit
  answer : Option RetryAnswer

section

variable (limits : RetryLimits)

def stormDetected (call : RetryCall) (attemptCount : Nat) : RecoveryAudit where
  timestamp := call.eventTime
  eventType := ⟨.str "RETRY_STORM_DETECTED", trivial⟩
  directiveId := ⟨.str call.directiveId, trivial⟩
  details := ⟨[("attempt_count", .int attemptCount), ("max_retries", .int limits.maxRetries),
    ("window_seconds", .int limits.retryWindowSeconds)], by simp [Dict.Distinct, Dict.keys], trivial, trivial, trivial, trivial⟩

def retryInitiated (call : RetryCall) (attemptCount : Nat) : RecoveryAudit where
  timestamp := call.eventTime
  eventType := ⟨.str "SAFE_RETRY_INITIATED", trivial⟩
  directiveId := ⟨.str call.directiveId, trivial⟩
  details := ⟨[("attempt_count", .int attemptCount), ("max_retries", .int limits.maxRetries)], by simp [Dict.Distinct, Dict.keys], trivial, trivial, trivial⟩

/-- `attempt_retry` -/
def attemptRetry (times : RetryTimes) (call : RetryCall) : RetryOutcome :=
  let history := (times.get? call.directiveId).getD []
  let recent := within (limits.retryWindowSeconds : ℚ) call.now history ++ [call.now]
  let attemptCount := recent.length
  if limits.maxRetries < attemptCount then
    ⟨times.set call.directiveId recent, stormDetected limits call attemptCount,
      if call.recorded then some ⟨false, attemptCount, "RETRY_STORM_LIMIT_EXCEEDED"⟩ else none⟩
  else
    ⟨times.set call.directiveId recent, retryInitiated limits call attemptCount,
      if call.recorded then some ⟨true, attemptCount, "RETRY_AUTHORIZED"⟩ else none⟩

/-- The times of one engine, and the last time that was read. -/
structure RetryState where
  times : RetryTimes
  clock : ℚ

structure RetryDone where
  call : RetryCall
  answer : Option RetryAnswer

/-- Time does not go back. -/
inductive RetryStep : RetryState → RetryDone → RetryState → Prop
  | attempt {s : RetryState} (call : RetryCall) (forward : s.clock ≤ call.now) :
      RetryStep s ⟨call, (attemptRetry limits s.times call).answer⟩ ⟨(attemptRetry limits s.times call).times, call.now⟩

/-- The calls since an engine was made, newest first. -/
abbrev RetryHistory (clock : ℚ) := History (RetryStep limits) ⟨[], clock⟩

end

/-- A call for `d` at a time of the closed window. -/
def RetryDone.inWindow (d : String) (start stop : ℚ) (c : RetryDone) : Bool :=
  c.call.directiveId = d ∧ start ≤ c.call.now ∧ c.call.now ≤ stop

def RetryDone.authorized (c : RetryDone) : Bool := c.answer.any (·.authorized)

def callsIn (d : String) (start stop : ℚ) (past : List (Transition RetryState RetryDone)) : Nat :=
  past.countP fun t => t.label.inWindow d start stop

def authorizedIn (d : String) (start stop : ℚ) (past : List (Transition RetryState RetryDone)) : Nat :=
  past.countP fun t => t.label.authorized && t.label.inWindow d start stop

/-- The times of all calls for `d`. -/
def timesOf (d : String) : List (Transition RetryState RetryDone) → List ℚ
  | [] => []
  | t :: past => if t.label.call.directiveId = d then timesOf d past ++ [t.label.call.now] else timesOf d past

section

variable {limits : RetryLimits} {times : RetryTimes} {call : RetryCall} {d : String} {start stop clock : ℚ} {s : RetryState}
  {past : List (Transition RetryState RetryDone)}

/-- What a call keeps of the times: those in its window, and its own. -/
def recentTimes (limits : RetryLimits) (times : RetryTimes) (call : RetryCall) : List ℚ :=
  within (limits.retryWindowSeconds : ℚ) call.now ((times.get? call.directiveId).getD []) ++ [call.now]

theorem attemptRetry_times : (attemptRetry limits times call).times = times.set call.directiveId (recentTimes limits times call) := by
  unfold attemptRetry recentTimes
  dsimp only
  split
  · rfl
  · rfl

theorem attemptRetry_answer {answer : RetryAnswer} (returned : (attemptRetry limits times call).answer = some answer) :
    answer.authorized = true ↔ ((recentTimes limits times call).length : Int) ≤ limits.maxRetries := by
  unfold attemptRetry at returned
  dsimp only at returned
  unfold recentTimes
  split at returned
  · rename_i storm
    obtain ⟨-, same⟩ := (Option.ite_none_right_eq_some).mp returned
    rw [← Option.some.inj same]
    have refused : ¬ ((recentTimes limits times call).length : Int) ≤ limits.maxRetries := not_le.mpr storm
    simpa [recentTimes] using refused
  · rename_i calm
    obtain ⟨-, same⟩ := (Option.ite_none_right_eq_some).mp returned
    rw [← Option.some.inj same]
    have fits : ((recentTimes limits times call).length : Int) ≤ limits.maxRetries := not_lt.mp calm
    simpa [recentTimes] using fits

theorem attemptRetry_returns (recorded : call.recorded = true) : ∃ answer, (attemptRetry limits times call).answer = some answer := by
  unfold attemptRetry
  simp only [recorded, ↓reduceIte]
  split
  · exact ⟨_, rfl⟩
  · exact ⟨_, rfl⟩

theorem RetryStep.inv {l : RetryDone} {s' : RetryState} (moved : RetryStep limits s l s') :
    s.clock ≤ l.call.now ∧ l.answer = (attemptRetry limits s.times l.call).answer ∧
      s' = ⟨(attemptRetry limits s.times l.call).times, l.call.now⟩ := by
  cases moved with
  | attempt call forward => exact ⟨forward, rfl, rfl⟩

/-- The list that is kept answers for all calls so far, and none of them is later. -/
structure Remembered (limits : RetryLimits) (past : List (Transition RetryState RetryDone)) (s : RetryState) : Prop where
  agree : ∀ d, Agree (limits.retryWindowSeconds : ℚ) s.clock ((s.times.get? d).getD []) (timesOf d past)
  passed : ∀ t ∈ past, t.label.call.now ≤ s.clock

theorem Remembered.attempt (counted : Remembered limits past s) (forward : s.clock ≤ call.now) {t : Transition RetryState RetryDone}
    (own : t.label.call = call) :
    Remembered limits (t :: past) ⟨(attemptRetry limits s.times call).times, call.now⟩ := by
  constructor
  · intro d
    rw [attemptRetry_times, timesOf, own]
    by_cases same : call.directiveId = d
    · rw [if_pos same, same, Dict.get?_set_self, ← same]
      exact (counted.agree call.directiveId).prune forward
    · rw [if_neg same, Dict.get?_set_of_ne same]
      exact (counted.agree d).later forward
  · intro u member
    rcases List.mem_cons.mp member with rfl | member
    · exact own ▸ le_rfl
    · exact (counted.passed u member).trans forward

theorem remembered (history : RetryHistory limits clock past s) : Remembered limits past s := by
  induction history with
  | start => exact ⟨fun d later _ => rfl, by simp⟩
  | step history moved ih =>
    cases moved with
    | attempt call forward => exact ih.attempt forward rfl

/-- The kept times of a window are as many as its calls. -/
theorem within_timesOf (passed : ∀ t ∈ past, t.label.call.now ≤ stop) (span : ℚ) :
    (within span stop (timesOf d past)).length = callsIn d (stop - span) stop past := by
  induction past with
  | nil => rfl
  | cons t past ih =>
    obtain ⟨here, earlier⟩ := List.forall_mem_cons.mp passed
    have rest := ih earlier
    unfold callsIn at rest ⊢
    rw [timesOf, List.countP_cons]
    by_cases same : t.label.call.directiveId = d
    · rw [if_pos same, within_append, List.length_append, rest]
      have inside : stop - t.label.call.now ≤ span ↔ stop - span ≤ t.label.call.now := sub_le_comm
      by_cases recent : stop - span ≤ t.label.call.now
      · simp only [within, RetryDone.inWindow, same, here, inside, recent, List.filter_cons, List.filter_nil, decide_true,
          and_self, ↓reduceIte, List.length_singleton]
      · simp only [within, RetryDone.inWindow, inside, recent, List.filter_cons, List.filter_nil, decide_false, and_false,
          false_and, Bool.false_eq_true, ↓reduceIte, List.length_nil]
    · rw [if_neg same, rest]
      simp [RetryDone.inWindow, same]

/-- A call counts itself and all earlier calls of its window. -/
theorem Remembered.length (counted : Remembered limits past s) (forward : s.clock ≤ call.now) :
    (recentTimes limits s.times call).length =
      callsIn call.directiveId (call.now - limits.retryWindowSeconds) call.now past + 1 := by
  have passed : ∀ t ∈ past, t.label.call.now ≤ call.now := fun t member => (counted.passed t member).trans forward
  rw [recentTimes, List.length_append, counted.agree call.directiveId call.now forward, within_timesOf passed]
  rfl

/-- What was authorised in a window that has not ended was called for in the window that ends now. -/
theorem authorizedIn_le {now : ℚ} (passed : ∀ t ∈ past, t.label.call.now ≤ now) {span : ℚ} (running : now ≤ start + span) :
    authorizedIn d start (start + span) past ≤ callsIn d (now - span) now past := by
  refine List.countP_mono_left fun t member counted => ?_
  obtain ⟨-, inside⟩ := Bool.and_eq_true_iff.mp counted
  have before := passed t member
  simp only [RetryDone.inWindow, decide_eq_true_eq] at inside ⊢
  obtain ⟨own, after, -⟩ := inside
  refine ⟨own, ?_, before⟩
  linarith

theorem authorizedIn_bound (history : RetryHistory limits clock past s) (d : String) (start : ℚ) :
    (authorizedIn d start (start + limits.retryWindowSeconds) past : Int) ≤ max limits.maxRetries 0 := by
  induction history with
  | start => exact le_max_right _ _
  | @step past s l s' history moved ih =>
    have sound := remembered history
    obtain ⟨forward, answered, -⟩ := moved.inv
    unfold authorizedIn at ih ⊢
    rw [List.countP_cons]
    by_cases here : (l.authorized && l.inWindow d start (start + limits.retryWindowSeconds)) = true
    · obtain ⟨authorized, inside⟩ := Bool.and_eq_true_iff.mp here
      obtain ⟨answer, returned, yes⟩ := (Option.any_eq_true _ _).mp authorized
      have fits := (attemptRetry_answer (answered.symm.trans returned)).mp yes
      rw [sound.length forward] at fits
      simp only [RetryDone.inWindow, decide_eq_true_eq] at inside
      obtain ⟨own, -, running⟩ := inside
      have passed : ∀ t ∈ past, t.label.call.now ≤ l.call.now := fun t member => (sound.passed t member).trans forward
      have fewer := authorizedIn_le (d := d) passed running
      unfold authorizedIn at fewer
      rw [own] at fits
      rw [if_pos here]
      refine le_max_of_le_left ?_
      omega
    · rw [if_neg here]
      exact ih

/-! ### The bound -/

/-- No window of the length sees more than `max_retries` calls authorised, and a call that finds fewer in the window
behind it is authorised. -/
theorem retry_storm_bound (history : RetryHistory limits clock past s) (d : String) :
    (∀ start : ℚ, (authorizedIn d start (start + limits.retryWindowSeconds) past : Int) ≤ max limits.maxRetries 0) ∧
      ∀ later t earlier, past = later ++ t :: earlier → t.label.call.directiveId = d → t.label.call.recorded = true →
        (callsIn d (t.label.call.now - limits.retryWindowSeconds) t.label.call.now earlier : Int) < limits.maxRetries →
        t.label.authorized = true := by
  refine ⟨authorizedIn_bound history d, ?_⟩
  rintro later t earlier rfl rfl recorded fewer
  obtain ⟨before, taken⟩ := history.upTo
  obtain ⟨forward, answered, -⟩ := taken.inv
  obtain ⟨answer, returned⟩ : ∃ answer, (attemptRetry limits t.before.times t.label.call).answer = some answer :=
    attemptRetry_returns recorded
  refine (Option.any_eq_true _ _).mpr ⟨answer, answered.trans returned, (attemptRetry_answer returned).mpr ?_⟩
  rw [(remembered before).length forward]
  push_cast
  omega

def tryRetry (limits : RetryLimits) (s : RetryState) (call : RetryCall) : Option (RetryDone × RetryState) :=
  if s.clock ≤ call.now then
    some (⟨call, (attemptRetry limits s.times call).answer⟩, ⟨(attemptRetry limits s.times call).times, call.now⟩)
  else none

theorem tryRetry_step {made : RetryDone × RetryState} (taken : tryRetry limits s call = some made) :
    RetryStep limits s made.1 made.2 := by
  unfold tryRetry at taken
  obtain ⟨forward, same⟩ := (Option.ite_none_right_eq_some).mp taken
  rw [← Option.some.inj same]
  exact .attempt call forward

/-- `DIR-1` is tried four times within a minute, and again when the minute is over. -/
def retryCalls : List RetryCall :=
  [⟨"DIR-1", 0, "2026-01-01T00:00:00+00:00", true⟩, ⟨"DIR-1", 20, "2026-01-01T00:00:20+00:00", true⟩,
    ⟨"DIR-2", 30, "2026-01-01T00:00:30+00:00", true⟩, ⟨"DIR-1", 40, "2026-01-01T00:00:40+00:00", true⟩,
    ⟨"DIR-1", 60, "2026-01-01T00:01:00+00:00", true⟩, ⟨"DIR-1", 121, "2026-01-01T00:02:01+00:00", true⟩]

theorem retry_storm_bounded :
    authorizedIn "DIR-1" 0 60 (History.attempt (tryRetry ⟨3, 60⟩) ⟨[], 0⟩ retryCalls).1 = 3 ∧
      (authorizedIn "DIR-1" 0 (0 + 60) (History.attempt (tryRetry ⟨3, 60⟩) ⟨[], 0⟩ retryCalls).1 : Int) ≤ max 3 0 := by
  have history : RetryHistory ⟨3, 60⟩ 0 (History.attempt (tryRetry ⟨3, 60⟩) ⟨[], 0⟩ retryCalls).1
      (History.attempt (tryRetry ⟨3, 60⟩) ⟨[], 0⟩ retryCalls).2 :=
    History.history_attempt _ (fun _ _ _ taken => tryRetry_step taken) ⟨[], 0⟩ retryCalls
  exact ⟨by decide +kernel, (retry_storm_bound history "DIR-1").1 0⟩

end

end ControlPlane.Directive
