import ControlPlane.Autonomy.Service
import Mathlib.Tactic.Linarith

/-!
# Bounded runs of the service

A run ends with a code within its bound of rounds, as long as the health writes that its handlers
make succeed and the `IDLE` write of a cycle that reaches the bound is not retried.
-/

namespace ControlPlane.Autonomy.Service

open ControlPlane.Data

/-- How many transient failures there are since `run_once` last returned. -/
def streak (rounds : List Round) : Nat :=
  rounds.foldl (fun n r => (if r.ran then 0 else n) + if r.failed then 1 else 0) 0

/-- Every failure that was retried is within the limit, and was followed by its wait. -/
def RetriedProperly (config : ServiceConfig) (rounds : List Round) : Prop :=
  ∀ front r, front ++ [r] <+: rounds → r.failed = true →
    streak (front ++ [r]) ≤ config.maxConsecutiveTransientFailures ∧ r.waited = backoff config (streak (front ++ [r]))

/-- The run returns a code, after few enough rounds, and its failures were retried properly. -/
def Contained (host : ServiceHost) (cycles : Nat) (start : Loop) (script : Nat → RoundAnswers) : Prop :=
  ∃ n l code, after host (some cycles) script start n = .ended l (.ok code) ∧ code ∈ [0, 3, 4, 5] ∧
    l.rounds.length + 1 ≤ cycles * (host.config.maxConsecutiveTransientFailures + 1) ∧ RetriedProperly host.config l.rounds

/-- What the `try` block of a round raises. -/
def RoundAnswers.failure (a : RoundAnswers) : Option Failure := a.running.fails.or (a.runOnce.or a.idle.fails)

/-- A round in which no handler fails, and no cycle that reaches the bound is retried. -/
structure Calm (host : ServiceHost) (cycles : Nat) (l : Loop) (a : RoundAnswers) : Prop where
  handled : a.failure.isSome = true → a.handler.fails = none
  stops : a.failure = none → cycles ≤ l.completed + 1 → a.stopping.fails = none ∧ a.stopped.fails = none
  idle : a.running.fails = none → a.runOnce = none → ∀ e, a.idle.fails = some e → host.transient e = true →
    l.completed + 1 < cycles

section
variable {host : ServiceHost} {cycles : Nat} {script : Nat → RoundAnswers} {a : RoundAnswers} {start l l' : Loop}
  {w : Write} {row : Option HealthRow} {call : HealthCall} {e : Failure} {code : Nat}

@[simp] theorem health_ok (written : w.fails = none) : health host w row call = .ok (some (healthRow host w.now row call)) := by
  simp [health, written]

@[simp] theorem health_raises (fails : w.fails = some e) : health host w row call = .error e := by simp [health, fails]

/-- What one round in the `try` block leaves, by what fails in it. -/
theorem body_cases : ∃ row', body host (some cycles) a l =
    if a.running.fails.isSome || a.runOnce.isSome then
      ({ l with row := row' }, .error (a.failure.getD .timeout))
    else match a.idle.fails with
      | some e => (⟨0, l.completed + 1, row', l.rounds⟩, .error e)
      | none => (⟨0, l.completed + 1, row', l.rounds⟩, .ok (decide (cycles ≤ l.completed + 1))) := by
  unfold body RoundAnswers.failure
  cases running : a.running.fails with
  | some e => exact ⟨l.row, by simp [running]⟩
  | none =>
    rw [health_ok running]
    cases ran : a.runOnce with
    | some e => exact ⟨_, by simp; rfl⟩
    | none =>
      cases idle : a.idle.fails with
      | some e => exact ⟨_, by simp [idle]; rfl⟩
      | none => exact ⟨_, by simp [idle]; rfl⟩

theorem finish_returns (handled : a.handler.fails = none) :
    ∃ row, finish host a l call code = .ended { l with row := row } (.ok code) := by
  unfold finish
  rw [health_ok handled]
  exact ⟨_, rfl⟩

/-- An exception is retried where it is transient; another one ends the run with its code. -/
theorem handle_eq {ran : Bool} : host.transient e = true ∧ handle host a ran l e = retry host a ran l e ∨
    ∃ call code, handle host a ran l e = finish host a l call code ∧ code ∈ [0, 3, 4, 5] := by
  cases e with
  | integrityBlocked => exact .inr ⟨_, 4, rfl, by decide⟩
  | blocked => exact .inr ⟨_, 3, rfl, by decide⟩
  | database name => exact .inr ⟨_, 5, rfl, by decide⟩
  | other name => exact .inr ⟨_, 5, rfl, by decide⟩
  | timeout => exact .inl ⟨rfl, rfl⟩
  | operational text =>
    by_cases transient : host.transient (.operational text) = true
    · exact .inl ⟨transient, by simp only [handle, transient, if_true]⟩
    · exact .inr ⟨{ status := .crashed, error := some "OperationalError", reason := some "FATAL" }, 5,
        by simp only [handle, transient]; rfl, by decide⟩

/-- Where the handler's write succeeds, the run ends with a code or waits for its next round. -/
theorem handle_cases {ran : Bool} (handled : a.handler.fails = none) :
    (∃ l' code, handle host a ran l e = .ended l' (.ok code) ∧ code ∈ [0, 3, 4, 5] ∧ l'.rounds = l.rounds) ∨
    host.transient e = true ∧ l.failures + 1 ≤ host.config.maxConsecutiveTransientFailures ∧
      ∃ row, handle host a ran l e =
        .going ⟨l.failures + 1, l.completed, row, l.rounds ++ [⟨ran, true, backoff host.config (l.failures + 1)⟩]⟩ := by
  have finishes : ∀ {l₀ : Loop} {call : HealthCall} {code : Nat}, l₀.rounds = l.rounds → code ∈ [0, 3, 4, 5] →
      ∃ l' code', finish host a l₀ call code = .ended l' (.ok code') ∧ code' ∈ [0, 3, 4, 5] ∧ l'.rounds = l.rounds := by
    intro l₀ call code same known
    obtain ⟨row, ended⟩ := @finish_returns host a l₀ call code handled
    exact ⟨_, code, ended, known, same⟩
  obtain ⟨transient, same⟩ | ⟨call, code, same, known⟩ := @handle_eq host a l e ran
  · rw [same]
    unfold retry
    by_cases limit : host.config.maxConsecutiveTransientFailures < l.failures + 1
    · left
      simp only [limit, if_true]
      exact finishes rfl (by decide)
    · right
      refine ⟨transient, Nat.le_of_not_lt limit, ?_⟩
      simp only [limit, if_false]
      rw [health_ok handled]
      exact ⟨_, rfl⟩
  · left
    rw [same]
    exact finishes rfl known

theorem streak_concat {rounds : List Round} {r : Round} :
    streak (rounds ++ [r]) = (if r.ran then 0 else streak rounds) + if r.failed then 1 else 0 := by
  simp [streak, List.foldl_append]

theorem RetriedProperly.concat {config : ServiceConfig} {rounds : List Round} {r : Round} (proper : RetriedProperly config rounds)
    (last : r.failed = true → streak (rounds ++ [r]) ≤ config.maxConsecutiveTransientFailures ∧
      r.waited = backoff config (streak (rounds ++ [r]))) : RetriedProperly config (rounds ++ [r]) := by
  intro front r' initial failed
  rcases List.prefix_concat_iff.mp initial with same | earlier
  · obtain ⟨rfl, one⟩ := List.append_inj' same rfl
    obtain rfl := List.singleton_inj.mp one
    exact last failed
  · exact proper front r' earlier failed

/-- What holds while the loop goes on: each finished cycle was followed by no more failures than are retried. -/
structure Going (host : ServiceHost) (cycles : Nat) (l : Loop) : Prop where
  few : l.failures ≤ host.config.maxConsecutiveTransientFailures
  before : l.completed < cycles
  length : l.rounds.length ≤ l.completed * (host.config.maxConsecutiveTransientFailures + 1) + l.failures
  counted : streak l.rounds = l.failures
  proper : RetriedProperly host.config l.rounds

/-- How a round ends that does not go on. -/
def Returns (l : Loop) : Progress → Prop
  | .ended l' outcome => ∃ code, outcome = .ok code ∧ code ∈ [0, 3, 4, 5] ∧ l'.rounds = l.rounds
  | .going _ => False

/-- A failure that is handled ends the run or is retried. -/
theorem handled_cases {ran : Bool} {l₁ : Loop} (same : l₁.rounds = l.rounds) (before : host.transient e = true → l₁.completed < cycles)
    (counted : l₁.failures = if ran then 0 else streak l.rounds) (proper : RetriedProperly host.config l.rounds)
    (length : l.rounds.length + 1 ≤ l₁.completed * (host.config.maxConsecutiveTransientFailures + 1) + (l₁.failures + 1))
    (handled : a.handler.fails = none) :
    Returns l (handle host a ran l₁ e) ∨
    ∃ l', handle host a ran l₁ e = .going l' ∧ Going host cycles l' ∧ l'.rounds.length = l.rounds.length + 1 := by
  obtain ⟨l', code, ended, known, rounds⟩ | ⟨transient, few, row, went⟩ := @handle_cases host a l₁ e ran handled
  · left
    rw [ended]
    exact ⟨code, rfl, known, rounds.trans same⟩
  · right
    refine ⟨_, went, ?_, by rw [same, List.length_append]; rfl⟩
    have now : streak (l₁.rounds ++ [⟨ran, true, backoff host.config (l₁.failures + 1)⟩]) = l₁.failures + 1 := by
      rw [streak_concat, counted, same]
      rfl
    refine ⟨few, before transient, ?_, now, ?_⟩
    · rw [List.length_append, same]
      exact length
    · rw [same] at now ⊢
      refine proper.concat fun _ => ?_
      rw [now]
      exact ⟨few, rfl⟩

theorem round_cases (going : Going host cycles l) (calm : Calm host cycles l a) :
    Returns l (round host (some cycles) a l) ∨
    ∃ l', round host (some cycles) a l = .going l' ∧ Going host cycles l' ∧ l'.rounds.length = l.rounds.length + 1 := by
  obtain ⟨row', done⟩ := @body_cases host cycles a l
  obtain ⟨few, before, length, counted, proper⟩ := going
  unfold round
  rw [done]
  by_cases early : (a.running.fails.isSome || a.runOnce.isSome) = true
  · -- the round failed before `run_once` returned
    have failed : a.failure.isSome = true := by
      unfold RoundAnswers.failure
      cases one : a.running.fails <;> cases two : a.runOnce <;> simp_all
    rw [if_pos early]
    have ran : decide (l.completed < l.completed) = false := by simp
    simp only [ran]
    refine handled_cases rfl (fun _ => before) ?_ proper ?_ (calm.handled failed)
    · exact counted.symm
    · show l.rounds.length + 1 ≤ l.completed * _ + (l.failures + 1)
      omega
  · rw [if_neg early]
    have running : a.running.fails = none := by cases one : a.running.fails <;> simp_all
    have once : a.runOnce = none := by cases two : a.runOnce <;> simp_all
    have ran : decide (l.completed < l.completed + 1) = true := by simp
    have longer : l.rounds.length + 1 ≤ (l.completed + 1) * (host.config.maxConsecutiveTransientFailures + 1) := by
      rw [Nat.succ_mul]
      omega
    cases idle : a.idle.fails with
    | some e =>
      -- the cycle is done, but its last write failed
      have failed : a.failure.isSome = true := by simp [RoundAnswers.failure, running, once, idle]
      simp only [ran]
      exact handled_cases rfl (calm.idle running once e idle) rfl proper (Nat.le_succ_of_le longer) (calm.handled failed)
    | none =>
      have fine : a.failure = none := by simp [RoundAnswers.failure, running, once, idle]
      by_cases reached : cycles ≤ l.completed + 1
      · left
        obtain ⟨stopping, stopped⟩ := calm.stops fine reached
        simp only [reached, decide_true]
        unfold stop
        rw [health_ok stopping]
        simp only [health_ok stopped]
        exact ⟨0, rfl, by decide, rfl⟩
      · right
        simp only [reached, decide_false]
        refine ⟨_, rfl, ⟨Nat.zero_le _, Nat.lt_of_not_le reached, ?_, ?_, ?_⟩, by simp⟩
        · rw [List.length_append]
          exact longer
        · rw [streak_concat]
          rfl
        · exact proper.concat fun failed => by cases failed

/-- Where the loop stands after some rounds. -/
theorem after_cases (start₀ : start.failures = 0 ∧ start.completed = 0 ∧ start.rounds = []) (pos : 1 ≤ cycles)
    (calm : ∀ n l, after host (some cycles) script start n = .going l → Calm host cycles l (script n)) (n : Nat) :
    (∃ l, after host (some cycles) script start n = .going l ∧ Going host cycles l ∧ l.rounds.length = n) ∨
    ∃ l code, after host (some cycles) script start n = .ended l (.ok code) ∧ code ∈ [0, 3, 4, 5] ∧
      l.rounds.length + 1 ≤ cycles * (host.config.maxConsecutiveTransientFailures + 1) ∧ RetriedProperly host.config l.rounds := by
  induction n with
  | zero =>
    obtain ⟨failures, completed, rounds⟩ := start₀
    refine .inl ⟨start, rfl, ⟨by omega, by omega, by simp [rounds], by rw [rounds, failures]; rfl, ?_⟩, by rw [rounds]; rfl⟩
    rw [rounds]
    intro front r initial
    have none := List.prefix_nil.mp initial
    simp at none
  | succ n ih =>
    rcases ih with ⟨l, stands, going, length⟩ | ⟨l, code, ended, rest⟩
    · have next : after host (some cycles) script start (n + 1) = round host (some cycles) (script n) l := by
        rw [after, stands]
      rw [next]
      rcases round_cases going (calm n l stands) with returns | ⟨l', went, going', longer⟩
      · right
        cases ended : round host (some cycles) (script n) l with
        | going l' =>
          rw [ended] at returns
          exact returns.elim
        | ended l' outcome =>
          rw [ended] at returns
          obtain ⟨code, rfl, known, same⟩ := returns
          refine ⟨l', code, rfl, known, ?_, same ▸ going.proper⟩
          have room : l.completed * (host.config.maxConsecutiveTransientFailures + 1) +
              (host.config.maxConsecutiveTransientFailures + 1) ≤ cycles * (host.config.maxConsecutiveTransientFailures + 1) := by
            rw [← Nat.succ_mul]
            exact Nat.mul_le_mul_right _ going.before
          have few := going.few
          have bound := going.length
          rw [same]
          omega
      · exact .inl ⟨l', went, going', by rw [longer, length]⟩
    · right
      refine ⟨l, code, ?_, rest⟩
      rw [after, ended]

end

/-- A start that succeeds leaves nothing counted. -/
theorem startUp_ok {host : ServiceHost} {cycles : Nat} {answers : StartAnswers} {start : Loop}
    (started : startUp host (some cycles) answers = .ok start) :
    start.failures = 0 ∧ start.completed = 0 ∧ start.rounds = [] ∧ 1 ≤ cycles := by
  unfold startUp at started
  obtain ⟨bound, started⟩ := require_bind_ok.mp started
  obtain ⟨-, started⟩ := require_bind_ok.mp started
  obtain ⟨_, -, started⟩ := bind_ok.mp started
  obtain ⟨answer, -, started⟩ := bind_ok.mp started
  obtain ⟨-, started⟩ := require_bind_ok.mp started
  obtain ⟨_, -, started⟩ := bind_ok.mp started
  obtain ⟨row, -, started⟩ := bind_ok.mp started
  obtain rfl := pure_ok.mp started
  refine ⟨rfl, rfl, rfl, ?_⟩
  simp at bound
  exact bound.1

/-- A run of calm rounds is contained. -/
theorem service_contained (host : ServiceHost) (cycles : Nat) (answers : StartAnswers) (start : Loop)
    (started : startUp host (some cycles) answers = .ok start) (script : Nat → RoundAnswers)
    (calm : ∀ n l, after host (some cycles) script start n = .going l → Calm host cycles l (script n)) :
    Contained host cycles start script := by
  obtain ⟨failures, completed, rounds, pos⟩ := startUp_ok started
  have few := after_cases ⟨failures, completed, rounds⟩ pos calm
    (cycles * (host.config.maxConsecutiveTransientFailures + 1))
  rcases few with ⟨l, -, going, length⟩ | ⟨l, code, rest⟩
  · have room : l.completed * (host.config.maxConsecutiveTransientFailures + 1) +
        (host.config.maxConsecutiveTransientFailures + 1) ≤ cycles * (host.config.maxConsecutiveTransientFailures + 1) := by
      rw [← Nat.succ_mul]
      exact Nat.mul_le_mul_right _ going.before
    have failures := going.few
    have bound := going.length
    omega
  · exact ⟨_, l, code, rest⟩

/-- A configuration that retries three times. -/
def sampleConfig : ServiceConfig where
  cadenceSeconds := 1
  backoffInitialSeconds := 1
  backoffMaxSeconds := 60
  backoffMultiplier := 2
  maxConsecutiveTransientFailures := 3
  cadence := by norm_num
  initial := by norm_num
  maximum := by norm_num
  multiplier := by norm_num
  failures := by decide

def sampleService : ServiceHost := ⟨sampleConfig, "instance", id⟩

def succeeds : Write := ⟨0, none⟩

def sampleStart : StartAnswers := ⟨true, none, .ok (some "ok"), none, none, succeeds⟩

def firstLoop : Loop := ⟨0, 0, some (healthRow sampleService 0 none { status := .starting }), []⟩

/-- The store is locked when the first cycle runs, and no write fails. -/
def lockedOnce (n : Nat) : RoundAnswers where
  running := succeeds
  runOnce := if n = 0 then some (.operational "database is locked") else none
  idle := succeeds
  handler := succeeds
  retryClock := 0
  stopping := succeeds
  stopped := succeeds

theorem service_contained_locked : Contained sampleService 1 firstLoop lockedOnce :=
  service_contained sampleService 1 sampleStart firstLoop rfl lockedOnce fun _ _ _ =>
    ⟨fun _ => rfl, fun _ _ => ⟨rfl, rfl⟩, fun _ _ _ fails => by cases fails⟩

/-- The store stays locked while the backoff is written down. -/
def lockedTwice (n : Nat) : RoundAnswers := { lockedOnce n with handler := ⟨0, some (.operational "database is locked")⟩ }

/-- The second lock leaves the run as an exception. -/
theorem not_contained : ∃ start, startUp sampleService (some 1) sampleStart = .ok start ∧
    ¬ Contained sampleService 1 start lockedTwice := by
  refine ⟨firstLoop, rfl, ?_⟩
  rintro ⟨n, l, code, ended, -⟩
  have first : after sampleService (some 1) lockedTwice firstLoop 1 =
      .ended { firstLoop with
        failures := 1, row := some (healthRow sampleService 0 firstLoop.row { status := .running }) }
        (.error (.operational "database is locked")) := rfl
  have stays : ∀ m, after sampleService (some 1) lockedTwice firstLoop (m + 1) =
      after sampleService (some 1) lockedTwice firstLoop 1 := by
    intro m
    induction m with
    | zero => rfl
    | succ m ih => rw [after, ih, first]
  cases n with
  | zero => cases ended
  | succ m =>
    rw [stays, first] at ended
    cases ended

end ControlPlane.Autonomy.Service
