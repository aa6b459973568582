import ControlPlane.Directive.QueueAudit
import Mathlib.Data.List.Infix
import Mathlib.Logic.Function.Basic

/-!
# Several queues on one file

Each instance decides from the records it loaded and rewrites the whole file. As long as
nobody saves over another instance's save that it has not seen, the runs of the directives in the file
only grow, and no directive is claimed twice.
-/

namespace ControlPlane.Directive

open ControlPlane.Data ControlPlane.Interleaving

/-- The queue file, and the records of every instance that was opened on it. -/
structure World where
  file : Option String
  instances : Nat → Option Records

def World.recordsOf (w : World) (i : Nat) : Records := (w.instances i).getD []

/-- The instance now has these records, and the file this content. -/
def World.put (w : World) (i : Nat) (q : Queue) : World := ⟨q.file, Function.update w.instances i (some q.records)⟩

/-- What happens to the world: an instance is opened, or opened again after a restart, or called. -/
inductive Happening where
  | opened (i : Nat)
  | called (i : Nat) (c : Called)

inductive WorldStep (host : Host) : World → Happening → World → Prop
  | opened {w : World} (i : Nat) : WorldStep host w (.opened i) (w.put i ⟨(loadQueue host w.file).2, w.file⟩)
  | called {w : World} {i : Nat} {records : Records} {c : Called} {q : Queue} (open' : w.instances i = some records)
      (step : QueueStep host ⟨records, w.file⟩ c q) :
      WorldStep host w (.called i c) (w.put i q)

abbrev WorldPast := List (Transition World Happening)

/-- No file, and nobody there. -/
def emptyWorld : World := ⟨none, fun _ => none⟩

/-! ### Runs -/

/-- The transitions that led to a record, newest first: by which instance, and to which state. -/
abbrev Trail := List (Nat × DirectiveState)

/-- The trails behind the records of every instance, and behind those in the file. -/
structure Trails where
  memory : Nat → String → Trail
  file : String → Trail

def Trails.after (trails : Trails) (t : Transition World Happening) : Trails :=
  match t.label with
  | .opened i => ⟨Function.update trails.memory i trails.file, trails.file⟩
  | .called i c =>
    match stateOf (t.after.recordsOf i) c.call.directiveId with
    | none => trails
    | some s =>
      if stateOf (t.before.recordsOf i) c.call.directiveId = some s then trails
      else
        let trail := if s = .queued then [] else (i, s) :: trails.memory i c.call.directiveId
        let memory := Function.update (trails.memory i) c.call.directiveId trail
        ⟨Function.update trails.memory i memory, if c.answers.saved then memory else trails.file⟩

def trailsOf : WorldPast → Trails
  | [] => ⟨fun _ _ => [], fun _ => []⟩
  | t :: past => (trailsOf past).after t

/-! ### The property and its condition -/

/-- A transition of the directive that an instance reported as successful. -/
def Succeeds (i : Nat) (d : String) (target : DirectiveState) (t : Transition World Happening) : Prop :=
  ∃ c worker payload, t.label = .called i c ∧ c.call = .transition d target worker payload ∧ c.outcome.result = .ok none

/-- At most one claim of each directive succeeds. -/
def ClaimedOnce (past : WorldPast) : Prop :=
  past.Pairwise fun later earlier => ∀ d i j, ¬ (Succeeds i d .claimed later ∧ Succeeds j d .claimed earlier)

/-- The record in the file goes on from every transition that was reported: its trail ends in the trail of that time. -/
def NeverUndone (host : Host) (past : WorldPast) (w : World) : Prop :=
  (∀ d i s trail, (trailsOf past).file d = (i, s) :: trail → stateOf (loadQueue host w.file).2 d = some s) ∧
  ∀ later t earlier, past = later ++ t :: earlier → ∀ i d target, Succeeds i d target t →
    ∃ trail, (trailsOf (t :: earlier)).memory i d = (i, target) :: trail ∧
      (i, target) :: trail <:+ (trailsOf past).file d

/-- The call of this instance replaces the file. -/
def SavesBy (i : Nat) (t : Transition World Happening) : Prop :=
  ∃ c, t.label = .called i c ∧ c.answers.saved = true ∧ Enabled ⟨t.before.recordsOf i, t.before.file⟩ c.call

/-- Nobody else has saved since this instance loaded the file or saved it. -/
def Current (i : Nat) : WorldPast → Prop
  | [] => True
  | t :: past => t.label = .opened i ∨ SavesBy i t ∨ ((∀ j, ¬ SavesBy j t) ∧ Current i past)

/-- Whoever saves is current. -/
def CurrentSaves : WorldPast → Prop
  | [] => True
  | t :: past => (∀ i, SavesBy i t → Current i past) ∧ CurrentSaves past

/-! ### Trails and states -/

/-- A trail that leads from `QUEUED` to this state; a payload can end it anywhere. -/
inductive Led : Trail → DirectiveState → Prop
  | queued : Led [] .queued
  | moved {trail s t} (i : Nat) (led : Led trail s) (valid : t ∈ s.validTransitions) : Led ((i, t) :: trail) t
  | rejected {trail s} (i : Nat) (led : Led trail s) : Led ((i, .rejected) :: trail) .rejected

variable {host : Host} {answers : Answers} {q : Queue} {call : Call} {o : Outcome} {d : String} {i j : Nat} {trail : Trail}
  {s target : DirectiveState} {records : Records} {past : WorldPast} {w w' : World} {l : Happening} {t : Transition World Happening}

theorem Led.notAuthenticated (led : Led trail s) : s ≠ .authenticated := by
  induction led with
  | queued => decide
  | moved i led valid ih => exact (later_of_valid valid ih).2
  | rejected => decide

theorem Led.head (led : Led ((i, s) :: trail) target) : s = target := by
  cases led <;> rfl

/-- Only the empty trail leads to `QUEUED`. -/
theorem Led.nil_of_queued (led : Led trail .queued) : trail = [] := by
  cases led with
  | queued => rfl
  | moved i led valid => exact absurd rfl (later_of_valid valid led.notAuthenticated).1

/-- A claim is the first step of a trail. -/
theorem Led.claimed_first (led : Led ((i, .claimed) :: trail) s) : trail = [] := by
  cases led with
  | moved i led valid =>
    obtain rfl := queued_of_claimed valid
    exact led.nil_of_queued

/-- The trails are those of these records. -/
def Matches (records : Records) (trails : String → Trail) : Prop :=
  ∀ d, (stateOf records d = none ∧ trails d = []) ∨ ∃ s, stateOf records d = some s ∧ Led (trails d) s

theorem Matches.set {trails : String → Trail} {rec : Record} (fits : Matches records trails)
    (state : stateOf (records.set (.str d) rec) d = some s) (led : Led trail s) :
    Matches (records.set (.str d) rec) (Function.update trails d trail) := by
  intro d'
  by_cases same : d = d'
  · subst same
    rw [Function.update_self]
    exact .inr ⟨s, state, led⟩
  · rw [stateOf_set_of_ne same, Function.update_of_ne (Ne.symm same)]
    exact fits d'

/-- A call that gets past the checks extends the trail of its directive by one step, or begins it. -/
theorem Performed.led {trails : String → Trail} (performed : Performed host answers q call o) (enabled : Enabled q call)
    (fits : Matches q.records trails) (i : Nat) :
    ∃ s rec, o.records = q.records.set (.str call.directiveId) rec ∧ stateOf o.records call.directiveId = some s ∧
      stateOf q.records call.directiveId ≠ some s ∧
      Led (if s = .queued then [] else (i, s) :: trails call.directiveId) s ∧
      trails call.directiveId <:+ (if s = .queued then [] else (i, s) :: trails call.directiveId) ∧
      ∀ d target worker payload, call = .transition d target worker payload → o.result = .ok none → s = target := by
  have changed := performed.changes enabled
  cases performed with
  | refused reason stuck => exact absurd enabled stuck
  | @created d commitSha payloadSha256 signerFp worker named fresh =>
    have before : stateOf q.records d = none := by simp [stateOf, fresh]
    have nothing : trails d = [] := by
      rcases fits d with ⟨-, nothing⟩ | ⟨s, state, -⟩
      · exact nothing
      · rw [before] at state
        cases state
    have state : stateOf (q.records.set (.str d) (newRecord answers.now d commitSha payloadSha256 signerFp)) d = some .queued :=
      stateOf_set_self rfl
    rw [conclude_records] at changed ⊢
    refine ⟨.queued, _, rfl, state, by rw [Call.directiveId, before]; simp, .queued, ?_, ?_⟩
    · rw [Call.directiveId, nothing]
      exact List.nil_suffix
    · intro d target worker payload same
      cases same
  | @rejected d worker target curr payload rec found record state valid other =>
    have reached : stateOf (q.records.set (.str d) (rec.set "queue_state" (.str DirectiveState.rejected.value))) d =
        some .rejected := stateOf_set_self Dict.get?_set_self
    obtain ⟨s, same, led⟩ := (fits d).resolve_left (by rw [state]; simp)
    refine ⟨.rejected, _, rfl, reached, fun same => changed (reached.trans same.symm), .rejected i led,
      List.suffix_cons _ _, ?_⟩
    intro d target worker payload same success
    cases success
  | @moved d worker target curr payload rec found record state valid same =>
    obtain ⟨s, same, led⟩ := (fits d).resolve_left (by rw [state]; simp)
    rw [state] at same
    cases same
    have later := later_of_valid valid led.notAuthenticated
    have reached : stateOf (q.records.set (.str d) (advanced answers.now worker target rec)) d = some target :=
      stateOf_set_self advanced_state
    rw [conclude_records] at changed ⊢
    refine ⟨target, _, rfl, reached, fun same => changed (reached.trans same.symm), ?_, ?_, ?_⟩
    · rw [if_neg later.1]
      exact .moved i led valid
    · rw [if_neg later.1]
      exact List.suffix_cons _ _
    · intro d target worker payload same success
      cases same
      rfl

/-! ### What every step keeps -/

/-- The records everywhere belong to their trails, and a current instance knows at least what the file holds. -/
structure Coherent (host : Host) (past : WorldPast) (w : World) : Prop where
  file : ∃ saved, Holds host w.file saved ∧ Wellformed saved ∧ Matches saved (trailsOf past).file
  memory : ∀ i records, w.instances i = some records → Wellformed records ∧ Matches records ((trailsOf past).memory i)
  current : ∀ i records, w.instances i = some records → Current i past → ∀ d, (trailsOf past).file d <:+ (trailsOf past).memory i d

theorem trailsOf_cons : trailsOf (t :: past) = (trailsOf past).after t := rfl

theorem put_self {next : Queue} : (w.put i next).instances i = some next.records := Function.update_self _ _ _

theorem put_of_ne {next : Queue} (other : j ≠ i) : (w.put i next).instances j = w.instances j := Function.update_of_ne other _ _

theorem recordsOf_open (open' : w.instances i = some records) : w.recordsOf i = records := by
  unfold World.recordsOf
  rw [open', Option.getD_some]

theorem coherent_start : Coherent host [] emptyWorld := by
  refine ⟨⟨[], .inl ⟨rfl, rfl⟩, RecordsOf.nil, fun d => .inl ⟨rfl, rfl⟩⟩, ?_, ?_⟩
  · intro i records open'
    cases open'
  · intro i records open'
    cases open'

/-- An instance that does nothing stays as current as it is, if nobody saves. -/
theorem Current.before {t : Transition World Happening} (current : Current j (t :: past)) (quiet : ∀ k, ¬ SavesBy k t)
    (other : t.label ≠ .opened j) : Current j past := by
  rcases current with label | saves | ⟨-, current⟩
  · exact absurd label other
  · exact absurd saves (quiet j)
  · exact current

theorem Coherent.opened (coherent : Coherent host past w) (i : Nat) :
    Coherent host (⟨w, .opened i, w.put i ⟨(loadQueue host w.file).2, w.file⟩⟩ :: past)
      (w.put i ⟨(loadQueue host w.file).2, w.file⟩) := by
  obtain ⟨saved, holds, wf, fits⟩ := coherent.file
  have loaded := holds.load wf
  have trails : trailsOf (⟨w, .opened i, w.put i ⟨(loadQueue host w.file).2, w.file⟩⟩ :: past) =
      ⟨Function.update (trailsOf past).memory i (trailsOf past).file, (trailsOf past).file⟩ := rfl
  refine ⟨⟨saved, holds, wf, fits⟩, ?_, ?_⟩
  · intro j records open'
    rw [trails]
    dsimp only
    by_cases same : j = i
    · subst same
      rw [put_self] at open'
      cases open'
      rw [loaded, Function.update_self]
      exact ⟨wf, fits⟩
    · rw [put_of_ne same] at open'
      rw [Function.update_of_ne same]
      exact coherent.memory j records open'
  · intro j records open' current d
    rw [trails]
    dsimp only
    by_cases same : j = i
    · rw [same, Function.update_self]
    · rw [put_of_ne same] at open'
      rw [Function.update_of_ne same]
      refine coherent.current j records open' (current.before ?_ ?_) d
      · intro k saves
        obtain ⟨c, label, -⟩ := saves
        cases label
      · intro label
        exact same (Happening.opened.inj label).symm

/-- The trails after a call that is refused. -/
theorem after_refused {trails : Trails} {c : Called} (label : t.label = .called i c)
    (same : stateOf (t.after.recordsOf i) c.call.directiveId = stateOf (t.before.recordsOf i) c.call.directiveId) :
    trails.after t = trails := by
  unfold Trails.after
  rw [label]
  dsimp only
  rw [same]
  cases stateOf (t.before.recordsOf i) c.call.directiveId with
  | none => rfl
  | some s => exact if_pos rfl

theorem after_extended {trails : Trails} {c : Called} (label : t.label = .called i c)
    (state : stateOf (t.after.recordsOf i) c.call.directiveId = some s)
    (changed : stateOf (t.before.recordsOf i) c.call.directiveId ≠ some s)
    (here : (if s = .queued then [] else (i, s) :: trails.memory i c.call.directiveId) = trail) :
    trails.after t = ⟨Function.update trails.memory i (Function.update (trails.memory i) c.call.directiveId trail),
      if c.answers.saved then Function.update (trails.memory i) c.call.directiveId trail else trails.file⟩ := by
  unfold Trails.after
  rw [label]
  dsimp only
  rw [state]
  dsimp only
  rw [if_neg changed, here]

/-- What a call of an instance leaves: nothing new, or one trail in memory that goes on, and all of memory in the
file if it could be saved. -/
theorem called_cases {c : Called} {next : Queue} {trails : Trails} (open' : w.instances i = some records)
    (step : QueueStep host ⟨records, w.file⟩ c next) (wf : Wellformed records) (fits : Matches records (trails.memory i)) :
    (¬ Enabled ⟨records, w.file⟩ c.call ∧ next = ⟨records, w.file⟩ ∧ trails.after ⟨w, .called i c, w.put i next⟩ = trails ∧
      c.outcome.result ≠ .ok none) ∨
    (Enabled ⟨records, w.file⟩ c.call ∧ ∃ trail, Wellformed next.records ∧
      Matches next.records (Function.update (trails.memory i) c.call.directiveId trail) ∧
      trails.memory i c.call.directiveId <:+ trail ∧
      trails.after ⟨w, .called i c, w.put i next⟩ =
        ⟨Function.update trails.memory i (Function.update (trails.memory i) c.call.directiveId trail),
          if c.answers.saved then Function.update (trails.memory i) c.call.directiveId trail else trails.file⟩ ∧
      next.file = saveQueueAtomic host c.answers next.records w.file ∧
      ∀ d target worker payload, c.call = .transition d target worker payload → c.outcome.result = .ok none →
        c.answers.saved = true ∧ trail = (i, target) :: trails.memory i d) := by
  have performed := step.performed wf
  obtain ⟨made, rfl⟩ := step.inv
  have before : (⟨w, .called i c, w.put i c.outcome.queue⟩ : Transition World Happening).before.recordsOf i = records :=
    recordsOf_open open'
  have after : (⟨w, .called i c, w.put i c.outcome.queue⟩ : Transition World Happening).after.recordsOf i = c.outcome.records :=
    recordsOf_open put_self
  by_cases enabled : Enabled ⟨records, w.file⟩ c.call
  · right
    obtain ⟨s, rec, written, state, changed, led, suffix, target⟩ := performed.led enabled fits i
    refine ⟨enabled, _, performed.wellformed wf, ?_, suffix, ?_, performed.saves enabled, ?_⟩
    · have same : c.outcome.queue.records = records.set (.str c.call.directiveId) rec := written
      rw [written] at state
      rw [same]
      exact fits.set state led
    · exact after_extended rfl (by rw [after]; exact state) (by rw [before]; exact changed) rfl
    · intro d t worker payload call success
      obtain rfl := target d t worker payload call success
      have id : c.call.directiveId = d := by rw [call]; rfl
      rw [id] at state led ⊢
      refine ⟨(performed.succeeded success).2, if_neg ?_⟩
      intro queued
      -- a transition never leads to `QUEUED`
      rw [call] at enabled
      obtain ⟨curr, known, valid⟩ := enabled
      exact (later_of_valid valid (notAuthenticated wf known)).1 queued
  · left
    obtain ⟨reason, refused⟩ := performed.stuck enabled
    have unchanged : c.outcome.queue = ⟨records, w.file⟩ := by rw [refused]; rfl
    refine ⟨enabled, unchanged, ?_, ?_⟩
    · refine after_refused rfl ?_
      rw [before, after, refused]
      rfl
    · rw [refused]
      simp [Queue.refuse]

theorem savesBy_called {c : Called} {next : Queue} (open' : w.instances i = some records) :
    SavesBy j ⟨w, .called i c, w.put i next⟩ ↔ j = i ∧ c.answers.saved = true ∧ Enabled ⟨records, w.file⟩ c.call := by
  constructor
  · intro saves
    obtain ⟨c', label, saved, enabled⟩ := saves
    cases label
    dsimp only at enabled
    rw [recordsOf_open open'] at enabled
    exact ⟨rfl, saved, enabled⟩
  · intro given
    obtain ⟨rfl, saved, enabled⟩ := given
    refine ⟨c, rfl, saved, ?_⟩
    dsimp only
    rwa [recordsOf_open open']

/-- One step of the world: the trails in the file only grow, and a transition that is reported is their last step. -/
structure Advances (t : Transition World Happening) (trails trails' : Trails) : Prop where
  grows : ∀ d, trails.file d <:+ trails'.file d
  success : ∀ i d target, Succeeds i d target t → trails.file d <:+ trails.memory i d ∧
    trails'.memory i d = (i, target) :: trails.memory i d ∧ trails'.file d = (i, target) :: trails.memory i d

theorem Coherent.called {c : Called} {next : Queue} (coherent : Coherent host past w) (open' : w.instances i = some records)
    (step : QueueStep host ⟨records, w.file⟩ c next)
    (saves : SavesBy i ⟨w, .called i c, w.put i next⟩ → Current i past) :
    Coherent host (⟨w, .called i c, w.put i next⟩ :: past) (w.put i next) ∧
      Advances ⟨w, .called i c, w.put i next⟩ (trailsOf past) (trailsOf (⟨w, .called i c, w.put i next⟩ :: past)) := by
  obtain ⟨wf, fits⟩ := coherent.memory i records open'
  obtain ⟨saved, holds, savedWf, savedFits⟩ := coherent.file
  have notOpened (j : Nat) : (Happening.called i c) ≠ .opened j := fun same => by cases same
  rcases called_cases open' step wf fits with ⟨stuck, rfl, trails, failed⟩ |
    ⟨enabled, trail, wf', fits', suffix, trails, file, success⟩
  · have quiet (j : Nat) : ¬ SavesBy j ⟨w, .called i c, w.put i ⟨records, w.file⟩⟩ :=
      fun saves => stuck ((savesBy_called open').mp saves).2.2
    have same (j : Nat) : (w.put i ⟨records, w.file⟩).instances j = w.instances j := by
      by_cases here : j = i
      · rw [here, put_self, open']
      · exact put_of_ne here
    refine ⟨⟨?_, ?_, ?_⟩, ?_, ?_⟩
    · rw [trailsOf_cons, trails]
      exact ⟨saved, holds, savedWf, savedFits⟩
    · rw [trailsOf_cons, trails]
      intro j records' open''
      exact coherent.memory j records' ((same j).symm.trans open'')
    · rw [trailsOf_cons, trails]
      intro j records' open'' current
      exact coherent.current j records' ((same j).symm.trans open'') (current.before quiet (notOpened j))
    · rw [trailsOf_cons, trails]
      exact fun d => List.suffix_rfl
    · intro j d target succeeds
      obtain ⟨c', worker, payload, label, -, result⟩ := succeeds
      cases label
      exact absurd result failed
  · rw [trailsOf_cons, trails]
    have grows (d : String) : (trailsOf past).memory i d <:+
        Function.update ((trailsOf past).memory i) c.call.directiveId trail d := by
      by_cases here : d = c.call.directiveId
      · rw [here, Function.update_self]
        exact suffix
      · rw [Function.update_of_ne here]
    have memory (j : Nat) (records' : Records) (open'' : (w.put i next).instances j = some records') : Wellformed records' ∧
        Matches records' (Function.update (trailsOf past).memory i
          (Function.update ((trailsOf past).memory i) c.call.directiveId trail) j) := by
      by_cases here : j = i
      · rw [here, put_self] at open''
        cases open''
        rw [here, Function.update_self]
        exact ⟨wf', fits'⟩
      · rw [put_of_ne here] at open''
        rw [Function.update_of_ne here]
        exact coherent.memory j records' open''
    by_cases could : c.answers.saved = true
    · have saving : SavesBy i ⟨w, .called i c, w.put i next⟩ := (savesBy_called open').mpr ⟨rfl, could, enabled⟩
      have current := coherent.current i records open' (saves saving)
      rw [if_pos could] at trails ⊢
      refine ⟨⟨?_, ?_, ?_⟩, ?_, ?_⟩
      · rw [trailsOf_cons, trails]
        refine ⟨next.records, .inr ?_, wf', fits'⟩
        rw [World.put, file, saveQueueAtomic, if_pos could]
      · rw [trailsOf_cons, trails]
        exact memory
      · -- nobody else is current now
        rw [trailsOf_cons, trails]
        intro j records' open'' current' d
        have here : j = i := by
          rcases current' with label | other | ⟨quiet, -⟩
          · exact absurd label (notOpened j)
          · exact ((savesBy_called open').mp other).1
          · exact absurd saving (quiet i)
        dsimp only
        rw [here, Function.update_self]
      · exact fun d => (current d).trans (grows d)
      · intro j d target succeeds
        obtain ⟨c', worker, payload, label, call, result⟩ := succeeds
        cases label
        obtain ⟨-, longer⟩ := success d target worker payload call result
        have id : c.call.directiveId = d := by rw [call]; rfl
        dsimp only
        rw [Function.update_self, id, Function.update_self]
        exact ⟨current d, longer, longer⟩
    · have quiet (j : Nat) : ¬ SavesBy j ⟨w, .called i c, w.put i next⟩ :=
        fun saves => could ((savesBy_called open').mp saves).2.1
      rw [if_neg could] at trails ⊢
      refine ⟨⟨?_, ?_, ?_⟩, ?_, ?_⟩
      · rw [trailsOf_cons, trails]
        refine ⟨saved, ?_, savedWf, savedFits⟩
        rw [World.put, file, saveQueueAtomic, if_neg could]
        exact holds
      · rw [trailsOf_cons, trails]
        exact memory
      · rw [trailsOf_cons, trails]
        intro j records' open'' current' d
        have before := current'.before quiet (notOpened j)
        dsimp only
        by_cases here : j = i
        · rw [here, Function.update_self]
          exact (coherent.current i records open' (here ▸ before) d).trans (grows d)
        · rw [put_of_ne here] at open''
          rw [Function.update_of_ne here]
          exact coherent.current j records' open'' before d
      · exact fun d => List.suffix_rfl
      · intro j d target succeeds
        obtain ⟨c', worker, payload, label, call, result⟩ := succeeds
        cases label
        exact absurd (success d target worker payload call result).1 could

/-- What was reported is at the end of the trail in the file. -/
def Stands (past : WorldPast) : Prop :=
  ∀ later t earlier, past = later ++ t :: earlier → ∀ i d target, Succeeds i d target t →
    ∃ trail, (trailsOf (t :: earlier)).memory i d = (i, target) :: trail ∧ (i, target) :: trail <:+ (trailsOf past).file d

theorem coherent_of_current (history : History (WorldStep host) emptyWorld past w) (currentSaves : CurrentSaves past) :
    Coherent host past w ∧ Stands past ∧ ClaimedOnce past := by
  induction history with
  | start =>
    refine ⟨coherent_start, ?_, .nil⟩
    intro later t earlier split
    cases later <;> cases split
  | @step past w l w' history step ih =>
    obtain ⟨here, earlier⟩ := currentSaves
    obtain ⟨coherent, stands, once⟩ := ih earlier
    obtain ⟨next, advances⟩ : Coherent host (⟨w, l, w'⟩ :: past) w' ∧ Advances ⟨w, l, w'⟩ (trailsOf past) (trailsOf (⟨w, l, w'⟩ :: past)) := by
      cases step with
      | opened i =>
        refine ⟨coherent.opened i, fun d => List.suffix_rfl, ?_⟩
        intro j d target succeeds
        obtain ⟨c, worker, payload, label, -⟩ := succeeds
        cases label
      | called open' step => exact coherent.called open' step (here _)
    refine ⟨next, ?_, ?_⟩
    · intro later t earlier split i d target succeeds
      cases later with
      | nil =>
        cases split
        obtain ⟨-, memory, file⟩ := advances.success i d target succeeds
        exact ⟨_, memory, file ▸ List.suffix_rfl⟩
      | cons u later =>
        obtain ⟨rfl, rest⟩ := List.cons.inj split
        obtain ⟨trail, memory, suffix⟩ := stands later t earlier rest i d target succeeds
        exact ⟨trail, memory, suffix.trans (advances.grows d)⟩
    · refine .cons ?_ once
      intro u member d i j both
      obtain ⟨again, first⟩ := both
      -- the first claim is in the trail of the file, and so in that of the instance that claims again
      obtain ⟨later, before, split⟩ := List.append_of_mem member
      obtain ⟨trail, -, suffix⟩ := stands later u before split j d .claimed first
      obtain ⟨known, memory, -⟩ := advances.success i d .claimed again
      have led : ∃ s, Led ((trailsOf (⟨w, l, w'⟩ :: past)).memory i d) s := by
        obtain ⟨c, worker, payload, label, -⟩ := again
        cases label
        cases step with
        | called open' step =>
          rcases (next.memory i _ put_self).2 d with ⟨-, nothing⟩ | ⟨s, -, led⟩
          · exact ⟨.queued, nothing ▸ .queued⟩
          · exact ⟨s, led⟩
      obtain ⟨s, led⟩ := led
      rw [memory] at led
      rw [led.claimed_first] at known
      have nothing := List.suffix_nil.mp (suffix.trans known)
      cases nothing

/-- Over any number of instances and restarts, a directive is claimed at most once, and what was reported is
never undone in the file, if nobody saves over a save that it has not seen. -/
theorem claimed_once (history : History (WorldStep host) emptyWorld past w) (currentSaves : CurrentSaves past) :
    ClaimedOnce past ∧ NeverUndone host past w := by
  obtain ⟨coherent, stands, once⟩ := coherent_of_current history currentSaves
  refine ⟨once, ?_, stands⟩
  intro d i s trail file
  obtain ⟨saved, holds, wf, fits⟩ := coherent.file
  rw [holds.load wf]
  rcases fits d with ⟨-, nothing⟩ | ⟨s', state, led⟩
  · rw [file] at nothing
    cases nothing
  · rw [file] at led
    rw [state, led.head]

/-- The next thing that happens to an instance: it is opened, or called if it is open. -/
def nextHappening (host : Host) (w : World) (next : Nat × Option (Answers × Call)) : Happening × World :=
  match next.2, w.instances next.1 with
  | some c, some records =>
    (.called next.1 (nextCall host ⟨records, w.file⟩ c).1, w.put next.1 (nextCall host ⟨records, w.file⟩ c).2)
  | _, _ => (.opened next.1, w.put next.1 ⟨(loadQueue host w.file).2, w.file⟩)

theorem nextHappening_step (host : Host) (w : World) (next : Nat × Option (Answers × Call)) :
    WorldStep host w (nextHappening host w next).1 (nextHappening host w next).2 := by
  unfold nextHappening
  split
  · rename_i c records _ open'
    exact .called open' (.call c.1 c.2)
  · exact .opened next.1

def enqueueFirst : Call := .enqueue "DIR-1" "c0ffee" "aa" "FP" "WORKER-01"

/-- One instance enqueues and claims. -/
def claimedAlone : List (Nat × Option (Answers × Call)) :=
  [(0, none), (0, some (answered, enqueueFirst)), (0, some (answered, .transition "DIR-1" .claimed "WORKER-01" none))]

theorem claimed_once_alone :
    ClaimedOnce (History.replay (nextHappening sampleHost) emptyWorld claimedAlone).1 ∧
    NeverUndone sampleHost (History.replay (nextHappening sampleHost) emptyWorld claimedAlone).1
      (History.replay (nextHappening sampleHost) emptyWorld claimedAlone).2 := by
  refine claimed_once (History.history_replay _ (nextHappening_step sampleHost) _ _) ⟨?_, ?_, ?_, trivial⟩
  · intro i saves
    obtain ⟨c, label, -⟩ := saves
    cases label
    exact .inr (.inl ⟨_, rfl, rfl, by decide, rfl⟩)
  · intro i saves
    obtain ⟨c, label, -⟩ := saves
    cases label
    exact .inl rfl
  · intro i saves
    obtain ⟨c, label, -⟩ := saves
    cases label

/-- Two instances that start together, each with its own records. -/
def twoStarted : List (Nat × Option (Answers × Call)) :=
  [(0, none), (1, none), (0, some (answered, enqueueFirst)), (1, some (answered, enqueueFirst)),
    (0, some (answered, .transition "DIR-1" .claimed "WORKER-01" none)),
    (1, some (answered, .transition "DIR-1" .claimed "WORKER-02" none))]

/-- Both claim the directive. -/
theorem claimed_twice : ¬ (ClaimedOnce (History.replay (nextHappening sampleHost) emptyWorld twoStarted).1 ∧
    NeverUndone sampleHost (History.replay (nextHappening sampleHost) emptyWorld twoStarted).1
      (History.replay (nextHappening sampleHost) emptyWorld twoStarted).2) := by
  intro given
  have pairs := (List.pairwise_cons.mp given.1).1 _ List.mem_cons_self "DIR-1" 1 0
  exact pairs ⟨⟨_, "WORKER-02", none, rfl, rfl, rfl⟩, _, "WORKER-01", none, rfl, rfl, rfl⟩

end ControlPlane.Directive
