import ControlPlane.Engine.Observation
import ControlPlane.Engine.RemotePublication
import Mathlib.Logic.Relation

/-!
# Sweeps

`run_sweep` of `engine.py` with `audit_logger.py`: the files that a sweep writes, and what they
say of each other after any number of sweeps, interruptions and restarts.
-/

namespace ControlPlane.Engine

open ControlPlane.Data StateMachine

/-! ### The projects -/

/-- `REGISTERED_PROJECTS`: every project goes by its key, and has a file of its own. -/
structure Registry where
  projects : Dict String ProjectConfig
  distinct : projects.Distinct
  named : ∀ e ∈ projects, e.2.name = e.1
  apart : (projects.map fun e => e.2.id).Nodup

def oracle : ProjectConfig where
  id := "oracle"
  name := "ORACLE-AI"
  rootPath := "Oracle"
  expectedProcessNames := ["download_and_unify_real_data.py", "live_test.py", "server.py"]
  defaultProcessExpected := false
  heartbeatStaleThreshold := .fin 3600
  stateFiles := ["sprints/AGENT_STATUS.json", "sprints/ACTIVE_SPRINT.md", "environment_validation_report.md"]

def micro : ProjectConfig where
  id := "micro"
  name := "MICRO-MARKET-ORACLE"
  rootPath := "MICRO-MARKET-ORACLE"
  expectedProcessNames := ["antigravity_watcher", "watcher", "run_watcher.py"]
  defaultProcessExpected := true
  heartbeatStaleThreshold := .fin 300
  stateFiles := ["control/CURRENT_STAGE.json", "control/PROJECT_STATE.json", "control/WATCHER_STATE.json"]

def registeredProjects : Registry where
  projects := [("ORACLE-AI", oracle), ("MICRO-MARKET-ORACLE", micro)]
  distinct := by unfold Dict.Distinct; decide
  named := by decide
  apart := by decide

/-! ### What a sweep writes -/

/-- What `log_observation_event` appends; `event_type` is `PROJECT_OBSERVED`. -/
structure AuditEvent where
  timestamp : ℚ
  project : String
  status : String
  previousStatus : Option String
  stateConflict : Bool
  conflictingSources : List String
  reason : String
  confidence : ℚ
  stage : Json
  branch : Json
  localHead : Json
  processRunning : Bool
  heartbeatAgeSeconds : Option ℚ
  evidenceSources : List String

def observationEvent (timestamp : ℚ) (o : Observation) (n : NormalizedProjectState) (previous : Option String) : AuditEvent where
  timestamp
  project := o.observed.project
  status := n.verdict.status.value
  previousStatus := previous
  stateConflict := n.stateConflict
  conflictingSources := n.conflictingSources
  reason := n.verdict.reason
  confidence := n.verdict.confidence
  stage := n.stage
  branch := n.branch
  localHead := n.localHead
  processRunning := o.observed.processRunning
  heartbeatAgeSeconds := n.heartbeatAgeSeconds
  evidenceSources := n.evidenceSources

structure GlobalStatus where
  observedAt : ℚ
  totalProjectsMonitored : Nat
  overallHealth : String
  projects : Dict String (Observation × NormalizedProjectState)

/-- `control_plane_status.json` -/
structure SelfHealth where
  status : String
  startedAt : ℚ
  lastHeartbeat : ℚ
  lastError : Option String
  sweepCount : Nat

inductive Write where
  | stateFile (name : String) (state : Observation × NormalizedProjectState)
  | audit (event : AuditEvent)
  | globalStatus (status : GlobalStatus)
  | health (health : SelfHealth)

/-! ### A sweep -/

/-- The memory of a process. -/
structure Memory where
  startedAt : ℚ
  sweepCount : Nat := 0
  lastStates : Dict String String := []
  lastError : Option String := none
  lastRemotePublish : Option ℚ := none

/-- What does not change from one sweep to the next. -/
structure Station where
  texts : Texts
  py : Interpreter
  tables : CaseTables
  settings : PublishSettings
  registry : Registry

/-- What a sweep meets: the clock at its start, at each project and at its end, the inbox where
polling it raises, the projects, and git. -/
structure Meeting where
  now : ℚ
  seenAt : String → ℚ
  loggedAt : String → ℚ
  doneAt : ℚ
  pollError : Option String
  surroundings : String → Surroundings
  order : String → SetOrder Declaration
  answers : PublishAnswers
  publishError : String

/-- What the loop over the projects has done so far. -/
structure Progress where
  lastStates : Dict String String
  transition : Bool := false
  states : Dict String (Observation × NormalizedProjectState) := []
  writes : List Write := []

def Station.observation (st : Station) (x : Meeting) (e : String × ProjectConfig) : Observation :=
  observe st.texts e.2 (x.surroundings e.1)

/-- The state of a project; the evaluation raises where there is none. -/
def Station.state? (st : Station) (x : Meeting) (e : String × ProjectConfig) : Option NormalizedProjectState :=
  evaluate st.py ⟨e.2.heartbeatStaleThreshold, x.seenAt e.1⟩ (x.order e.1) (st.observation x e).observed

/-- One round of the loop, for a project that has been evaluated. -/
def Progress.next (g : Progress) (st : Station) (x : Meeting) (e : String × ProjectConfig) (n : NormalizedProjectState) : Progress :=
  let o := st.observation x e
  let current := n.verdict.status.value
  let previous := g.lastStates.get? e.1
  { lastStates := g.lastStates.set e.1 current
    transition := g.transition || previous.any fun p => decide (p ≠ current)
    states := g.states.set e.1 (o, n)
    writes := g.writes ++ [.stateFile e.2.id (o, n), .audit (observationEvent (x.loggedAt e.1) o n previous)] }

/-- The loop over the projects, and whether it comes to its end. -/
def sweepProjects (st : Station) (x : Meeting) : List (String × ProjectConfig) → Progress → Progress × Bool
  | [], g => (g, true)
  | e :: rest, g =>
    match st.state? x e with
    | none => (g, false)
    | some n => sweepProjects st x rest (g.next st x e n)

/-- The loop of a sweep. -/
def loop (st : Station) (m : Memory) (x : Meeting) : Progress × Bool :=
  sweepProjects st x st.registry.projects { lastStates := m.lastStates }

def overallHealth (states : Dict String (Observation × NormalizedProjectState)) : String :=
  if states.any fun e => e.2.2.verdict.status.value = "BLOCKED" then "BLOCKED"
  else if states.any fun e => e.2.2.verdict.status.value = "STALE" then "DEGRADED_STALE"
  else "STABLE"

/-- `REMOTE_CHECKPOINT_SECONDS` -/
def remoteCheckpointSeconds : ℚ := 300

def checkpointDue (now : ℚ) (last : Option ℚ) : Bool := last.all fun t => decide (remoteCheckpointSeconds ≤ now - t)

/-- Whether the last of these commands raised. -/
def publicationRaised (answers : PublishAnswers) (commands : List (List String)) : Bool :=
  match commands.length with
  | 1 => answers.add.isNone
  | 2 => answers.status.isNone
  | 3 => answers.commit.isNone
  | 4 => answers.push.isNone
  | _ => false

/-- A sweep: what it writes, what it publishes and with which success, and the memory that it
leaves, unless it raises. -/
structure Swept where
  writes : List Write
  publication : Option (Bool × List (List String))
  memory : Option Memory

/-- The memory after the loop. -/
def Memory.swept (m : Memory) (x : Meeting) (g : Progress) : Memory :=
  { m with
    sweepCount := m.sweepCount + 1
    lastStates := g.lastStates
    lastError := (x.pollError.map ("Directive watcher inbox poll error: " ++ ·)).or m.lastError }

/-- The memory after a publication. -/
def Memory.published (m : Memory) (x : Meeting) (publication : Bool × List (List String)) : Memory :=
  { m with
    lastError := if publicationRaised x.answers publication.2 then some ("Remote publication failed: " ++ x.publishError) else m.lastError
    lastRemotePublish := if publication.1 then some x.now else m.lastRemotePublish }

/-- What is written after the loop. -/
def closing (m : Memory) (x : Meeting) (g : Progress) : List Write :=
  [.globalStatus ⟨x.now, g.states.length, overallHealth g.states, g.states⟩,
    .health ⟨"RUNNING", m.startedAt, x.doneAt, m.lastError, m.sweepCount⟩]

def publishes (st : Station) (m : Memory) (x : Meeting) : Bool :=
  st.settings.remotePublicationEnabled && ((loop st m x).1.transition || checkpointDue x.now m.lastRemotePublish)

def runSweep (st : Station) (m : Memory) (x : Meeting) : Swept :=
  let g := (loop st m x).1
  let swept := m.swept x g
  if (loop st m x).2 = false then ⟨g.writes, none, none⟩
  else if publishes st m x then
    let publication := publishRemoteStatus st.tables st.settings swept.sweepCount x.answers
    ⟨g.writes ++ closing swept x g, some publication, some (swept.published x publication)⟩
  else ⟨g.writes ++ closing swept x g, none, some swept⟩

/-! ### Processes and their files -/

/-- The process that runs, if one does, and the files. -/
structure World where
  process : Option Memory := none
  stateFiles : Dict String (Observation × NormalizedProjectState) := []
  audit : List AuditEvent := []
  globalStatus : Option GlobalStatus := none
  health : Option SelfHealth := none

def World.write (w : World) : Write → World
  | .stateFile name state => { w with stateFiles := w.stateFiles.set name state }
  | .audit event => { w with audit := w.audit ++ [event] }
  | .globalStatus status => { w with globalStatus := some status }
  | .health health => { w with health := some health }

def World.writeAll (w : World) (writes : List Write) : World := writes.foldl World.write w

/-- A process starts where none runs, and sweeps. It ends by an evaluation that raises or by an
interruption after any number of writes, and may say at last that it has stopped. -/
inductive Step (st : Station) : World → World → Prop where
  | start {w : World} (t : ℚ) : w.process = none → Step st w { w with process := some { startedAt := t } }
  | sweep {w : World} {m m' : Memory} (x : Meeting) : w.process = some m → (runSweep st m x).memory = some m' →
      Step st w { w.writeAll (runSweep st m x).writes with process := some m' }
  | cut {w : World} {m : Memory} (x : Meeting) (k : Nat) : w.process = some m →
      Step st w { w.writeAll ((runSweep st m x).writes.take k) with process := none }
  | stop {w : World} (t : ℚ) (startedAt : ℚ) (lastError : Option String) (sweepCount : Nat) : w.process = none →
      Step st w (w.write (.health ⟨"STOPPED", startedAt, t, lastError, sweepCount⟩))

/-! ### The audit trail -/

section

variable {st : Station} {x : Meeting} {m m' : Memory} {g : Progress} {w w' : World} {writes : List Write}
  {events : List AuditEvent} {event : AuditEvent} {project : String} {e : String × ProjectConfig}

/-- The status that the trail gives a project last. -/
def lastStatus (project : String) (events : List AuditEvent) : Option String :=
  (events.reverse.find? fun e => e.project = project).map (·.status)

/-- Every event that names a previous status names the one that the trail gives its project last. -/
def Chained (events : List AuditEvent) : Prop :=
  ∀ front e back, events = front ++ e :: back → ∀ p, e.previousStatus = some p → lastStatus e.project front = some p

theorem lastStatus_concat : lastStatus project (events ++ [event]) =
    if event.project = project then some event.status else lastStatus project events := by
  unfold lastStatus
  rw [List.reverse_append, List.reverse_singleton, List.singleton_append, List.find?_cons]
  by_cases own : event.project = project <;> simp [own]

theorem Chained.front {later : List AuditEvent} (chained : Chained (events ++ later)) : Chained events := by
  intro front e back same
  exact chained front e (back ++ later) (by rw [same, List.append_assoc, List.cons_append])

theorem Chained.concat (chained : Chained events) (last : ∀ p, event.previousStatus = some p → lastStatus event.project events = some p) :
    Chained (events ++ [event]) := by
  intro front e back same
  rcases List.eq_nil_or_concat back with rfl | ⟨init, final, rfl⟩
  · obtain ⟨rfl, single⟩ := List.append_inj' same rfl
    obtain ⟨rfl, -⟩ := List.cons.inj single
    exact last
  · have same : events ++ [event] = (front ++ e :: init) ++ [final] := by rw [same, List.concat_eq_append, List.append_assoc, List.cons_append]
    obtain ⟨rfl, -⟩ := List.append_inj' same rfl
    exact chained front e init rfl

theorem writeAll_append {later : List Write} : w.writeAll (writes ++ later) = (w.writeAll writes).writeAll later := List.foldl_append

/-- The trail is only appended to. -/
theorem writeAll_audit : w.audit <+: (w.writeAll writes).audit := by
  induction writes generalizing w with
  | nil => exact List.prefix_rfl
  | cons write rest ih =>
    refine List.IsPrefix.trans ?_ ih
    cases write with
    | audit event => exact List.prefix_append _ _
    | stateFile name state => exact List.prefix_rfl
    | globalStatus status => exact List.prefix_rfl
    | health health => exact List.prefix_rfl

/-- What a process remembers of a project is what the trail gives it last. -/
def Remembered (lastStates : Dict String String) (events : List AuditEvent) : Prop :=
  ∀ key v, lastStates.get? key = some v → lastStatus key events = some v

/-! ### One round -/

/-- What is on file of a project after its round. -/
structure Filed (w : World) (g : Progress) (e : String × ProjectConfig) (o : Observation) (n : NormalizedProjectState) : Prop where
  stateFile : w.stateFiles.get? e.2.id = some (o, n)
  states : g.states.get? e.1 = some (o, n)
  remembered : g.lastStates.get? e.1 = some n.verdict.status.value
  last : lastStatus e.1 w.audit = some n.verdict.status.value

/-- The trail and the memory, while a sweep is under way. -/
structure Told (w : World) (g : Progress) : Prop where
  chained : Chained w.audit
  remembered : Remembered g.lastStates w.audit

variable {n : NormalizedProjectState}

theorem next_written : w.writeAll (g.next st x e n).writes =
    { w.writeAll g.writes with
      stateFiles := (w.writeAll g.writes).stateFiles.set e.2.id (st.observation x e, n)
      audit := (w.writeAll g.writes).audit ++
        [observationEvent (x.loggedAt e.1) (st.observation x e) n (g.lastStates.get? e.1)] } := by
  unfold Progress.next
  dsimp only
  rw [writeAll_append]
  rfl

theorem event_project {previous : Option String} (registered : e ∈ st.registry.projects) :
    (observationEvent (x.loggedAt e.1) (st.observation x e) n previous).project = e.1 := st.registry.named e registered

theorem next_told (registered : e ∈ st.registry.projects) (told : Told (w.writeAll g.writes) g) :
    Told (w.writeAll (g.next st x e n).writes) (g.next st x e n) := by
  rw [next_written]
  constructor
  · refine told.chained.concat fun p named => ?_
    rw [event_project registered]
    exact told.remembered e.1 p named
  · intro key v known
    dsimp only
    rw [lastStatus_concat, event_project registered]
    have known : (g.lastStates.set e.1 n.verdict.status.value).get? key = some v := known
    rw [Dict.get?_set] at known
    split
    · rename_i own
      rwa [if_pos own] at known
    · rename_i other
      rw [if_neg other] at known
      exact told.remembered key v known

theorem next_filed (registered : e ∈ st.registry.projects) :
    Filed (w.writeAll (g.next st x e n).writes) (g.next st x e n) e (st.observation x e) n := by
  rw [next_written]
  refine ⟨Dict.get?_set_self, Dict.get?_set_self, Dict.get?_set_self, ?_⟩
  dsimp only
  rw [lastStatus_concat, if_pos (event_project registered)]
  rfl

/-- A round leaves what is on file of the other projects. -/
theorem Filed.next {e' : String × ProjectConfig} {o' : Observation} {n' : NormalizedProjectState} (registered : e ∈ st.registry.projects)
    (filed : Filed (w.writeAll g.writes) g e' o' n') (key : e.1 ≠ e'.1) (id : e.2.id ≠ e'.2.id) :
    Filed (w.writeAll (g.next st x e n).writes) (g.next st x e n) e' o' n' := by
  rw [next_written]
  refine ⟨(Dict.get?_set_of_ne id).trans filed.stateFile, (Dict.get?_set_of_ne key).trans filed.states,
    (Dict.get?_set_of_ne key).trans filed.remembered, ?_⟩
  dsimp only
  rw [lastStatus_concat, event_project registered, if_neg key]
  exact filed.last

/-! ### The loop -/

theorem sweepProjects_told {entries : List (String × ProjectConfig)} (registered : ∀ e ∈ entries, e ∈ st.registry.projects)
    (told : Told (w.writeAll g.writes) g) :
    Told (w.writeAll (sweepProjects st x entries g).1.writes) (sweepProjects st x entries g).1 := by
  induction entries generalizing g with
  | nil => exact told
  | cons e rest ih =>
    unfold sweepProjects
    split
    · exact told
    · exact ih (fun e member => registered e (List.mem_cons_of_mem _ member)) (next_told (registered e List.mem_cons_self) told)

theorem sweepProjects_kept {entries : List (String × ProjectConfig)} {e' : String × ProjectConfig} {o' : Observation}
    {n' : NormalizedProjectState} (registered : ∀ e ∈ entries, e ∈ st.registry.projects)
    (filed : Filed (w.writeAll g.writes) g e' o' n') (apart : ∀ e ∈ entries, e.1 ≠ e'.1 ∧ e.2.id ≠ e'.2.id) :
    Filed (w.writeAll (sweepProjects st x entries g).1.writes) (sweepProjects st x entries g).1 e' o' n' := by
  induction entries generalizing g with
  | nil => exact filed
  | cons e rest ih =>
    unfold sweepProjects
    split
    · exact filed
    · obtain ⟨key, id⟩ := apart e List.mem_cons_self
      exact ih (fun e member => registered e (List.mem_cons_of_mem _ member))
        (filed.next (registered e List.mem_cons_self) key id) fun e member => apart e (List.mem_cons_of_mem _ member)

/-- A loop that comes to its end has every project on file. -/
theorem sweepProjects_filed {entries : List (String × ProjectConfig)} (registered : ∀ e ∈ entries, e ∈ st.registry.projects)
    (keys : (entries.map fun e => e.1).Nodup) (ids : (entries.map fun e => e.2.id).Nodup)
    (ended : (sweepProjects st x entries g).2 = true) : ∀ e ∈ entries, ∃ n, st.state? x e = some n ∧
      Filed (w.writeAll (sweepProjects st x entries g).1.writes) (sweepProjects st x entries g).1 e (st.observation x e) n := by
  induction entries generalizing g with
  | nil => exact fun e member => by cases member
  | cons e rest ih =>
    obtain ⟨key, keys⟩ := List.nodup_cons.mp keys
    obtain ⟨id, ids⟩ := List.nodup_cons.mp ids
    unfold sweepProjects at ended ⊢
    split at ended
    · cases ended
    rename_i n shown
    have registered_rest : ∀ e ∈ rest, e ∈ st.registry.projects := fun e member => registered e (List.mem_cons_of_mem _ member)
    intro e' member
    rcases List.mem_cons.mp member with rfl | later
    · refine ⟨n, shown, sweepProjects_kept registered_rest (next_filed (registered e' List.mem_cons_self)) ?_⟩
      intro other member
      exact ⟨fun same => key (List.mem_map.mpr ⟨other, member, same⟩), fun same => id (List.mem_map.mpr ⟨other, member, same⟩)⟩
    · exact ih registered_rest keys ids ended e' later

/-- The projects that a loop that comes to its end has evaluated. -/
theorem sweepProjects_states {entries : List (String × ProjectConfig)} (keys : (g.states.keys ++ entries.map fun e => e.1).Nodup)
    (ended : (sweepProjects st x entries g).2 = true) :
    (sweepProjects st x entries g).1.states.keys = g.states.keys ++ entries.map fun e => e.1 := by
  induction entries generalizing g with
  | nil => exact (List.append_nil _).symm
  | cons e rest ih =>
    unfold sweepProjects at ended ⊢
    split at ended
    · cases ended
    rename_i n shown
    have fresh : e.1 ∉ g.states.keys := fun known =>
      (List.nodup_append.mp keys).2.2 e.1 known e.1 List.mem_cons_self rfl
    have added : (g.next st x e n).states.keys = g.states.keys ++ [e.1] := (Dict.keys_set ..).trans (if_neg fresh)
    rw [List.map_cons, ← List.singleton_append, ← List.append_assoc, ← added] at keys ⊢
    exact ih keys ended

/-- The events among these writes. -/
def auditOf (writes : List Write) : List AuditEvent := writes.filterMap fun
  | .audit event => some event
  | _ => none

/-- An event that tells of a change. -/
def AuditEvent.Changed (event : AuditEvent) : Prop := ∃ p, event.previousStatus = some p ∧ p ≠ event.status

theorem sweepProjects_transition {entries : List (String × ProjectConfig)}
    (told : g.transition = true ↔ ∃ event ∈ auditOf g.writes, event.Changed) :
    (sweepProjects st x entries g).1.transition = true ↔
      ∃ event ∈ auditOf (sweepProjects st x entries g).1.writes, event.Changed := by
  induction entries generalizing g with
  | nil => exact told
  | cons e rest ih =>
    unfold sweepProjects
    split
    · exact told
    · rename_i n shown
      refine ih ?_
      have audited : auditOf (g.next st x e n).writes = auditOf g.writes ++
          [observationEvent (x.loggedAt e.1) (st.observation x e) n (g.lastStates.get? e.1)] := by
        simp [auditOf, Progress.next]
      have changed : (g.next st x e n).transition = true ↔ g.transition = true ∨
          ∃ p, g.lastStates.get? e.1 = some p ∧ p ≠ n.verdict.status.value := by
        simp [Progress.next, Option.any_eq_true]
      rw [changed, told, audited]
      simp only [List.mem_append, List.mem_singleton, or_and_right, exists_or, exists_eq_left]
      rfl

/-! ### The whole sweep -/

theorem runSweep_raises (raises : (loop st m x).2 = false) : runSweep st m x = ⟨(loop st m x).1.writes, none, none⟩ := by
  rw [runSweep]
  exact if_pos raises

/-- A sweep that does not raise. -/
structure Ended (st : Station) (m : Memory) (x : Meeting) (m' : Memory) : Prop where
  through : (loop st m x).2 = true
  writes : (runSweep st m x).writes = (loop st m x).1.writes ++ closing (m.swept x (loop st m x).1) x (loop st m x).1
  publication : (runSweep st m x).publication =
    if publishes st m x then some (publishRemoteStatus st.tables st.settings (m.sweepCount + 1) x.answers) else none
  lastStates : m'.lastStates = (loop st m x).1.lastStates
  sweepCount : m'.sweepCount = m.sweepCount + 1
  lastRemotePublish : m'.lastRemotePublish =
    if (runSweep st m x).publication.any (·.1) then some x.now else m.lastRemotePublish

theorem ended (kept : (runSweep st m x).memory = some m') : Ended st m x m' := by
  cases through : (loop st m x).2 with
  | false =>
    rw [runSweep_raises through] at kept
    cases kept
  | true =>
    have going : ¬ (loop st m x).2 = false := by rw [through]; decide
    cases due : publishes st m x with
    | true =>
      have form : runSweep st m x = _ := (if_neg going).trans (if_pos due)
      rw [form] at kept
      obtain rfl := Option.some.inj kept
      constructor <;> simp [form, through, due, Memory.swept, Memory.published]
      rfl
    | false =>
      have form : runSweep st m x = _ := (if_neg going).trans (if_neg (by simp [due]))
      rw [form] at kept
      obtain rfl := Option.some.inj kept
      constructor <;> simp [form, through, due, Memory.swept]

theorem closing_audit {g : Progress} : (w.writeAll (closing m x g)).audit = w.audit := rfl

theorem runSweep_kept (through : (loop st m x).2 = true) : ∃ m', (runSweep st m x).memory = some m' := by
  have going : ¬ (loop st m x).2 = false := by rw [through]; decide
  cases due : publishes st m x with
  | true => exact ⟨_, congrArg Swept.memory ((if_neg going).trans (if_pos due))⟩
  | false => exact ⟨_, congrArg Swept.memory ((if_neg going).trans (if_neg (by simp [due])))⟩

/-- All events of a sweep are those of its loop. -/
theorem runSweep_audit : (w.writeAll (runSweep st m x).writes).audit = (w.writeAll (loop st m x).1.writes).audit := by
  cases through : (loop st m x).2 with
  | false => rw [runSweep_raises through]
  | true =>
    obtain ⟨m', kept⟩ := runSweep_kept through
    rw [(ended kept).writes, writeAll_append, closing_audit]

theorem loop_told (told : Told w { lastStates := m.lastStates }) : Told (w.writeAll (loop st m x).1.writes) (loop st m x).1 :=
  sweepProjects_told (fun _ member => member) told

/-- However far a sweep gets, the trail stays chained. -/
theorem cut_chained {k : Nat} (told : Told w { lastStates := m.lastStates }) :
    Chained (w.writeAll ((runSweep st m x).writes.take k)).audit := by
  have whole : Chained (w.writeAll (runSweep st m x).writes).audit := by
    rw [runSweep_audit]
    exact (loop_told told).chained
  obtain ⟨later, grown⟩ : (w.writeAll ((runSweep st m x).writes.take k)).audit <+: (w.writeAll (runSweep st m x).writes).audit := by
    conv_rhs => rw [← List.take_append_drop k (runSweep st m x).writes, writeAll_append]
    exact writeAll_audit
  rw [← grown] at whole
  exact whole.front

/-! ### What the files say -/

/-- What the files say after a sweep that met this: one and the same evaluation of every project. -/
structure Shown (st : Station) (x : Meeting) (m : Memory) (w : World) : Prop where
  project : ∀ e ∈ st.registry.projects, ∃ n, st.state? x e = some n ∧
    w.stateFiles.get? e.2.id = some (st.observation x e, n) ∧
    (∃ g, w.globalStatus = some g ∧ g.projects.get? e.1 = some (st.observation x e, n)) ∧
    lastStatus e.1 w.audit = some n.verdict.status.value ∧ m.lastStates.get? e.1 = some n.verdict.status.value
  overall : ∃ g, w.globalStatus = some g ∧ g.totalProjectsMonitored = st.registry.projects.length ∧
    ((g.overallHealth = "DEGRADED_STALE" ∧ ∃ e ∈ st.registry.projects, lastStatus e.1 w.audit = some "STALE") ∨
      (g.overallHealth = "STABLE" ∧ ∀ e ∈ st.registry.projects, lastStatus e.1 w.audit ≠ some "STALE"))
  health : ∃ h, w.health = some h ∧ h.status = "RUNNING" ∧ h.sweepCount = m.sweepCount

theorem value_unblocked {s : CanonicalState} : s.value ≠ "BLOCKED" := by cases s <;> decide

theorem overallHealth_cases (states : Dict String (Observation × NormalizedProjectState)) :
    (overallHealth states = "DEGRADED_STALE" ∧ ∃ e ∈ states, e.2.2.verdict.status.value = "STALE") ∨
      (overallHealth states = "STABLE" ∧ ∀ e ∈ states, e.2.2.verdict.status.value ≠ "STALE") := by
  have unblocked : ¬ (states.any fun e => e.2.2.verdict.status.value = "BLOCKED") = true := by
    simp [value_unblocked]
  unfold overallHealth
  rw [if_neg unblocked]
  split
  · rename_i stale
    exact .inl ⟨rfl, by simpa using stale⟩
  · rename_i fresh
    exact .inr ⟨rfl, by simpa using fresh⟩

theorem loop_states (through : (loop st m x).2 = true) : (loop st m x).1.states.keys = st.registry.projects.keys := by
  have distinct : (Dict.keys ([] : Dict String (Observation × NormalizedProjectState)) ++
      st.registry.projects.map fun e => e.1).Nodup := st.registry.distinct
  exact sweepProjects_states distinct through

theorem loop_filed (through : (loop st m x).2 = true) : ∀ e ∈ st.registry.projects, ∃ n, st.state? x e = some n ∧
    Filed (w.writeAll (loop st m x).1.writes) (loop st m x).1 e (st.observation x e) n :=
  sweepProjects_filed (fun _ member => member) st.registry.distinct st.registry.apart through

/-- The states that a sweep has counted are those that the trail ends with. -/
theorem loop_stale (through : (loop st m x).2 = true) : (∃ e ∈ (loop st m x).1.states, e.2.2.verdict.status.value = "STALE") ↔
    ∃ e ∈ st.registry.projects, lastStatus e.1 (w.writeAll (loop st m x).1.writes).audit = some "STALE" := by
  have distinct : (loop st m x).1.states.Distinct := by
    rw [Dict.Distinct, loop_states through]
    exact st.registry.distinct
  constructor
  · rintro ⟨⟨key, state⟩, member, stale⟩
    have listed : key ∈ st.registry.projects.keys := by
      rw [← loop_states through]
      exact List.mem_map.mpr ⟨_, member, rfl⟩
    obtain ⟨e, registered, rfl⟩ := List.mem_map.mp listed
    obtain ⟨n, -, filed⟩ := loop_filed (w := w) through e registered
    obtain rfl := Option.some.inj ((Dict.get?_of_mem distinct member).symm.trans filed.states)
    exact ⟨e, registered, filed.last.trans (congrArg some stale)⟩
  · rintro ⟨e, registered, stale⟩
    obtain ⟨n, -, filed⟩ := loop_filed (w := w) through e registered
    exact ⟨_, Dict.mem_of_get? filed.states, Option.some.inj (filed.last.symm.trans stale)⟩

theorem sweep_shown (kept : (runSweep st m x).memory = some m') :
    Shown st x m' { w.writeAll (runSweep st m x).writes with process := some m' } := by
  have whole := ended kept
  have files : w.writeAll (runSweep st m x).writes = (w.writeAll (loop st m x).1.writes).writeAll
      (closing (m.swept x (loop st m x).1) x (loop st m x).1) := by rw [whole.writes, writeAll_append]
  rw [files]
  have stale := loop_stale (w := w) whole.through
  constructor
  · intro e registered
    obtain ⟨n, shown, filed⟩ := loop_filed (w := w) whole.through e registered
    exact ⟨n, shown, filed.stateFile, ⟨_, rfl, filed.states⟩, filed.last, whole.lastStates ▸ filed.remembered⟩
  · have counted : (loop st m x).1.states.length = st.registry.projects.length := by
      simpa [Dict.keys] using congrArg List.length (loop_states whole.through)
    refine ⟨_, rfl, counted, ?_⟩
    rcases overallHealth_cases (loop st m x).1.states with ⟨degraded, some⟩ | ⟨stable, none⟩
    · exact .inl ⟨degraded, stale.mp some⟩
    · refine .inr ⟨stable, fun e registered last => ?_⟩
      obtain ⟨e', member, old⟩ := stale.mpr ⟨e, registered, last⟩
      exact none e' member old
  · exact ⟨_, rfl, rfl, whole.sweepCount.symm⟩

/-! ### Any number of sweeps -/

/-- What holds after any number of steps. -/
structure Consistent (st : Station) (w : World) : Prop where
  chained : Chained w.audit
  remembered : ∀ m, w.process = some m → Remembered m.lastStates w.audit
  shown : ∀ m, w.process = some m → m.sweepCount ≠ 0 → ∃ x, Shown st x m w

theorem Consistent.step (consistent : Consistent st w) (step : Step st w w') : Consistent st w' := by
  cases step with
  | start t idle =>
    refine ⟨consistent.chained, ?_, ?_⟩
    · rintro m running key v known
      obtain rfl := Option.some.inj running
      cases known
    · rintro m running swept
      obtain rfl := Option.some.inj running
      exact absurd rfl swept
  | @sweep m m' x running kept =>
    have told : Told w { lastStates := m.lastStates } := ⟨consistent.chained, consistent.remembered m running⟩
    have after : Told (w.writeAll (loop st m x).1.writes) (loop st m x).1 := loop_told told
    refine ⟨?_, ?_, ?_⟩
    · have chained := after.chained
      rwa [← runSweep_audit] at chained
    · intro _ same
      obtain rfl := Option.some.inj same
      have remembered := after.remembered
      rwa [← runSweep_audit, ← (ended kept).lastStates] at remembered
    · intro _ same _
      obtain rfl := Option.some.inj same
      exact ⟨x, sweep_shown kept⟩
  | @cut m x k running =>
    have told : Told w { lastStates := m.lastStates } := ⟨consistent.chained, consistent.remembered m running⟩
    exact ⟨cut_chained told, (fun _ none => by cases none), fun _ none => by cases none⟩
  | stop t startedAt lastError sweepCount idle =>
    refine ⟨consistent.chained, fun m running => ?_, fun m running => ?_⟩
    · cases idle.symm.trans running
    · cases idle.symm.trans running

/-- After any sweeps, interruptions and restarts, the trail is chained; while a process runs that
has swept, the state files, the global status and the trail tell of one evaluation of every
project. -/
theorem sweeps_consistent (steps : Relation.ReflTransGen (Step st) {} w) :
    Chained w.audit ∧ ∀ m, w.process = some m → m.sweepCount ≠ 0 → ∃ x, Shown st x m w := by
  have consistent : Consistent st w := by
    induction steps with
    | refl =>
      refine ⟨?_, (fun _ none => by cases none), fun _ none => by cases none⟩
      intro front e back same
      simp at same
    | tail _ step ih => exact ih.step step
  exact ⟨consistent.chained, consistent.shown⟩

/-! ### Publications -/

/-- The sweeps of one process, and the memory that they leave. -/
inductive Life (st : Station) : List (Meeting × Swept) → Memory → Prop where
  | start (t : ℚ) : Life st [] { startedAt := t }
  | sweep {log : List (Meeting × Swept)} {m m' : Memory} (x : Meeting) : Life st log m → (runSweep st m x).memory = some m' →
      Life st (log ++ [(x, runSweep st m x)]) m'

def Swept.succeeded (s : Swept) : Bool := s.publication.any (·.1)

/-- When a process has published last. -/
def lastSuccess (log : List (Meeting × Swept)) : Option ℚ := (log.reverse.find? fun e => e.2.succeeded).map (·.1.now)

variable {log : List (Meeting × Swept)}

theorem lastSuccess_concat {s : Swept} : lastSuccess (log ++ [(x, s)]) = if s.succeeded then some x.now else lastSuccess log := by
  unfold lastSuccess
  rw [List.reverse_append, List.reverse_singleton, List.singleton_append, List.find?_cons]
  cases s.succeeded <;> rfl

/-- The last publication that succeeded is this long ago, if there is one. -/
def Paced (now : ℚ) (log : List (Meeting × Swept)) : Prop :=
  ∀ front y s back, log = front ++ (y, s) :: back → s.succeeded = true → (∀ later ∈ back, later.2.succeeded = false) →
    y.now + remoteCheckpointSeconds ≤ now

theorem lastSuccess_some {t : ℚ} : lastSuccess log = some t ↔ ∃ front y s back, log = front ++ (y, s) :: back ∧ s.succeeded = true ∧
    (∀ later ∈ back, later.2.succeeded = false) ∧ y.now = t := by
  unfold lastSuccess
  rw [Option.map_eq_some_iff]
  constructor
  · rintro ⟨⟨y, s⟩, found, rfl⟩
    obtain ⟨success, later, earlier, same, none⟩ := List.find?_eq_some_iff_append.mp found
    refine ⟨earlier.reverse, y, s, later.reverse, ?_, success, fun e member => ?_, rfl⟩
    · rw [← List.reverse_reverse log, same, List.reverse_append, List.reverse_cons, List.append_assoc, List.singleton_append]
    · simpa using none e (List.mem_reverse.mp member)
  · rintro ⟨front, y, s, back, rfl, success, none, rfl⟩
    refine ⟨(y, s), List.find?_eq_some_iff_append.mpr ⟨success, back.reverse, front.reverse, ?_, fun e member => ?_⟩, rfl⟩
    · rw [List.reverse_append, List.reverse_cons, List.append_assoc, List.singleton_append]
    · simpa using none e (List.mem_reverse.mp member)

theorem paced_iff {now : ℚ} : Paced now log ↔ checkpointDue now (lastSuccess log) = true := by
  have due : checkpointDue now (lastSuccess log) = true ↔ ∀ t, lastSuccess log = some t → t + remoteCheckpointSeconds ≤ now := by
    cases lastSuccess log with
    | none => simp [checkpointDue]
    | some t => simp [checkpointDue, le_sub_iff_add_le']
  rw [due]
  constructor
  · intro paced t last
    obtain ⟨front, y, s, back, same, success, none, rfl⟩ := lastSuccess_some.mp last
    exact paced front y s back same success none
  · intro old front y s back same success none
    exact old _ (lastSuccess_some.mpr ⟨front, y, s, back, same, success, none, rfl⟩)

theorem Life.remembers (life : Life st log m) : m.sweepCount = log.length ∧ m.lastRemotePublish = lastSuccess log := by
  induction life with
  | start t => exact ⟨rfl, rfl⟩
  | sweep x _ kept ih =>
    have whole := ended kept
    refine ⟨?_, ?_⟩
    · rw [whole.sweepCount, ih.1, List.length_append]
      rfl
    · rw [whole.lastRemotePublish, ih.2, lastSuccess_concat]
      rfl

theorem loop_changed : (loop st m x).1.transition = true ↔ ∃ event ∈ auditOf (loop st m x).1.writes, event.Changed :=
  sweepProjects_transition (by simp [auditOf])

/-- A sweep that does not raise publishes if and only if that is enabled, and it has told of a
change or the last publication of the process that succeeded is old; it pushes nowhere but to the
branch that is validated. -/
theorem publication_paced (life : Life st log m) (kept : (runSweep st m x).memory = some m') :
    ((runSweep st m x).publication ≠ none ↔ st.settings.remotePublicationEnabled = true ∧
      ((∃ event ∈ auditOf (runSweep st m x).writes, event.Changed) ∨ Paced x.now log)) ∧
    ∀ success commands, (runSweep st m x).publication = some (success, commands) →
      (success, commands) = publishRemoteStatus st.tables st.settings (log.length + 1) x.answers ∧
      ∀ command ∈ commands, "push" ∈ command →
        ∃ b, validatedRemotePublishBranch st.tables st.settings = some b ∧ command = pushCommand b := by
  have whole := ended kept
  obtain ⟨count, last⟩ := life.remembers
  have events : auditOf (runSweep st m x).writes = auditOf (loop st m x).1.writes := by
    rw [whole.writes, auditOf, List.filterMap_append]
    exact List.append_nil _
  have due : publishes st m x = true ↔ st.settings.remotePublicationEnabled = true ∧
      ((∃ event ∈ auditOf (runSweep st m x).writes, event.Changed) ∨ Paced x.now log) := by
    rw [publishes, Bool.and_eq_true, Bool.or_eq_true, events, paced_iff, last, loop_changed]
  refine ⟨?_, fun success commands published => ?_⟩
  · rw [← due, whole.publication]
    split <;> simp_all
  · rw [whole.publication] at published
    split at published
    · obtain same := Option.some.inj published
      rw [count] at same
      refine ⟨same.symm, fun command ran pushes => publish_pushes (?_ : command ∈ (publishRemoteStatus st.tables st.settings
        (log.length + 1) x.answers).2) pushes⟩
      rwa [same]
    · cases published

end

/-- The registered projects, with their publication to a branch of its own. -/
def station : Station := ⟨lowerCase, samplePy, asciiCase, localPublication, registeredProjects⟩

/-- A moment at which nothing is there and nothing runs. -/
def quiet : Meeting where
  now := 0
  seenAt _ := 0
  loggedAt _ := 0
  doneAt := 0
  pollError := none
  surroundings _ := ⟨false, fun _ => ⟨0, "", "", false⟩, [], fun _ => none⟩
  order _ := asItComes
  answers := ⟨false, none, none, none, none⟩
  publishError := ""

theorem quiet_through : (loop station { startedAt := 0 } quiet).2 = true := by decide +kernel

theorem sweeps_consistent_once : ∃ w m x, Relation.ReflTransGen (Step station) {} w ∧ w.process = some m ∧
    Chained w.audit ∧ Shown station x m w := by
  obtain ⟨m, kept⟩ := runSweep_kept quiet_through
  have started : Step station {} { process := some { startedAt := 0 } } := .start 0 rfl
  have steps := (Relation.ReflTransGen.single started).tail (Step.sweep quiet rfl kept)
  obtain ⟨chained, shown⟩ := sweeps_consistent steps
  obtain ⟨x, files⟩ := shown m rfl (by rw [(ended kept).sweepCount]; decide)
  exact ⟨_, m, x, steps, rfl, chained, files⟩

theorem publication_paced_first : (runSweep station { startedAt := 0 } quiet).publication ≠ none := by
  obtain ⟨m, kept⟩ := runSweep_kept quiet_through
  refine (publication_paced (.start 0) kept).1.mpr ⟨rfl, .inr fun front y s back same => ?_⟩
  simp at same

end ControlPlane.Engine
