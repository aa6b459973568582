import ControlPlane.StateMachine.Evaluator

/-!
# The order of the evidence

An evaluation is a function of what each file contributes and of the order in which the files and
the declarations are gone through. The order shows unless the files agree: on the age of their
times, on the stage, on the next action, and on the declaration of the lowest tier.
-/

namespace ControlPlane.StateMachine

open ControlPlane.Data

/-! ### What one file contributes -/

/-- The content of a file that is there and holds a dictionary. -/
def contentOf (e : String × EvidenceItem) : Option Record := if e.2.fileExists then e.2.data? else none

def stampBy (e : String × EvidenceItem) : Option Json := (contentOf e).bind stampOf

/-- What a file says of the stage: a project's state replaces it, a current stage fills it in. -/
inductive StageVote where
  | project (stage : Json)
  | current (stage : Json)

def stageVote (e : String × EvidenceItem) : Option StageVote :=
  match contentOf e, kindOf e.1 with
  | some data, .projectState => some (.project (data.field "stage"))
  | some data, .currentStage => some (.current (data.field "stage"))
  | _, _ => none

def vote (stage : Json) : StageVote → Json
  | .project s => s
  | .current s => either stage s

def actionBy (e : String × EvidenceItem) : Option Json :=
  match contentOf e, kindOf e.1 with
  | some data, .projectState => if (data.field "next_action").truthy then some (data.field "next_action") else none
  | _, _ => none

def humanBy (e : String × EvidenceItem) : Bool :=
  e.2.fileExists && (asksHuman e.1 || match contentOf e, kindOf e.1 with
    | some data, .projectState => (data.field "human_approval_required").truthy
    | _, _ => false)

/-- The status that the name of a file gives to its content. -/
def namedStatus (path : String) (data : Record) : Option (Json × Level) :=
  match kindOf path with
  | .agentStatus | .projectState =>
    if (data.field "status").truthy then some (data.field "status", .committedRuntimeEvidence) else none
  | .currentStage => if (data.field "status").truthy then some (data.field "status", .staticDeclaredStatus) else none
  | .watcherState => none
  | .other =>
    match data.get? "status", heartbeatStatus data with
    | some (.str s), none => some (.str s, .committedRuntimeEvidence)
    | _, _ => none

/-- A status of the file itself comes before the one of its heartbeat. -/
def firstStatus (named : Option (Json × Level)) (heartbeat : Option Json) : Option (Json × Level) :=
  named.or (heartbeat.map fun s => (s, .runtimeHeartbeat))

/-- The status that a file declares. -/
def declaredBy (e : String × EvidenceItem) : Option (String × Json × Level) :=
  (contentOf e).bind fun data => (firstStatus (namedStatus e.1 data) (heartbeatStatus data)).map fun v => (e.1, v)

/-- Gates that cannot be taken over. -/
def badGates (e : String × EvidenceItem) : Bool :=
  match contentOf e, kindOf e.1 with
  | some data, .agentStatus => (data.field "gates").truthy && (updates? (data.field "gates")).isNone
  | _, _ => false

def sourceBy (e : String × EvidenceItem) : Option String := if e.2.fileExists then some e.1 else none

/-! ### What the loop reads -/

section
variable {r r' : Reading} {path : String} {data : Record} {e : String × EvidenceItem} {l : List (String × EvidenceItem)}

theorem set_last {d : Dict String (Json × Level)} {v w : Json × Level} (fresh : path ∉ d.keys) :
    (d ++ [(path, v)] : Dict String (Json × Level)).set path w = d ++ [(path, w)] := by
  induction d with
  | nil => simp [Dict.set]
  | cons f rest ih =>
    obtain ⟨other, later⟩ := not_or.mp (fun member => fresh (List.mem_cons.mpr member) : ¬ (path = f.1 ∨ path ∈ Dict.keys rest))
    rw [List.cons_append, Dict.set, if_neg (Ne.symm other), ih later, List.cons_append]

theorem stamped_eq (fresh : path ∉ r.declaredStatuses.keys) : r.stamped path data =
    { r with
      lastHeartbeat := (stampOf data).getD r.lastHeartbeat
      declaredStatuses := r.declaredStatuses ++
        ((heartbeatStatus data).map fun s => (path, s, Level.runtimeHeartbeat)).toList } := by
  unfold Reading.stamped
  cases stampOf data <;> cases heartbeatStatus data <;> simp [Reading.declare, Dict.set_fresh fresh]

/-- A status that the name gives takes the place of the heartbeat's. -/
theorem set_declared {d : Dict String (Json × Level)} {h : Option Json} {v : Json × Level} (fresh : path ∉ d.keys) :
    (d ++ (h.map fun s => (path, s, Level.runtimeHeartbeat)).toList : Dict String (Json × Level)).set path v = d ++ [(path, v)] := by
  cases h with
  | none => simpa using Dict.set_fresh fresh
  | some s => exact set_last fresh

/-- What the loop keeps of a file, as far as the verdict depends on it. -/
structure Took (r : Reading) (e : String × EvidenceItem) (r' : Reading) : Prop where
  lastHeartbeat : r'.lastHeartbeat = (stampBy e).getD r.lastHeartbeat
  stage : r'.stage = ((stageVote e).map (vote r.stage)).getD r.stage
  nextAction : r'.nextAction = (actionBy e).getD r.nextAction
  humanReq : r'.humanReq = (r.humanReq || humanBy e)
  sources : r'.evidenceSources = r.evidenceSources ++ (sourceBy e).toList
  declared : r'.declaredStatuses = r.declaredStatuses ++ (declaredBy e).toList

theorem declareIf_eq {status : Json} {level : Level} {h : Option Json} {d : Dict String (Json × Level)}
    (fresh : path ∉ d.keys) (own : r.declaredStatuses = d ++ (h.map fun s => (path, s, Level.runtimeHeartbeat)).toList) :
    r.declareIf path status level = { r with
      declaredStatuses := d ++
        ((firstStatus (if status.truthy then some (status, level) else none) h).map fun v => (path, v)).toList } := by
  unfold Reading.declareIf
  by_cases stated : status.truthy
  · rw [if_pos stated, if_pos stated, Reading.declare, own, set_declared fresh]
    rfl
  · have same : (firstStatus none h).map (fun v => (path, v)) = h.map fun s => (path, s, Level.runtimeHeartbeat) := by
      cases h <;> rfl
    rw [if_neg stated, if_neg stated, same, ← own]

theorem otherFile_eq {d : Dict String (Json × Level)} (fresh : path ∉ d.keys)
    (own : r.declaredStatuses = d ++ ((heartbeatStatus data).map fun s => (path, s, Level.runtimeHeartbeat)).toList) :
    r.otherFile path data = { r with
      declaredStatuses := d ++ ((firstStatus (match data.get? "status", heartbeatStatus data with
        | some (.str s), none => some (.str s, .committedRuntimeEvidence)
        | _, _ => none) (heartbeatStatus data)).map fun v => (path, v)).toList } := by
  unfold Reading.otherFile
  cases beat : heartbeatStatus data with
  | some s =>
    rw [beat] at own
    have known : r.declaredStatuses.get? path = some (s, .runtimeHeartbeat) := by
      rw [own, Option.map_some, Option.toList_some, ← Dict.set_fresh fresh, Dict.get?_set_self]
    have kept : r = { r with declaredStatuses := d ++ [(path, s, Level.runtimeHeartbeat)] } := by
      rw [Option.map_some, Option.toList_some] at own
      rw [← own]
    rw [known]
    cases data.get? "status" with
    | none => exact kept
    | some v => cases v <;> exact kept
  | none =>
    rw [beat, Option.map_none, Option.toList_none, List.append_nil] at own
    have unknown : r.declaredStatuses.get? path = none := by
      rw [own]
      exact Dict.get?_none.mpr fresh
    have kept : r = { r with declaredStatuses := d ++ [] } := by rw [List.append_nil, ← own]
    rw [unknown]
    cases data.get? "status" with
    | none => exact kept
    | some v =>
      cases v with
      | str t => simp [firstStatus, Reading.declare, own, Dict.set_fresh fresh]
      | _ => exact kept

theorem took_content (here : contentOf e = some data) (fresh : e.1 ∉ r.declaredStatuses.keys)
    (read : ((r.seen e.1 e.2).stamped e.1 data).tiered e.1 data = some r') : Took r e r' := by
  have exist : e.2.fileExists = true := by
    by_contra missing
    rw [contentOf, if_neg missing] at here
    cases here
  have stamp : stampBy e = stampOf data := by rw [stampBy, here, Option.bind_some]
  have source : sourceBy e = some e.1 := if_pos exist
  have declared : declaredBy e = (firstStatus (namedStatus e.1 data) (heartbeatStatus data)).map fun v => (e.1, v) := by
    rw [declaredBy, here, Option.bind_some]
  rw [stamped_eq (r := r.seen e.1 e.2) fresh] at read
  unfold Reading.tiered at read
  cases kind : kindOf e.1 with
  | agentStatus =>
    simp only [kind, Reading.agentStatus] at read
    rw [declareIf_eq fresh rfl] at read
    split at read
    · obtain ⟨pairs, -, rfl⟩ := Option.map_eq_some_iff.mp read
      constructor <;> simp [stamp, source, declared, stageVote, actionBy, humanBy, here, kind, exist, namedStatus, Reading.seen]
    · obtain rfl := Option.some.inj read
      constructor <;> simp [stamp, source, declared, stageVote, actionBy, humanBy, here, kind, exist, namedStatus, Reading.seen]
  | projectState =>
    simp only [kind, Reading.projectState] at read
    rw [declareIf_eq fresh rfl] at read
    obtain rfl := Option.some.inj read
    constructor <;> simp [stamp, source, declared, stageVote, actionBy, humanBy, here, kind, exist, namedStatus, Reading.seen, vote]
    · split <;> rfl
    · rw [Bool.or_assoc]
  | currentStage =>
    simp only [kind, Reading.currentStage] at read
    rw [declareIf_eq fresh rfl] at read
    obtain rfl := Option.some.inj read
    constructor <;> simp [stamp, source, declared, stageVote, actionBy, humanBy, here, kind, exist, namedStatus, Reading.seen, vote]
  | watcherState =>
    simp only [kind, Reading.watcherState] at read
    obtain rfl := Option.some.inj read
    cases data.field "heartbeat" <;>
      constructor <;> simp [stamp, source, declared, stageVote, actionBy, humanBy, here, kind, exist, namedStatus, Reading.seen,
        firstStatus, Function.comp_def]
  | other =>
    simp only [kind] at read
    obtain rfl := Option.some.inj read
    rw [otherFile_eq fresh rfl]
    constructor <;> simp [stamp, source, declared, stageVote, actionBy, humanBy, here, kind, exist, namedStatus, Reading.seen]

/-- The gates are the only thing that can stop the loop. -/
theorem readItem_raises : readItem r e = none ↔ badGates e = true := by
  unfold readItem badGates
  by_cases exist : e.2.fileExists = true
  · have content : contentOf e = e.2.data? := if_pos exist
    rw [content, exist]
    cases here : e.2.data? with
    | none => simp
    | some data =>
      simp only [Bool.not_true, Bool.false_eq_true, if_false]
      unfold Reading.tiered
      cases kind : kindOf e.1 with
      | agentStatus =>
        simp only [Reading.agentStatus]
        by_cases gates : (data.field "gates").truthy
        · cases updates? (data.field "gates") <;> simp [gates]
        · simp [gates]
      | _ => simp
  · have content : contentOf e = none := if_neg exist
    rw [content]
    simp [exist]

theorem took (fresh : e.1 ∉ r.declaredStatuses.keys) (read : readItem r e = some r') : Took r e r' := by
  unfold readItem at read
  by_cases exist : e.2.fileExists = true
  · have content : contentOf e = e.2.data? := if_pos exist
    rw [exist] at read
    cases here : e.2.data? with
    | some data =>
      rw [here] at content read
      exact took_content content fresh read
    | none =>
      rw [here] at content read
      obtain rfl := Option.some.inj read
      constructor <;> simp [stampBy, stageVote, actionBy, humanBy, sourceBy, declaredBy, content, exist, Reading.seen]
  · have content : contentOf e = none := if_neg exist
    rw [Bool.eq_false_iff.mpr exist] at read
    obtain rfl := Option.some.inj read
    constructor <;> simp [stampBy, stageVote, actionBy, humanBy, sourceBy, declaredBy, content, exist]

/-- What the whole loop keeps. -/
structure TookAll (r : Reading) (l : List (String × EvidenceItem)) (r' : Reading) : Prop where
  lastHeartbeat : r'.lastHeartbeat = (l.filterMap stampBy).getLastD r.lastHeartbeat
  stage : r'.stage = (l.filterMap stageVote).foldl vote r.stage
  nextAction : r'.nextAction = (l.filterMap actionBy).getLastD r.nextAction
  humanReq : r'.humanReq = (r.humanReq || l.any humanBy)
  sources : r'.evidenceSources = r.evidenceSources ++ l.filterMap sourceBy
  declared : r'.declaredStatuses = r.declaredStatuses ++ l.filterMap declaredBy

theorem declaredBy_path {d : String × Json × Level} (own : declaredBy e = some d) : d.1 = e.1 := by
  obtain ⟨data, -, named⟩ := Option.bind_eq_some_iff.mp own
  obtain ⟨v, -, rfl⟩ := Option.map_eq_some_iff.mp named
  rfl

theorem last_cons {f : String × EvidenceItem → Option Json} {v : Json} :
    ((e :: l).filterMap f).getLastD v = (l.filterMap f).getLastD ((f e).getD v) := by
  cases own : f e with
  | none =>
    rw [List.filterMap_cons_none own]
    rfl
  | some w =>
    rw [List.filterMap_cons_some own, List.getLastD_cons]
    rfl

theorem tookAll (distinct : (l.map (·.1)).Nodup) (fresh : ∀ e ∈ l, e.1 ∉ r.declaredStatuses.keys)
    (read : l.foldlM readItem r = some r') : TookAll r l r' := by
  induction l generalizing r with
  | nil =>
    obtain rfl := Option.some.inj read
    constructor <;> simp
  | cons e rest ih =>
    obtain ⟨m, first, later⟩ := Option.bind_eq_some_iff.mp read
    obtain ⟨own, others⟩ := List.nodup_cons.mp distinct
    have here := took (fresh e List.mem_cons_self) first
    have apart : ∀ f ∈ rest, f.1 ∉ m.declaredStatuses.keys := by
      intro f member known
      rw [here.declared, Dict.keys, List.map_append] at known
      rcases List.mem_append.mp known with known | known
      · exact fresh f (List.mem_cons_of_mem _ member) known
      · obtain ⟨d, declared, same⟩ := List.mem_map.mp known
        have path := declaredBy_path (Option.mem_toList.mp declared)
        exact own (List.mem_map.mpr ⟨f, member, same.symm.trans path⟩)
    have all := ih others apart later
    constructor
    · rw [all.lastHeartbeat, here.lastHeartbeat, last_cons]
    · rw [all.stage, here.stage]
      cases voted : stageVote e <;> simp [voted]
    · rw [all.nextAction, here.nextAction, last_cons]
    · rw [all.humanReq, here.humanReq, List.any_cons, Bool.or_assoc]
    · rw [all.sources, here.sources, List.append_assoc]
      cases source : sourceBy e <;> simp [source]
    · rw [all.declared, here.declared, List.append_assoc]
      cases own : declaredBy e <;> simp [own]

theorem readAll_raises : l.foldlM readItem r = none ↔ ∃ e ∈ l, badGates e = true := by
  induction l generalizing r with
  | nil => simp
  | cons e rest ih =>
    rw [List.foldlM_cons]
    cases first : readItem r e with
    | none => exact iff_of_true rfl ⟨e, List.mem_cons_self, readItem_raises.mp first⟩
    | some m =>
      have fine : ¬ badGates e = true := fun bad => by
        rw [readItem_raises.mpr bad] at first
        cases first
      rw [Option.bind_eq_bind, Option.bind_some, ih]
      constructor
      · rintro ⟨f, member, bad⟩
        exact ⟨f, List.mem_cons_of_mem _ member, bad⟩
      · rintro ⟨f, member, bad⟩
        rcases List.mem_cons.mp member with rfl | member
        · exact (fine bad).elim
        · exact ⟨f, member, bad⟩

end

/-! ### The stage -/

section
variable {votes votes' : List StageVote} {v : Json}

/-- The stage after these votes. -/
def stageOf (votes : List StageVote) : Json := votes.foldl vote .null

theorem stageOf_concat {x : StageVote} : stageOf (votes ++ [x]) = vote (stageOf votes) x := by simp [stageOf]

/-- When the files say the same of the stage: the project's states agree, and the current stages agree with them
where they leave it open; without a project's state, those that name a stage agree, or all do. -/
structure StagesAgree (votes : List StageVote) : Prop where
  projects : ∀ a b, .project a ∈ votes → .project b ∈ votes → a = b
  behind : ∀ a c, .project a ∈ votes → a.truthy = false → .current c ∈ votes → c = a
  named : (∀ a, .project a ∉ votes) → ∀ c d, .current c ∈ votes → .current d ∈ votes → c.truthy = true →
    d.truthy = true → c = d
  unnamed : (∀ a, .project a ∉ votes) → (∀ c, .current c ∈ votes → c.truthy = false) →
    ∀ c d, .current c ∈ votes → .current d ∈ votes → c = d

/-- The project's state wins. -/
theorem stage_project (voted : .project v ∈ votes) (only : ∀ a, .project a ∈ votes → a = v)
    (behind : v.truthy = false → ∀ c, .current c ∈ votes → c = v) : stageOf votes = v := by
  induction votes using List.reverseRecOn with
  | nil => cases voted
  | append_singleton votes x ih =>
    have before : ∀ {y}, y ∈ votes → y ∈ votes ++ [x] := fun member => List.mem_append_left _ member
    have last : x ∈ votes ++ [x] := List.mem_append_right _ List.mem_cons_self
    rw [stageOf_concat]
    cases x with
    | project a => exact only a last
    | current c =>
      have earlier : .project v ∈ votes := by simpa using voted
      have same := ih earlier (fun a member => only a (before member)) fun falsy c member => behind falsy c (before member)
      rw [same, vote, either]
      split
      · rfl
      · rename_i falsy
        exact behind (Bool.eq_false_iff.mpr falsy) c last

/-- Where no file names a stage, none is found. -/
theorem stage_unnamed (noProject : ∀ a, .project a ∉ votes) (falsy : ∀ c, .current c ∈ votes → c.truthy = false) :
    (stageOf votes).truthy = false := by
  induction votes using List.reverseRecOn with
  | nil => rfl
  | append_singleton votes x ih =>
    have before : ∀ {y}, y ∈ votes → y ∈ votes ++ [x] := fun member => List.mem_append_left _ member
    have last : x ∈ votes ++ [x] := List.mem_append_right _ List.mem_cons_self
    rw [stageOf_concat]
    cases x with
    | project a => exact (noProject a last).elim
    | current c =>
      have early := ih (fun a member => noProject a (before member)) fun c member => falsy c (before member)
      rw [vote, either, early]
      exact falsy c last

/-- The first stage that is named stays. -/
theorem stage_named (noProject : ∀ a, .project a ∉ votes) (voted : .current v ∈ votes) (named : v.truthy = true)
    (only : ∀ c, .current c ∈ votes → c.truthy = true → c = v) : stageOf votes = v := by
  induction votes using List.reverseRecOn with
  | nil => cases voted
  | append_singleton votes x ih =>
    have before : ∀ {y}, y ∈ votes → y ∈ votes ++ [x] := fun member => List.mem_append_left _ member
    have last : x ∈ votes ++ [x] := List.mem_append_right _ List.mem_cons_self
    have projects : ∀ a, .project a ∉ votes := fun a member => noProject a (before member)
    rw [stageOf_concat]
    cases x with
    | project a => exact (noProject a last).elim
    | current c =>
      by_cases earlier : .current v ∈ votes
      · rw [ih projects earlier fun c member => only c (before member), vote, either, if_pos named]
      · have here : c = v := by
          rcases List.mem_append.mp voted with member | member
          · exact (earlier member).elim
          · exact (StageVote.current.inj (List.mem_singleton.mp member)).symm
        have left : (stageOf votes).truthy = false := by
          refine stage_unnamed projects fun d member => Bool.eq_false_iff.mpr fun truthy => ?_
          exact earlier (only d (before member) truthy ▸ member)
        rw [vote, either, left, here]
        rfl

/-- Where no stage is named, the last one stands. -/
theorem stage_last (noProject : ∀ a, .project a ∉ votes) (falsy : ∀ c, .current c ∈ votes → c.truthy = false)
    (voted : .current v ∈ votes) (only : ∀ c, .current c ∈ votes → c = v) : stageOf votes = v := by
  induction votes using List.reverseRecOn with
  | nil => cases voted
  | append_singleton votes x ih =>
    have before : ∀ {y}, y ∈ votes → y ∈ votes ++ [x] := fun member => List.mem_append_left _ member
    have last : x ∈ votes ++ [x] := List.mem_append_right _ List.mem_cons_self
    have early := stage_unnamed (fun a member => noProject a (before member)) fun c member => falsy c (before member)
    rw [stageOf_concat]
    cases x with
    | project a => exact (noProject a last).elim
    | current c =>
      rw [vote, either, early]
      exact only c last

theorem stage_agree (agree : StagesAgree votes) (p : votes.Perm votes') : stageOf votes = stageOf votes' := by
  have same : ∀ {x}, x ∈ votes' ↔ x ∈ votes := p.symm.mem_iff
  by_cases project : ∃ a, .project a ∈ votes
  · obtain ⟨a, voted⟩ := project
    have only : ∀ b, .project b ∈ votes → b = a := fun b member => agree.projects b a member voted
    have behind : a.truthy = false → ∀ c, .current c ∈ votes → c = a := fun falsy c => agree.behind a c voted falsy
    rw [stage_project voted only behind, stage_project (same.mpr voted) (fun b member => only b (same.mp member))
      fun falsy c member => behind falsy c (same.mp member)]
  · have noProject : ∀ a, .project a ∉ votes := not_exists.mp project
    have noProject' : ∀ a, .project a ∉ votes' := fun a member => noProject a (same.mp member)
    by_cases named : ∃ c, .current c ∈ votes ∧ c.truthy = true
    · obtain ⟨c, voted, truthy⟩ := named
      have only : ∀ d, .current d ∈ votes → d.truthy = true → d = c := fun d member t => agree.named noProject d c member voted t truthy
      rw [stage_named noProject voted truthy only, stage_named noProject' (same.mpr voted) truthy fun d member => only d (same.mp member)]
    · have falsy : ∀ c, .current c ∈ votes → c.truthy = false := fun c member =>
        Bool.eq_false_iff.mpr fun truthy => named ⟨c, member, truthy⟩
      by_cases stated : ∃ c, .current c ∈ votes
      · obtain ⟨c, voted⟩ := stated
        have only : ∀ d, .current d ∈ votes → d = c := fun d member => agree.unnamed noProject falsy d c member voted
        rw [stage_last noProject falsy voted only, stage_last noProject' (fun d member => falsy d (same.mp member)) (same.mpr voted)
          fun d member => only d (same.mp member)]
      · have empty : votes = [] := by
          refine List.eq_nil_iff_forall_not_mem.mpr fun x member => ?_
          cases x with
          | project a => exact noProject a member
          | current c => exact stated ⟨c, member⟩
        rw [empty] at p ⊢
        rw [List.nil_perm.mp p]

/-- A stage that no order changes is agreed on. -/
theorem agree_of_stage (front : ∀ {x}, x ∈ votes → ∃ rest, votes.Perm (x :: rest) ∧ stageOf (x :: rest) = v)
    (back : ∀ {x}, x ∈ votes → ∃ rest, votes.Perm (rest ++ [x]) ∧ stageOf (rest ++ [x]) = v) : StagesAgree votes := by
  have project : ∀ a, .project a ∈ votes → a = v := by
    intro a member
    obtain ⟨rest, -, same⟩ := back member
    rwa [stageOf_concat] at same
  have falsy : ∀ c, .current c ∈ votes → v.truthy = false → c = v := by
    intro c member left
    obtain ⟨rest, -, same⟩ := back member
    rw [stageOf_concat, vote, either] at same
    split at same
    · rename_i truthy
      rw [same, left] at truthy
      cases truthy
    · exact same
  refine ⟨fun a b one two => (project a one).trans (project b two).symm, ?_, ?_, ?_⟩
  · intro a c one left two
    rw [project a one] at left ⊢
    exact falsy c two left
  · have named : (∀ a, .project a ∉ votes) → ∀ c, .current c ∈ votes → c.truthy = true → c = v := by
      intro noProject c member truthy
      obtain ⟨rest, p, same⟩ := front member
      have stays : ∀ {ys : List StageVote}, (∀ y ∈ ys, y ∈ votes) → ys.foldl vote c = c := by
        intro ys members
        induction ys with
        | nil => rfl
        | cons y ys ih =>
          have first := members y List.mem_cons_self
          rw [List.foldl_cons]
          cases y with
          | project a => exact (noProject a first).elim
          | current d =>
            rw [vote, either, if_pos truthy]
            exact ih fun y member => members y (List.mem_cons_of_mem _ member)
      have kept := stays fun y member => p.mem_iff.mpr (List.mem_cons_of_mem (.current c) member)
      rw [stageOf, List.foldl_cons] at same
      exact kept.symm.trans same
    intro noProject c d one two t t'
    exact (named noProject c one t).trans (named noProject d two t').symm
  · intro noProject left c d one two
    obtain ⟨rest, p, same⟩ := back one
    have unnamed : v.truthy = false := by
      rw [← same]
      exact stage_unnamed (fun a member => noProject a (p.mem_iff.mpr member)) fun c member => left c (p.mem_iff.mpr member)
    exact (falsy c one unnamed).trans (falsy d two unnamed).symm

end

/-! ### The declarations -/

section
variable {o : Observed} {unique unique' : List Declaration} {d d' : Declaration}

/-- A declaration of the lowest tier among those that count. -/
def Lowest (unique : List Declaration) (d : Declaration) : Prop :=
  d ∈ targets unique ∧ ∀ d' ∈ targets unique, d.level.rank ≤ d'.level.rank

theorem mem_targets (p : unique.Perm unique') : d ∈ targets unique ↔ d ∈ targets unique' := by
  have filtered := p.filter projectLevel
  have empty : (unique.filter projectLevel).isEmpty = (unique'.filter projectLevel).isEmpty := by
    rw [Bool.eq_iff_iff, List.isEmpty_iff, List.isEmpty_iff]
    exact ⟨fun nil => List.nil_perm.mp (nil ▸ filtered), fun nil => List.perm_nil.mp (nil ▸ filtered)⟩
  unfold targets
  rw [empty]
  split
  · exact p.mem_iff
  · exact filtered.mem_iff

theorem lowest_perm (p : unique.Perm unique') : Lowest unique d ↔ Lowest unique' d :=
  and_congr (mem_targets p) (forall_congr' fun _ => imp_congr_left (mem_targets p))

theorem mem_of_targets (member : d ∈ targets unique) : d ∈ unique := by
  unfold targets at member
  split at member
  · exact member
  · exact (List.mem_filter.mp member).1

theorem winner_lowest (won : winner unique = some d) : Lowest unique d := by
  unfold winner at won
  generalize sort : (targets unique).insertionSort (fun a b => a.level.rank ≤ b.level.rank) = sorted at won
  have : Std.Total fun a b : Declaration => a.level.rank ≤ b.level.rank := ⟨fun a b => Nat.le_total _ _⟩
  have : IsTrans Declaration fun a b => a.level.rank ≤ b.level.rank := ⟨fun a b c => Nat.le_trans⟩
  have ordered := List.pairwise_insertionSort (fun a b : Declaration => a.level.rank ≤ b.level.rank) (targets unique)
  have members : ∀ {x}, x ∈ sorted ↔ x ∈ targets unique := by
    intro x
    rw [← sort]
    exact List.mem_insertionSort _
  rw [sort] at ordered
  cases sorted with
  | nil => cases won
  | cons first rest =>
    obtain rfl := Option.some.inj won
    refine ⟨members.mp List.mem_cons_self, fun x member => ?_⟩
    rcases List.mem_cons.mp (members.mpr member) with rfl | later
    · exact Nat.le_refl _
    · exact List.rel_of_pairwise_cons ordered later

theorem winner_none (unwon : winner unique = none) (low : Lowest unique d) : False := by
  have member := (List.mem_insertionSort (fun a b : Declaration => a.level.rank ≤ b.level.rank)).mpr low.1
  rw [List.head?_eq_none_iff.mp unwon] at member
  cases member

/-- Any of the lowest wins when the set begins with it. -/
theorem winner_first (low : Lowest (d :: unique) d) : winner (d :: unique) = some d := by
  obtain ⟨member, least⟩ := low
  have front : ∃ rest, targets (d :: unique) = d :: rest := by
    unfold targets at member ⊢
    split at member
    · rename_i none
      rw [if_pos none]
      exact ⟨_, rfl⟩
    · rename_i some
      rw [if_neg some, List.filter_cons, if_pos (List.mem_filter.mp member).2]
      exact ⟨_, rfl⟩
  obtain ⟨rest, same⟩ := front
  unfold winner
  rw [same] at least ⊢
  rw [List.insertionSort_cons_of_forall_rel _ fun x later => least x (List.mem_cons_of_mem _ later)]
  rfl

/-- A source that is added where it is missing. -/
theorem mem_added {sources : List String} {found : Bool} {s t : String} :
    s ∈ (if found && decide (t ∉ sources) then sources ++ [t] else sources) ↔ s ∈ sources ∨ found = true ∧ s = t := by
  by_cases known : t ∈ sources
  · simp only [known, not_true_eq_false, decide_false, Bool.and_false, Bool.false_eq_true, if_false]
    exact ⟨.inl, fun either => either.elim id fun new => new.2 ▸ known⟩
  · cases found <;> simp [known]

theorem contradictions_perm (p : unique.Perm unique') : (contradictions o unique).1 = (contradictions o unique').1 ∧
    ∀ s, s ∈ (contradictions o unique).2 ↔ s ∈ (contradictions o unique').2 := by
  have values := (p.map (·.status)).dedup
  have sources : ∀ {s : String} {b : Bool}, s ∈ (if b then unique.map (·.source) else []) ↔
      s ∈ (if b then unique'.map (·.source) else []) := by
    intro s b
    cases b
    · exact Iff.rfl
    · exact (p.map (·.source)).mem_iff
  unfold contradictions
  simp only [values.length_eq, values.mem_iff]
  refine ⟨trivial, fun s => ?_⟩
  rw [mem_added, mem_added, mem_added, mem_added, sources]

end

/-! ### The evaluation -/

namespace Observed

variable (o : Observed)

def stamps : List Json := o.evidenceMap.filterMap stampBy
def votes : List StageVote := o.evidenceMap.filterMap stageVote
def actions : List Json := o.evidenceMap.filterMap actionBy
def human : Bool := o.evidenceMap.any humanBy
def sources : List String := o.evidenceMap.filterMap sourceBy
def declared : Dict String (Json × Level) := o.evidenceMap.filterMap declaredBy
def declarations : List Declaration := o.declared.filterMap declaration?

/-- The same observation with its evidence in another order. -/
def reorder {evidence : Dict String EvidenceItem} (p : o.evidenceMap.Perm evidence) : Observed :=
  { o with evidenceMap := evidence, distinct := (p.map Prod.fst).nodup o.distinct }

/-- What the loop makes of the evidence, as far as the verdict depends on it. -/
def reading : Reading where
  branch := .null
  localHead := .null
  stage := stageOf o.votes
  lastHeartbeat := o.stamps.getLastD .null
  nextAction := o.actions.getLastD .null
  humanReq := o.human
  evidenceSources := o.sources

/-- Gates that are no dictionary, or a declared status that cannot be put into a set. -/
def Raises : Prop :=
  (∃ e ∈ o.evidenceMap, badGates e = true) ∨ ∃ d ∈ o.declared, declares d.2.1 = true ∧ d.2.1.key? = none

end Observed

section
variable {py : Interpreter} {ev : Evaluator} {order order' : SetOrder Declaration} {o : Observed}

/-- What an evaluation shows. -/
structure Shows (py : Interpreter) (ev : Evaluator) (order : SetOrder Declaration) (o : Observed)
    (s : NormalizedProjectState) : Prop where
  age : s.heartbeatAgeSeconds = heartbeatAge py ev (o.stamps.getLastD .null)
  stage : s.stage = stageOf o.votes
  verdict : s.verdict = verdict py ev o o.reading (order.arrange o.declarations)
  stateConflict : s.stateConflict = (contradictions o (order.arrange o.declarations)).1
  conflictingSources : s.conflictingSources = (contradictions o (order.arrange o.declarations)).2

theorem uniqueDeclarations_raises {declared : Dict String (Json × Level)} :
    uniqueDeclarations declared = none ↔ ∃ d ∈ declared, declares d.2.1 = true ∧ d.2.1.key? = none := by
  unfold uniqueDeclarations
  split
  · rename_i all
    refine iff_of_false (fun none => by cases none) ?_
    rintro ⟨d, member, stated, unkeyed⟩
    have fine := List.all_eq_true.mp all d member
    simp [stated, unkeyed] at fine
  · rename_i notAll
    refine iff_of_true rfl ?_
    by_contra none
    refine notAll (List.all_eq_true.mpr fun d member => ?_)
    by_contra unfit
    refine none ⟨d, member, ?_⟩
    cases stated : declares d.2.1 <;> cases keyed : d.2.1.key? <;> simp_all

theorem verdict_congr {r r' : Reading} {unique : List Declaration} (stamp : r.lastHeartbeat = r'.lastHeartbeat)
    (human : r.humanReq = r'.humanReq) (action : r.nextAction = r'.nextAction)
    (sources : r.evidenceSources = r'.evidenceSources) :
    verdict py ev o r unique = verdict py ev o r' unique := by
  unfold verdict
  rw [stamp, human, action, sources]

theorem evaluate_shows : (evaluate py ev order o = none ∧ o.Raises) ∨
    ¬ o.Raises ∧ ∃ s, evaluate py ev order o = some s ∧ Shows py ev order o s := by
  unfold evaluate
  cases read : readEvidence o with
  | none => exact .inl ⟨rfl, .inl (readAll_raises.mp read)⟩
  | some r =>
    have all := tookAll o.distinct (fun e _ known => by cases known) read
    have declared : r.declaredStatuses = o.declared := all.declared
    have gates : ¬ ∃ e ∈ o.evidenceMap, badGates e = true := fun bad => by
      rw [readEvidence, readAll_raises.mpr bad] at read
      cases read
    rw [Option.bind_eq_bind, Option.bind_some, declared]
    cases unique : uniqueDeclarations o.declared with
    | none => exact .inl ⟨rfl, .inr (uniqueDeclarations_raises.mp unique)⟩
    | some elements =>
      have kept : ¬ o.Raises := by
        rintro (bad | unkeyed)
        · exact gates bad
        · rw [uniqueDeclarations_raises.mpr unkeyed] at unique
          cases unique
      have same : elements = o.declarations := by
        unfold uniqueDeclarations at unique
        split at unique
        · exact (Option.some.inj unique).symm
        · cases unique
      have decided : verdict py ev o r (order.arrange elements) = verdict py ev o o.reading (order.arrange elements) :=
        verdict_congr all.lastHeartbeat (all.humanReq.trans (Bool.false_or _)) all.nextAction all.sources
      refine .inr ⟨kept, _, rfl, ?_⟩
      rw [same] at decided ⊢
      exact ⟨congrArg (heartbeatAge py ev) all.lastHeartbeat, all.stage, decided, rfl, rfl⟩

/-! ### When the order does not show -/

/-- The same status, source, reason, stage, heartbeat age and conflict. -/
structure Agree (s s' : NormalizedProjectState) : Prop where
  status : s.verdict.status = s'.verdict.status
  statusSource : s.verdict.statusSource = s'.verdict.statusSource
  reason : s.verdict.reason = s'.verdict.reason
  stage : s.stage = s'.stage
  age : s.heartbeatAgeSeconds = s'.heartbeatAgeSeconds
  stateConflict : s.stateConflict = s'.stateConflict
  conflictingSources : ∀ source, source ∈ s.conflictingSources ↔ source ∈ s'.conflictingSources

def SameOutcome : Option NormalizedProjectState → Option NormalizedProjectState → Prop
  | some s, some s' => Agree s s'
  | none, none => True
  | _, _ => False

/-- No order of the evidence and none of the set of declarations changes the outcome. -/
def OrderFree (py : Interpreter) (ev : Evaluator) (o : Observed) : Prop :=
  ∀ {evidence : Dict String EvidenceItem} (p : o.evidenceMap.Perm evidence) (order order' : SetOrder Declaration),
    SameOutcome (evaluate py ev order o) (evaluate py ev order' (o.reorder p))

/-- A human is waited for. -/
structure Waits (o : Observed) : Prop where
  unexpected : o.processExpected = false
  asked : o.human = true

/-- The declarations decide: no process is expected, no human is waited for, and no heartbeat is stale. -/
structure Decides (py : Interpreter) (ev : Evaluator) (o : Observed) : Prop where
  unexpected : o.processExpected = false
  unasked : o.human = false
  sources : o.sources ≠ []
  fresh : ∀ stamp ∈ o.stamps, overThreshold ev (heartbeatAge py ev stamp) = false

/-- The files agree on what they are read for. -/
structure Settled (py : Interpreter) (ev : Evaluator) (o : Observed) : Prop where
  ages : ∀ a ∈ o.stamps, ∀ b ∈ o.stamps, heartbeatAge py ev a = heartbeatAge py ev b
  stages : StagesAgree o.votes
  lowest : Decides py ev o → ∀ d d', Lowest o.declarations d → Lowest o.declarations d' →
    sourceName (some d.source) = sourceName (some d'.source) ∧ outlook (some d.status) = outlook (some d'.status)
  actions : Waits o ∨ Decides py ev o ∧ o.project ≠ "ORACLE-AI" ∧
      (∃ d, Lowest o.declarations d ∧ outlook (some d.status) = .review) →
    ∀ a ∈ o.actions, ∀ b ∈ o.actions, py.str a = py.str b

theorem last_mem {β : Type} {l : List β} {v : β} (filled : l ≠ []) : l.getLastD v ∈ l := by
  obtain ⟨front, last, same⟩ := List.eq_nil_or_concat l |>.resolve_left filled
  rw [same]
  simp

/-- The last of elements that agree does not depend on their order. -/
theorem last_agree {β : Type} {f : Json → β} {l l' : List Json} {v : Json} (p : l.Perm l')
    (agree : ∀ a ∈ l, ∀ b ∈ l, f a = f b) : f (l.getLastD v) = f (l'.getLastD v) := by
  by_cases empty : l = []
  · rw [empty] at p ⊢
    rw [List.nil_perm.mp p]
  · have filled : l' ≠ [] := fun none => empty (List.perm_nil.mp (none ▸ p))
    exact agree _ (last_mem empty) _ (p.mem_iff.mpr (last_mem filled))

/-- Any contribution can be the last one. -/
theorem last_place {β : Type} {g : String × EvidenceItem → Option β} {a : β} (member : a ∈ o.evidenceMap.filterMap g) :
    ∃ evidence rest, o.evidenceMap.Perm evidence ∧ evidence.filterMap g = rest ++ [a] := by
  obtain ⟨e, there, own⟩ := List.mem_filterMap.mp member
  obtain ⟨front, back, same⟩ := List.append_of_mem there
  refine ⟨(front ++ back) ++ [e], (front ++ back).filterMap g, ?_, ?_⟩
  · rw [same]
    exact List.perm_middle.trans (List.perm_append_singleton e (front ++ back)).symm
  · rw [List.filterMap_append, List.filterMap_cons_some own, List.filterMap_nil]

theorem first_place {β : Type} {g : String × EvidenceItem → Option β} {a : β} (member : a ∈ o.evidenceMap.filterMap g) :
    ∃ evidence rest, o.evidenceMap.Perm evidence ∧ evidence.filterMap g = a :: rest := by
  obtain ⟨e, there, own⟩ := List.mem_filterMap.mp member
  obtain ⟨front, back, same⟩ := List.append_of_mem there
  refine ⟨e :: (front ++ back), (front ++ back).filterMap g, ?_, List.filterMap_cons_some own⟩
  rw [same]
  exact List.perm_middle

theorem actions_truthy {a : Json} (member : a ∈ o.actions) : a.truthy = true := by
  obtain ⟨e, -, own⟩ := List.mem_filterMap.mp member
  unfold actionBy at own
  split at own
  · split at own
    · obtain rfl := Option.some.inj own
      assumption
    · cases own
  · cases own

theorem actionText_truthy {a : Json} {text : String} (truthy : a.truthy = true) : actionText py a text = py.str a := by
  rw [actionText, either, if_pos truthy]

theorem verdict_waits {r : Reading} {unique : List Declaration} (unexpected : o.processExpected = false)
    (asked : r.humanReq = true) : verdict py ev o r unique = ⟨.humanRequired, "HUMAN_APPROVAL_GATE",
      "Human decision/approval required. Next action: " ++ actionText py r.nextAction "Human Review", 95 / 100⟩ := by
  simp [verdict, unexpected, asked]

theorem verdict_stale {unique : List Declaration} (unexpected : o.processExpected = false) (unasked : o.human = false)
    (filled : o.sources ≠ []) (old : overThreshold ev (heartbeatAge py ev o.reading.lastHeartbeat) = true) :
    verdict py ev o o.reading unique = ⟨.stale, "2_RUNTIME_HEARTBEAT", "Heartbeat age (" ++
      py.tenths ((heartbeatAge py ev o.reading.lastHeartbeat).getD 0) ++ "s) exceeds project threshold (" ++
      py.floatText ev.staleThreshold ++ "s)", 75 / 100⟩ := by
  have unasked : ¬ o.reading.humanReq = true := Bool.eq_false_iff.mp unasked
  have found : ¬ o.reading.evidenceSources.isEmpty = true := fun empty => filled (List.isEmpty_iff.mp empty)
  rw [verdict, if_neg (by simp [unexpected]), if_neg (by simp [unexpected]), if_neg unasked, if_neg found, if_pos old]

theorem verdict_decides {unique : List Declaration} (decides : Decides py ev o) :
    verdict py ev o o.reading unique = byEvidence py o (o.actions.getLastD .null) (winner unique) := by
  have fresh : overThreshold ev (heartbeatAge py ev (o.stamps.getLastD .null)) = false := by
    by_cases empty : o.stamps = []
    · rw [empty]
      rfl
    · exact decides.fresh _ (last_mem empty)
  have unasked : ¬ o.reading.humanReq = true := Bool.eq_false_iff.mp decides.unasked
  have found : ¬ o.reading.evidenceSources.isEmpty = true := fun empty => decides.sources (List.isEmpty_iff.mp empty)
  have young : ¬ overThreshold ev (heartbeatAge py ev o.reading.lastHeartbeat) = true := Bool.eq_false_iff.mp fresh
  rw [verdict, if_neg (by simp [decides.unexpected]), if_neg (by simp [decides.unexpected]), if_neg unasked, if_neg found,
    if_neg young]
  rfl

theorem byEvidence_review {a : Json} {d : Declaration} (review : outlook (some d.status) = .review)
    (oracle : o.project ≠ "ORACLE-AI") : (byEvidence py o a (some d)).reason =
      "Stage valid and idle awaiting audit. Next action: " ++ actionText py a "Audit" ++ inconsistency py o := by
  simp [byEvidence, review, oracle]

theorem byEvidence_congr {a a' : Json} {w w' : Option Declaration}
    (name : sourceName (w.map (·.source)) = sourceName (w'.map (·.source)))
    (look : outlook (w.map (·.status)) = outlook (w'.map (·.status)))
    (action : outlook (w.map (·.status)) = .review → o.project ≠ "ORACLE-AI" →
      actionText py a "Audit" = actionText py a' "Audit") : byEvidence py o a w = byEvidence py o a' w' := by
  unfold byEvidence
  rw [← look, ← name]
  cases shown : outlook (w.map (·.status)) with
  | review =>
    by_cases oracle : o.project = "ORACLE-AI"
    · simp only [oracle, if_true]
    · simp only [oracle, if_false, action shown oracle]
  | development => rfl
  | idle => rfl

/-- The verdict tells which way a declaration points. -/
theorem outlook_of_verdict {a : Json} {d d' : Declaration}
    (status : (byEvidence py o a (some d)).status = (byEvidence py o a (some d')).status)
    (reason : (byEvidence py o a (some d)).reason = (byEvidence py o a (some d')).reason) :
    outlook (some d.status) = outlook (some d'.status) := by
  -- a review that ends in `idleValid` differs from an idle project in the first letter of the reason
  have letters : ∀ {s t : String}, "Stage valid and idle awaiting audit. Next action: " ++ s ≠
      "Project is in a valid idle state with verified static evidence" ++ t := by
    intro s t same
    have first := congrArg (fun text => text.toList.head?) same
    simp [String.toList_append] at first
  simp only [byEvidence, Option.map_some] at status reason
  by_cases oracle : o.project = "ORACLE-AI"
  · cases one : outlook (some d.status) <;> cases two : outlook (some d'.status) <;>
      simp_all
  · cases one : outlook (some d.status) <;> cases two : outlook (some d'.status) <;>
      simp only [one, two, oracle, if_false] at status reason ⊢
    · cases status
    · rw [String.append_assoc] at reason
      exact (letters reason).elim
    · cases status
    · cases status
    · have mirrored := reason.symm
      rw [String.append_assoc] at mirrored
      exact (letters mirrored).elim
    · cases status

theorem raises_reorder {evidence : Dict String EvidenceItem} (p : o.evidenceMap.Perm evidence) :
    (o.reorder p).Raises ↔ o.Raises := by
  have members : ∀ {e}, e ∈ evidence ↔ e ∈ o.evidenceMap := p.symm.mem_iff
  have declared : ∀ {d}, d ∈ (o.reorder p).declared ↔ d ∈ o.declared := (p.filterMap declaredBy).symm.mem_iff
  exact or_congr (exists_congr fun e => and_congr_left fun _ => members) (exists_congr fun d => and_congr_left fun _ => declared)

theorem human_reorder {evidence : Dict String EvidenceItem} (p : o.evidenceMap.Perm evidence) :
    (o.reorder p).human = o.human := by
  rw [Bool.eq_iff_iff, Observed.human, Observed.human, List.any_eq_true, List.any_eq_true]
  exact exists_congr fun e => and_congr_left fun _ => p.symm.mem_iff

/-- The declarations of a set in one order are those of the set in another. -/
theorem arranged {evidence : Dict String EvidenceItem} (p : o.evidenceMap.Perm evidence) :
    (order.arrange o.declarations).Perm (order'.arrange (o.reorder p).declarations) :=
  (order.perm _).trans (((p.filterMap declaredBy).filterMap declaration?).trans (order'.perm _).symm)

theorem Decides.reorder (decides : Decides py ev o) {evidence : Dict String EvidenceItem} (p : o.evidenceMap.Perm evidence) :
    Decides py ev (o.reorder p) where
  unexpected := decides.unexpected
  unasked := (human_reorder p).trans decides.unasked
  sources none := decides.sources (List.perm_nil.mp (none ▸ p.filterMap sourceBy))
  fresh stamp member := decides.fresh stamp ((p.filterMap stampBy).mem_iff.mpr member)

theorem verdict_agree {evidence : Dict String EvidenceItem} (p : o.evidenceMap.Perm evidence) (settled : Settled py ev o) :
    verdict py ev o o.reading (order.arrange o.declarations) =
      verdict py ev (o.reorder p) (o.reorder p).reading (order'.arrange (o.reorder p).declarations) := by
  have age : heartbeatAge py ev o.reading.lastHeartbeat = heartbeatAge py ev (o.reorder p).reading.lastHeartbeat :=
    last_agree (p.filterMap stampBy) settled.ages
  have action : ∀ text, (∀ a ∈ o.actions, ∀ b ∈ o.actions, py.str a = py.str b) →
      actionText py o.reading.nextAction text = actionText py (o.reorder p).reading.nextAction text := by
    intro text agree
    refine @last_agree _ (fun v => actionText py v text) _ _ _ (p.filterMap actionBy) fun a one b two => ?_
    rw [actionText_truthy (actions_truthy one), actionText_truthy (actions_truthy two), agree a one b two]
  by_cases expected : o.processExpected = true
  · cases running : o.processRunning <;> simp [verdict, Observed.reorder, expected, running]
  rw [Bool.not_eq_true] at expected
  have expected' : (o.reorder p).processExpected = false := expected
  by_cases asked : o.human = true
  · have asked' : (o.reorder p).reading.humanReq = true := (human_reorder p).trans asked
    have same := action "Human Review" (settled.actions (.inl ⟨expected, asked⟩))
    rw [@verdict_waits py ev o o.reading _ expected asked, verdict_waits expected' asked', same]
  rw [Bool.not_eq_true] at asked
  have asked' : (o.reorder p).human = false := (human_reorder p).trans asked
  have sources : o.sources.Perm (o.reorder p).sources := p.filterMap sourceBy
  by_cases empty : o.sources = []
  · have empty' : (o.reorder p).sources = [] := List.nil_perm.mp (empty ▸ sources)
    simp [verdict, Observed.reading, expected, expected', asked, asked', empty, empty']
  have filled' : (o.reorder p).sources ≠ [] := fun none => empty (List.perm_nil.mp (none ▸ sources))
  by_cases old : overThreshold ev (heartbeatAge py ev o.reading.lastHeartbeat) = true
  · have old' : overThreshold ev (heartbeatAge py ev (o.reorder p).reading.lastHeartbeat) = true := age ▸ old
    rw [verdict_stale expected asked empty old, verdict_stale expected' asked' filled' old', age]
  rw [Bool.not_eq_true] at old
  have decides : Decides py ev o := by
    refine ⟨expected, asked, empty, fun stamp member => ?_⟩
    rw [settled.ages stamp member _ (last_mem (List.ne_nil_of_mem member))]
    exact old
  rw [verdict_decides decides, verdict_decides (decides.reorder p)]
  have sets := @arranged order order' o _ p
  have low : ∀ {d}, Lowest (order.arrange o.declarations) d → Lowest o.declarations d := (lowest_perm (order.perm _)).mp
  cases won : winner (order.arrange o.declarations) with
  | none =>
    cases won' : winner (order'.arrange (o.reorder p).declarations) with
    | none =>
      exact @byEvidence_congr py o (o.actions.getLastD .null) ((o.reorder p).actions.getLastD .null) none none rfl rfl
        fun review => by cases review
    | some d' => exact (winner_none won ((lowest_perm sets).mpr (winner_lowest won'))).elim
  | some d =>
    have first := winner_lowest won
    cases won' : winner (order'.arrange (o.reorder p).declarations) with
    | none => exact (winner_none won' ((lowest_perm sets).mp first)).elim
    | some d' =>
      have second := (lowest_perm sets).mpr (winner_lowest won')
      obtain ⟨name, look⟩ := settled.lowest decides d d' (low first) (low second)
      exact @byEvidence_congr py o _ _ (some d) (some d') name look fun review oracle =>
        action _ (settled.actions (.inr ⟨decides, oracle, d, low first, review⟩))

/-- An order that begins with one element. -/
def firstOf (d : Declaration) : SetOrder Declaration where
  arrange elements := if d ∈ elements then d :: elements.erase d else elements
  perm elements := by
    split
    · rename_i member
      exact (List.perm_cons_erase member).symm
    · exact List.Perm.refl _

theorem winner_firstOf {unique : List Declaration} {d : Declaration} (low : Lowest unique d) :
    winner ((firstOf d).arrange unique) = some d := by
  have member := mem_of_targets low.1
  have arranged : (firstOf d).arrange unique = d :: unique.erase d := if_pos member
  rw [arranged]
  exact winner_first ((lowest_perm (List.perm_cons_erase member)).mp low)

/-- What a free order keeps: every run shows the same. -/
theorem shown_of_free (free : OrderFree py ev o) (fine : ¬ o.Raises) : ∃ s₀, ∀ {evidence : Dict String EvidenceItem}
    (p : o.evidenceMap.Perm evidence) (order : SetOrder Declaration),
    ∃ s, Shows py ev order (o.reorder p) s ∧ Agree s₀ s := by
  let plain : SetOrder Declaration := ⟨id, fun _ => .refl _⟩
  obtain ⟨-, raises⟩ | ⟨-, s₀, first, -⟩ := @evaluate_shows py ev plain o
  · exact (fine raises).elim
  · refine ⟨s₀, fun p order => ?_⟩
    have same := free p plain order
    obtain ⟨-, raises⟩ | ⟨-, s, second, shows_⟩ := @evaluate_shows py ev order (o.reorder p)
    · exact (fine ((raises_reorder p).mp raises)).elim
    · rw [first, second] at same
      exact ⟨s, shows_, same⟩

theorem settled_of_free (free : OrderFree py ev o) (fine : ¬ o.Raises) : Settled py ev o := by
  obtain ⟨s₀, all⟩ := shown_of_free free fine
  let plain : SetOrder Declaration := ⟨id, fun _ => .refl _⟩
  have age : ∀ a ∈ o.stamps, heartbeatAge py ev a = s₀.heartbeatAgeSeconds := by
    intro a member
    obtain ⟨evidence, rest, p, last⟩ := last_place member
    obtain ⟨s, shown, agree⟩ := all p plain
    have stamp : (o.reorder p).stamps.getLastD .null = a := by
      rw [show (o.reorder p).stamps = rest ++ [a] from last]
      simp
    rw [agree.age, shown.age, stamp]
  have stages : StagesAgree o.votes := by
    refine agree_of_stage (v := s₀.stage) ?_ ?_
    · intro x member
      obtain ⟨evidence, rest, p, first⟩ := first_place member
      obtain ⟨s, shown, agree⟩ := all p plain
      refine ⟨rest, first ▸ p.filterMap stageVote, ?_⟩
      rw [agree.stage, shown.stage, show (o.reorder p).votes = x :: rest from first]
    · intro x member
      obtain ⟨evidence, rest, p, last⟩ := last_place member
      obtain ⟨s, shown, agree⟩ := all p plain
      refine ⟨rest, last ▸ p.filterMap stageVote, ?_⟩
      rw [agree.stage, shown.stage, show (o.reorder p).votes = rest ++ [x] from last]
  have action : ∀ {a}, a ∈ o.actions → ∃ evidence, ∃ p : o.evidenceMap.Perm evidence, ∀ text,
      actionText py (o.reorder p).reading.nextAction text = py.str a := by
    intro a member
    obtain ⟨evidence, rest, p, last⟩ := last_place member
    refine ⟨evidence, p, fun text => ?_⟩
    have next : (o.reorder p).reading.nextAction = a := by
      rw [show (o.reorder p).reading.nextAction = (rest ++ [a]).getLastD .null from congrArg (·.getLastD .null) last]
      simp
    rw [next, actionText_truthy (actions_truthy member)]
  refine ⟨fun a one b two => (age a one).trans (age b two).symm, stages, ?_, ?_⟩
  · intro decides d d' low low'
    have won : ∀ {d}, Lowest o.declarations d → ∃ s, Agree s₀ s ∧
        s.verdict = byEvidence py o (o.actions.getLastD .null) (some d) := by
      intro d low
      obtain ⟨s, shown, agree⟩ := all (.refl _) (firstOf d)
      refine ⟨s, agree, ?_⟩
      have winning : winner ((firstOf d).arrange o.declarations) = some d := winner_firstOf low
      rw [← winning]
      exact shown.verdict.trans (verdict_decides decides)
    obtain ⟨s, agree, same⟩ := won low
    obtain ⟨s', agree', same'⟩ := won low'
    have status := agree.status.symm.trans agree'.status
    have source := agree.statusSource.symm.trans agree'.statusSource
    have reason := agree.reason.symm.trans agree'.reason
    rw [same, same'] at status source reason
    refine ⟨?_, outlook_of_verdict status reason⟩
    have named : ∀ d, (byEvidence py o (o.actions.getLastD .null) (some d)).statusSource = sourceName (some d.source) := by
      intro d
      unfold byEvidence
      cases outlook ((some d).map (·.status)) with
      | review => by_cases oracle : o.project = "ORACLE-AI" <;> simp [oracle]
      | development => rfl
      | idle => rfl
    exact (named d).symm.trans (source.trans (named d'))
  · rintro (waits | ⟨decides, oracle, d, low, review⟩)
    · have told : ∀ a ∈ o.actions, "Human decision/approval required. Next action: " ++ py.str a = s₀.verdict.reason := by
        intro a member
        obtain ⟨evidence, p, next⟩ := action member
        obtain ⟨s, shown, agree⟩ := all p plain
        have asked : (o.reorder p).reading.humanReq = true := (human_reorder p).trans waits.asked
        rw [agree.reason, shown.verdict, @verdict_waits py ev (o.reorder p) _ _ waits.unexpected asked, next]
      exact fun a one b two => (String.append_right_inj _).mp ((told a one).trans (told b two).symm)
    · have told : ∀ a ∈ o.actions, "Stage valid and idle awaiting audit. Next action: " ++ py.str a ++ inconsistency py o =
          s₀.verdict.reason := by
        intro a member
        obtain ⟨evidence, p, next⟩ := action member
        obtain ⟨s, shown, agree⟩ := all p (firstOf d)
        have low' : Lowest (o.reorder p).declarations d :=
          (lowest_perm ((p.filterMap declaredBy).filterMap declaration?)).mp low
        rw [agree.reason, shown.verdict, verdict_decides (decides.reorder p), winner_firstOf low']
        rw [@byEvidence_review py (o.reorder p) _ d review oracle]
        exact congrArg (fun text => "Stage valid and idle awaiting audit. Next action: " ++ text ++ inconsistency py o)
          (next "Audit").symm
      exact fun a one b two =>
        (String.append_right_inj _).mp ((String.append_left_inj _).mp ((told a one).trans (told b two).symm))

/-- No order shows exactly where the files agree, or where the evaluation raises in every order. -/
theorem order_free_iff (py : Interpreter) (ev : Evaluator) (o : Observed) :
    OrderFree py ev o ↔ o.Raises ∨ Settled py ev o := by
  constructor
  · intro free
    by_cases fine : o.Raises
    · exact .inl fine
    · exact .inr (settled_of_free free fine)
  · rintro (raises | settled) evidence p order order'
    · obtain ⟨one, -⟩ | ⟨fine, -⟩ := @evaluate_shows py ev order o
      · obtain ⟨two, -⟩ | ⟨fine, -⟩ := @evaluate_shows py ev order' (o.reorder p)
        · rw [one, two]
          trivial
        · exact (fine ((raises_reorder p).mpr raises)).elim
      · exact (fine raises).elim
    · obtain ⟨one, raises⟩ | ⟨fine, s, one, shown⟩ := @evaluate_shows py ev order o
      · obtain ⟨two, -⟩ | ⟨fine, -⟩ := @evaluate_shows py ev order' (o.reorder p)
        · rw [one, two]
          trivial
        · exact (fine ((raises_reorder p).mpr raises)).elim
      · obtain ⟨-, raises⟩ | ⟨-, s', two, shown'⟩ := @evaluate_shows py ev order' (o.reorder p)
        · exact (fine ((raises_reorder p).mp raises)).elim
        · rw [one, two]
          have decided := (shown.verdict.trans (verdict_agree p settled)).trans shown'.verdict.symm
          have sets := @contradictions_perm o _ _ (@arranged order order' o _ p)
          constructor
          · rw [decided]
          · rw [decided]
          · rw [decided]
          · rw [shown.stage, shown'.stage]
            exact stage_agree settled.stages (p.filterMap stageVote)
          · rw [shown.age, shown'.age]
            exact last_agree (p.filterMap stampBy) settled.ages
          · rw [shown.stateConflict, shown'.stateConflict]
            exact sets.1
          · rw [shown.conflictingSources, shown'.conflictingSources]
            exact sets.2

end

/-- Two files of one tier, one of a project in development and one that passed. -/
def twoFiles : Observed where
  project := "MICRO-MARKET-ORACLE"
  gitInfo := ⟨none, none, none, false, "UNKNOWN"⟩
  processExpected := false
  processRunning := false
  unexpectedProcess := false
  matchedProcessName := .null
  evidenceMap := [
    ("control/PROJECT_STATE.json", ⟨true, some 0, .dict [("status", .str "DEVELOPING")]⟩),
    ("control/AGENT_STATUS.json", ⟨true, some 0, .dict [("status", .str "PASS")]⟩)]
  distinct := show ["control/PROJECT_STATE.json", "control/AGENT_STATUS.json"].Nodup by decide

def developing : Declaration := ⟨"control/PROJECT_STATE.json", .str "DEVELOPING", .committedRuntimeEvidence⟩
def passed : Declaration := ⟨"control/AGENT_STATUS.json", .str "PASS", .committedRuntimeEvidence⟩

/-- An interpreter that reads no times. -/
def samplePy : Interpreter where
  fromisoformat _ := none
  str
    | .str s => s
    | _ => "None"
  tenths _ := "0.0"
  floatText _ := "300.0"

def fiveMinutes : Evaluator := ⟨.fin 300, 0⟩

/-- The order of the set alone makes the project one in development or an idle one. -/
theorem order_shows : ¬ OrderFree samplePy fiveMinutes twoFiles := by
  intro free
  have same : SameOutcome (evaluate samplePy fiveMinutes (firstOf developing) twoFiles) (evaluate samplePy fiveMinutes (firstOf passed) twoFiles) :=
    free (.refl _) (firstOf developing) (firstOf passed)
  have one : (evaluate samplePy fiveMinutes (firstOf developing) twoFiles).map (·.verdict.status) = some .developing := rfl
  have two : (evaluate samplePy fiveMinutes (firstOf passed) twoFiles).map (·.verdict.status) = some .idleValid := rfl
  obtain ⟨s, first, status⟩ := Option.map_eq_some_iff.mp one
  obtain ⟨s', second, status'⟩ := Option.map_eq_some_iff.mp two
  rw [first, second] at same
  have told := same.status
  rw [status, status'] at told
  cases told

end ControlPlane.StateMachine
