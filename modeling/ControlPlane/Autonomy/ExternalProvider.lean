import ControlPlane.Autonomy.ExternalEligible
import ControlPlane.Autonomy.ExternalRuns

/-!
# The last report of a provider

One row a worker holds the last report that was taken, of whatever session. It is the
latest of its session, unless a report that was overtaken is taken again after the
worker has reported from another session in between.
-/

namespace ControlPlane.Autonomy

open Data Interleaving

/-- The report was accepted: the call returned, or it has changed the database. -/
def ReportTaken (frame : Json) (t : ExternalTransition) : Prop :=
  ∃ now, t.label.call? = some (.acceptProviderStatus frame now) ∧
    ((∃ reply, t.label = .call (.acceptProviderStatus frame now) (.ok reply)) ∨ t.after.db ≠ t.before.db)

/-- The report is of this worker and session. -/
def ReportOf (worker session : String) (frame : Json) : Prop :=
  frame.field "worker_id" = .str worker ∧ frame.field "session_id" = .str session

/-- The frame passes the checks while the stored status of its worker is of another session,
and a report of its own session with no lower sequence was taken already. -/
def Overtaken (crypto : Crypto) (w : ExternalWorld) (c : ExternalCall) : Prop :=
  ∃ value now g row n frame, c = .acceptProviderStatus value now ∧ w.gateway = some g ∧
    Reported crypto g w.db value now row n frame ∧ w.db.providerMessages.find? row.lastMessageId = none ∧
    (∀ old ∈ w.db.providerStatus.find? row.workerId, old.sessionId ≠ row.sessionId) ∧
    ∃ m ∈ w.db.providerMessages.rows, m.workerId = row.workerId ∧ m.sessionId = row.sessionId ∧ row.sequence ≤ m.sequence

/-- The frame of the highest sequence that was taken of this worker and session: connected, and
fresh for a profile with this SLA. -/
def LatestConnected (past : List ExternalTransition) (worker session : String) (sla n : ℚ) : Prop :=
  ∃ u ∈ past, ∃ frame i o, ReportTaken frame u ∧ ReportOf worker session frame ∧ frame.field "sequence" = .int i ∧
    frame.field "connection_state" = .str connectedUnattested ∧
    messageTime (frame.field "observed_at") (.blocked "invalid provider timestamp") = .ok o ∧ n - o ≤ sla ∧
    ∀ v ∈ past, ∀ other j, ReportTaken other v → ReportOf worker session other → other.field "sequence" = .int j → j ≤ i

/-- What a pair of the provider gateway's list is promised to be. -/
def EligibleSound (past : List ExternalTransition) : Prop :=
  ∀ later t older, past = later ++ t :: older → ∀ capability target now pairs,
    t.label = .call (.providerEligibleSessions capability target now) (.ok (.sessions pairs)) → ∀ pair ∈ pairs,
      ∃ g p n, t.before.gateway = some g ∧ now.clock? = some n ∧ p.workerId.1 = pair.1 ∧ Trusted g t.before.db p ∧
        Eligible t.before.db capability target n p pair.2 ∧ LatestConnected older pair.1 pair.2 p.heartbeatSla n

section

variable {crypto : Crypto} {g : ExternalGateway} {db db' : ExternalDb} {c : ExternalCall} {next : Pending ExternalStmt}
  {w w' : ExternalWorld} {e : ExternalEvent} {t : ExternalTransition} {past : List ExternalTransition} {frame : Json}
  {row : ProviderRow} {n : ℚ}

/-! ### One report -/

/-- How a call can change the provider tables, wherever it ends or is cut. -/
theorem call_provider (cut : externals.Cut (c.procedure crypto g) db db' next) :
    (db'.providerStatus = db.providerStatus ∧ db'.providerMessages = db.providerMessages) ∨
      ∃ value now row n entries, c = .acceptProviderStatus value now ∧ Reported crypto g db value now row n entries ∧
        Written db (.acceptProviderStatus row n) db' := by
  cases c with
  | acceptProviderStatus value now =>
    rcases cut_acceptProviderStatus (Machine.cut_then_pure.mp cut) with rfl | ⟨row, n, entries, reported, _, written⟩
    · exact .inl ⟨rfl, rfl⟩
    · exact .inr ⟨value, now, row, n, entries, rfl, reported, written⟩
  | _ => exact .inl ((confined_call _).provider cut (by simp [ExternalCall.writes]))

/-- A step that changes the provider tables has taken a report. -/
theorem step_provider (step : ExternalStep crypto w e w') :
    (w'.db.providerStatus = w.db.providerStatus ∧ w'.db.providerMessages = w.db.providerMessages) ∨
      ∃ g value now row n entries, w.gateway = some g ∧ e.call? = some (.acceptProviderStatus value now) ∧
        Reported crypto g w.db value now row n entries ∧ Written w.db (.acceptProviderStatus row n) w'.db := by
  cases step.cases with
  | @called g c answer running label stays ends =>
    refine (call_provider ends.stops).imp_right ?_
    rintro ⟨value, now, row, n, entries, rfl, reported, written⟩
    exact ⟨g, value, now, row, n, entries, running, by rw [label]; rfl, reported, written⟩
  | @crashed g c next running label died cut =>
    refine (call_provider cut).imp_right ?_
    rintro ⟨value, now, row, n, entries, rfl, reported, written⟩
    exact ⟨g, value, now, row, n, entries, running, by rw [label]; rfl, reported, written⟩
  | restarted _ _ returned => exact .inl (confined_create.provider returned.stops (by simp [writesOfRestart]))
  | failed _ _ cut => exact .inl (confined_create.provider cut (by simp [writesOfRestart]))
  | outside _ _ tables =>
    obtain ⟨store, spool, same⟩ := tables
    exact .inl ⟨by rw [same], by rw [same]⟩

/-- A report that was taken is in the ledger. -/
def Ledgered (frame : Json) (db : ExternalDb) : Prop :=
  ∃ m ∈ db.providerMessages.rows, frame.field "worker_id" = .str m.workerId ∧ frame.field "session_id" = .str m.sessionId ∧
    frame.field "sequence" = .int m.sequence

theorem ledgered_stays (kept : Kept db db') (ledgered : Ledgered frame db) : Ledgered frame db' := by
  obtain ⟨m, member, same⟩ := ledgered
  exact ⟨m, kept.providerMessages m member, same⟩

theorem Reported.ledgered {value : Json} {now : PyFloat} {entries : Frame} (reported : Reported crypto g db value now row n entries)
    (written : Written db (.acceptProviderStatus row n) db') : Ledgered value db' := by
  obtain ⟨_, messages, inserted, rfl⟩ := written
  refine ⟨_, (Table.mem_inserted inserted).mpr (.inr rfl), ?_⟩
  rw [reported.shape]
  exact ⟨reported.worker, reported.sessionId, reported.sequence.1⟩

theorem taken_ledgered (step : ExternalStep crypto t.before t.label t.after) (taken : ReportTaken frame t) :
    Ledgered frame t.after.db := by
  obtain ⟨now, called, through⟩ := taken
  cases step.cases with
  | @called g c answer running label stays ends =>
    rw [label] at called
    cases called
    cases answer with
    | ok reply =>
      obtain ⟨_, _, returned⟩ := Machine.returns_then_pure.mp ends
      obtain ⟨db₁, ⟨row, n⟩, checked, last⟩ := Machine.returns_bind.mp returned
      obtain ⟨rfl, entries, reported⟩ := returns_providerStatus checked
      obtain ⟨x, last⟩ := Machine.returns_ask.mp last
      exact reported.ledgered (acceptProviderStatus_ok (update_ok.mp last))
    | error x =>
      have changed : t.after.db ≠ t.before.db := by
        rcases through with ⟨reply, impossible⟩ | changed
        · rw [label] at impossible
          cases impossible
        · exact changed
      rcases cut_acceptProviderStatus (Machine.raises_then_pure.mp ends).stops with same | ⟨row, n, entries, reported, _, written⟩
      · exact absurd same changed
      · exact reported.ledgered written
  | @crashed g c next running label died cut =>
    rw [label] at called
    cases called
    have changed : t.after.db ≠ t.before.db := by
      rcases through with ⟨reply, impossible⟩ | changed
      · rw [label] at impossible
        cases impossible
      · exact changed
    rcases cut_acceptProviderStatus (Machine.cut_then_pure.mp cut) with same | ⟨row, n, entries, reported, _, written⟩
    · exact absurd same changed
    · exact reported.ledgered written
  | restarted label => rw [label] at called; cases called
  | failed label => rw [label] at called; cases called
  | outside none_ => rw [none_] at called; cases called

/-! ### Runs -/

/-- No report that was taken has a higher sequence than the stored status of its session. -/
def StatusLatest (db : ExternalDb) : Prop :=
  ∀ r ∈ db.providerStatus.rows, ∀ m ∈ db.providerMessages.rows, m.workerId = r.workerId → m.sessionId = r.sessionId →
    m.sequence ≤ r.sequence

/-- A step keeps this, unless it takes a report that was overtaken. -/
theorem step_latest (step : ExternalStep crypto w e w') (inOrder : ∀ c, e.call? = some c → ¬ Overtaken crypto w c)
    (before : StatusLatest w.db) : StatusLatest w'.db := by
  rcases step_provider step with ⟨status, messages⟩ | ⟨g, value, now, row, n, entries, running, called, reported, written⟩
  · unfold StatusLatest
    rwa [status, messages]
  have fresh := inOrder _ called
  obtain ⟨newer, messages, inserted, same⟩ := written
  rw [same]
  intro r stored m taken worker session
  have rowKey : ∀ m ∈ w.db.providerMessages.rows, m.messageId ≠ row.lastMessageId := (Table.insert?_some inserted).1
  rcases Table.mem_replace.mp stored with ⟨known, other, _⟩ | rfl
  · rcases (Table.mem_inserted inserted).mp taken with there | rfl
    · exact before r known m there worker session
    · exact absurd worker.symm other
  · rcases (Table.mem_inserted inserted).mp taken with there | rfl
    · by_contra above
      by_cases own : ∃ old ∈ w.db.providerStatus.find? r.workerId, old.sessionId = r.sessionId
      · obtain ⟨old, found, same⟩ := own
        obtain ⟨known, named⟩ := Table.find?_some.mp found
        have below := before old known m there (worker.trans named.symm) (session.trans same.symm)
        exact above (below.trans (newer old found same).le)
      · refine fresh ⟨value, now, g, r, n, entries, rfl, running, reported, Table.find?_none.mpr rowKey, ?_, m, there, worker,
          session, (not_le.mp above).le⟩
        exact fun old found same => own ⟨old, found, same⟩
    · exact le_rfl

/-- A stored status is what a report said that was taken. -/
theorem status_reported (history : ExternalHistory crypto ⟨.empty, none⟩ past w) {worker : String}
    (found : w.db.providerStatus.find? worker = some row) : ∃ u ∈ past, ∃ value, ReportTaken value u ∧
      ∃ g now n entries, Reported crypto g u.before.db value now row n entries := by
  refine history.raised_by (fun u => ∃ value, ReportTaken value u ∧ ∃ g now n entries, Reported crypto g u.before.db value now row
    n entries) (fun v => v.db.providerStatus.find? worker = some row) (fun there => ?_) (fun u member down up => ?_) found
  · cases there
  · rcases step_provider (history.moved u member) with ⟨same, _⟩ | ⟨g, value, now, row', n, entries, running, called, reported,
      written⟩
    · exact absurd (same ▸ up) down
    · obtain ⟨_, messages, inserted, same⟩ := written
      rw [same, Table.find?_replace] at up
      split at up
      · obtain rfl := Option.some.inj up
        refine ⟨value, ⟨now, called, .inr fun unchanged => down ?_⟩, g, now, n, entries, reported⟩
        rw [← unchanged, same, Table.find?_replace, if_pos ‹_›]
      · exact absurd (Option.filter_eq_some_iff.mp up).1 down

/-- Over every history in which no report is taken that was overtaken, an eligible session of the
provider gateway is what the claims of the gateway say, and its latest report is connected and
fresh. -/
theorem provider_eligibility_sound (history : ExternalHistory crypto ⟨.empty, none⟩ past w)
    (inOrder : ∀ t ∈ past, ∀ c, t.label.call? = some c → ¬ Overtaken crypto t.before c) : EligibleSound past := by
  rintro later t older rfl capability target now pairs label pair listed
  obtain ⟨before, step⟩ := history.upTo
  rw [label] at step
  obtain ⟨g, running, returned⟩ := step.returned
  obtain ⟨_, found, search, last⟩ := Machine.returns_bind.mp returned
  cases (Machine.returns_pure.mp last).2
  obtain ⟨n, clock, _, all⟩ := returns_providerEligibleSessions search
  obtain ⟨p, named, eligible⟩ := all pair listed
  refine ⟨g, p, n, running, clock, named.symm, eligible.trusted, eligible.eligible, ?_⟩
  obtain ⟨r, stored, session, connected, _, fresh, _⟩ := eligible.reported
  obtain ⟨u, member, frame, taken, _, _, _, entries, reported⟩ := status_reported before stored
  obtain ⟨known, worker⟩ := Table.find?_some.mp stored
  have ordered (v : ExternalTransition) (inOlder : v ∈ older) := inOrder v (List.mem_append_right _ (List.mem_cons_of_mem _ inOlder))
  have latest := (before.invariant (I := fun v => StatusLatest v.db) (fun _ member => nomatch member) fun v inOlder =>
    step_latest (before.moved v inOlder) (ordered v inOlder)).1
  have field (key : String) : frame.field key = entries.get key := by rw [reported.shape]; rfl
  refine ⟨u, member, frame, r.sequence, r.observedAt, taken, ⟨?_, ?_⟩, ?_, ?_, ?_, not_lt.mp fresh, ?_⟩
  · rw [field, reported.worker, worker, named]
  · rw [field, reported.sessionId, session]
  · rw [field, reported.sequence.1]
  · rw [field, reported.connection.1, connected]
  · rw [field, reported.observed]
  · rintro v inOlder other j taken' ⟨ofWorker, ofSession⟩ counted
    obtain ⟨newer, earlier, rfl⟩ := List.append_of_mem inOlder
    have ledgered := (before.ever_after (I := fun v => Ledgered other v.db) (taken_ledgered (before.moved v inOlder) taken')
      fun x inNewer => ledgered_stays (before.moved x (List.mem_append_left _ inNewer)).kept).1
    obtain ⟨m, there, sameWorker, sameSession, sameSequence⟩ := ledgered
    cases sameSequence.symm.trans counted
    refine latest r known m there ?_ ?_
    · rw [worker, ← named]
      exact Json.str.inj (sameWorker.symm.trans ofWorker)
    · rw [session]
      exact Json.str.inj (sameSession.symm.trans ofSession)

end

namespace Sample

def reportFrame (session message : String) (sequence observed : Int) (state : String) (response : Json) (signature : String) : Json :=
  messageFrame af06Protocol session message sequence observed
    [("provider_kind", .str codexKind), ("model", .str "CHATGPT_SESSION"), ("connection_state", .str state),
     ("attestation_scope", .str attestationScope), ("provider_response_id", response)] signature

def connected : Json :=
  reportFrame "s" "p1" 1 11 connectedUnattested (.str "r1")
    "QXomaY0xIE6SEZ5Dak1tH1dzV+lc9cABbJ6IZEpgju1bxzr3KraWFubDDo52wt5abcmYr4LjFLTXffHJIW2SDQ=="

def disconnected : Json :=
  reportFrame "s" "p2" 2 12 "NOT_CONNECTED" (.null)
    "xOK3VZHRM4eQop2N67hGD7jaqPnqq6cw1Y57N+oKEodmHfuDjEl8i9xL9LBTQNZKeZMj3DFGwM3KQvcV1pwTAg=="

def elsewhere : Json :=
  reportFrame "s2" "p3" 1 14 "NOT_CONNECTED" (.null)
    "29T+PP+Vy8VqpyOWk7XKq0RWY/h5KlNIcUFNk/4rKA/YDvQNb0uNmL4gFidXAw4Imb98XCxjLy9x/VmlfNlqAA=="

def ask (now : ℚ) : Option ExternalAct := some <| .call (.providerEligibleSessions "OBSERVE_STATUS" "lab" (.fin now)) []

/-- The worker reports that its provider is connected. -/
def reporting : List (Option ExternalAct) := connect ++ [some <| .call (.acceptProviderStatus connected (.fin 12)) [], ask 13]

/-- The worker reports that its provider is gone, reports from session `s2` and is back in session
`s` when an older report of that session arrives. -/
def overtaken : List (Option ExternalAct) :=
  connect ++
  [some <| .call (.acceptProviderStatus disconnected (.fin 12)) [], none,
   some <| .call (.issueChallenge (.str "w") (.str "k") (.fin 13)) [{}, { nonce := nonce 'b' }],
   some <| .call (.authenticateSession (answerFrame "w" "k" "c8899dcaa82d1684f7fd5d6f22ca6d191efe2ba34fa6fae7a2d15f12be854526"
     "YmJiYmJiYmJiYmJiYmJiYmJiYmJiYmJiYmJiYmJiYmI=" "e926584f6c06ead9230c165a8d58c4b22628bacb82e6423ab239dbeb0b51a36b"
     "s2" 13 "mbWC8dKbRx2q00zT4hKJZeGfDGZzEz8xXUtsutYX4AEElg0xMruGRAdxMsxiapFiGpTNIqc7OwOVWT68HL5TCA==")
     (.fin 13)) [],
   some <| .call (.acceptProviderStatus elsewhere (.fin 14)) [], none,
   some <| .call (.issueChallenge (.str "w") (.str "k") (.fin 15)) [{}, { nonce := nonce 'c' }],
   some <| .call (.authenticateSession (answerFrame "w" "k" "5ea37526016231b9ef7e203a04aaba18db7856a39e37d0778d4ecdb831af007d"
     "Y2NjY2NjY2NjY2NjY2NjY2NjY2NjY2NjY2NjY2NjY2M=" "e926584f6c06ead9230c165a8d58c4b22628bacb82e6423ab239dbeb0b51a36b"
     "s" 15 "E3K5bMdAbCjvyvL4Ypx4ydifxu/0+/+7LWhWDOGr4mBPDR69RU074Wzehl4VL9FPFaW0sxLpZNKJRseflWZWCA==")
     (.fin 15)) [],
   some <| .call (.acceptProviderStatus connected (.fin 16)) [], ask 17]

/-- No report precedes one that the step takes. -/
def first (t : ExternalTransition) : Bool :=
  match t.label with
  | .call (.acceptProviderStatus ..) _ | .crash (.acceptProviderStatus ..) _ => t.before.db.providerMessages.rows.isEmpty
  | _ => true

theorem first_inOrder {t : ExternalTransition} (is : first t = true) {c : ExternalCall} (called : t.label.call? = some c) :
    ¬ Overtaken crypto t.before c := by
  rintro ⟨value, now, g, row, n, frame, rfl, _, _, _, _, m, member, _⟩
  have empty : t.before.db.providerMessages.rows.isEmpty = true := by
    cases label : t.label with
    | call c answer =>
      simp only [label, ExternalEvent.call?, Option.some.injEq] at called
      simpa only [first, label, called] using is
    | crash c next =>
      simp only [label, ExternalEvent.call?, Option.some.injEq] at called
      simpa only [first, label, called] using is
    | _ => simp [label, ExternalEvent.call?] at called
  rw [List.isEmpty_iff.mp empty] at member
  cases member

/-- The answer of the step lists worker `w` in session `s`. -/
def lists (t : ExternalTransition) : Bool :=
  match t.label with
  | .call (.providerEligibleSessions ..) (.ok (.sessions pairs)) => pairs.contains ("w", "s")
  | _ => false

theorem lists_pair {t : ExternalTransition} (is : lists t = true) : ∃ capability target now pairs,
    t.label = .call (.providerEligibleSessions capability target now) (.ok (.sessions pairs)) ∧ ("w", "s") ∈ pairs := by
  unfold lists at is
  split at is
  · rename_i label
    exact ⟨_, _, _, _, label, by simpa using is⟩
  · cases is

/-- The step takes a report of session `s` with sequence 2. -/
def takesSecond (t : ExternalTransition) : Bool :=
  match t.label with
  | .call (.acceptProviderStatus frame _) (.ok _) => (frame.field "worker_id").str? = some "w" ∧
      (frame.field "session_id").str? = some "s" ∧ (frame.field "sequence").int? = some 2
  | _ => false

theorem takesSecond_taken {t : ExternalTransition} (is : takesSecond t = true) :
    ∃ frame, ReportTaken frame t ∧ ReportOf "w" "s" frame ∧ frame.field "sequence" = .int 2 := by
  unfold takesSecond at is
  split at is
  · rename_i frame now reply label
    obtain ⟨worker, session, sequence⟩ := of_decide_eq_true is
    exact ⟨frame, ⟨now, by rw [label]; rfl, .inl ⟨reply, label⟩⟩, ⟨Json.str?_some worker, Json.str?_some session⟩,
      Json.int?_some sequence⟩
  · cases is

/-- A report that says connected has sequence 1. -/
def connectedFirst (t : ExternalTransition) : Bool :=
  match t.label with
  | .call (.acceptProviderStatus frame _) _ => (frame.field "connection_state").str? ≠ some connectedUnattested ∨
      (frame.field "sequence").int? = some 1
  | .crash .. => false
  | _ => true

theorem connectedFirst_sequence {t : ExternalTransition} (is : connectedFirst t = true) {frame : Json} (taken : ReportTaken frame t)
    (connected : frame.field "connection_state" = .str connectedUnattested) : frame.field "sequence" = .int 1 := by
  obtain ⟨now, called, _⟩ := taken
  cases label : t.label with
  | call c answer =>
    simp only [label, ExternalEvent.call?, Option.some.injEq] at called
    simp only [connectedFirst, label, called, connected, Json.str?, ne_eq, not_true_eq_false, false_or, decide_eq_true_eq] at is
    exact Json.int?_some is
  | crash c next => simp [connectedFirst, label] at is
  | _ => simp [label, ExternalEvent.call?] at called

end Sample

theorem provider_eligibility_sound_reporting : (Sample.played Sample.reporting).1.any Sample.lists = true ∧
    EligibleSound (Sample.played Sample.reporting).1 := by
  have checked : ((Sample.played Sample.reporting).1.any Sample.lists && (Sample.played Sample.reporting).1.all Sample.first) =
      true := by decide +kernel
  obtain ⟨lists, inOrder⟩ := (Bool.and_eq_true _ _).mp checked
  exact ⟨lists, provider_eligibility_sound (Sample.played_history _) fun t member c called =>
    Sample.first_inOrder (List.all_eq_true.mp inOrder t member) called⟩

/-- The first answer lists a session whose latest report is that the provider is gone. -/
theorem provider_eligibility_unsound : ∃ past w, ExternalHistory Sample.crypto ⟨.empty, none⟩ past w ∧ ¬ EligibleSound past := by
  refine ⟨_, _, Sample.played_history Sample.overtaken, ?_⟩
  have checked : ((Sample.played Sample.overtaken).1.head?.any Sample.lists &&
      (Sample.played Sample.overtaken).1.tail.any Sample.takesSecond &&
      (Sample.played Sample.overtaken).1.tail.all Sample.connectedFirst) = true := by decide +kernel
  generalize (Sample.played Sample.overtaken).1 = past at checked ⊢
  intro sound
  cases past with
  | nil => cases checked
  | cons t older =>
    simp only [List.head?_cons, Option.any_some, List.tail_cons, Bool.and_eq_true, and_assoc] at checked
    obtain ⟨lists, second, sequences⟩ := checked
    obtain ⟨capability, target, now, pairs, label, pair⟩ := Sample.lists_pair lists
    obtain ⟨g, p, n, _, _, _, _, _, u, inOlder, frame, i, o, taken, _, counted, connected, _, _, latest⟩ :=
      sound [] t older rfl capability target now pairs label _ pair
    obtain ⟨v, member, takes⟩ := List.any_eq_true.mp second
    obtain ⟨other, takenToo, own, two⟩ := Sample.takesSecond_taken takes
    have one := Sample.connectedFirst_sequence (List.all_eq_true.mp sequences u inOlder) taken connected
    cases counted.symm.trans one
    exact absurd (latest v member other 2 takenToo own two) (by decide)

end ControlPlane.Autonomy
