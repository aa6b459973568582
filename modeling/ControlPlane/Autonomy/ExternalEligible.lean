import ControlPlane.Autonomy.ExternalOutcomes

/-!
# Which sessions are eligible

What a pair of `eligible_sessions` says about the database, for the AF-05 gateway and
for the provider gateway over it.
-/

namespace ControlPlane.Autonomy

open Data Interleaving

/-- The worker has a lease free, and its last heartbeat in the store is fresh. -/
structure SpareCapacity (db : ExternalDb) (worker : String) (capacity : Int) (n : ℚ) : Prop where
  known : ∃ w, db.store.workers.find? worker = some w ∧ w.lastHeartbeat ≤ n + 1 ∧ .fin (n - w.lastHeartbeat) ≤ w.heartbeatSla ∧
    (db.store.activeLeases worker n : Int) < min w.capacity capacity

/-- The session of the profile's worker may be sent work. -/
structure Eligible (db : ExternalDb) (capability target : String) (n : ℚ) (p : VerifiedProfile) (session : String) : Prop where
  enabled : p.enabled = true
  unrevoked : p.revoked = false
  durable : ∃ row, db.profiles.find? p.workerId.1 = some row ∧ row.revoked = false
  capable : capability ∈ p.capabilities
  targeted : target ∈ p.allowedTargets
  current : ∃ s, db.sessions.find? p.workerId.1 = some s ∧ s.state = .authenticated ∧ s.sessionId = session ∧
    n - s.lastHeartbeat ≤ p.heartbeatSla ∧ SpareCapacity db p.workerId.1 s.capacity n

/-- What the provider gateway adds: the last report of the worker is of this session. -/
structure ProviderEligible (g : ExternalGateway) (db : ExternalDb) (capability target : String) (n : ℚ) (p : VerifiedProfile)
    (session : String) : Prop where
  eligible : Eligible db capability target n p session
  trusted : Trusted g db p
  reported : ∃ r, db.providerStatus.find? p.workerId.1 = some r ∧ ExternalGateway.ProviderFresh session p.heartbeatSla n r

section

variable {crypto : Crypto} {g : ExternalGateway} {db db' : ExternalDb} {capability target : String} {n : ℚ}
  {p : VerifiedProfile} {now : PyFloat}

theorem Registry.mem_all {r : Registry} : p ∈ r.all ↔ p ∈ r.profiles := by
  have insert (q : VerifiedProfile) (rest : List VerifiedProfile) : p ∈ Registry.all.insertProfile q rest ↔ p = q ∨ p ∈ rest := by
    induction rest with
    | nil => simp [Registry.all.insertProfile]
    | cons q' rest ih =>
      unfold Registry.all.insertProfile
      split
      · rw [List.mem_cons, ih, List.mem_cons, or_left_comm]
      · exact List.mem_cons
  have fold (profiles : List VerifiedProfile) : p ∈ profiles.foldr Registry.all.insertProfile [] ↔ p ∈ profiles := by
    induction profiles with
    | nil => rfl
    | cons q rest ih => rw [List.foldr_cons, insert, ih, List.mem_cons]
  exact fold r.profiles

/-- One profile a worker. -/
theorem Registry.eq_of_worker {r : Registry} {q : VerifiedProfile} (hp : p ∈ r.profiles) (hq : q ∈ r.profiles)
    (same : p.workerId = q.workerId) : p = q :=
  List.inj_on_of_nodup_map r.unique hp hq same

theorem returns_workerStatus {worker : Identifier} {status : Store.WorkerStatus}
    (returned : externals.Returns (External.store (Store.workerStatus worker.1 (.fin n))) db db' status) :
    db' = db ∧ db.store.workers.find? worker.1 = some status.worker ∧
      status.available = decide (status.worker.lastHeartbeat ≤ n + 1 ∧
        .fin (n - status.worker.lastHeartbeat) ≤ status.worker.heartbeatSla) ∧
      status.activeLeaseCount = db.store.activeLeases worker.1 n := by
  obtain ⟨returned, same⟩ := ends_store returned
  change connections.Returns (Store.workerStatus worker.1 (.fin n)) db.store db'.store status at returned
  simp only [Store.workerStatus, Machine.returns_bind, returns_now, returns_ask_stmt, perform, returns_row, Machine.returns_pure,
    clean_identifier, and_assoc, exists_and_left, exists_eq_left, Prod.mk.injEq, Except.ok.injEq] at returned
  obtain ⟨x, clock, _, _, ⟨_, _, rfl, rfl⟩, w, found, _, _, ⟨_, _, rfl, rfl⟩, stored, rfl⟩ := returned
  obtain rfl : x = n := by
    simp only [PyFloat.clock?, Option.ite_none_right_eq_some, Option.some.injEq] at clock
    exact clock.2.symm
  rw [stored] at same
  exact ⟨same, found, rfl, rfl⟩

theorem returns_eligible {found : Option (String × String)}
    (returned : externals.Returns (ExternalGateway.eligible capability target n p) db db' found) :
    db' = db ∧ ∀ pair ∈ found, pair.1 = p.workerId.1 ∧ Eligible db capability target n p pair.2 := by
  have nobody {u u' : ExternalDb} {o : Option (String × String)} (ended : externals.Returns (pure none : External _) u u' o) :
      u' = u ∧ ∀ pair ∈ o, pair.1 = p.workerId.1 ∧ Eligible u capability target n p pair.2 := by
    obtain ⟨rfl, rfl⟩ := Machine.returns_pure.mp ended
    exact ⟨rfl, nofun⟩
  obtain ⟨db₁, durable, first, rest⟩ := Machine.returns_bind.mp returned
  obtain ⟨_, selected⟩ := returns_sql.mp first
  obtain ⟨rfl, known⟩ := Prod.mk.inj selected
  cases known
  split at rest
  · exact nobody rest
  rename_i active
  obtain ⟨db₂, row, read, rest₂⟩ := Machine.returns_bind.mp rest
  obtain ⟨rfl, found⟩ := Machine.returns_lift.mp read
  split at rest₂
  · exact nobody rest₂
  rename_i fit
  obtain ⟨db₃, session, second, rest₃⟩ := Machine.returns_bind.mp rest₂
  obtain ⟨_, selected⟩ := returns_sql.mp second
  obtain ⟨rfl, current⟩ := Prod.mk.inj selected
  cases current
  split at rest₃
  · exact nobody rest₃
  rename_i s current
  split at rest₃
  · exact nobody rest₃
  rename_i fresh
  obtain ⟨db₄, status, checked, rest₄⟩ := Machine.returns_bind.mp rest₃
  obtain ⟨rfl, worker, available, leased⟩ := returns_workerStatus checked
  split at rest₄
  · rename_i room
    obtain ⟨rfl, rfl⟩ := Machine.returns_pure.mp rest₄
    refine ⟨rfl, fun pair same => ?_⟩
    cases same
    simp only [not_or, not_not, ne_eq, gt_iff_lt, not_lt] at active fit fresh
    rw [available, leased, decide_eq_true_eq] at room
    exact ⟨rfl, active.1, Bool.eq_false_iff.mpr active.2, ⟨row, found_ok.mp found, Bool.eq_false_iff.mpr fit.1⟩, fit.2.1, fit.2.2, s, current, fresh.1, rfl, fresh.2,
      ⟨status.worker, worker, room.1.1, room.1.2, room.2⟩⟩
  · exact nobody rest₄

theorem returns_eligibleOf {profiles : List VerifiedProfile} {pairs : List (String × String)}
    (returned : externals.Returns (ExternalGateway.eligibleOf capability target n profiles) db db' pairs) :
    db' = db ∧ ∀ pair ∈ pairs, ∃ p ∈ profiles, pair.1 = p.workerId.1 ∧ Eligible db capability target n p pair.2 := by
  induction profiles generalizing pairs with
  | nil =>
    obtain ⟨rfl, rfl⟩ := Machine.returns_pure.mp returned
    exact ⟨rfl, nofun⟩
  | cons p rest ih =>
    obtain ⟨_, found, first, others⟩ := Machine.returns_bind.mp returned
    obtain ⟨rfl, here⟩ := returns_eligible first
    obtain ⟨_, _, second, last⟩ := Machine.returns_bind.mp others
    obtain ⟨rfl, rfl⟩ := Machine.returns_pure.mp last
    obtain ⟨rfl, there⟩ := ih second
    refine ⟨rfl, fun pair member => ?_⟩
    rcases List.mem_append.mp member with own | other
    · obtain ⟨same, eligible⟩ := here pair (Option.mem_toList.mp own)
      exact ⟨p, List.mem_cons_self, same, eligible⟩
    · obtain ⟨q, listed, same, eligible⟩ := there pair other
      exact ⟨q, List.mem_cons_of_mem _ listed, same, eligible⟩

theorem mem_sortPairs {pairs : List (String × String)} {pair : String × String} :
    pair ∈ ExternalGateway.sortPairs pairs ↔ pair ∈ pairs :=
  (List.perm_insertionSort ..).mem_iff

theorem returns_eligibleSessions {pairs : List (String × String)}
    (returned : externals.Returns (g.eligibleSessions capability target now) db db' pairs) :
    ∃ n, now.clock? = some n ∧ db' = db ∧ ∀ pair ∈ pairs, ∃ p ∈ g.registry.profiles, pair.1 = p.workerId.1 ∧
      Eligible db capability target n p pair.2 := by
  obtain ⟨_, n, read, search⟩ := Machine.returns_bind.mp returned
  obtain ⟨rfl, clock⟩ := returns_external_now.mp read
  obtain ⟨_, found, listed, last⟩ := Machine.returns_bind.mp search
  obtain ⟨rfl, rfl⟩ := Machine.returns_pure.mp last
  obtain ⟨rfl, all⟩ := returns_eligibleOf listed
  refine ⟨n, clock, rfl, fun pair member => ?_⟩
  obtain ⟨p, listed, rest⟩ := all pair (mem_sortPairs.mp member)
  exact ⟨p, Registry.mem_all.mp listed, rest⟩

theorem returns_providerEligibleOf {pairs found : List (String × String)}
    (returned : externals.Returns (g.providerEligibleOf n pairs) db db' found) :
    db' = db ∧ ∀ pair ∈ found, pair ∈ pairs ∧ ∃ p, p.workerId.1 = pair.1 ∧ Trusted g db p ∧
      ∃ r, db.providerStatus.find? pair.1 = some r ∧ ExternalGateway.ProviderFresh pair.2 p.heartbeatSla n r := by
  induction pairs generalizing found with
  | nil =>
    obtain ⟨rfl, rfl⟩ := Machine.returns_pure.mp returned
    exact ⟨rfl, nofun⟩
  | cons pair rest ih =>
    obtain ⟨worker, session⟩ := pair
    obtain ⟨_, row, first, checks⟩ := Machine.returns_bind.mp returned
    obtain ⟨_, selected⟩ := returns_sql.mp first
    obtain ⟨rfl, known⟩ := Prod.mk.inj selected
    cases known
    obtain ⟨_, p, second, loop⟩ := Machine.returns_bind.mp checks
    obtain ⟨rfl, same, trusted⟩ := returns_trusted second
    obtain ⟨_, others, third, last⟩ := Machine.returns_bind.mp loop
    obtain ⟨rfl, rfl⟩ := Machine.returns_pure.mp last
    obtain ⟨rfl, there⟩ := ih third
    have inRest : ∀ pair ∈ others, pair ∈ (worker, session) :: rest ∧ ∃ p, p.workerId.1 = pair.1 ∧ Trusted g db' p ∧
        ∃ r, db'.providerStatus.find? pair.1 = some r ∧ ExternalGateway.ProviderFresh pair.2 p.heartbeatSla n r :=
      fun pair member => ⟨List.mem_cons_of_mem _ (there pair member).1, (there pair member).2⟩
    refine ⟨rfl, ?_⟩
    split
    · rename_i fresh
      obtain ⟨r, found, fresh⟩ := fresh
      refine List.forall_mem_cons.mpr ⟨⟨List.mem_cons_self, p, (Json.str.inj same).symm, trusted, r, found, fresh⟩, inRest⟩
    · exact inRest

theorem returns_providerEligibleSessions {pairs : List (String × String)}
    (returned : externals.Returns (g.providerEligibleSessions capability target now) db db' pairs) :
    ∃ n, now.clock? = some n ∧ db' = db ∧ ∀ pair ∈ pairs, ∃ p, pair.1 = p.workerId.1 ∧
      ProviderEligible g db capability target n p pair.2 := by
  obtain ⟨_, n, read, search⟩ := Machine.returns_bind.mp returned
  obtain ⟨rfl, clock⟩ := returns_external_now.mp read
  obtain ⟨_, listed, base, narrow⟩ := Machine.returns_bind.mp search
  obtain ⟨n', clock', rfl, eligible⟩ := returns_eligibleSessions base
  obtain rfl : n' = n := Option.some.inj (clock'.symm.trans (clock?_fin clock))
  obtain ⟨_, found, narrowed, last⟩ := Machine.returns_bind.mp narrow
  obtain ⟨rfl, rfl⟩ := Machine.returns_pure.mp last
  obtain ⟨rfl, fresh⟩ := returns_providerEligibleOf narrowed
  refine ⟨n', clock, rfl, fun pair member => ?_⟩
  obtain ⟨inBase, q, named, trusted, reported⟩ := fresh pair (mem_sortPairs.mp member)
  obtain ⟨p, enrolled, worker, here⟩ := eligible pair inBase
  obtain rfl := Registry.eq_of_worker enrolled trusted.enrolled (Subtype.ext (worker.symm.trans named.symm))
  rw [worker] at reported
  exact ⟨p, worker, here, trusted, reported⟩

/-- Both gateways list eligible sessions only. -/
theorem returns_sessions {c : ExternalCall} {pairs : List (String × String)}
    (returned : externals.Returns (c.procedure crypto g) db db' (.sessions pairs)) :
    ∀ pair ∈ pairs, ∃ p capability target n, pair.1 = p.workerId.1 ∧ Eligible db capability target n p pair.2 := by
  obtain ⟨u, reply, first, last⟩ : ∃ u reply, externals.Returns (pure reply : External Reply) u db' (.sessions pairs) ∧
      (∀ found, reply = .sessions found → ∀ pair ∈ found, ∃ p capability target n, pair.1 = p.workerId.1 ∧
        Eligible db capability target n p pair.2) := by
    cases c with
    | eligibleSessions capability target now =>
      obtain ⟨_, found, listed, last⟩ := Machine.returns_bind.mp returned
      obtain ⟨n, _, _, eligible⟩ := returns_eligibleSessions listed
      refine ⟨_, _, last, ?_⟩
      rintro _ ⟨rfl⟩ pair member
      obtain ⟨p, _, rest⟩ := eligible pair member
      exact ⟨p, capability, target, n, rest⟩
    | providerEligibleSessions capability target now =>
      obtain ⟨_, found, listed, last⟩ := Machine.returns_bind.mp returned
      obtain ⟨n, _, _, eligible⟩ := returns_providerEligibleSessions listed
      refine ⟨_, _, last, ?_⟩
      rintro _ ⟨rfl⟩ pair member
      obtain ⟨p, named, rest⟩ := eligible pair member
      exact ⟨p, capability, target, n, named, rest.eligible⟩
    | _ =>
      obtain ⟨_, _, _, last⟩ := Machine.returns_bind.mp returned
      refine ⟨_, _, last, ?_⟩
      rintro _ ⟨⟩
  obtain ⟨_, rfl⟩ := Machine.returns_pure.mp first
  exact last pairs rfl

end

end ControlPlane.Autonomy
